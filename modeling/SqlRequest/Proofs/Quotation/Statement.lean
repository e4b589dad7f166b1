import SqlRequest.Proofs.Quotation.Pieces

/-!
No name and no value gets out of its quotation. The trusted texts of a request being
free of marks and semicolons, its statement is read as exactly the names and the
values that the request has, and its one semicolon is its last character.

* `Request.reads`: a statement is read as the pieces of its request.
* `names_pieces`, `literals_pieces`, `semicolon_not_mem_pieces`: what these pieces
  are.
* `scan_render`: the three facts together, for every request and whatever the names
  and the values are.
-/

namespace SqlRequest

/-! ### Texts that neither open a quotation nor end a statement -/

/-- A text without a mark and without a semicolon. -/
def Inert (s : String) : Prop := ∀ c ∈ s.toList, isMark c = false ∧ c ≠ ';'

instance (s : String) : Decidable (Inert s) := List.decidableBAll _ s.toList

lemma Inert.unmarked {s : String} (h : Inert s) : Unmarked s := fun c hc => (h c hc).1

lemma Inert.semicolon_not_mem {s : String} (h : Inert s) : ';' ∉ s.toList :=
  fun hc => (h ';' hc).2 rfl

lemma Inert.append {s t : String} (hs : Inert s) (ht : Inert t) : Inert (s ++ t) := by
  intro c hc
  rw [String.toList_append, List.mem_append] at hc
  exact hc.elim (hs c) (ht c)

/-- A text between the words of a statement. -/
lemma Inert.between {s before after : String} (h : Inert s) (hb : Inert before)
    (ha : Inert after) : Inert (before ++ s ++ after) :=
  (hb.append h).append ha

lemma Inert.join {ts : List String} (h : ∀ t ∈ ts, Inert t) : Inert (String.join ts) := by
  intro c hc
  rw [String.toList_join, List.mem_flatMap] at hc
  obtain ⟨t, ht, hct⟩ := hc
  exact h t ht c hct

lemma Inert.intercalate {ts : List String} (h : ∀ t ∈ ts, Inert t) :
    Inert (", ".intercalate ts) := by
  induction ts with
  | nil => simp [Inert]
  | cons t ts ih =>
      rw [List.forall_mem_cons] at h
      cases ts with
      | nil => simpa using h.1
      | cons u us =>
          rw [String.intercalate_cons_cons]
          exact (h.1.append (by decide)).append (ih h.2)

lemma Join.inert_clauses {joins : List Join} (h : ∀ t ∈ joins.flatMap Join.trusted, Inert t) :
    Inert (Join.clauses joins) := by
  refine Inert.join fun t ht => ?_
  obtain ⟨j, hj, rfl⟩ := List.mem_map.1 ht
  have hjt : ∀ t ∈ j.trusted, Inert t := fun t ht => h t (List.mem_flatMap_of_mem hj ht)
  match j with
  | ⟨some table, some on⟩ =>
      have ht : Inert table.text := hjt _ (by simp [trusted])
      have ho : Inert on.text := hjt _ (by simp [trusted])
      exact (ht.between (by decide) (by decide)).append ho
  | ⟨none, _⟩ | ⟨some _, none⟩ => simp [clause, Inert]

lemma inert_selectList {table : Ident} {cols : List Ident} {grouping : Option Grouping}
    (ht : Inert table.text) (hc : ∀ t ∈ cols.map Ident.text, Inert t)
    (hg : ∀ t ∈ grouping.toList.flatMap Grouping.trusted, Inert t) :
    Inert (selectList table cols grouping) := by
  have hbase : Inert (if cols.isEmpty then table.text ++ ".*" else
      ", ".intercalate (cols.map Ident.text)) := by
    split
    · exact ht.append (by decide)
    · exact Inert.intercalate hc
  cases grouping with
  | none => exact hbase
  | some g =>
      rw [selectList]
      split
      · exact hbase
      · refine (hbase.append (by decide)).append (Inert.intercalate fun t ht => ?_)
        obtain ⟨c, hc, rfl⟩ := List.mem_map.1 ht
        have hmem : ∀ t ∈ [c.source.text, c.name.text], Inert t := fun t ht => hg t <| by
          rw [Option.toList_some, List.flatMap_singleton, Grouping.trusted]
          exact List.mem_cons_of_mem _ (List.mem_flatMap.2 ⟨c, hc, ht⟩)
        have hs : Inert c.source.text := hmem _ (by simp)
        have hn : Inert c.name.text := hmem _ (by simp)
        exact (((by decide : Inert "GROUP_CONCAT(DISTINCT ").append hs).append
          (by decide)).append hn

lemma inert_groupByClause {grouping : Option Grouping}
    (h : ∀ t ∈ grouping.toList.flatMap Grouping.trusted, Inert t) :
    Inert (groupByClause grouping) := by
  cases grouping with
  | none => decide
  | some g =>
      have hi : Inert g.identifier.text := h _ (by simp [Grouping.trusted])
      exact (by decide : Inert " GROUP BY ").append hi

lemma inert_orderByClause {order : Option Fragment}
    (h : ∀ t ∈ (order.map Fragment.text).toList, Inert t) : Inert (orderByClause order) := by
  cases order with
  | none => decide
  | some o =>
      rw [orderByClause]
      split
      · decide
      · exact (by decide : Inert " ORDER BY ").append (h _ (by simp))

/-! ### The pieces of a statement -/

/-- Pieces between commas. -/
def Piece.commas (pss : List (List Piece)) : List Piece := (bares ", ").intercalate pss

/-- The pieces of what an update sets. -/
def assignmentPieces (e : Ident × Value) : List Piece :=
  [.name e.1.text] ++ Piece.bares " = " ++ Piece.ofShown e.2.shown

namespace Request

/-- What stands before the conditions of a select. -/
def selectHead (table : Ident) (cols : List Ident) (joins : List Join)
    (grouping : Option Grouping) : String :=
  "SELECT " ++ selectList table cols grouping ++ " FROM " ++ table.text ++ Join.clauses joins

/-- The pieces of a statement without the semicolon at its end. -/
def pieces : Request → List Piece
  | .select r =>
    Piece.bares (selectHead r.table [] r.joins r.grouping) ++ r.conditions.pieces r.table ++
      Piece.bares (groupByClause r.grouping)
  | .selectMany r =>
    Piece.bares (selectHead r.table r.cols r.joins r.grouping) ++
      r.conditions.pieces r.table ++
      Piece.bares (groupByClause r.grouping ++ orderByClause r.orderBy)
  | .update r =>
    Piece.bares ("UPDATE " ++ r.table.text ++ " SET ") ++
      Piece.commas (r.written.map assignmentPieces) ++ r.conditions.pieces r.table
  | .insert r =>
    Piece.bares ("INSERT INTO " ++ r.table.text ++ " (") ++
      Piece.commas (r.values.entries.map fun e => [.name e.1.text]) ++
      Piece.bares ") VALUES (" ++
      Piece.commas (r.values.entries.map fun e => Piece.ofShown e.2.shown) ++ Piece.bares ")"
  | .delete r => Piece.bares ("DELETE FROM " ++ r.table.text) ++ r.conditions.pieces r.table

end Request

/-- Texts between commas are read as the pieces of each. -/
lemma reads_commas {α : Type} {f : α → String} {g : α → List Piece} (xs : List α)
    (h : ∀ x ∈ xs, Reads (f x) (g x)) :
    Reads (", ".intercalate (xs.map f)) (Piece.commas (xs.map g)) := by
  induction xs with
  | nil => simpa [Piece.commas] using opens_empty.reads
  | cons x xs ih =>
      rw [List.forall_mem_cons] at h
      cases xs with
      | nil => simpa [Piece.commas] using h.1
      | cons y ys =>
          have hx := h.1.bare (t := ", ") (by decide) (by decide)
          simpa [Piece.commas, String.intercalate_cons_cons, List.intercalate_cons_cons]
            using hx.append (ih h.2)

lemma reads_assignment (e : Ident × Value) :
    Reads (assignment .standard e.1 e.2) (assignmentPieces e) := by
  rw [assignment, Quoter.literal_eq]
  exact ((reads_backtick e.1.text).bare (by decide) (by decide)).append (reads_shown _)

lemma inert_selectHead {table : Ident} (cols : List Ident) {joins : List Join}
    {grouping : Option Grouping} (ht : Inert table.text)
    (hc : ∀ t ∈ cols.map Ident.text, Inert t)
    (hj : ∀ t ∈ joins.flatMap Join.trusted, Inert t)
    (hg : ∀ t ∈ grouping.toList.flatMap Grouping.trusted, Inert t) :
    Inert (Request.selectHead table cols joins grouping) :=
  (((inert_selectList ht hc hg).between (by decide) (by decide)).append ht).append
    (Join.inert_clauses hj)

/-- A clause between two texts without marks, the second of which is not empty: the
form of all statements with conditions but updates. -/
lemma reads_around_clause {table : Ident} {cs : Conditions} {head clause tail : String}
    (hh : Unmarked head) (ht : Unmarked table.text) (hcs : ∀ t ∈ cs.trusted, Unmarked t)
    (hr : cs.clause .standard table = .ok clause) (htail : Unmarked tail) (hne : tail ≠ "") :
    Reads (head ++ clause ++ tail) (Piece.bares head ++ cs.pieces table ++ Piece.bares tail) :=
  ((Conditions.reads_clause ht hcs hr hh.opens.reads).bare htail hne).reads

section Reads

variable {sql : String}

lemma Select.reads {r : Select} (h : ∀ t ∈ (Request.select r).trusted, Inert t)
    (hr : r.render .standard = .ok sql) :
    Reads sql ((Request.select r).pieces ++ Piece.bares ";") := by
  simp only [Request.trusted, List.forall_mem_cons, List.forall_mem_append] at h
  obtain ⟨ht, ⟨hcs, hj⟩, hg⟩ := h
  obtain ⟨clause, hclause, hsql⟩ := bind_eq_ok.1 hr
  cases hsql
  have hhead := inert_selectHead [] ht (by simp) hj hg
  have htail := (inert_groupByClause hg).unmarked.append (t := ";") (by decide)
  have hall := reads_around_clause hhead.unmarked ht.unmarked (fun t ht => (hcs t ht).unmarked)
    hclause htail (by simp)
  simpa [Request.pieces, Request.selectHead, Piece.bares_append, String.append_assoc] using hall

lemma SelectMany.reads {r : SelectMany} (h : ∀ t ∈ (Request.selectMany r).trusted, Inert t)
    (hr : r.render .standard = .ok sql) :
    Reads sql ((Request.selectMany r).pieces ++ Piece.bares ";") := by
  simp only [Request.trusted, List.forall_mem_cons, List.forall_mem_append] at h
  obtain ⟨ht, ⟨⟨⟨hcs, hj⟩, hg⟩, ho⟩, hc⟩ := h
  obtain ⟨clause, hclause, hsql⟩ := bind_eq_ok.1 hr
  cases hsql
  have hhead := inert_selectHead _ ht hc hj hg
  have htail := ((inert_groupByClause hg).append (inert_orderByClause ho)).unmarked.append
    (t := ";") (by decide)
  have hall := reads_around_clause hhead.unmarked ht.unmarked (fun t ht => (hcs t ht).unmarked)
    hclause htail (by simp)
  simpa [Request.pieces, Request.selectHead, Piece.bares_append, String.append_assoc] using hall

lemma Update.reads {r : Update} (h : ∀ t ∈ (Request.update r).trusted, Inert t)
    (hr : r.render .standard = .ok sql) :
    Reads sql ((Request.update r).pieces ++ Piece.bares ";") := by
  simp only [Request.trusted, List.forall_mem_cons] at h
  obtain ⟨ht, hcs⟩ := h
  obtain ⟨clause, hclause, hsql⟩ := bind_eq_ok.1 hr
  cases hsql
  have hhead : Inert ("UPDATE " ++ r.table.text ++ " SET ") :=
    ht.between (by decide) (by decide)
  have hset := hhead.unmarked.opens.append <|
    reads_commas r.written fun e _ => reads_assignment e
  have hall := Conditions.reads_clause ht.unmarked (fun t ht => (hcs t ht).unmarked) hclause hset
  exact (hall.bare (by decide) (by decide)).reads

lemma Insert.reads {r : Insert} (h : Inert r.table.text) :
    Reads (r.render .standard) ((Request.insert r).pieces ++ Piece.bares ";") := by
  have hhead : Inert ("INSERT INTO " ++ r.table.text ++ " (") :=
    h.between (by decide) (by decide)
  have hcolumns : Reads (", ".intercalate (r.values.entries.map fun e => e.1.backticked)) _ :=
    reads_commas _ fun e _ => reads_backtick e.1.text
  have hvalues :
      Reads (", ".intercalate (r.values.entries.map fun e => Quoter.standard.literal e.2)) _ :=
    reads_commas _ fun e _ => Quoter.literal_eq .standard e.2 ▸ reads_shown e.2.shown
  have hopen := (hhead.unmarked.opens.append hcolumns).bare (t := ") VALUES (") (by decide)
    (by decide)
  have hall := ((hopen.append hvalues).bare (t := ");") (by decide) (by decide)).reads
  have hclose : Piece.bares ");" = Piece.bares ")" ++ Piece.bares ";" :=
    Piece.bares_append ")" ";"
  rwa [hclose, ← List.append_assoc] at hall

lemma Delete.reads {r : Delete} (h : ∀ t ∈ (Request.delete r).trusted, Inert t)
    (hr : r.render .standard = .ok sql) :
    Reads sql ((Request.delete r).pieces ++ Piece.bares ";") := by
  simp only [Request.trusted, List.forall_mem_cons] at h
  obtain ⟨ht, hcs⟩ := h
  obtain ⟨clause, hclause, hsql⟩ := bind_eq_ok.1 hr
  cases hsql
  have hhead : Inert ("DELETE FROM " ++ r.table.text) :=
    (by decide : Inert "DELETE FROM ").append ht
  exact reads_around_clause hhead.unmarked ht.unmarked (fun t ht => (hcs t ht).unmarked) hclause
    (by decide) (by decide)

/-- **A statement is read as its pieces**, whatever the names and the values are. -/
theorem Request.reads {r : Request} (h : ∀ t ∈ r.trusted, Inert t)
    (hr : r.render .standard = .ok sql) : Reads sql (r.pieces ++ Piece.bares ";") := by
  cases r with
  | select r => exact Select.reads h hr
  | selectMany r => exact SelectMany.reads h hr
  | update r => exact Update.reads h hr
  | insert r =>
      cases hr
      exact Insert.reads (h _ (by simp [trusted]))
  | delete r => exact Delete.reads h hr

end Reads

/-! ### What the pieces are -/

section Content

variable {α : Type} {f : α → List Piece} {ambient : Ident}

/-- What is read off pieces between commas is read off each of them, if nothing is
read off single characters. -/
lemma filterMap_commas {p : Piece → Option String} (hp : ∀ c, p (.bare c) = none) (xs : List α) :
    (Piece.commas (xs.map f)).filterMap p = xs.flatMap fun x => (f x).filterMap p := by
  induction xs with
  | nil => rfl
  | cons x xs ih =>
      cases xs with
      | nil => simp [Piece.commas]
      | cons y ys =>
          have hcomma : (Piece.bares ", ").filterMap p = [] := by simp [Piece.bares, hp]
          rw [List.flatMap_cons, ← ih]
          simp [Piece.commas, List.intercalate_cons_cons, hcomma]

lemma names_commas (xs : List α) :
    Piece.names (Piece.commas (xs.map f)) = xs.flatMap fun x => Piece.names (f x) :=
  filterMap_commas (fun _ => rfl) xs

lemma literals_commas (xs : List α) :
    Piece.literals (Piece.commas (xs.map f)) = xs.flatMap fun x => Piece.literals (f x) :=
  filterMap_commas (fun _ => rfl) xs

lemma semicolon_not_mem_commas {xs : List α} (h : ∀ x ∈ xs, .bare ';' ∉ f x) :
    .bare ';' ∉ Piece.commas (xs.map f) := by
  induction xs with
  | nil => simp [Piece.commas]
  | cons x xs ih =>
      rw [List.forall_mem_cons] at h
      cases xs with
      | nil => simpa [Piece.commas] using h.1
      | cons y ys =>
          have hrest := ih h.2
          rw [Piece.commas, List.map_cons] at hrest
          simp only [Piece.commas, List.map_cons, List.intercalate_cons_cons, List.mem_append,
            not_or]
          exact ⟨⟨h.1, by simp⟩, hrest⟩

lemma Inert.not_mem_bares {s : String} (h : Inert s) : .bare ';' ∉ Piece.bares s :=
  fun hc => h.semicolon_not_mem (Piece.bare_mem_bares s |>.1 hc)

lemma semicolon_not_mem_ofShown (v : Option String) : .bare ';' ∉ Piece.ofShown v := by
  cases v with
  | none => exact Inert.not_mem_bares (by decide)
  | some s => simp [Piece.ofShown]

lemma Atom.semicolon_not_mem {a : Atom} (h : Inert a.table.text ∧ Inert a.operator) :
    .bare ';' ∉ a.pieces := by
  have hv := semicolon_not_mem_ofShown a.value
  simp [pieces, h.1.semicolon_not_mem, h.2.semicolon_not_mem, hv]

lemma Condition.semicolon_not_mem {c : Condition} (ha : Inert ambient.text)
    (h : ∀ t ∈ c.trusted, Inert t) : .bare ';' ∉ c.pieces ambient := by
  have hatoms := fun a ha' => Atom.semicolon_not_mem
    (atoms_of (c := c) (by decide) (by decide) ha h a ha')
  cases c with
  | comparison c => exact hatoms _ (by simp [atoms])
  | fallback f =>
      simp only [atoms, List.forall_mem_cons] at hatoms
      obtain ⟨ht, hy, -, hn, -⟩ := hatoms
      simp [pieces, ht, hy, hn]

lemma Conditions.semicolon_not_mem {cs : Conditions} (ha : Inert ambient.text)
    (h : ∀ t ∈ cs.trusted, Inert t) : .bare ';' ∉ cs.pieces ambient := by
  match cs with
  | .raw sql =>
      have hsql : Inert sql.text := h _ (by simp [trusted])
      rw [pieces]
      split
      · simp
      · exact Inert.not_mem_bares
          ((ha.between (by decide) (by decide)).append hsql)
  | .list [] => simp [pieces]
  | .list (c :: cs) =>
      rw [trusted, List.flatMap_cons, List.forall_mem_append] at h
      have hc := Condition.semicolon_not_mem ha h.1
      have hcs : ∀ d ∈ cs, .bare ';' ∉ d.joined ambient := by
        intro d hd
        have hd' := Condition.semicolon_not_mem ha fun t ht =>
          h.2 t (List.mem_flatMap_of_mem hd ht)
        have hop : Inert (Connective.word d.connective) := by
          rcases d.connective with _ | _ | _ <;> decide
        simp [Condition.joined, hop.semicolon_not_mem, hd']
      simpa [pieces, hc] using hcs

end Content

namespace Request

/-- The names of a statement are those of its request. -/
lemma names_pieces (r : Request) : Piece.names r.pieces = r.names := by
  cases r with
  | select r | selectMany r | delete r => simp [pieces, names, Conditions.names_pieces]
  | update r =>
      simp [pieces, names, Conditions.names_pieces, names_commas, assignmentPieces,
        ← List.map_eq_flatMap]
  | insert r => simp [pieces, names, names_commas, ← List.map_eq_flatMap]

/-- The literals of a statement are the values of its request, the word `NULL` left
out. -/
lemma literals_pieces (r : Request) : Piece.literals r.pieces = r.shown.reduceOption := by
  have hpayload (es : List (Ident × Value)) :
      (es.flatMap fun e => e.2.shown.toList) = (es.map fun e => e.2.shown).reduceOption := by
    induction es with
    | nil => rfl
    | cons e es ih => rw [List.flatMap_cons, List.map_cons, reduceOption_cons, ih]
  cases r with
  | select r | selectMany r | delete r => simp [pieces, shown, Conditions.literals_pieces]
  | update r =>
      simp [pieces, shown, Conditions.literals_pieces, literals_commas, assignmentPieces,
        List.reduceOption_append, hpayload]
  | insert r => simp [pieces, shown, literals_commas, hpayload]

lemma semicolon_not_mem_assignment (e : Ident × Value) : .bare ';' ∉ assignmentPieces e := by
  have hv := semicolon_not_mem_ofShown e.2.shown
  simp [assignmentPieces, hv]

/-- The semicolon at the end is the only one. -/
lemma semicolon_not_mem_pieces {r : Request} (h : ∀ t ∈ r.trusted, Inert t) :
    .bare ';' ∉ r.pieces := by
  cases r with
  | select r =>
      simp only [trusted, List.forall_mem_cons, List.forall_mem_append] at h
      obtain ⟨ht, ⟨hcs, hj⟩, hg⟩ := h
      have hhead := (inert_selectHead [] ht (by simp) hj hg).not_mem_bares
      have hclause := Conditions.semicolon_not_mem ht hcs
      have hgroup := (inert_groupByClause hg).not_mem_bares
      simp only [pieces, List.mem_append, not_or]
      exact ⟨⟨hhead, hclause⟩, hgroup⟩
  | selectMany r =>
      simp only [trusted, List.forall_mem_cons, List.forall_mem_append] at h
      obtain ⟨ht, ⟨⟨⟨hcs, hj⟩, hg⟩, ho⟩, hc⟩ := h
      have hhead := (inert_selectHead _ ht hc hj hg).not_mem_bares
      have hclause := Conditions.semicolon_not_mem ht hcs
      have htail := ((inert_groupByClause hg).append (inert_orderByClause ho)).not_mem_bares
      simp only [pieces, List.mem_append, not_or]
      exact ⟨⟨hhead, hclause⟩, htail⟩
  | update r =>
      simp only [trusted, List.forall_mem_cons] at h
      have hhead : Inert ("UPDATE " ++ r.table.text ++ " SET ") :=
        h.1.between (by decide) (by decide)
      have hset := semicolon_not_mem_commas fun e (_ : e ∈ r.written) =>
        semicolon_not_mem_assignment e
      have hclause := Conditions.semicolon_not_mem h.1 h.2
      simp only [pieces, List.mem_append, not_or]
      exact ⟨⟨hhead.not_mem_bares, hset⟩, hclause⟩
  | insert r =>
      have ht : Inert r.table.text := h _ (by simp [trusted])
      have hhead : Inert ("INSERT INTO " ++ r.table.text ++ " (") :=
        ht.between (by decide) (by decide)
      have hcolumns := semicolon_not_mem_commas (f := fun e => [.name e.1.text])
        fun e (_ : e ∈ r.values.entries) => by simp
      have hvalues := semicolon_not_mem_commas fun e (_ : e ∈ r.values.entries) =>
        semicolon_not_mem_ofShown e.2.shown
      simp only [pieces, List.mem_append, not_or]
      exact ⟨⟨⟨⟨hhead.not_mem_bares, hcolumns⟩, by simp⟩, hvalues⟩, by simp⟩
  | delete r =>
      simp only [trusted, List.forall_mem_cons] at h
      have hhead := ((by decide : Inert "DELETE FROM ").append h.1).not_mem_bares
      have hclause := Conditions.semicolon_not_mem h.1 h.2
      simp only [pieces, List.mem_append, not_or]
      exact ⟨hhead, hclause⟩

end Request

/-- **No name and no value gets out of its quotation.** A statement whose trusted texts
have neither marks nor semicolons ends outside quotations, its one semicolon is its
last character, its names are the fields of the request and its literals the values,
in order and whatever their characters are. -/
theorem scan_render {r : Request} {sql : String} (h : ∀ t ∈ r.trusted, Inert t)
    (hr : r.render .standard = .ok sql) :
    ∃ body : List Piece,
      scan sql.toList = some (body ++ [.bare ';']) ∧
        sql.toList = body.flatMap Piece.write ++ [';'] ∧ .bare ';' ∉ body ∧
          Piece.names body = r.names ∧ Piece.literals body = r.shown.reduceOption := by
  have hscan : scan sql.toList = some (r.pieces ++ [.bare ';']) := (Request.reads h hr).scan_eq
  refine ⟨r.pieces, hscan, ?_, Request.semicolon_not_mem_pieces h, r.names_pieces,
    r.literals_pieces⟩
  rw [← write_of_scan hscan, List.flatMap_append]
  rfl

/-- An update that tries to break out of every quotation that it has. -/
def hostileUpdate : Request := .update
  { table := ⟨"users"⟩
    values := .ofList [(⟨"na\x60me"⟩, .text "it's; DROP"), (⟨"note"⟩, .null)]
    conditions := .list
      [.fallback
        { test := { field := ⟨"role"⟩ }
          yes := { field := ⟨"\x60;"⟩, queue := .text "' OR '", wildcard := .both }
          no := { field := ⟨"id"⟩, operator := some "=" } },
        .comparison { field := ⟨"id"⟩, connective := some .and, queue := .text "''" }] }

theorem scan_render_hostileUpdate :
    (∀ t ∈ hostileUpdate.trusted, Inert t) ∧
      hostileUpdate.names = ["na\x60me", "note", "role", "\x60;", "role", "id", "id"] ∧
      hostileUpdate.shown.reduceOption = ["it's; DROP", "%' OR '%", "", "''"] ∧
      ∃ sql : String, hostileUpdate.render .standard = .ok sql ∧
        ∃ body : List Piece,
          scan sql.toList = some (body ++ [.bare ';']) ∧
            sql.toList = body.flatMap Piece.write ++ [';'] ∧ .bare ';' ∉ body ∧
              Piece.names body = hostileUpdate.names ∧
                Piece.literals body = hostileUpdate.shown.reduceOption :=
  have h : ∀ t ∈ hostileUpdate.trusted, Inert t := by decide
  ⟨h, by decide, by decide, _, rfl, scan_render h rfl⟩

end SqlRequest
