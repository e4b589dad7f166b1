import SqlRequest.Proofs.Condition.Chain
import SqlRequest.Proofs.Quotation.Enclosed
import SqlRequest.Proofs.Quotation.Pieces

/-!
Equal statements have equal payloads, as far as a statement can show them. The texts that
are taken as they are may be any, marks included: they are the same on both sides, and
what comes after them is compared from the front.

* `enclose_append_inj`: a quotation tells its inside and what follows it, if no mark
  follows. This is all that the rest needs.
* `Delimited`: texts that tell what they show and where they end. Names, literals and
  assignments are of that kind, and `Delimited.commas_inj` goes from one to a list of them.
* `Condition.outline`: a condition without the texts of its values.
  `Condition.render_append_inj` and `Condition.afterFirst_inj` are the step and the run
  over conditions with the same outlines.
* `render_determines_payload`: the three statements on inserts, updates and clauses.
-/

namespace SqlRequest

/-! ### Texts that follow a quotation -/

/-- A text that does not begin with a mark. -/
def Clear (s : String) : Prop := ∀ c ∈ s.toList.head?, isMark c = false

instance (s : String) : Decidable (Clear s) := Option.decidableForallMem s.toList.head?

/-- How a text begins is decided by its first part, unless that is empty. -/
lemma head?_append {s : String} (t : String) (hs : s ≠ "") :
    (s ++ t).toList.head? = s.toList.head? := by
  obtain ⟨c, cs, hcs⟩ := List.exists_cons_of_ne_nil (by simpa using hs : s.toList ≠ [])
  rw [String.toList_append, hcs, List.cons_append, List.head?_cons, List.head?_cons]

lemma clear_append {s : String} (t : String) (hs : s ≠ "") (h : Clear s) : Clear (s ++ t) := by
  rwa [Clear, head?_append t hs]

/-- What does not begin with a mark at all may follow every quotation. -/
lemma Clear.mayFollow {s : String} (hs : Clear s) {mark : Char} (hm : isMark mark = true) :
    MayFollow mark s := by
  intro hmark
  rw [hs mark hmark] at hm
  cases hm

/-- A quotation is read off a text together with what follows it. -/
lemma enclose_append_inj {mark : Char} (hm : isMark mark = true) {s t u v : String}
    (hu : Clear u) (hv : Clear v) (h : enclose mark s ++ u = enclose mark t ++ v) :
    s = t ∧ u = v :=
  enclose_inj_of_mayFollow (hu.mayFollow hm) (hv.mayFollow hm) h

lemma quoteLiteral_append_inj {s t u v : String} (hu : Clear u) (hv : Clear v)
    (h : quoteLiteral s ++ u = quoteLiteral t ++ v) : s = t ∧ u = v :=
  enclose_append_inj (by decide) hu hv h

/-- A value is read off a text, once it is known whether it is the word `NULL`. -/
lemma shown_append_inj {v w : Option String} {s t : String} (hvw : v.isSome = w.isSome)
    (hs : Clear s) (ht : Clear t)
    (h : Quoter.standard.shown v ++ s = Quoter.standard.shown w ++ t) : v = w ∧ s = t := by
  match v, w with
  | none, none => exact ⟨rfl, (String.append_right_inj "NULL").mp h⟩
  | some x, some y =>
      obtain ⟨hxy, hst⟩ := quoteLiteral_append_inj hs ht h
      exact ⟨congrArg some hxy, hst⟩

/-! ### Texts between commas -/

/-- Texts of which each tells what it shows and where it ends, if no mark follows. None is
empty, and none begins with the bracket that ends a list of them. -/
structure Delimited {α β : Type} (text : α → String) (shows : α → β) : Prop where
  opens : ∀ x, ∃ c ∈ (text x).toList.head?, c ≠ ')'
  ends : ∀ {x y : α} {s t : String}, Clear s → Clear t → text x ++ s = text y ++ t →
    shows x = shows y ∧ s = t

/-- A text that may follow a list: an empty one, or one that begins with a bracket. -/
def Closing (s : String) : Prop := ∀ c ∈ s.toList.head?, c = ')'

instance (s : String) : Decidable (Closing s) := Option.decidableForallMem s.toList.head?

lemma closing_append {s : String} (t : String) (hs : s ≠ "") (h : Closing s) :
    Closing (s ++ t) := by
  rwa [Closing, head?_append t hs]

lemma Closing.clear {s : String} (h : Closing s) : Clear s := by
  intro c hc
  rw [h c hc]
  decide

/-- A text that may follow a list does not begin as an element or a comma does. -/
lemma Closing.ne_append {s u : String} (hs : Closing s) (hu : ∃ c ∈ u.toList.head?, c ≠ ')')
    (v : String) : s ≠ u ++ v := by
  rintro rfl
  obtain ⟨c, hc, hne⟩ := hu
  refine hne (hs c ?_)
  rw [String.toList_append, List.head?_append, hc]
  rfl

section Commas

variable {α β : Type} {text : α → String} {shows : α → β} {xs ys : List α} {s t : String}

/-- The elements after the first, each behind a comma. -/
def afterCommas (text : α → String) (xs : List α) : String :=
  String.join (xs.map fun x => ", " ++ text x)

lemma afterCommas_cons (text : α → String) (x : α) (xs : List α) :
    afterCommas text (x :: xs) = ", " ++ (text x ++ afterCommas text xs) := by
  simp [afterCommas, String.append_assoc]

lemma intercalate_commas (text : α → String) (x : α) (xs : List α) :
    ", ".intercalate ((x :: xs).map text) = text x ++ afterCommas text xs := by
  induction xs generalizing x with
  | nil => simp [afterCommas]
  | cons y ys ih =>
      rw [List.map_cons, List.map_cons, String.intercalate_cons_cons, ← List.map_cons, ih,
        afterCommas_cons, String.append_assoc]

/-- No mark follows an element: there is a comma, or the list ends. -/
lemma Closing.clear_afterCommas (hs : Closing s) (xs : List α) :
    Clear (afterCommas text xs ++ s) := by
  cases xs with
  | nil => simpa [afterCommas] using hs.clear
  | cons x xs =>
      rw [afterCommas_cons, String.append_assoc]
      exact clear_append _ (by decide) (by decide)

/-- The elements after the first tell what they show. The induction is on both lists: where
one ends the other does, since a comma is no bracket. -/
lemma Delimited.afterCommas_inj (hd : Delimited text shows) (hs : Closing s) (ht : Closing t)
    (h : afterCommas text xs ++ s = afterCommas text ys ++ t) :
    xs.map shows = ys.map shows ∧ s = t := by
  have hcomma : ∃ c ∈ ", ".toList.head?, c ≠ ')' := ⟨',', by decide, by decide⟩
  induction xs generalizing ys with
  | nil =>
      cases ys with
      | nil => exact ⟨rfl, by simpa [afterCommas] using h⟩
      | cons y ys =>
          rw [afterCommas_cons, String.append_assoc] at h
          exact absurd (by simpa [afterCommas] using h) (hs.ne_append hcomma _)
  | cons x xs ih =>
      cases ys with
      | nil =>
          rw [afterCommas_cons, String.append_assoc] at h
          exact absurd (by simpa [afterCommas] using h.symm) (ht.ne_append hcomma _)
      | cons y ys =>
          simp only [afterCommas_cons, String.append_assoc, String.append_right_inj] at h
          obtain ⟨hxy, hrest⟩ := hd.ends (hs.clear_afterCommas xs) (ht.clear_afterCommas ys) h
          obtain ⟨hmap, hst⟩ := ih hrest
          exact ⟨by rw [List.map_cons, List.map_cons, hxy, hmap], hst⟩

/-- A list between commas tells what its elements show and where it ends. -/
lemma Delimited.commas_inj (hd : Delimited text shows) (xs ys : List α) (hs : Closing s)
    (ht : Closing t)
    (h : ", ".intercalate (xs.map text) ++ s = ", ".intercalate (ys.map text) ++ t) :
    xs.map shows = ys.map shows ∧ s = t := by
  cases xs with
  | nil =>
      cases ys with
      | nil => exact ⟨rfl, by simpa using h⟩
      | cons y ys =>
          rw [intercalate_commas, String.append_assoc] at h
          exact absurd (by simpa using h) (hs.ne_append (hd.opens y) _)
  | cons x xs =>
      cases ys with
      | nil =>
          rw [intercalate_commas, String.append_assoc] at h
          exact absurd (by simpa using h.symm) (ht.ne_append (hd.opens x) _)
      | cons y ys =>
          rw [intercalate_commas, intercalate_commas, String.append_assoc,
            String.append_assoc] at h
          obtain ⟨hxy, hrest⟩ := hd.ends (hs.clear_afterCommas xs) (ht.clear_afterCommas ys) h
          obtain ⟨hmap, hst⟩ := hd.afterCommas_inj hs ht hrest
          exact ⟨by rw [List.map_cons, List.map_cons, hxy, hmap], hst⟩

end Commas

/-! ### Names, literals and assignments -/

lemma delimited_backticked : Delimited Ident.backticked id where
  opens i := ⟨'\x60', by simp [Ident.backticked, backtick, toList_enclose, encloseChars], by decide⟩
  ends hs ht h := by
    obtain ⟨htext, hst⟩ := enclose_append_inj (by decide) hs ht h
    exact ⟨congrArg Ident.mk htext, hst⟩

/-- The word `NULL` is no literal: it has no mark in front. -/
lemma null_append_ne_quoteLiteral_append (s t u : String) : "NULL" ++ s ≠ quoteLiteral t ++ u := by
  intro h
  have hhead := congrArg (fun s => s.toList.head?) h
  simp [quoteLiteral, toList_enclose, encloseChars] at hhead

lemma delimited_shown : Delimited Quoter.standard.shown id where
  opens v := by
    cases v with
    | none => exact ⟨'N', by decide, by decide⟩
    | some s =>
        refine ⟨'\'', ?_, by decide⟩
        simp [Quoter.shown, Quoter.standard, quoteLiteral, toList_enclose, encloseChars]
  ends {v w s t} hs ht h := by
    cases v with
    | none =>
        cases w with
        | none => exact shown_append_inj rfl hs ht h
        | some w => exact absurd h (null_append_ne_quoteLiteral_append s w t)
    | some v =>
        cases w with
        | none => exact absurd h.symm (null_append_ne_quoteLiteral_append t v s)
        | some w => exact shown_append_inj rfl hs ht h

lemma delimited_literal : Delimited Quoter.standard.literal Value.shown where
  opens v := Quoter.literal_eq _ v ▸ delimited_shown.opens v.shown
  ends hs ht h := by
    rw [Quoter.literal_eq, Quoter.literal_eq] at h
    exact delimited_shown.ends hs ht h

/-- What is written to a column, as a statement shows it. -/
def shownEntry (e : Ident × Value) : Ident × Option String := (e.1, e.2.shown)

lemma delimited_assignment :
    Delimited (fun e : Ident × Value => assignment .standard e.1 e.2) shownEntry where
  opens e := by
    refine ⟨'\x60', ?_, by decide⟩
    simp [assignment, Ident.backticked, backtick, toList_enclose, encloseChars]
  ends {x y s t} hs ht h := by
    simp only [assignment, String.append_assoc] at h
    have hclear (u : String) : Clear (" = " ++ u) :=
      clear_append u (by decide) (by decide)
    obtain ⟨hname, hrest⟩ := delimited_backticked.ends (hclear _) (hclear _) h
    obtain ⟨hvalue, hst⟩ := delimited_literal.ends hs ht ((String.append_right_inj " = ").mp hrest)
    exact ⟨Prod.ext hname hvalue, hst⟩

/-! ### Conditions that differ in their values -/

/-- Whether a value is null, and nothing else of it. -/
def Value.outline (v : Value) : Value := if v.isNull then .null else .text ""

def Comparison.outline (c : Comparison) : Comparison := { c with queue := c.queue.outline }

def Branch.outline (b : Branch) : Branch := { b with queue := b.queue.outline }

/-- A condition without the texts of its values. Two conditions with the same outline
differ in values only, and are null in the same places. -/
def Condition.outline : Condition → Condition
  | .comparison c => .comparison c.outline
  | .fallback f => .fallback
      { f with test := f.test.outline, yes := f.yes.outline, no := f.no.outline }

/-- An atom without the text of its value. -/
def Atom.outline (a : Atom) : Atom := { a with value := a.value.map fun _ => "" }

/-- Values with the same outline are shown in the same places. -/
lemma Value.map_shown_outline (v : Value) :
    (v.outline.shown.map fun _ => "") = v.shown.map fun _ => "" := by
  cases v <;> rfl

lemma Wildcard.map_shown_outline (w : Wildcard) (v : Value) :
    ((w.shown v.outline).map fun _ => "") = (w.shown v).map fun _ => "" := by
  cases v <;> rfl

/-- The atoms of an outline have the outlines of the atoms. -/
lemma Condition.atoms_outline (ambient : Ident) (c : Condition) :
    (c.outline.atoms ambient).map Atom.outline = (c.atoms ambient).map Atom.outline := by
  cases c with
  | comparison c =>
      simp [outline, Comparison.outline, atoms, Comparison.atom, Atom.outline,
        Wildcard.map_shown_outline]
  | fallback f =>
      simp [outline, Branch.outline, atoms, Branch.testAtom, Branch.outcomeAtom, Branch.atom,
        Atom.outline, Value.map_shown_outline]

@[simp] lemma Condition.connective_outline (c : Condition) :
    c.outline.connective = c.connective := by
  cases c <;> rfl

lemma Condition.shown_eq (ambient : Ident) (c : Condition) :
    c.shown = (c.atoms ambient).map Atom.value := by
  cases c <;> rfl

/-- An atom is read off a text, if all but its value is known. -/
lemma Atom.render_append_inj {a b : Atom} {s t : String} (hab : a.outline = b.outline)
    (hs : Clear s) (ht : Clear t) (h : a.render .standard ++ s = b.render .standard ++ t) :
    a.value = b.value ∧ s = t := by
  obtain ⟨table, field, operator, v⟩ := a
  obtain ⟨table', field', operator', w⟩ := b
  simp only [outline, mk.injEq] at hab
  obtain ⟨rfl, rfl, rfl, hvw⟩ := hab
  simp only [render, String.append_assoc, String.append_right_inj] at h
  exact shown_append_inj (by simpa using congrArg Option.isSome hvw) hs ht h

/-- The same where a fixed text follows that is neither empty nor begins with a mark. -/
lemma Atom.render_append_inj_of_bare {a b : Atom} {u s t : String} (hab : a.outline = b.outline)
    (hu : u ≠ "") (hclear : Clear u)
    (h : a.render .standard ++ (u ++ s) = b.render .standard ++ (u ++ t)) :
    a.value = b.value ∧ s = t := by
  obtain ⟨hvalue, hrest⟩ :=
    render_append_inj hab (clear_append s hu hclear) (clear_append t hu hclear) h
  exact ⟨hvalue, (String.append_right_inj u).mp hrest⟩

/-- A predicate is read off a text, if all but its values is known: each atom is followed
by a blank or a bracket, and the rest of the predicate is fixed. -/
lemma Condition.render_append_inj {ambient : Ident} {c d : Condition} {s t : String}
    (hcd : c.outline = d.outline) (hs : Clear s) (ht : Clear t)
    (h : c.render .standard ambient ++ s = d.render .standard ambient ++ t) :
    c.shown = d.shown ∧ s = t := by
  have hatoms : (c.atoms ambient).map Atom.outline = (d.atoms ambient).map Atom.outline := by
    rw [← atoms_outline, hcd, atoms_outline]
  rw [shown_eq ambient c, shown_eq ambient d]
  cases c with
  | comparison c =>
      cases d with
      | fallback g => cases hcd
      | comparison d =>
          simp only [atoms, List.map_cons, List.map_nil, List.cons.injEq, and_true] at hatoms
          rw [render, render, Comparison.render_eq, Comparison.render_eq] at h
          obtain ⟨hvalue, hst⟩ := Atom.render_append_inj hatoms hs ht h
          exact ⟨by simp only [atoms, List.map_cons, hvalue, List.map_nil], hst⟩
  | fallback f =>
      cases d with
      | comparison d => cases hcd
      | fallback g =>
          simp only [atoms, List.map_cons, List.map_nil, List.cons.injEq, and_true] at hatoms
          obtain ⟨htest, hyes, -, hno⟩ := hatoms
          simp only [render, Fallback.render_eq, String.append_assoc,
            String.append_right_inj] at h
          obtain ⟨ht₁, h⟩ := Atom.render_append_inj_of_bare htest (by decide) (by decide) h
          obtain ⟨hy, h⟩ := Atom.render_append_inj_of_bare hyes (by decide) (by decide) h
          obtain ⟨-, h⟩ := Atom.render_append_inj_of_bare htest (by decide) (by decide) h
          obtain ⟨hn, h⟩ := Atom.render_append_inj_of_bare hno (by decide) (by decide) h
          exact ⟨by simp only [atoms, List.map_cons, ht₁, hy, hn, List.map_nil], h⟩

/-- What conditions after the first add to a clause. -/
def Condition.afterFirst (q : Quoter) (ambient : Ident) (cs : List Condition) : String :=
  String.join ((cs.flatMap (link q ambient)).map (" " ++ ·))

lemma Condition.afterFirst_cons (q : Quoter) (ambient : Ident) (c : Condition)
    (cs : List Condition) :
    afterFirst q ambient (c :: cs) =
      String.join ((c.connective.map Connective.sql).toList.map (" " ++ ·)) ++
        (" " ++ (c.render q ambient ++ afterFirst q ambient cs)) := by
  simp [afterFirst, link, String.append_assoc]

/-- No mark follows a predicate: there is a blank, or the clause ends. -/
lemma Condition.clear_afterFirst (q : Quoter) (ambient : Ident) (cs : List Condition) :
    Clear (afterFirst q ambient cs) := by
  rw [afterFirst]
  cases cs.flatMap (link q ambient) with
  | nil => decide
  | cons w ws =>
      rw [List.map_cons, String.join_cons, String.append_assoc]
      exact clear_append _ (by decide) (by decide)

/-- The conditions after the first. The induction is on both lists, which have the same
outlines; the connectives are the same on both sides. -/
lemma Condition.afterFirst_inj {ambient : Ident} {cs ds : List Condition}
    (hcd : cs.map outline = ds.map outline)
    (h : afterFirst .standard ambient cs = afterFirst .standard ambient ds) :
    cs.flatMap shown = ds.flatMap shown := by
  induction cs generalizing ds with
  | nil =>
      obtain rfl : ds = [] := List.map_eq_nil_iff.mp hcd.symm
      rfl
  | cons c cs ih =>
      obtain ⟨d, ds, rfl, hd, hds⟩ := List.map_eq_cons_iff.mp hcd.symm
      have hconnective : c.connective = d.connective := by
        rw [← connective_outline, ← hd, connective_outline]
      rw [afterFirst_cons, afterFirst_cons, hconnective, String.append_right_inj,
        String.append_right_inj] at h
      obtain ⟨hshown, hrest⟩ :=
        render_append_inj hd.symm (clear_afterFirst _ _ _) (clear_afterFirst _ _ _) h
      rw [List.flatMap_cons, List.flatMap_cons, hshown, ih hds.symm hrest]

/-- The clause of a list tells the values of its conditions, if all else is known. -/
lemma Conditions.clause_inj {ambient : Ident} {cs ds : List Condition} {sql : String}
    (hcd : cs.map Condition.outline = ds.map Condition.outline)
    (hcs : clause .standard ambient (.list cs) = .ok sql)
    (hds : clause .standard ambient (.list ds) = .ok sql) :
    shown (.list cs) = shown (.list ds) := by
  cases cs with
  | nil =>
      obtain rfl : ds = [] := List.map_eq_nil_iff.mp hcd.symm
      rfl
  | cons c cs =>
      obtain ⟨d, ds, rfl, hd, hds'⟩ := List.map_eq_cons_iff.mp hcd.symm
      have htext := (clause_cons_eq_ok_iff.mp hcs).2.symm.trans (clause_cons_eq_ok_iff.mp hds).2
      rw [Condition.chain, Condition.chain, intercalate_blank, intercalate_blank,
        String.append_right_inj] at htext
      obtain ⟨hshown, hrest⟩ := Condition.render_append_inj hd.symm
        (Condition.clear_afterFirst _ _ cs) (Condition.clear_afterFirst _ _ ds) htext
      rw [shown, shown, List.flatMap_cons, List.flatMap_cons, hshown,
        Condition.afterFirst_inj hds'.symm hrest]

/-! ### Inserts and updates -/

/-- An insert as a text before its columns, which depends on the table only, and two lists
with a text after each. -/
lemma Insert.render_eq (q : Quoter) (r : Insert) :
    r.render q =
      ("INSERT INTO " ++ r.table.text ++ " (") ++
        (", ".intercalate ((r.values.entries.map Prod.fst).map Ident.backticked) ++
          (") VALUES (" ++
            (", ".intercalate ((r.values.entries.map Prod.snd).map q.literal) ++ ");"))) := by
  rw [List.map_map, List.map_map, ← String.append_assoc, ← String.append_assoc,
    ← String.append_assoc]
  rfl

/-- The columns of an insert stand between brackets, and so do its values. There are as
many of one as of the other, so they belong together in order. -/
lemma Insert.shown_eq_of_render_eq {r s : Insert} (htable : r.table = s.table)
    (h : r.render .standard = s.render .standard) :
    r.values.entries.map shownEntry = s.values.entries.map shownEntry := by
  have hclosing (v : String) : Closing (") VALUES (" ++ v) :=
    closing_append v (by decide) (by decide)
  rw [render_eq, render_eq, htable, String.append_right_inj] at h
  obtain ⟨hnames, hrest⟩ := delimited_backticked.commas_inj (r.values.entries.map Prod.fst)
    (s.values.entries.map Prod.fst) (hclosing _) (hclosing _) h
  rw [String.append_right_inj] at hrest
  obtain ⟨hvalues, -⟩ := delimited_literal.commas_inj (r.values.entries.map Prod.snd)
    (s.values.entries.map Prod.snd) (by decide) (by decide) hrest
  have hzip (es : List (Ident × Value)) : es.map shownEntry =
      ((es.map Prod.fst).map id).zip ((es.map Prod.snd).map Value.shown) := by
    rw [List.map_id, List.map_map, List.zip_map']
    rfl
  rw [hzip, hzip, hnames, hvalues]

/-- What an update sets stands between two texts that do not depend on it. -/
lemma Update.shown_eq_of_render_eq {r s : Update} {sql : String} (htable : r.table = s.table)
    (hconditions : r.conditions = s.conditions) (hr : r.render .standard = .ok sql)
    (hs : s.render .standard = .ok sql) :
    r.written.map shownEntry = s.written.map shownEntry := by
  obtain ⟨clause, hclause, hr⟩ := bind_eq_ok.mp hr
  obtain ⟨clause', hclause', hs⟩ := bind_eq_ok.mp hs
  rw [htable, hconditions, hclause'] at hclause
  cases hclause
  have h := Except.ok.inj (hr.trans hs.symm)
  rw [htable, String.append_left_inj, String.append_left_inj, String.append_right_inj] at h
  have hend : Closing "" := by decide
  exact (delimited_assignment.commas_inj r.written s.written hend hend
    ((String.append_left_inj "").mpr h)).1

/-- **Nothing of a payload is lost in a statement**, whatever the names, the values and the
texts that are taken as they are. Two inserts into one table with the same statement write
the same to the same columns in the same order, null apart from any text. So do two
updates of one table under the same conditions. And two lists of conditions that differ in
their values only, and are null in the same places, have the same clause only if they show
the same values, with the percent signs around them. -/
theorem render_determines_payload :
    (∀ r s : Insert, r.table = s.table → r.render .standard = s.render .standard →
      r.values.entries.map shownEntry = s.values.entries.map shownEntry) ∧
    (∀ (r s : Update) (sql : String), r.table = s.table → r.conditions = s.conditions →
      r.render .standard = .ok sql → s.render .standard = .ok sql →
        r.written.map shownEntry = s.written.map shownEntry) ∧
    ∀ (ambient : Ident) (cs ds : List Condition) (sql : String),
      cs.map Condition.outline = ds.map Condition.outline →
      Conditions.clause .standard ambient (.list cs) = .ok sql →
      Conditions.clause .standard ambient (.list ds) = .ok sql →
        Conditions.shown (.list cs) = Conditions.shown (.list ds) :=
  ⟨fun _ _ => Insert.shown_eq_of_render_eq, fun _ _ _ => Update.shown_eq_of_render_eq,
    fun _ _ _ _ => Conditions.clause_inj⟩

/-- An insert of a value between names that look like parts of the statement. -/
def insertOf (v : Value) : Insert where
  table := ⟨"users"⟩
  values := .ofList [(⟨"a\x60) VALUES ("⟩, v), (⟨"b', '"⟩, .null)]

/-- An update that sets a value under a condition on it. -/
def updateOf (v : Value) : Update where
  table := ⟨"users"⟩
  values := .ofList [(⟨"a"⟩, v), (⟨"b"⟩, .text "")]
  conditions := .list [.comparison (.of ⟨"a"⟩ (.text "', '"))]

/-- A comparison by an operator with marks in it, and a fallback. -/
def conditionsOf (v : Value) : List Condition :=
  [.comparison { field := ⟨"a"⟩, operator := "= 'x' OR '", queue := v },
    .fallback
      { connective := some .and
        test := .of ⟨"a"⟩
        yes := { field := ⟨"b"⟩, queue := v, wildcard := .both }
        no := .of ⟨"c"⟩ }]

/-- A number and the text of its digits look alike in a statement. -/
theorem render_determines_payload_seven :
    ((insertOf (.integer 7)).render .standard = (insertOf (.text "7")).render .standard ∧
      (insertOf (.integer 7)).values.entries.map shownEntry =
        (insertOf (.text "7")).values.entries.map shownEntry) ∧
    ((updateOf (.integer 7)).render .standard = (updateOf (.text "7")).render .standard ∧
      (updateOf (.integer 7)).written.map shownEntry =
        (updateOf (.text "7")).written.map shownEntry) ∧
    (conditionsOf (.integer 7)).map Condition.outline =
        (conditionsOf (.text "7")).map Condition.outline ∧
      Conditions.shown (.list (conditionsOf (.integer 7))) =
        Conditions.shown (.list (conditionsOf (.text "7"))) := by
  obtain ⟨hinsert, hupdate, hclause⟩ := render_determines_payload
  have hi : (insertOf (.integer 7)).render .standard = (insertOf (.text "7")).render .standard := by
    rfl
  have hu : (updateOf (.integer 7)).render .standard = (updateOf (.text "7")).render .standard := by
    rfl
  have ho : (conditionsOf (.integer 7)).map Condition.outline =
      (conditionsOf (.text "7")).map Condition.outline := rfl
  exact ⟨⟨hi, hinsert _ _ rfl hi⟩, ⟨hu, hupdate _ _ _ rfl rfl rfl rfl⟩, ho,
    hclause ⟨"users"⟩ _ _ _ ho rfl rfl⟩

end SqlRequest
