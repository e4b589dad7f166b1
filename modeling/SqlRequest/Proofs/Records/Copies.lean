import SqlRequest.Proofs.Records.Grouped

/-!
A row that has come before adds nothing. Whatever has been folded since, its record still
holds all that the row says, since what is contained in a field stays contained when more is
added after a comma.

* `Record.Holds`, `Records.Holds`: a record holds a cell, and records hold a row.
  `Records.holds_add`, `Records.Holds.add`: they do once the row has been added, and one
  more row preserves it.
* `Records.add_of_holds`: adding a row that is held changes nothing.
* `ofRows_eraseDups`: the records are those of the rows without their repetitions.
  `ofRows_copies`: copies of rows may come anywhere after the rows.
-/

namespace SqlRequest

/-! ### Cells in a record -/

/-- What is contained in a field is not added to it. -/
lemma collect_of_within {new sofar : String} (h : Within new sofar) :
    collect new (some sofar) = sofar := by
  rw [collect_some, addText, if_pos h]

/-- What has been added to a field is contained in it. -/
lemma within_collect (new : String) (o : Option String) : Within new (collect new o) := by
  cases o with
  | none => exact within_refl new
  | some sofar =>
      rw [collect_some, addText]
      split
      · next h => exact h
      · exact within_append_comma sofar new

/-- What is contained in a field stays contained when more is added. -/
lemma Within.collect {v sofar : String} (h : Within v sofar) (new : String) :
    Within v (collect new (some sofar)) := by
  rw [collect_some, addText]
  split
  · exact h
  · exact h.append_comma new

namespace Record

/-- A cell is held if its form is contained in the field of its column. -/
def Holds (record : Record) (c : String × Value) : Prop :=
  ∃ text, record.get? c.1 = some text ∧ Within c.2.form text

variable {record : Record} {c : String × Value} {r : Row}

/-- A record and one more cell. -/
def addCell (record : Record) (c : String × Value) : Record :=
  record.alter c.1 (collect c.2.form)

lemma holds_addCell (record : Record) (c : String × Value) : (record.addCell c).Holds c :=
  ⟨_, by rw [addCell, OrderedMap.get?_alter, if_pos rfl], within_collect _ _⟩

lemma Holds.addCell (h : record.Holds c) (d : String × Value) : (record.addCell d).Holds c := by
  obtain ⟨text, htext, hwithin⟩ := h
  rw [Holds, Record.addCell, OrderedMap.get?_alter]
  by_cases hd : c.1 = d.1
  · rw [if_pos hd, ← hd, htext]
    exact ⟨_, rfl, hwithin.collect _⟩
  · rw [if_neg hd]
    exact ⟨text, htext, hwithin⟩

lemma addCell_of_holds (h : record.Holds c) : record.addCell c = record := by
  obtain ⟨text, htext, hwithin⟩ := h
  exact OrderedMap.alter_of_get? htext (collect_of_within hwithin)

lemma Holds.foldl_addCell (h : record.Holds c) (cells : List (String × Value)) :
    (cells.foldl Record.addCell record).Holds c := by
  induction cells generalizing record with
  | nil => exact h
  | cons d cells ih => exact ih (h.addCell d)

/-- A column may come twice in a row, so the induction is on cells after any others. -/
lemma holds_foldl_addCell {cells : List (String × Value)} (record : Record) (h : c ∈ cells) :
    (cells.foldl addCell record).Holds c := by
  obtain ⟨before, after, rfl⟩ := List.append_of_mem h
  rw [List.foldl_append, List.foldl_cons]
  exact (holds_addCell _ c).foldl_addCell after

lemma foldl_addCell_of_holds {cells : List (String × Value)} (h : ∀ c ∈ cells, record.Holds c) :
    cells.foldl addCell record = record := by
  induction cells with
  | nil => rfl
  | cons c cells ih =>
      rw [List.forall_mem_cons] at h
      rw [List.foldl_cons, addCell_of_holds h.1, ih h.2]

end Record

/-! ### Rows in records -/

namespace Records

variable {key : Option String} {records : Records} {r : Row}

/-- A row is held if the record of its address holds all its cells. -/
def Holds (key : Option String) (records : Records) (r : Row) : Prop :=
  ∃ record, records.get? (r.address key) = some record ∧ ∀ c ∈ r.cells, record.Holds c

lemma holds_add (key : Option String) (records : Records) (r : Row) :
    Holds key (records.add key r) r := by
  refine ⟨_, by rw [add, OrderedMap.get?_alter, if_pos rfl], fun c hc => ?_⟩
  exact Record.holds_foldl_addCell _ hc

/-- One more row takes nothing away. -/
lemma Holds.add (h : Holds key records r) (s : Row) : Holds key (records.add key s) r := by
  obtain ⟨record, hrecord, hcells⟩ := h
  rw [Holds, Records.add, OrderedMap.get?_alter]
  by_cases hs : r.address key = s.address key
  · rw [if_pos hs, ← hs, hrecord]
    exact ⟨_, rfl, fun c hc => (hcells c hc).foldl_addCell s.cells⟩
  · rw [if_neg hs]
    exact ⟨record, hrecord, hcells⟩

/-- A row that is held adds nothing. -/
lemma add_of_holds (h : Holds key records r) : records.add key r = records := by
  obtain ⟨record, hrecord, hcells⟩ := h
  exact OrderedMap.alter_of_get? hrecord (Record.foldl_addCell_of_holds hcells)

/-- After a run every row of it is held. -/
lemma holds_foldl_add {rows : List Row} (hr : r ∈ rows) (records : Records) :
    Holds key (rows.foldl (Records.add key) records) r := by
  induction rows using List.reverseRecOn with
  | nil => cases hr
  | append_singleton rows s ih =>
      rw [List.foldl_append, List.foldl_cons, List.foldl_nil]
      rcases List.mem_append.mp hr with hr | hr
      · exact (ih hr).add s
      · obtain rfl := List.mem_singleton.mp hr
        exact holds_add key _ r

/-- A run may leave out all rows that have come before. -/
lemma foldl_add_eraseDups (key : Option String) (records : Records) (rows : List Row) :
    rows.eraseDups.foldl (add key) records = rows.foldl (add key) records := by
  induction rows using List.reverseRecOn with
  | nil => rfl
  | append_singleton rows r ih =>
      rw [eraseDups_concat, List.foldl_append, List.foldl_cons, List.foldl_nil]
      split
      · next hr => rw [ih, add_of_holds (holds_foldl_add hr records)]
      · rw [List.foldl_append, ih, List.foldl_cons, List.foldl_nil]

end Records

/-! ### Results with repetitions -/

/-- **The records of a result are those of its rows without their repetitions.** -/
theorem ofRows_eraseDups (rows : List Row) :
    Records.ofRows rows.eraseDups = Records.ofRows rows := by
  cases rows with
  | nil => rfl
  | cons r rs =>
      have hfold := Records.foldl_add_eraseDups (keyColumn? r.columns) .empty (r :: rs)
      rw [List.eraseDups_cons] at hfold ⊢
      rw [Records.ofRows, hfold, Records.ofRows]

/-- **Rows that have come before are absorbed.** A copy of a row changes nothing wherever it
comes after the row, whatever has been folded in between; nor do any number of copies, so
that a result that is repeated as a whole gives the same records. Copies may as well be
scattered: rows that come up in the same order, if one looks at the first time only, give the
same records. -/
theorem ofRows_copies {a : List Row} {r : Row} (hr : r ∈ a) (b : List Row) :
    Records.ofRows (a ++ [r] ++ b) = Records.ofRows (a ++ b) ∧
      (∀ copies : List Row, (∀ c ∈ copies, c ∈ a) →
        Records.ofRows (a ++ copies ++ b) = Records.ofRows (a ++ b)) ∧
      Records.ofRows (a ++ b ++ (a ++ b)) = Records.ofRows (a ++ b) ∧
      ∀ rows : List Row, rows.eraseDups = (a ++ b).eraseDups →
        Records.ofRows rows = Records.ofRows (a ++ b) := by
  have hfirst {rows rows' : List Row} (h : rows.eraseDups = rows'.eraseDups) :
      Records.ofRows rows = Records.ofRows rows' := by
    rw [← ofRows_eraseDups rows, h, ofRows_eraseDups]
  refine ⟨hfirst (eraseDups_copies (by simpa using hr) b),
    fun copies h => hfirst (eraseDups_copies h b), hfirst ?_, fun rows h => hfirst h⟩
  have htwice := eraseDups_copies (fun _ h => h : ∀ c ∈ a ++ b, c ∈ a ++ b) []
  rwa [List.append_nil, List.append_nil] at htwice

/-- A row with a column given twice comes again after its field has grown. -/
theorem ofRows_copies_grown :
    let ann : Row := ⟨["userId", "tag", "tag"], [.integer 1, .text "ΟΔΟΣ", .text "b"], rfl⟩
    let more : Row := ⟨["userId", "tag"], [.text "1", .text "Σ"], rfl⟩
    let bob : Row := ⟨["userId", "tag"], [.integer 2, .null], rfl⟩
    ann ∈ [ann, more] ∧
      Records.ofRows ([ann, more] ++ [ann] ++ [bob]) = Records.ofRows ([ann, more] ++ [bob]) ∧
      ((Records.ofRows ([ann, more] ++ [bob])).bind fun records => records.get? "1").map
        (fun record => record.entries) = some [("userId", "1"), ("tag", "ΟΔΟΣ,b,Σ")] := by
  intro ann more bob
  have hann : ann ∈ [ann, more] := List.mem_cons_self
  exact ⟨hann, (ofRows_copies hann [bob]).1, by decide +kernel⟩

end SqlRequest
