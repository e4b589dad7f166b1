import SqlRequest.Proofs.OrderedMap
import SqlRequest.Proofs.Row
import SqlRequest.Proofs.Text.Containment

/-!
Records as groups of rows. Folding writes rows one after the other into records, and
the values of a row one after the other into fields. What comes of it has a form that
mentions no order of writes but that within one column of one record.

* `keyOf`, `addressOf`: the key column of a result, and where a row belongs.
* `foldTexts`: what is collected of the values of one column.
* `recordOf` and `grouped`: the record of the rows that belong together, and all the
  records of a result, each computed from its own rows.
* `ofRows_eq_grouped`: folding gives the groups, and a record is determined by the key
  column and by the rows of its own address.
-/

namespace SqlRequest

/-! ### Where rows belong -/

/-- The first column whose name contains the letters `Id`. -/
def keyOf (columns : List String) : Option String :=
  columns.find? fun name => decide ("Id".toList <:+: name.toList)

/-- The string form of the first column with the name of the key; empty without a key,
and if the row has no such column. -/
def addressOf (key : Option String) (r : Row) : String :=
  ((key.bind fun k => r.cells.find? fun c => c.1 = k).map fun c => c.2.form).getD ""

lemma keyColumn?_eq (columns : List String) : keyColumn? columns = keyOf columns := by
  rw [keyColumn?, keyOf]
  congr 1
  funext name
  rw [Bool.eq_iff_iff, Text.contains_iff, decide_eq_true_iff]

lemma Row.address_eq (key : Option String) (r : Row) : r.address key = addressOf key r := by
  cases key with
  | none => rfl
  | some k =>
      rw [address, addressOf, Option.bind_some, Row.get?_eq]
      cases r.cells.find? fun c => c.1 = k <;> rfl

/-! ### What is collected -/

/-- The string forms of one column, in order. -/
def formsOf (column : String) (cells : List (String × Value)) : List String :=
  (cells.filter fun c => c.1 = column).map fun c => c.2.form

/-- What has been collected, and one more text, which is left out if it is contained
whatever the case of the letters. -/
def addText (sofar new : String) : String :=
  if Within new sofar then sofar else sofar ++ "," ++ new

/-- What is collected of some texts. -/
def foldTexts : List String → String
  | [] => ""
  | v :: vs => vs.foldl addText v

/-- The record of rows that belong together: a field for each of their columns, with
what is collected of that column. -/
def recordOf (rows : List Row) : Record :=
  .tabulate ((rows.flatMap Row.cells).map Prod.fst) fun column =>
    foldTexts (formsOf column (rows.flatMap Row.cells))

/-- The rows of an address. -/
def rowsAt (key : Option String) (rows : List Row) (k : String) : List Row :=
  rows.filter fun r => addressOf key r = k

/-- The records of a result: one for each address, of the rows of that address. -/
def grouped (key : Option String) (rows : List Row) : Records :=
  .tabulate (rows.map (addressOf key)) fun k => recordOf (rowsAt key rows k)

/-! ### Folding gives the groups -/

lemma collect_some (sofar new : String) : collect new (some sofar) = addText sofar new := by
  rw [collect, addText]
  simp only [collected_iff]

/-- Collecting texts one after the other, of which the first finds nothing. -/
lemma foldl_collect {vs : List String} (h : vs ≠ []) :
    vs.foldl (fun o new => some (collect new o)) none = some (foldTexts vs) := by
  obtain ⟨v, ws, rfl⟩ := List.exists_cons_of_ne_nil h
  rw [List.foldl_cons, OrderedMap.foldl_some]
  simp only [collect_some]
  rfl

/-- Adding rows to a record is writing all their cells to it. -/
lemma foldl_add (rows : List Row) (record : Record) :
    rows.foldl Record.add record =
      (rows.flatMap Row.cells).foldl
        (fun record c => record.alter c.1 (collect c.2.form)) record := by
  rw [List.foldl_flatMap]
  rfl

/-- Rows that belong together, folded from nothing, give their record. -/
lemma foldl_add_empty (rows : List Row) : rows.foldl Record.add .empty = recordOf rows := by
  rw [foldl_add]
  refine OrderedMap.foldl_alter_eq_tabulate Prod.fst
    (fun c : String × Value => collect c.2.form) _ _ fun k hk => ?_
  rw [← foldl_collect (by simpa [formsOf] using hk), formsOf, List.foldl_map]

/-- Writing rows into records: the rows of one address make its record. -/
lemma foldl_add_getD {rows : List Row} (h : rows ≠ []) :
    rows.foldl (fun o r => some (Record.add (o.getD .empty) r)) none = some (recordOf rows) := by
  obtain ⟨r, rs, rfl⟩ := List.exists_cons_of_ne_nil h
  rw [← foldl_add_empty, List.foldl_cons, OrderedMap.foldl_some]
  rfl

lemma foldl_records (key : Option String) (rows : List Row) :
    rows.foldl (Records.add key) .empty = grouped key rows := by
  have hadd : Records.add key =
      fun records r => records.alter (addressOf key r) fun o => Record.add (o.getD .empty) r := by
    funext records r
    rw [Records.add, Row.address_eq]
  rw [hadd]
  exact OrderedMap.foldl_alter_eq_tabulate _ (fun r o => Record.add (o.getD .empty) r) _ _
    fun k hk => foldl_add_getD hk

lemma ofRows_cons (first : Row) (rest : List Row) :
    Records.ofRows (first :: rest) = some (grouped (keyOf first.columns) (first :: rest)) := by
  rw [Records.ofRows, foldl_records, keyColumn?_eq]

/-- The record at an address, if any row belongs there. -/
lemma get?_grouped (key : Option String) (rows : List Row) (k : String) :
    (grouped key rows).get? k =
      if rowsAt key rows k = [] then none else some (recordOf (rowsAt key rows k)) := by
  rw [grouped, OrderedMap.get?_tabulate]
  by_cases h : k ∈ rows.map (addressOf key)
  · obtain ⟨r, hr, hk⟩ := List.mem_map.1 h
    have hne : rowsAt key rows k ≠ [] :=
      List.ne_nil_of_mem (List.mem_filter.2 ⟨hr, by simpa using hk⟩)
    rw [if_pos h, if_neg hne]
  · have hnil : rowsAt key rows k = [] := by
      refine List.filter_eq_nil_iff.2 fun r hr hk => h ?_
      exact List.mem_map.2 ⟨r, hr, by simpa using hk⟩
    rw [if_neg h, if_pos hnil]

/-- **Folding rows gives the groups.** The records stand in the order in which their
addresses first come up, the fields of a record in the order in which its rows first
have their columns, and each field is collected of its own column. So a record depends
on nothing but the columns of the first row, which decide the key, and the rows of its
own address: any other rows, in any places, leave it as it is. -/
theorem ofRows_eq_grouped (first : Row) (rest : List Row) :
    Records.ofRows (first :: rest) = some (grouped (keyOf first.columns) (first :: rest)) ∧
      ∀ (first' : Row) (rest' : List Row) (k : String), first'.columns = first.columns →
        rowsAt (keyOf first.columns) (first' :: rest') k =
            rowsAt (keyOf first.columns) (first :: rest) k →
          (Records.ofRows (first' :: rest')).bind (fun records => records.get? k) =
            (Records.ofRows (first :: rest)).bind fun records => records.get? k := by
  refine ⟨ofRows_cons first rest, fun first' rest' k hcolumns hrows => ?_⟩
  rw [ofRows_cons, ofRows_cons, hcolumns, Option.bind_some, Option.bind_some, get?_grouped,
    get?_grouped, hrows]

/-- Rows of two addresses, one of them twice and with a column given twice, in two
orders: the record of the address is the same. -/
theorem ofRows_interleaved :
    let ann : Row := ⟨["userId", "name"], [.text "1", .text "Ann"], rfl⟩
    let bob : Row := ⟨["name", "userId"], [.text "Bob", .text "2"], rfl⟩
    let more : Row := ⟨["userId", "name", "name"], [.text "1", .text "ANN", .text "Eve"], rfl⟩
    rowsAt (keyOf ann.columns) [ann, more, bob] "1" =
        rowsAt (keyOf ann.columns) [ann, bob, more] "1" ∧
      Records.ofRows [ann, bob, more] = some (grouped (keyOf ann.columns) [ann, bob, more]) ∧
      (Records.ofRows [ann, more, bob]).bind (fun records => records.get? "1") =
        (Records.ofRows [ann, bob, more]).bind (fun records => records.get? "1") ∧
      ((Records.ofRows [ann, bob, more]).bind fun records => records.get? "1").map
        (fun record => record.entries) = some [("userId", "1"), ("name", "Ann,Eve")] := by
  intro ann bob more
  have hrows : rowsAt (keyOf ann.columns) [ann, more, bob] "1" =
      rowsAt (keyOf ann.columns) [ann, bob, more] "1" := by
    decide +kernel
  obtain ⟨hgroups, hsame⟩ := ofRows_eq_grouped ann [bob, more]
  exact ⟨hrows, hgroups, hsame ann [more, bob] "1" rfl hrows, by decide +kernel⟩

end SqlRequest
