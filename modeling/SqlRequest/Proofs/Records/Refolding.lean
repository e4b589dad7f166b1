import SqlRequest.Proofs.Records.Grouped

/-!
Folding a result that has been folded. Every record can be read as a row again, its texts as
values.

* `Record.toRow`, `Records.toRows`: the rows. `recordOf_toRow`: such a row alone gives its
  record.
* `Records.Settled`: records that share their columns, and whose rows belong where the
  records are. `Records.Settled.ofRows_eq_self`: folding them again changes nothing.
* `Uniform`: rows that share their columns, each with a name of its own, as the rows of a
  result do. `Uniform.settled_grouped`: they fold into settled records. The key of a record
  is never added to, since a text contains itself whatever the case of its letters.
* `ofRows_toRows`: so folding twice is folding once.
-/

namespace SqlRequest

/-! ### Records as rows -/

/-- A record as a row of texts. -/
def Record.toRow (record : Record) : Row where
  columns := record.keys
  values := record.entries.map fun e => .text e.2
  lengths := by simp [OrderedMap.keys]

/-- Records as rows, in order. -/
def Records.toRows (records : Records) : List Row := records.entries.map fun e => Record.toRow e.2

lemma Record.cells_toRow (record : Record) :
    record.toRow.cells = record.entries.map fun e => (e.1, .text e.2) :=
  List.zip_map'

/-- A row of texts belongs where its key column says. -/
lemma addressOf_toRow (key : Option String) (record : Record) :
    addressOf key record.toRow = (key.bind record.get?).getD "" := by
  rw [addressOf, Record.cells_toRow]
  cases key with
  | none => rfl
  | some k =>
      rw [Option.bind_some, Option.bind_some, OrderedMap.get?, List.find?_map, Option.map_map]
      rfl

/-- The only row of a record gives the record: no column comes twice. -/
lemma recordOf_toRow (record : Record) : recordOf [record.toRow] = record := by
  have hcells : [record.toRow].flatMap Row.cells =
      record.entries.map fun e => (e.1, .text e.2) := by
    rw [List.flatMap_singleton, Record.cells_toRow]
  have hcolumns : ([record.toRow].flatMap Row.cells).map Prod.fst = record.keys := by
    rw [hcells, List.map_map]
    rfl
  have hkeys : (recordOf [record.toRow]).keys = record.keys := by
    rw [recordOf, OrderedMap.keys_tabulate, hcolumns]
    exact eraseDups_of_nodup record.nodup
  refine OrderedMap.ext_get? hkeys fun column hcolumn => ?_
  rw [hkeys] at hcolumn
  obtain ⟨text, htext⟩ := OrderedMap.mem_keys_iff.1 hcolumn
  have hforms : formsOf column ([record.toRow].flatMap Row.cells) = [text] := by
    rw [hcells, formsOf, List.filter_map, List.map_map]
    change (record.entries.filter fun e => e.1 = column).map Prod.snd = [text]
    rw [OrderedMap.filter_entries, htext]
    rfl
  rw [recordOf, OrderedMap.get?_tabulate, hcolumns, if_pos hcolumn, hforms, htext]
  rfl

/-! ### Records that folding leaves as they are -/

/-- Records with the same columns, each of which belongs where it is. -/
structure Records.Settled (columns : List String) (records : Records) : Prop where
  keys : ∀ e ∈ records.entries, e.2.keys = columns
  address : ∀ e ∈ records.entries, addressOf (keyOf columns) (Record.toRow e.2) = e.1

namespace Records.Settled

variable {columns : List String} {records : Records}

lemma map_address (h : Settled columns records) :
    records.toRows.map (addressOf (keyOf columns)) = records.keys := by
  rw [toRows, List.map_map]
  exact List.map_congr_left h.address

/-- At the address of a record there is its row and no other. -/
lemma rowsAt_toRows (h : Settled columns records) {k : String} {record : Record}
    (hk : records.get? k = some record) :
    rowsAt (keyOf columns) records.toRows k = [record.toRow] := by
  have haddress : ∀ e ∈ records.entries,
      decide (addressOf (keyOf columns) (Record.toRow e.2) = k) = decide (e.1 = k) :=
    fun e he => by rw [h.address e he]
  have hentries : records.entries.filter (fun e => e.1 = k) = [(k, record)] := by
    rw [OrderedMap.filter_entries, hk]
    rfl
  rw [rowsAt, toRows, List.filter_map]
  change List.map _ (records.entries.filter fun e =>
    addressOf (keyOf columns) (Record.toRow e.2) = k) = _
  rw [List.filter_congr haddress, hentries]
  rfl

lemma grouped_toRows (h : Settled columns records) :
    grouped (keyOf columns) records.toRows = records := by
  have hkeys : (grouped (keyOf columns) records.toRows).keys = records.keys := by
    rw [grouped, OrderedMap.keys_tabulate, h.map_address]
    exact eraseDups_of_nodup records.nodup
  refine OrderedMap.ext_get? hkeys fun k hk => ?_
  rw [hkeys] at hk
  obtain ⟨record, hrecord⟩ := OrderedMap.mem_keys_iff.1 hk
  rw [get?_grouped, h.rowsAt_toRows hrecord, if_neg (List.cons_ne_nil _ _), recordOf_toRow,
    hrecord]

/-- Where there is a key, every record has its own address under it. -/
lemma get?_key (h : Settled columns records) {key : String} (hkey : keyOf columns = some key)
    {e : String × Record} (he : e ∈ records.entries) : e.2.get? key = some e.1 := by
  have hmem : key ∈ e.2.keys := by
    rw [h.keys e he]
    exact List.mem_of_find?_eq_some hkey
  obtain ⟨text, htext⟩ := OrderedMap.mem_keys_iff.1 hmem
  have haddress := h.address e he
  rw [addressOf_toRow, hkey, Option.bind_some, htext, Option.getD_some] at haddress
  rw [htext, haddress]

/-- **Settled records are left as they are**: the first of them decides on the same key. -/
theorem ofRows_eq_self (h : Settled columns records) (hne : records.entries ≠ []) :
    ofRows records.toRows = some records := by
  obtain ⟨e, es, hes⟩ := List.exists_cons_of_ne_nil hne
  have hcolumns : (Record.toRow e.2).columns = columns := h.keys e (hes ▸ List.mem_cons_self)
  have hrows : records.toRows = Record.toRow e.2 :: es.map fun e => Record.toRow e.2 := by
    rw [toRows, hes, List.map_cons]
  have hgroups := h.grouped_toRows
  rw [hrows] at hgroups ⊢
  rw [ofRows_cons, hcolumns, hgroups]

end Records.Settled

/-! ### Rows that share their columns -/

/-- Rows with the same columns, none of which comes twice. -/
structure Uniform (columns : List String) (rows : List Row) : Prop where
  nodup : columns.Nodup
  columns : ∀ r ∈ rows, r.columns = columns

/-- A text is not added to itself. -/
lemma foldTexts_of_forall_eq {vs : List String} {v : String} (hne : vs ≠ [])
    (h : ∀ w ∈ vs, w = v) : foldTexts vs = v := by
  obtain ⟨w, ws, rfl⟩ := List.exists_cons_of_ne_nil hne
  obtain ⟨rfl, hws⟩ := List.forall_mem_cons.1 h
  rw [foldTexts]
  clear hne h
  induction ws with
  | nil => rfl
  | cons u ws ih =>
      obtain ⟨rfl, hws⟩ := List.forall_mem_cons.1 hws
      rw [List.foldl_cons, addText, if_pos (within_refl u), ih hws]

/-- Every record is that of some rows. -/
lemma exists_rowsAt_of_mem_grouped {key : Option String} {rows : List Row} {e : String × Record}
    (he : e ∈ (grouped key rows).entries) :
    ∃ k, rowsAt key rows k ≠ [] ∧ e = (k, recordOf (rowsAt key rows k)) := by
  obtain ⟨k, hk, rfl⟩ := List.mem_map.1 he
  obtain ⟨r, hr, hrk⟩ := List.mem_map.1 (List.mem_eraseDups.1 hk)
  exact ⟨k, List.ne_nil_of_mem (List.mem_filter.2 ⟨hr, by simpa using hrk⟩), rfl⟩

namespace Uniform

variable {columns : List String} {rows : List Row}

lemma subset (h : Uniform columns rows) {rs : List Row} (hrs : rs ⊆ rows) :
    Uniform columns rs :=
  ⟨h.nodup, fun r hr => h.columns r (hrs hr)⟩

/-- The record of such rows has their columns. -/
lemma keys_recordOf (h : Uniform columns rows) (hne : rows ≠ []) :
    (recordOf rows).keys = columns := by
  obtain ⟨r, rs, rfl⟩ := List.exists_cons_of_ne_nil hne
  obtain ⟨hr, hrs⟩ := List.forall_mem_cons.1 h.columns
  have hcopies : ∀ c ∈ (rs.flatMap Row.cells).map Prod.fst, c ∈ columns := by
    intro c hc
    rw [List.map_flatMap, List.mem_flatMap] at hc
    obtain ⟨s, hs, hc⟩ := hc
    rw [Row.map_fst_cells, hrs s hs] at hc
    exact hc
  have hfirst := eraseDups_copies hcopies []
  rw [List.append_nil, List.append_nil, eraseDups_of_nodup h.nodup] at hfirst
  rw [recordOf, OrderedMap.keys_tabulate, List.flatMap_cons, List.map_append, Row.map_fst_cells,
    hr, hfirst]

/-- Such a row has one cell for the key, which says where it belongs. -/
lemma formsOf_cells {r : Row} {key : String} (hr : r.columns.Nodup) (hkey : key ∈ r.columns) :
    formsOf key r.cells = [addressOf (some key) r] := by
  let cells : OrderedMap String Value := ⟨r.cells, r.map_fst_cells ▸ hr⟩
  have hmem : key ∈ cells.keys := by
    change key ∈ r.cells.map Prod.fst
    rwa [Row.map_fst_cells]
  obtain ⟨v, hv⟩ := OrderedMap.mem_keys_iff.1 hmem
  have hfilter : r.cells.filter (fun c => c.1 = key) = [(key, v)] := by
    have hentries := cells.filter_entries key
    rwa [hv] at hentries
  obtain ⟨c, hfind, rfl⟩ := Option.map_eq_some_iff.1 hv
  rw [formsOf, hfilter, addressOf, Option.bind_some]
  change [c.2.form] = [((r.cells.find? fun c => c.1 = key).map fun c => c.2.form).getD ""]
  change r.cells.find? (fun c => c.1 = key) = some c at hfind
  rw [hfind]
  rfl

/-- Of rows that belong together the record has their address under the key. -/
lemma get?_key_recordOf (h : Uniform columns rows) (hne : rows ≠ []) {key k : String}
    (hkey : key ∈ columns) (hrows : ∀ r ∈ rows, addressOf (some key) r = k) :
    (recordOf rows).get? key = some k := by
  have hmem : key ∈ (rows.flatMap Row.cells).map Prod.fst := by
    obtain ⟨r, rs, rfl⟩ := List.exists_cons_of_ne_nil hne
    rw [List.flatMap_cons, List.map_append, Row.map_fst_cells, h.columns r List.mem_cons_self]
    exact List.mem_append_left _ hkey
  have hforms : formsOf key (rows.flatMap Row.cells) = rows.map (addressOf (some key)) := by
    have hcells : ∀ r ∈ rows, formsOf key r.cells = [addressOf (some key) r] := fun r hr =>
      formsOf_cells (h.columns r hr ▸ h.nodup) (h.columns r hr ▸ hkey)
    rw [formsOf, List.filter_flatMap, List.map_flatMap, List.map_eq_flatMap]
    exact List.flatMap_congr hcells
  rw [recordOf, OrderedMap.get?_tabulate, if_pos hmem, hforms]
  refine congrArg some (foldTexts_of_forall_eq (by simpa using hne) ?_)
  simpa using hrows

/-- **Rows that share their columns fold into settled records.** -/
theorem settled_grouped (h : Uniform columns rows) :
    Records.Settled columns (grouped (keyOf columns) rows) := by
  have hrowsAt (k : String) : Uniform columns (rowsAt (keyOf columns) rows k) :=
    h.subset (List.filter_subset_self _)
  constructor
  · intro e he
    obtain ⟨k, hne, rfl⟩ := exists_rowsAt_of_mem_grouped he
    exact (hrowsAt k).keys_recordOf hne
  · intro e he
    obtain ⟨k, hne, rfl⟩ := exists_rowsAt_of_mem_grouped he
    have haddress : ∀ r ∈ rowsAt (keyOf columns) rows k, addressOf (keyOf columns) r = k :=
      fun r hr => by simpa using (List.mem_filter.1 hr).2
    rw [addressOf_toRow]
    cases hkey : keyOf columns with
    | none =>
        -- without a key every row belongs to the empty text
        obtain ⟨r, hr⟩ := List.exists_mem_of_ne_nil _ hne
        rw [← haddress r hr, hkey]
        rfl
    | some key =>
        have hmem : key ∈ columns := List.mem_of_find?_eq_some hkey
        rw [hkey] at hrowsAt haddress hne
        rw [Option.bind_some, (hrowsAt k).get?_key_recordOf hne hmem haddress]
        rfl

end Uniform

/-- **Folding twice is folding once.** Rows that share their columns, none of which comes
twice, are folded into records that have their own address under the key, if there is a key;
and these records, each read as a row of its texts, are folded into themselves. -/
theorem ofRows_toRows {columns : List String} {rows : List Row} (hcolumns : columns.Nodup)
    (hrows : ∀ r ∈ rows, r.columns = columns) (hne : rows ≠ []) :
    ∃ records, Records.ofRows rows = some records ∧
      (∀ key, keyColumn? columns = some key →
        ∀ e ∈ records.entries, e.2.get? key = some e.1) ∧
      Records.ofRows records.toRows = some records := by
  have huniform : Uniform columns rows := ⟨hcolumns, hrows⟩
  have hsettled := huniform.settled_grouped
  obtain ⟨r, rs, rfl⟩ := List.exists_cons_of_ne_nil hne
  have hfold := ofRows_cons r rs
  rw [hrows r List.mem_cons_self] at hfold
  refine ⟨_, hfold, fun key hkey e he => ?_, hsettled.ofRows_eq_self ?_⟩
  · exact hsettled.get?_key (keyColumn?_eq columns ▸ hkey) he
  · intro hnone
    have hkeys : (grouped (keyOf columns) (r :: rs)).keys = [] := congrArg (List.map _) hnone
    rw [grouped, OrderedMap.keys_tabulate, List.map_cons, List.eraseDups_cons] at hkeys
    cases hkeys

/-- Rows with a null key, with keys that share their string form, and with texts of which
one is contained in the other. -/
theorem ofRows_toRows_sharedForm :
    let columns := ["name", "userId"]
    let row (name key : Value) : Row := ⟨columns, [name, key], rfl⟩
    let rows := [row (.text "Ann") (.integer 7), row .null .null, row (.text "AN") (.text "7"),
      row (.text "Eve") (.text "7")]
    columns.Nodup ∧ (∀ r ∈ rows, r.columns = columns) ∧ rows ≠ [] ∧
      keyColumn? columns = some "userId" ∧
      ∃ records, Records.ofRows rows = some records ∧
        (∀ key, keyColumn? columns = some key →
          ∀ e ∈ records.entries, e.2.get? key = some e.1) ∧
        Records.ofRows records.toRows = some records ∧
        records.entries.map (fun e => (e.1, e.2.entries)) =
          [("7", [("name", "Ann,Eve"), ("userId", "7")]), ("", [("name", ""), ("userId", "")])] := by
  intro columns row rows
  have hcolumns : columns.Nodup := by decide
  have hrows : ∀ r ∈ rows, r.columns = columns := by simp [rows, row]
  obtain ⟨records, hrecords, hkey, hagain⟩ :=
    ofRows_toRows hcolumns hrows (List.cons_ne_nil _ _)
  have hentries : (Records.ofRows rows).map
      (fun records => records.entries.map fun e => (e.1, e.2.entries)) =
        some [("7", [("name", "Ann,Eve"), ("userId", "7")]),
          ("", [("name", ""), ("userId", "")])] := by
    decide +kernel
  rw [hrecords] at hentries
  exact ⟨hcolumns, hrows, List.cons_ne_nil _ _, by decide +kernel, records, hrecords, hkey, hagain,
    Option.some.inj hentries⟩

end SqlRequest
