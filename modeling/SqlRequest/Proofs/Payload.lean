import SqlRequest.Proofs.Decode.FrontEnds
import SqlRequest.Proofs.Quotation.Distinct

/-!
Payloads that are written value by value. The last value for a column wins, and the first
write to it decides on its place, whether the writes are calls of a builder or members of an
object.

* `Value.assigned_iff`: an update leaves out the empty text and nothing else, since no number
  has an empty form.
* `Update.setAll`, `Insert.setAll`: requests that are built by writes. `Update.listing`,
  `Insert.listing`: how the same requests list the writes in JSON.
* `LastWriteWins`: what becomes of some writes. `lastWriteWins`: on both front ends, in the
  statement of an insert and in that of an update.
-/

namespace SqlRequest

open Layout OrderedMap

/-! ### Values that an update writes -/

namespace Value

lemma positionalChars_ne_nil (whole : String) (d : Decimal) : d.positionalChars whole ≠ [] := by
  rw [Decimal.positionalChars]
  split
  · simp [Decimal.digitChars, Nat.toDigits_ne_nil]
  · -- a point stands among the digits, or a zero before it
    simp only []
    split <;> simp

lemma realForm_ne_empty (x : Float) : realForm x ≠ "" := by
  rw [realForm]
  split
  · decide
  · split
    · split <;> decide
    · rw [Decimal.write, Decimal.chars]
      simp [realLayout, positionalChars_ne_nil]

lemma toString_ne_empty (n : ℤ) : toString n ≠ "" := by
  cases n with
  | ofNat m => exact Nat.repr_ne_empty
  | negSucc m =>
      change "-" ++ m.succ.repr ≠ ""
      simp

lemma integer_form_ne_empty (n : Int64) : (integer n).form ≠ "" := toString_ne_empty n.toInt

/-- Nothing but the empty text is left out of an update. -/
lemma assigned_iff {v : Value} : v.assigned = true ↔ v ≠ .text "" := by
  cases v with
  | null => simp [assigned, isNull]
  | integer n => simp [assigned, isNull, integer_form_ne_empty]
  | real x => simp [assigned, isNull, form, realForm_ne_empty]
  | text s => simp [assigned, isNull]

end Value

/-- Names stay distinct in backticks. -/
lemma Ident.backticked_injective : Function.Injective Ident.backticked := by
  intro i j h
  have hclear : Clear "" := by simp [Clear]
  have henclose : enclose '\x60' i.text ++ "" = enclose '\x60' j.text ++ "" := by
    rw [String.append_empty, String.append_empty]
    exact h
  cases i
  cases j
  exact congrArg Ident.mk (enclose_append_inj (by decide) hclear hclear henclose).1

/-! ### Writes one after the other -/

def Update.setAll (r : Update) (ws : List (Ident × Value)) : Update :=
  ws.foldl (fun r w => r.set w.1 w.2) r

def Insert.setAll (r : Insert) (ws : List (Ident × Value)) : Insert :=
  ws.foldl (fun r w => r.set w.1 w.2) r

lemma Update.setAll_eq (r : Update) (ws : List (Ident × Value)) :
    r.setAll ws = { r with values := ws.foldl (fun m w => m.insert w.1 w.2) r.values } := by
  induction ws generalizing r with
  | nil => rfl
  | cons w ws ih => exact ih (r.set w.1 w.2)

lemma Insert.setAll_eq (r : Insert) (ws : List (Ident × Value)) :
    r.setAll ws = { r with values := ws.foldl (fun m w => m.insert w.1 w.2) r.values } := by
  induction ws generalizing r with
  | nil => rfl
  | cons w ws ih => exact ih (r.set w.1 w.2)

/-- How an update is written whose values are listed write by write. -/
def Update.listing (r : Update) (ws : List (Ident × Value)) : List Slot := [
  .required "table" r.table.Written,
  .required "values" (Payload.Lists ws),
  .defaulted "conditions" r.conditions.Written (r.conditions = (Update.of r.table).conditions),
  .defaulted "debug" (· = .bool r.debug) (r.debug = (Update.of r.table).debug)]

/-- How an insert is written whose values are listed write by write. -/
def Insert.listing (r : Insert) (ws : List (Ident × Value)) : List Slot := [
  .required "table" r.table.Written,
  .required "values" (Payload.Lists ws),
  .defaulted "debug" (· = .bool r.debug) (r.debug = (Insert.of r.table).debug)]

section Start

variable (table : Ident) (conditions : Conditions) (debug : Bool)

/-- An update that sets nothing yet. -/
abbrev Update.start : Update := { table, conditions, debug }

/-- An insert of a row without values. -/
abbrev Insert.start : Insert := { table, debug }

variable {table conditions debug} {ws : List (Ident × Value)} {j : Json}

lemma Update.takes_listing :
    layout.Takes ((start table conditions debug).listing ws)
      ((start table conditions debug).setAll ws) := by
  rw [setAll_eq]
  exact ((takes_field rfl (fun _ => Ident.ofJson_of_written) False.elim).map Update.mk).seq
    (takes_field rfl (fun _ => Payload.ofJson_of_lists) False.elim) |>.seq
    (takes_field rfl (fun _ => Conditions.ofJson_of_written) fun h => h ▸ rfl) |>.seq
    (takes_field rfl (fun _ h => h ▸ rfl) fun h => h ▸ rfl)

lemma Insert.takes_listing :
    layout.Takes ((start table debug).listing ws) ((start table debug).setAll ws) := by
  rw [setAll_eq]
  exact ((takes_field rfl (fun _ => Ident.ofJson_of_written) False.elim).map Insert.mk).seq
    (takes_field rfl (fun _ => Payload.ofJson_of_lists) False.elim) |>.seq
    (takes_field rfl (fun _ h => h ▸ rfl) fun h => h ▸ rfl)

lemma Update.ofJson_of_listing (h : j.Writes ((start table conditions debug).listing ws)) :
    Update.ofJson j = .ok ((start table conditions debug).setAll ws) :=
  Decode.struct_of_writes faithful_layout nodup_names rfl takes_listing h

lemma Insert.ofJson_of_listing (h : j.Writes ((start table debug).listing ws)) :
    Insert.ofJson j = .ok ((start table debug).setAll ws) :=
  Decode.struct_of_writes faithful_layout nodup_names rfl takes_listing h

lemma Update.exists_listing (hws : ∀ w ∈ ws, w.2.Exact) (hcs : ∀ v ∈ conditions.values, v.Exact) :
    ∃ j, Json.Writes ((start table conditions debug).listing ws) j := by
  refine Json.exists_writes Update.nodup_names ?_
  simp only [listing, List.forall_mem_cons]
  exact ⟨⟨_, rfl⟩, Payload.exists_lists hws, Conditions.exists_written hcs, ⟨_, rfl⟩,
    List.forall_mem_nil _⟩

lemma Insert.exists_listing (hws : ∀ w ∈ ws, w.2.Exact) :
    ∃ j, Json.Writes ((start table debug).listing ws) j := by
  refine Json.exists_writes Insert.nodup_names ?_
  simp only [listing, List.forall_mem_cons]
  exact ⟨⟨_, rfl⟩, Payload.exists_lists hws, ⟨_, rfl⟩, List.forall_mem_nil _⟩

end Start

/-! ### What is left in the statements -/

/-- Entries as the assignments of an update: the empty text is left out, and nothing else. -/
def assignmentTexts (q : Quoter) (es : List (Ident × Value)) : List String :=
  (es.filter fun e => e.2 ≠ .text "").map fun e =>
    e.1.backticked ++ " = " ++ if e.2 = .null then "NULL" else q.quote e.2.form

variable {q : Quoter} {ws : List (Ident × Value)}

lemma assignmentTexts_append (es fs : List (Ident × Value)) :
    assignmentTexts q (es ++ fs) = assignmentTexts q es ++ assignmentTexts q fs := by
  rw [assignmentTexts, List.filter_append, List.map_append]
  rfl

lemma Update.assignments_eq (r : Update) :
    r.assignments q = assignmentTexts q r.values.entries := by
  have hassigned : (fun e : Ident × Value => e.2.assigned) =
      fun e => decide (e.2 ≠ .text "") := by
    funext e
    rw [Bool.eq_iff_iff, decide_eq_true_iff]
    exact Value.assigned_iff
  rw [assignments, assignmentTexts, hassigned]
  refine List.map_congr_left fun e _ => ?_
  rw [assignment]
  cases e.2 <;> rfl

lemma Update.assignments_setAll (table : Ident) (conditions : Conditions) (debug : Bool) :
    ((start table conditions debug).setAll ws).assignments q =
      assignmentTexts q (lastWrites ws) := by
  rw [assignments_eq, setAll_eq, ← entries_ofList]
  rfl

lemma nodup_backticked_lastWrites (ws : List (Ident × Value)) :
    ((lastWrites ws).map fun e => e.1.backticked).Nodup := by
  have hkeys : ((lastWrites ws).map Prod.fst).Nodup := by
    rw [map_fst_lastWrites]
    exact nodup_eraseDups _
  have hnames := hkeys.map Ident.backticked_injective
  rwa [List.map_map] at hnames

/-- What becomes of writes to columns: what is decoded, what is left of them, and how that
stands in the two statements. -/
structure LastWriteWins (table : Ident) (conditions : Conditions) (debug : Bool)
    (ws : List (Ident × Value)) : Prop where
  /-- A JSON object that lists the writes is decoded to what the methods make. -/
  update_ofJson : ∀ j, j.Writes ((Update.start table conditions debug).listing ws) →
    Update.ofJson j = .ok ((Update.start table conditions debug).setAll ws)
  insert_ofJson : ∀ j, j.Writes ((Insert.start table debug).listing ws) →
    Insert.ofJson j = .ok ((Insert.start table debug).setAll ws)
  /-- Writes of nulls, integers and texts can be listed. -/
  listed : (∀ w ∈ ws, w.2.Exact) → (∀ v ∈ conditions.values, v.Exact) →
    (∃ j, Json.Writes ((Update.start table conditions debug).listing ws) j) ∧
      ∃ j, Json.Writes ((Insert.start table debug).listing ws) j
  /-- Each column stands where it was written first. -/
  columns : (lastWrites ws).map Prod.fst = (ws.map Prod.fst).eraseDups
  /-- Each column has the value of the write after which there is no other. -/
  values : ∀ c v, (c, v) ∈ lastWrites ws ↔
    ∃ before after, ws = before ++ (c, v) :: after ∧ ∀ w ∈ after, w.1 ≠ c
  insert_render : ∀ q : Quoter, ((Insert.start table debug).setAll ws).render q =
    "INSERT INTO " ++ table.text ++ " (" ++
      ", ".intercalate ((lastWrites ws).map fun e => e.1.backticked) ++ ") VALUES (" ++
      ", ".intercalate ((lastWrites ws).map fun e => q.literal e.2) ++ ");"
  update_render : ∀ q : Quoter, ((Update.start table conditions debug).setAll ws).render q =
    (conditions.clause q table).map fun wherePart =>
      "UPDATE " ++ table.text ++ " SET " ++
        ", ".intercalate (assignmentTexts q (lastWrites ws)) ++ wherePart ++ ";"
  insert_names : ((lastWrites ws).map fun e => e.1.backticked).Nodup
  update_names :
    (((lastWrites ws).filter fun e => e.2 ≠ .text "").map fun e => e.1.backticked).Nodup
  /-- A later empty text takes away the assignment of a column, and no other. -/
  cancels : ∀ (q : Quoter) c u before after, lastWrites ws = before ++ (c, u) :: after →
    ((Update.start table conditions debug).setAll (ws ++ [(c, .text "")])).assignments q =
      assignmentTexts q before ++ assignmentTexts q after
  /-- A later value that is not empty is assigned where the column was written first, also if
  the column had been left out. -/
  revives : ∀ (q : Quoter) c u before after v, lastWrites ws = before ++ (c, u) :: after →
    v ≠ .text "" →
      ((Update.start table conditions debug).setAll (ws ++ [(c, v)])).assignments q =
        assignmentTexts q before ++ assignment q c v :: assignmentTexts q after

/-- **The last write wins, in the order of the first writes**, on both front ends: setting
values one after the other and listing them in one JSON object make the same requests, and
their statements show the last value for each column, in the place of the first. -/
theorem Payload.lastWriteWins (table : Ident) (conditions : Conditions) (debug : Bool)
    (ws : List (Ident × Value)) : LastWriteWins table conditions debug ws where
  update_ofJson _ := Update.ofJson_of_listing
  insert_ofJson _ := Insert.ofJson_of_listing
  listed hws hcs := ⟨Update.exists_listing hws hcs, Insert.exists_listing hws⟩
  columns := map_fst_lastWrites ws
  values _ _ := mem_lastWrites_iff
  insert_render q := by
    rw [Insert.setAll_eq, ← entries_ofList]
    rfl
  update_render q := by
    rw [Update.render, Update.assignments_setAll, Update.setAll_eq]
    cases conditions.clause q table <;> rfl
  insert_names := nodup_backticked_lastWrites ws
  update_names := (nodup_backticked_lastWrites ws).sublist (List.filter_sublist.map _)
  cancels q c u before after h := by
    rw [Update.assignments_setAll, lastWrites_concat h, assignmentTexts_append]
    rfl
  revives q c u before after v h hv := by
    have hassigned : assignmentTexts q [(c, v)] = [assignment q c v] := by
      rw [assignmentTexts, List.filter_cons_of_pos (by simpa using hv), assignment]
      cases v <;> rfl
    rw [Update.assignments_setAll, lastWrites_concat h, assignmentTexts_append,
      ← List.singleton_append, assignmentTexts_append, hassigned]
    rfl

/-- A name that is written twice, the second time as the empty text. -/
example :
    (Update.ofJson (.record [("table", .text "users"), ("values", .record
      [("name", .text "Ann"), ("age", .whole 7), ("name", .text "")])])).map
        (Update.assignments .standard) = .ok ["\x60age\x60 = '7'"] := by
  decide +kernel

end SqlRequest
