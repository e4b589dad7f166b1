import SqlRequest.Proofs.Decode.Whole
import SqlRequest.Proofs.Decode.Written
import SqlRequest.Proofs.Row

/-!
Values and rows that are written as JSON texts, and what is read back from these.

* `Quoted.writeChar_eq_iff`: which characters stand for themselves in a text.
* `Value.readAs_toJson`, `Value.ofText_compact`: a value with nothing rounded in it is read as it
  is, by itself and as a part of a text.
* `Json.compact_record`: an object is its members between braces, in order, with commas between
  them.
* `Row.ReadBack`: what there is to read in the text of a row. `read_back_written`: all of it.
-/

namespace SqlRequest

/-! ### Characters -/

namespace Quoted

/-- The characters that have an escape: quotes, backslashes and the controls below U+0020. -/
def Escaped (c : Char) : Prop := c = '"' ∨ c = '\\' ∨ c.toNat < 0x20

/-- All other characters stand for themselves, and no other ones do. -/
lemma writeChar_eq_iff {c : Char} : writeChar c = [c] ↔ ¬ Escaped c := by
  constructor
  · rintro h (rfl | rfl | hcontrol)
    · cases h
    · cases h
    · obtain ⟨n, hn, rfl⟩ : ∃ n < 32, c = Char.ofNat n :=
        ⟨c.toNat, hcontrol, (Char.ofNat_toNat c).symm⟩
      interval_cases n <;> cases h
  · intro h
    obtain ⟨hquote, hbackslash, hcontrol⟩ : c ≠ '"' ∧ c ≠ '\\' ∧ ¬ c.toNat < 0x20 := by
      simpa [Escaped] using h
    have hne {d : Char} (hd : d.toNat < 0x20) : c ≠ d := by
      rintro rfl
      exact hcontrol hd
    rw [writeChar, if_neg hquote, if_neg hbackslash, if_neg (hne (by decide)),
      if_neg (hne (by decide)), if_neg (hne (by decide)), if_neg (hne (by decide)),
      if_neg (hne (by decide)), if_neg hcontrol]

end Quoted

/-! ### Values -/

namespace Value

variable {v : Value}

lemma readAs_toJson (h : v.Exact) : Json.ReadAs v.toJson.compactChars v.toJson := by
  cases v with
  | null => exact Json.readAs_null
  | text s => exact Json.readAs_text s
  | real x => exact absurd rfl (h x)
  | integer n =>
      have hlow : Integer.least ≤ n.toInt := (Integer.fits_iff.mp (Integer.fits_toInt n)).1
      have hhigh : n.toInt ≤ Integer.greatestWord :=
        (Integer.fits_iff.mp (Integer.fits_toInt n)).2.trans (by decide)
      have hwhole := Json.readAs_whole n.toInt
      rwa [Scalar.ofInt_eq hlow hhigh] at hwhole

lemma decode_toJson (h : v.Exact) : Decode.value v.toJson = .ok v := ofJson_of_written ⟨h, rfl⟩

/-- The text of a value is decoded to the value. -/
lemma ofText_compact (h : v.Exact) : Decode.ofText Decode.value v.toJson.compact = .ok v := by
  rw [(readAs_toJson h).decode, decode_toJson h]
  rfl

end Value

/-! ### Rows -/

namespace Json

/-- A member of an object, without blanks. -/
def memberText (m : String × Json) : String := (text m.1).compact ++ ":" ++ m.2.compact

lemma toList_compact (j : Json) : j.compact.toList = j.compactChars := String.toList_ofList

lemma compactMembers_cons (first : Bool) (m : String × Json) (ms : List (String × Json)) :
    compactMembers first (named (m :: ms)) =
      (if first then [] else [',']) ++ (memberText m).toList ++
        compactMembers false (named ms) := by
  simp [named, compactMembers, memberText, toList_compact, text, compactChars, Key.chars,
    Scalar.chars]

lemma toList_intercalate_members (m : String × Json) (ms : List (String × Json)) :
    (",".intercalate ((m :: ms).map memberText)).toList =
      (memberText m).toList ++ compactMembers false (named ms) := by
  induction ms generalizing m with
  | nil => simp [named, compactMembers]
  | cons n ms ih =>
      rw [List.map_cons, List.map_cons, String.intercalate_cons_cons, ← List.map_cons,
        String.toList_append, ih, compactMembers_cons]
      simp

/-- An object is its members between braces, with commas between them. -/
lemma compact_record (ms : List (String × Json)) :
    (record ms).compact = "\x7b" ++ ",".intercalate (ms.map memberText) ++ "\x7d" := by
  have hmembers :
      compactMembers true (named ms) = (",".intercalate (ms.map memberText)).toList := by
    cases ms with
    | nil => rfl
    | cons m ms =>
        rw [toList_intercalate_members, compactMembers_cons]
        simp
  rw [← String.toList_inj, toList_compact, record, compactChars]
  change '\x7b' :: compactMembers true (named ms) ++ ['\x7d'] = _
  simp [hmembers]

end Json

namespace Row

/-- What there is to read in the text of a row: one object and nothing behind it, with a member for
each column, in order, from which the value of the column is read back. -/
structure ReadBack (r : Row) (s : String) (members : List (String × Json)) : Prop where
  text : s = "\x7b" ++ ",".intercalate (members.map Json.memberText) ++ "\x7d"
  document : Document.ofText s = ⟨.record members, false⟩
  columns : members.map Prod.fst = r.columns
  /-- As a part of the object, and as a text by itself. -/
  values : List.Forall₂ (fun m v => Decode.value m.2 = .ok v ∧
    Decode.ofText Decode.value m.2.compact = .ok v) members r.values

/-- The members of the object of a row. -/
def members (r : Row) : List (String × Json) := r.cells.map fun c => (c.1, c.2.toJson)

variable {r : Row}

lemma columns_members (r : Row) : r.members.map Prod.fst = r.columns := by
  rw [members, List.map_map]
  exact map_fst_cells r

/-- Every cell of a row with nothing rounded in it is such a cell. -/
lemma exact_cells (h : ∀ v ∈ r.values, v.Exact) : ∀ c ∈ r.cells, c.2.Exact := by
  intro c hc
  refine h c.2 ?_
  rw [← map_snd_cells]
  exact List.mem_map_of_mem hc

lemma readAs_toJson (h : ∀ v ∈ r.values, v.Exact) :
    Json.ReadAs r.toJson.compactChars r.toJson := by
  refine Json.readAs_record (List.forall₂_same.mpr fun m hm => ⟨rfl, ?_⟩)
  obtain ⟨c, hc, rfl⟩ := List.mem_map.mp hm
  exact Value.readAs_toJson (exact_cells h c hc)

lemma readBack_toJson (h : ∀ v ∈ r.values, v.Exact) : r.ReadBack r.toJson.compact r.members where
  text := Json.compact_record r.members
  document := (readAs_toJson h).ofText
  columns := columns_members r
  values := by
    have hcells := exact_cells h
    rw [← map_snd_cells, members, List.forall₂_map_left_iff, List.forall₂_map_right_iff]
    exact List.forall₂_same.mpr fun c hc =>
      ⟨Value.decode_toJson (hcells c hc), Value.ofText_compact (hcells c hc)⟩

end Row

/-- **What is written is read back.** The text of a value that is null, an integer or a text is
decoded to that value. The text of a row of such values is one object whose members are the columns
of the row, in order and with those that are there twice, and each member is decoded to the value of
its column. In a text, the quote, the backslash and the controls below U+0020 are escaped, and
every other character stands for itself. -/
theorem read_back_written :
    (∀ v : Value, v.Exact → Decode.ofText Decode.value v.toJson.compact = .ok v) ∧
      (∀ r : Row, (∀ v ∈ r.values, v.Exact) →
        ∃ members, r.ReadBack r.toJson.compact members) ∧
      ∀ c, Quoted.writeChar c = [c] ↔ ¬ Quoted.Escaped c :=
  ⟨fun _ => Value.ofText_compact, fun r h => ⟨r.members, Row.readBack_toJson h⟩,
    fun _ => Quoted.writeChar_eq_iff⟩

/-- Columns of one name, with quotes and controls in names and values. -/
def hostileRow : Row :=
  ⟨["a\"b", "a\"b", ""], [.text "\\\n\x01\"", .integer Int64.minValue, .null], rfl⟩

theorem read_back_written_hostile :
    (∀ v ∈ hostileRow.values, v.Exact) ∧
      hostileRow.toJson.compact =
        "\x7b\"a\\\"b\":\"\\\\\\n\\u0001\\\"\"," ++
          "\"a\\\"b\":-9223372036854775808,\"\":null\x7d" ∧
      (∃ members, hostileRow.ReadBack hostileRow.toJson.compact members) ∧
      Decode.ofText Decode.value (Value.integer Int64.minValue).toJson.compact =
        .ok (.integer Int64.minValue) := by
  obtain ⟨hvalue, hrow, -⟩ := read_back_written
  have hexact : ∀ v ∈ hostileRow.values, v.Exact := by
    simp only [hostileRow, List.forall_mem_cons]
    exact ⟨Value.exact_text _, Value.exact_integer _, Value.exact_null, List.forall_mem_nil _⟩
  exact ⟨hexact, by decide +kernel, hrow hostileRow hexact, hvalue _ (Value.exact_integer _)⟩

end SqlRequest
