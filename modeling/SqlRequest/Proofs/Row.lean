import SqlRequest.Proofs.OrderedMap
import SqlRequest.Row

/-!
Rows, looked into by the names of their columns.

* `Row.of_eq_ok_iff`: columns and values make a row if there are as many of both.
* `Row.get?_eq_bind`: to look a name up is to find its position among the columns and to take the
  value at that position. `Row.lt_of_idxOf?`: there always is one.
* `Row.Leftmost`: the first column of a name, with its value. `Row.get?_eq_some_iff`,
  `Row.get?_eq_none_iff`: what is found, and when nothing is.
-/

namespace SqlRequest.Row

variable {r : Row} {name : String} {i : ℕ} {v : Value} {columns : List String}
  {values : List Value}

lemma of_eq_ok_iff : of columns values = .ok r ↔ r.columns = columns ∧ r.values = values := by
  rw [of]
  constructor
  · intro h
    split at h
    · cases h
      exact ⟨rfl, rfl⟩
    · cases h
  · rintro ⟨rfl, rfl⟩
    rw [dif_pos r.lengths]

lemma map_fst_cells (r : Row) : r.cells.map Prod.fst = r.columns := List.map_fst_zip r.lengths.le

lemma map_snd_cells (r : Row) : r.cells.map Prod.snd = r.values := List.map_snd_zip r.lengths.ge

lemma get?_eq (r : Row) (column : String) :
    r.get? column = (r.cells.find? fun c => c.1 = column).map Prod.snd :=
  OrderedMap.lookup_eq_find? r.cells column

/-- The first column of a name stands at a position, with a value. -/
structure Leftmost (r : Row) (name : String) (i : ℕ) (v : Value) : Prop where
  column : r.columns[i]? = some name
  value : r.values[i]? = some v
  first : ∀ j < i, r.columns[j]? ≠ some name

lemma get?_eq_bind (r : Row) (name : String) :
    r.get? name = (r.columns.idxOf? name).bind fun i => r.values[i]? :=
  OrderedMap.lookup_zip r.columns r.values name

/-- A position among the columns is one among the values. -/
lemma lt_of_idxOf? (h : r.columns.idxOf? name = some i) : i < r.values.length := by
  rw [← r.lengths]
  exact (List.idxOf?_eq_some_iff.mp h).1

lemma idxOf?_columns_eq_some_iff : r.columns.idxOf? name = some i ↔
    r.columns[i]? = some name ∧ ∀ j < i, r.columns[j]? ≠ some name := by
  rw [List.idxOf?_eq_some_iff]
  constructor
  · rintro ⟨hi, hname, hfirst⟩
    refine ⟨List.getElem?_eq_some_iff.mpr ⟨hi, hname⟩, fun j hj hsome => ?_⟩
    exact hfirst j hj (List.getElem?_eq_some_iff.mp hsome).2
  · rintro ⟨hsome, hfirst⟩
    obtain ⟨hi, hname⟩ := List.getElem?_eq_some_iff.mp hsome
    exact ⟨hi, hname, fun j hj heq =>
      hfirst j hj (List.getElem?_eq_some_iff.mpr ⟨hj.trans hi, heq⟩)⟩

lemma get?_eq_some_iff : r.get? name = some v ↔ ∃ i, r.Leftmost name i v := by
  rw [get?_eq_bind, Option.bind_eq_some_iff]
  simp only [idxOf?_columns_eq_some_iff]
  exact exists_congr fun i =>
    ⟨fun ⟨⟨hcolumn, hfirst⟩, hv⟩ => ⟨hcolumn, hv, hfirst⟩, fun h => ⟨⟨h.column, h.first⟩, h.value⟩⟩

lemma get?_eq_none_iff : r.get? name = none ↔ name ∉ r.columns := by
  rw [← List.idxOf?_eq_none_iff, get?_eq_bind]
  cases h : r.columns.idxOf? name with
  | none => simp
  | some i => simp [lt_of_idxOf? h]

end SqlRequest.Row
