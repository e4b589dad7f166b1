import Mathlib.Data.List.TakeWhile
import Mathlib.Tactic
import SqlRequest.Text.Blank

/-!
Texts without the blanks at their ends.

* `Text.Trimmed`: blanks in front, blanks behind, and none at the ends of what is between them;
* `Text.trim_eq_iff`: that is what trimming leaves, and nothing else.
-/

namespace SqlRequest.Text

/-- A list of characters without a blank at its start and at its end. -/
structure Unpadded (cs : List Char) : Prop where
  head : ∀ c ∈ cs.head?, isBlank c = false
  last : ∀ c ∈ cs.getLast?, isBlank c = false

/-- What is left of a text without the blanks at both of its ends. -/
structure Trimmed (s t : String) : Prop where
  surrounded : ∃ before after, s = before ++ t ++ after ∧ blank before = true ∧ blank after = true
  unpadded : Unpadded t.toList

variable {cs : List Char} {s t : String}

lemma dropBlanks_append {before : List Char} (h : ∀ c ∈ before, isBlank c = true)
    (cs : List Char) : dropBlanks (before ++ cs) = dropBlanks cs :=
  List.dropWhile_append_of_pos h

lemma dropBlanks_of_head (h : ∀ c ∈ cs.head?, isBlank c = false) : dropBlanks cs = cs := by
  cases cs with
  | nil => rfl
  | cons c cs => exact List.dropWhile_cons_of_neg (by simp [h c rfl])

lemma exists_dropBlanks (cs : List Char) :
    ∃ before, cs = before ++ dropBlanks cs ∧ ∀ c ∈ before, isBlank c = true :=
  ⟨cs.takeWhile isBlank, List.takeWhile_append_dropWhile.symm,
    List.all_eq_true.mp List.all_takeWhile⟩

lemma isBlank_head_dropBlanks (cs : List Char) :
    ∀ c ∈ (dropBlanks cs).head?, isBlank c = false := by
  intro c hc
  have h := List.head?_dropWhile_not isBlank cs
  rw [dropBlanks] at hc
  simpa [Option.mem_def.mp hc] using h

/-- Blanks around a list that has none at its ends are all that trimming takes away. -/
lemma trimChars_surrounded {before after : List Char} (h : Unpadded cs)
    (hbefore : ∀ c ∈ before, isBlank c = true) (hafter : ∀ c ∈ after, isBlank c = true) :
    trimChars (before ++ cs ++ after) = cs := by
  have hreverse : ∀ c ∈ after.reverse, isBlank c = true := by simpa using hafter
  rw [trimChars, List.append_assoc, dropBlanks_append hbefore]
  cases cs with
  | nil =>
      have hnothing : dropBlanks after = [] := List.dropWhile_eq_nil_iff.mpr hafter
      rw [List.nil_append, hnothing]
      rfl
  | cons c cs =>
      have hhead : dropBlanks (c :: cs ++ after) = c :: cs ++ after := dropBlanks_of_head h.head
      rw [hhead, List.reverse_append, dropBlanks_append hreverse, dropBlanks_of_head,
        List.reverse_reverse]
      simpa only [List.head?_reverse] using h.last

lemma exists_trimChars (cs : List Char) :
    ∃ before after, cs = before ++ trimChars cs ++ after ∧
      (∀ c ∈ before, isBlank c = true) ∧ (∀ c ∈ after, isBlank c = true) ∧
      Unpadded (trimChars cs) := by
  obtain ⟨before, hbefore, hblank⟩ := exists_dropBlanks cs
  obtain ⟨after, hafter, hblank'⟩ := exists_dropBlanks (dropBlanks cs).reverse
  have hsplit : dropBlanks cs = trimChars cs ++ after.reverse := by
    rw [trimChars, ← List.reverse_append, ← hafter, List.reverse_reverse]
  refine ⟨before, after.reverse, ?_, hblank, by simpa using hblank', fun c hc => ?_, fun c hc => ?_⟩
  · rw [List.append_assoc, ← hsplit, ← hbefore]
  · -- what trimming leaves begins as what is left at the start
    refine isBlank_head_dropBlanks cs c ?_
    rw [hsplit, List.head?_append, Option.mem_def.mp hc]
    rfl
  · rw [trimChars, List.getLast?_reverse] at hc
    exact isBlank_head_dropBlanks _ c hc

lemma blank_ofList : blank (.ofList cs) = true ↔ ∀ c ∈ cs, isBlank c = true := by
  rw [blank, String.toList_ofList, List.all_eq_true]

/-- Trimming leaves the one text that has no blanks at its ends and from which blanks alone were
taken. -/
lemma trim_eq_iff : trim s = t ↔ Trimmed s t := by
  constructor
  · rintro rfl
    obtain ⟨before, after, hcs, hbefore, hafter, hunpadded⟩ := exists_trimChars s.toList
    refine ⟨⟨.ofList before, .ofList after, ?_, blank_ofList.mpr hbefore, blank_ofList.mpr hafter⟩,
      by rwa [trim, String.toList_ofList]⟩
    rw [trim, ← String.ofList_append, ← String.ofList_append, ← hcs, String.ofList_toList]
  · rintro ⟨⟨before, after, rfl, hbefore, hafter⟩, hunpadded⟩
    rw [trim, String.toList_append, String.toList_append, trimChars_surrounded hunpadded
      (List.all_eq_true.mp hbefore) (List.all_eq_true.mp hafter), String.ofList_toList]

/-- A text without blanks at its ends is left as it is. -/
lemma trim_of_unpadded (h : Unpadded s.toList) : trim s = s :=
  trim_eq_iff.mpr ⟨⟨"", "", by simp, rfl, rfl⟩, h⟩

/-- Nothing is left of blanks. -/
lemma trim_of_blank (h : blank s = true) : trim s = "" :=
  trim_eq_iff.mpr ⟨⟨s, "", by simp, h, rfl⟩, nofun, nofun⟩

end SqlRequest.Text
