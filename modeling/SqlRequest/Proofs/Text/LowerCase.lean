import Mathlib.Tactic
import SqlRequest.Text.LowerCase

/-!
The lower-case form of a text, character by character.

* `formBetween`: the form of a character among those before and after it. Only a capital sigma has
  two: the final one, if the nearest character before it that counts has case and the nearest one
  after it has not, however far away they are.
* `lowerFrom_eq`: reading from left to right with one bit of memory gives these forms.
* `Parting`: characters that are no letters and that the case rules do not look through. A parting
  character ends and begins words (`Parting.lowerFrom_append`); a comma is one, a full stop is none.
* `lower_comma`: the lower-case form of two texts with a comma between them is that of each.
-/

namespace SqlRequest.Text

/-! ### Forms in their places -/

/-- Whether the first character that counts for the case rules has case. -/
def nearestCased (cs : List Char) : Bool := (cs.find? fun c => !caseIgnorable c).any cased

/-- The lower-case form of a character between others. -/
def formBetween (before : List Char) (c : Char) (after : List Char) : List Char :=
  if c = 'Σ' ∧ nearestCased before.reverse ∧ ¬nearestCased after then ['ς'] else lowerForm c

lemma letterFollows_eq (cs : List Char) : letterFollows cs = nearestCased cs := by
  induction cs with
  | nil => rfl
  | cons c cs ih =>
      rw [letterFollows, ih, nearestCased, nearestCased, List.find?_cons]
      cases caseIgnorable c <;> rfl

lemma letterBefore_eq (before : List Char) (c : Char) :
    letterBefore (nearestCased before.reverse) c = nearestCased (before ++ [c]).reverse := by
  rw [letterBefore, List.reverse_append, nearestCased, nearestCased, List.reverse_singleton,
    List.singleton_append, List.find?_cons]
  cases caseIgnorable c <;> rfl

/-- One bit is all that has to be known of the characters before. -/
lemma lowerFrom_eq (before cs : List Char) :
    lowerFrom (nearestCased before.reverse) cs =
      (cs.mapIdx fun i c => formBetween (before ++ cs.take i) c (cs.drop (i + 1))).flatten := by
  induction cs generalizing before with
  | nil => rfl
  | cons c cs ih =>
      rw [lowerFrom, letterBefore_eq, ih, letterFollows_eq, List.mapIdx_cons, List.flatten_cons]
      simp only [formBetween, List.take_zero, List.append_nil, List.drop_succ_cons, List.drop_zero,
        List.take_succ_cons, List.append_assoc, List.singleton_append]

/-- Every character of a text stands in its lower-case form in its place. -/
lemma toList_lower (s : String) :
    (lower s).toList = (s.toList.mapIdx fun i c =>
      formBetween (s.toList.take i) c (s.toList.drop (i + 1))).flatten := by
  rw [lower, String.toList_ofList]
  exact lowerFrom_eq [] s.toList

/-! ### Characters that part words -/

/-- A character that is no letter, through which the case rules do not look, and which has no other
form. -/
structure Parting (c : Char) : Prop where
  counts : caseIgnorable c = false
  caseless : cased c = false
  unchanged : lowerForm c = [c]

lemma parting_comma : Parting ',' where
  counts := by decide +kernel
  caseless := by decide +kernel
  unchanged := by decide +kernel

variable {c : Char}

lemma Parting.ne_sigma (h : Parting c) : c ≠ 'Σ' := by
  have hsigma : cased 'Σ' = true := by decide +kernel
  rintro rfl
  simp [h.caseless] at hsigma

/-- Whether a letter follows does not depend on what comes after a parting character. -/
lemma Parting.letterFollows_append (h : Parting c) (cs ds : List Char) :
    letterFollows (cs ++ c :: ds) = letterFollows cs := by
  induction cs with
  | nil => simp [letterFollows, h.counts, h.caseless]
  | cons d cs ih => simp [letterFollows, ih]

/-- The lower-case form of a text up to a parting character is that of the text alone, and after it
the case rules start afresh. The induction carries what is known of the last letter before. -/
lemma Parting.lowerFrom_append (h : Parting c) (before : Bool) (cs ds : List Char) :
    lowerFrom before (cs ++ c :: ds) = lowerFrom before cs ++ c :: lowerFrom false ds := by
  induction cs generalizing before with
  | nil => simp [lowerFrom, letterBefore, h.counts, h.caseless, h.unchanged, h.ne_sigma]
  | cons d cs ih =>
      rw [List.cons_append, lowerFrom, lowerFrom, h.letterFollows_append, ih, List.append_assoc]

/-- **A comma parts two texts for the case rules.** -/
theorem lower_comma (s t : String) : lower (s ++ "," ++ t) = lower s ++ "," ++ lower t := by
  apply String.toList_injective
  simp [lower, parting_comma.lowerFrom_append]

/-- A full stop does not: the word goes on after it. -/
example : lower ("ΑΣ" ++ "." ++ "Α") = "ασ.α" ∧ lower "ΑΣ" ++ "." ++ lower "Α" = "ας.α" := by
  decide +kernel

end SqlRequest.Text
