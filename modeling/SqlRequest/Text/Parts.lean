/-!
Texts in parts: what stands between the separators of a text. Putting the parts together
again with the separator between them gives the text back.
-/

namespace SqlRequest.Text

/-- The parts of a text between separators; there is always at least one. -/
def parts (separator : Char) : List Char → List (List Char)
  | [] => [[]]
  | c :: cs =>
    if c = separator then [] :: parts separator cs
    else match parts separator cs with
      | [] => [[c]]
      | part :: others => (c :: part) :: others

theorem parts_ne_nil (separator : Char) (cs : List Char) : parts separator cs ≠ [] := by
  cases cs with
  | nil => simp [parts]
  | cons c cs =>
    rw [parts]
    split
    · simp
    · split <;> simp

theorem intercalate_parts (separator : Char) (cs : List Char) :
    [separator].intercalate (parts separator cs) = cs := by
  induction cs with
  | nil => rfl
  | cons c cs ih =>
    cases h : parts separator cs with
    | nil => exact absurd h (parts_ne_nil separator cs)
    | cons part others =>
      rw [h] at ih
      simp only [parts, h]
      split
      · rename_i hc
        rw [List.intercalate_cons_cons, ih, hc]
        rfl
      · cases others with
        | nil => simpa using ih
        | cons other others =>
          rw [List.intercalate_cons_cons] at ih ⊢
          rw [List.cons_append, List.cons_append, ih]

end SqlRequest.Text
