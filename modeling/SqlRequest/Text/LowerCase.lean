import SqlRequest.Text.Casing

/-!
The lower-case form of a text. A capital sigma takes the final form where it ends
a word: a letter stands before it and none after it, signs and marks that the
case rules look through not counted. Every other character has one form wherever
it stands.
-/

namespace SqlRequest.Text

/-- Whether the next character that counts for the case rules has case. -/
def letterFollows : List Char → Bool
  | [] => false
  | c :: cs => if caseIgnorable c then letterFollows cs else cased c

/-- Whether the last character that counts has case, once `c` has been read. -/
def letterBefore (before : Bool) (c : Char) : Bool :=
  if caseIgnorable c then before else cased c

/-- The lower-case form of a list of characters; `before` says whether the last
counting character before the list has case. -/
def lowerFrom (before : Bool) : List Char → List Char
  | [] => []
  | c :: cs =>
    (if c = 'Σ' ∧ before ∧ ¬ letterFollows cs then ['ς'] else lowerForm c) ++
      lowerFrom (letterBefore before c) cs

/-- The lower-case form of a text. -/
def lower (s : String) : String := String.ofList (lowerFrom false s.toList)

example : lower "ΟΔΟΣ" = "οδος" := by decide +kernel

example : lower "ΣΑΣ Σ" = "σας σ" := by decide +kernel

end SqlRequest.Text
