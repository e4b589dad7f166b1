import SqlRequest.Json.Quoted

/-!
Writing JSON values: without any blanks (`Json.compact`), and on several lines with
two blanks for each level (`Json.pretty`). Only values without a fault have a text of
their own; of the others what is there is written.
-/

namespace SqlRequest

/-- The text of a scalar. -/
def Scalar.chars : Scalar → List Char
  | .null | .hugeNumber | .brokenText => "null".toList
  | .bool b => (if b then "true" else "false").toList
  | .number (.whole n) => (toString n).toList
  | .number (.real x) => ((Json.realText? x).getD "null").toList
  | .text s => Quoted.write s.toList

/-- The text of a key. -/
def Key.chars : Key → List Char
  | .name s => Quoted.write s.toList
  | _ => []

namespace Json

mutual

/-- The text of a value without blanks. -/
def compactChars : Json → List Char
  | .scalar s => s.chars
  | .array items _ => '[' :: compactItems true items ++ [']']
  | .object members _ => '\x7b' :: compactMembers true members ++ ['\x7d']
  | .fault _ => []

/-- Items, a comma before each one that is not the first. -/
def compactItems : Bool → List Json → List Char
  | _, [] => []
  | first, v :: vs =>
    (if first then [] else [',']) ++ compactChars v ++ compactItems false vs

/-- Members, a comma before each one that is not the first. -/
def compactMembers : Bool → List (Key × Json) → List Char
  | _, [] => []
  | first, (key, v) :: ms =>
    (if first then [] else [',']) ++ key.chars ++ ':' :: compactChars v ++
      compactMembers false ms

end

/-- The text of a value without blanks. -/
def compact (j : Json) : String := String.ofList j.compactChars

/-- A new line with the blanks for a level. -/
def newLine (level : Nat) : List Char := '\n' :: List.replicate (2 * level) ' '

mutual

/-- The text of a value at a level, each part on a line of its own. -/
def prettyChars : Nat → Json → List Char
  | _, .scalar s => s.chars
  | _, .array [] _ => "[]".toList
  | level, .array (v :: vs) _ =>
    '[' :: prettyItems (level + 1) true (v :: vs) ++ newLine level ++ [']']
  | _, .object [] _ => ['\x7b', '\x7d']
  | level, .object (m :: ms) _ =>
    '\x7b' :: prettyMembers (level + 1) true (m :: ms) ++ newLine level ++ ['\x7d']
  | _, .fault _ => []

/-- Items, each on a line of its own. -/
def prettyItems : Nat → Bool → List Json → List Char
  | _, _, [] => []
  | level, first, v :: vs =>
    (if first then [] else [',']) ++ newLine level ++ prettyChars level v ++
      prettyItems level false vs

/-- Members, each on a line of its own. -/
def prettyMembers : Nat → Bool → List (Key × Json) → List Char
  | _, _, [] => []
  | level, first, (key, v) :: ms =>
    (if first then [] else [',']) ++ newLine level ++ key.chars ++ ':' :: ' ' ::
      prettyChars level v ++ prettyMembers level false ms

end

/-- The text of a value, each part on a line of its own. -/
def pretty (j : Json) : String := String.ofList (j.prettyChars 0)

end Json

end SqlRequest
