/-!
Hexadecimal digits in small and capital letters, and the numbers that they denote.
-/

namespace SqlRequest.Text

/-- The value of a hexadecimal digit. -/
def hexDigit? (c : Char) : Option Nat :=
  if '0' ≤ c ∧ c ≤ '9' then some (c.toNat - 48)
  else if 'a' ≤ c ∧ c ≤ 'f' then some (c.toNat - 87)
  else if 'A' ≤ c ∧ c ≤ 'F' then some (c.toNat - 55)
  else none

def isHexDigit (c : Char) : Bool := (hexDigit? c).isSome

/-- The number that hexadecimal digits denote, continuing `n`. -/
def hexNumber? (n : Nat) : List Char → Option Nat
  | [] => some n
  | c :: cs => do
    let d ← hexDigit? c
    hexNumber? (16 * n + d) cs

end SqlRequest.Text
