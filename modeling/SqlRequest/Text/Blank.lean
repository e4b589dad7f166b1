/-!
Blanks: the characters with the Unicode property `White_Space`, texts that
consist of them, and texts without them at their ends.
-/

namespace SqlRequest.Text

/-- A character with the property `White_Space`. -/
def isBlank (c : Char) : Bool :=
  let n := c.toNat
  (0x9 ≤ n && n ≤ 0xd) || n == 0x20 || n == 0x85 || n == 0xa0 || n == 0x1680 ||
    (0x2000 ≤ n && n ≤ 0x200a) || n == 0x2028 || n == 0x2029 || n == 0x202f ||
    n == 0x205f || n == 0x3000

/-- A text without a character that is not a blank. -/
def blank (s : String) : Bool := s.toList.all isBlank

/-- What is left of a list of characters after the blanks at its start. -/
def dropBlanks (cs : List Char) : List Char := cs.dropWhile isBlank

/-- What is left of a list of characters after the blanks at both ends. -/
def trimChars (cs : List Char) : List Char :=
  (dropBlanks (dropBlanks cs).reverse).reverse

/-- A text without the blanks at both of its ends. -/
def trim (s : String) : String := String.ofList (trimChars s.toList)

end SqlRequest.Text
