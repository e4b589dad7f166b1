import SqlRequest.Decimal.Basic
import SqlRequest.Quote
import SqlRequest.Text.Hex

/-!
The words of SQL: names, literals and marks. Blanks, comments and byte order marks between
them are dropped, and the text ends at the first NUL, if there is one.
-/

namespace SqlRequest.Notebook

/-- A word of SQL. -/
inductive Token where
  /-- A keyword, or a name without quotes. -/
  | word (s : String)
  /-- A name in quotes. -/
  | name (s : String)
  | text (s : String)
  /-- Octets in hexadecimal digits, with the word as it is written. -/
  | blob (written : String) (octets : List UInt8)
  /-- A number as it is written, with the sign before it if there is one. -/
  | number (written : String)
  | mark (c : Char)
  /-- Something that is no word. -/
  | bad
  deriving DecidableEq, Repr

namespace Token

/-- A character that may go on a row of blanks, and may stand around a number in a
text. -/
def isBlank (c : Char) : Bool :=
  c = ' ' || c = '\t' || c = '\n' || c = '\x0b' || c = '\x0c' || c = '\r'

/-- A character that a row of blanks may begin with. -/
def isSpace (c : Char) : Bool := isBlank c && c ≠ '\x0b'

/-- A character that a name without quotes may begin with. -/
def beginsName (c : Char) : Bool := c.isAlpha || c = '_' || 0x80 ≤ c.toNat

/-- A character that a name without quotes may have in it. -/
def inName (c : Char) : Bool := beginsName c || c.isDigit || c = '$'

/-- The octets of pairs of hexadecimal digits. -/
def hexOctets? : List Char → Option (List UInt8)
  | [] => some []
  | [_] => none
  | a :: b :: cs => do
    let octet ← Text.hexNumber? 0 [a, b]
    let rest ← hexOctets? cs
    return octet.toUInt8 :: rest

/-- What is between a quote and the one that closes it, as a token. -/
def enclosed (mark : Char) (make : List Char → Token) (cs : List Char) : Token × List Char :=
  match readEnclosed mark cs with
  | some (inner, rest) => (make inner, rest)
  | none => (.bad, [])

/-- Octets between apostrophes, after an `x` in either case. -/
def blobOf (x : Char) (inner : List Char) : Token :=
  match hexOctets? inner with
  | some octets => .blob (String.ofList (x :: '\'' :: inner ++ ['\''])) octets
  | none => .bad

/-- A name between square brackets. -/
def bracketed (cs : List Char) : Token × List Char :=
  match cs.dropWhile (· ≠ ']') with
  | _ :: rest => (.name (String.ofList (cs.takeWhile (· ≠ ']'))), rest)
  | [] => (.bad, [])

/-- A character of a row of digits, in which underscores may stand. -/
def inDigits (c : Char) : Bool := c.isDigit || c = '_'

def beginsWithDigit (cs : List Char) : Bool := (cs.head?.map Char.isDigit).getD false

/-- How many characters of a text make up the exponent at its start. -/
def exponentLength : List Char → Nat
  | c :: cs =>
    let sign := match cs with
      | s :: _ => if s = '+' ∨ s = '-' then 1 else 0
      | [] => 0
    if (c = 'e' ∨ c = 'E') ∧ beginsWithDigit (cs.drop sign) then
      1 + sign + ((cs.drop sign).takeWhile inDigits).length
    else 0
  | [] => 0

/-- How many characters of a text make up the number at its start: hexadecimal digits
after `0x`, or a decimal number. -/
def numberLength (cs : List Char) : Nat :=
  let decimal :=
    let whole := (cs.takeWhile inDigits).length
    let point := match cs.drop whole with
      | '.' :: ds => whole + 1 + (ds.takeWhile inDigits).length
      | _ => whole
    point + exponentLength (cs.drop point)
  match cs with
  | '0' :: x :: d :: ds =>
    if (x = 'x' ∨ x = 'X') ∧ Text.isHexDigit d then
      3 + (ds.takeWhile fun c => Text.isHexDigit c || c = '_').length
    else decimal
  | _ => decimal

/-- Whether a text begins with a number. -/
def beginsNumber : List Char → Bool
  | '.' :: cs => beginsWithDigit cs
  | cs => beginsWithDigit cs

/-- A number, after what is written before its digits; no name may follow it at once. -/
def numeral (before cs : List Char) : Token × List Char :=
  let n := numberLength cs
  let rest := cs.drop n
  if (rest.head?.map inName).getD false then (.bad, [])
  else (.number (String.ofList (before ++ cs.take n)), rest)

/-- A number after its sign and blanks, or else the sign alone. -/
def signed (sign : Char) (cs : List Char) : Token × List Char :=
  let digits := cs.dropWhile isSpace
  if beginsNumber digits then numeral (sign :: cs.takeWhile isSpace) digits
  else (.mark sign, cs)

/-- What follows a comment that ends with the line. -/
def afterLine (cs : List Char) : List Char := cs.dropWhile (· ≠ '\n')

/-- What follows a comment that ends with an asterisk and a slash. -/
def afterComment : List Char → List Char
  | [] => []
  | '*' :: '/' :: cs => cs
  | _ :: cs => afterComment cs

/-- The token that begins with a character, and the text after it. -/
def next (c : Char) (cs : List Char) : Token × List Char :=
  if c = '\'' then enclosed c (fun s => .text (String.ofList s)) cs
  else if c = '"' ∨ c = '\x60' then enclosed c (fun s => .name (String.ofList s)) cs
  else if c = '[' then bracketed cs
  else if beginsNumber (c :: cs) then numeral [] (c :: cs)
  else if c = '-' ∨ c = '+' then signed c cs
  else if c = '=' ∧ cs.head? = some '=' then (.mark '=', cs.tail)
  else if beginsName c then
    match c.toLower, cs with
    | 'x', '\'' :: ds => enclosed '\'' (blobOf c) ds
    | _, _ => (.word (String.ofList (c :: cs.takeWhile inName)), cs.dropWhile inName)
  else if c ∈ ['(', ')', ',', ';', '.', '*', '=', '<', '>', '!', '/', '%', '|', '&'] then
    (.mark c, cs)
  else (.bad, [])

/-- The tokens of a text, given how many steps may be taken. -/
def listFrom : Nat → List Char → List Token
  | 0, _ => []
  | _, [] => []
  | fuel + 1, c :: cs =>
    if isSpace c then listFrom fuel (cs.dropWhile isBlank)
    else if c = '\ufeff' then listFrom fuel cs
    else match c, cs with
      | '-', '-' :: ds => listFrom fuel (afterLine ds)
      | '/', '*' :: ds => listFrom fuel (afterComment ds)
      | _, _ => (next c cs).1 :: listFrom fuel (next c cs).2

/-- The tokens of a text. Each takes at least one character, so there are as many
steps as characters. -/
def list (s : String) : List Token :=
  let cs := s.toList.takeWhile (· ≠ '\x00')
  listFrom cs.length cs

end Token

end SqlRequest.Notebook
