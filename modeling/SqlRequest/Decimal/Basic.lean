/-!
Decimal numbers as they are written: a sign, digits and a power of ten. Reading
one from text, and the double nearest to it.
-/

namespace SqlRequest

/-- The number `± digits * 10 ^ exponent`. -/
structure Decimal where
  negative : Bool
  digits : Nat
  exponent : Int
  deriving DecidableEq, Repr

namespace Decimal

/-- The value of a digit. -/
def digitValue (c : Char) : Nat := c.toNat - 48

/-- The number that a row of digits denotes, continuing `n`. -/
def digitsValue (n : Nat) (cs : List Char) : Nat :=
  cs.foldl (fun n c => 10 * n + digitValue c) n

/-- The double nearest to a decimal, ties to even. Beyond the range of doubles it is
an infinity, and below half the smallest double a zero, whatever the digits are, so
that no power of ten outside that range has to be computed. -/
def toFloat (d : Decimal) : Float :=
  let top := d.exponent + (Nat.toDigits 10 d.digits).length
  let x : Float :=
    if d.digits = 0 ∨ top < -400 then 0
    else if top > 400 then 1 / 0
    else if d.exponent < 0 then Float.ofScientific d.digits true d.exponent.natAbs
    else Float.ofScientific d.digits false d.exponent.toNat
  if d.negative then -x else x

/-- A sign, if one stands first: whether it is a minus, and the rest. -/
def readSign : List Char → Bool × List Char
  | '+' :: cs => (false, cs)
  | '-' :: cs => (true, cs)
  | cs => (false, cs)

/-- The exponent after the digits: nothing, or `e` and a whole number. -/
def readExponent : List Char → Option Int
  | [] => some 0
  | c :: cs =>
    let (negative, ds) := readSign cs
    if (c = 'e' ∨ c = 'E') ∧ ds ≠ [] ∧ ds.all Char.isDigit then
      let n := digitsValue 0 ds
      some (if negative then -n else n)
    else none

/-- Digits with at most one point among or beside them, then an exponent. -/
def readUnsigned (negative : Bool) (cs : List Char) : Option Decimal :=
  let whole := cs.takeWhile Char.isDigit
  let rest := cs.dropWhile Char.isDigit
  let (fraction, tail) := match rest with
    | '.' :: r => (r.takeWhile Char.isDigit, r.dropWhile Char.isDigit)
    | r => ([], r)
  if whole = [] ∧ fraction = [] then none
  else (readExponent tail).map fun e =>
    ⟨negative, digitsValue (digitsValue 0 whole) fraction, e - fraction.length⟩

/-- A decimal number with an optional sign. -/
def read (cs : List Char) : Option Decimal :=
  let (negative, rest) := readSign cs
  readUnsigned negative rest

end Decimal

/-- The double that a text denotes: the one nearest to a decimal number, or one of
the words for the infinities and for no number, in any letter case. -/
def readFloat (s : String) : Option Float :=
  match Decimal.read s.toList with
  | some d => some d.toFloat
  | none =>
    let (negative, rest) := Decimal.readSign s.toList
    let word := String.ofList (rest.map Char.toLower)
    let sign (x : Float) : Float := if negative then -x else x
    if word = "inf" ∨ word = "infinity" then some (sign (1 / 0))
    else if word = "nan" then some (0 / 0)
    else none

end SqlRequest
