import SqlRequest.Decimal.Shortest

/-!
Writing a double: the shortest decimal that reads back, laid out with a point or
with an exponent. A `Layout` holds what formats differ in.
-/

namespace SqlRequest.Decimal

/-- The decisions of a number format. -/
structure Layout where
  /-- Which of two equally near decimals is written. -/
  tie : Tie
  /-- The powers of ten of the first digit at which no exponent is written. -/
  positional : Int → Bool
  /-- What a whole number ends in when it is written without an exponent. -/
  whole : String

/-- The digits of a number, the first one not a zero unless it is the only one. -/
def digitChars (n : Nat) : List Char := Nat.toDigits 10 n

/-- The power of ten of the first digit. -/
def firstPower (d : Decimal) : Int := d.exponent + (digitChars d.digits).length - 1

/-- The digits with a point among them or zeros around them. -/
def positionalChars (whole : String) (d : Decimal) : List Char :=
  let ds := digitChars d.digits
  if 0 ≤ d.exponent then ds ++ List.replicate d.exponent.toNat '0' ++ whole.toList
  else
    let places := d.exponent.natAbs
    if places < ds.length then
      ds.take (ds.length - places) ++ '.' :: ds.drop (ds.length - places)
    else '0' :: '.' :: List.replicate (places - ds.length) '0' ++ ds

/-- One digit, the others after a point, and a signed power of ten. -/
def exponentChars (d : Decimal) : List Char :=
  let p := d.firstPower
  let power := 'e' :: (if p < 0 then '-' else '+') :: digitChars p.natAbs
  match digitChars d.digits with
  | [] => power
  | [c] => c :: power
  | c :: cs => c :: '.' :: cs ++ power

/-- A decimal in a layout. -/
def chars (l : Layout) (d : Decimal) : List Char :=
  (if d.negative then ['-'] else []) ++
    if l.positional d.firstPower then positionalChars l.whole d else exponentChars d

/-- A finite double in a layout. -/
def write (l : Layout) (x : Float) : String := String.ofList ((ofFloat l.tie x).chars l)

end SqlRequest.Decimal
