import SqlRequest.Decimal.Basic
import SqlRequest.Integer
import SqlRequest.Settings.Basic
import SqlRequest.Settings.Toml.Text

/-!
Values of a TOML text that are no text and have no parts: numbers, truth values, dates
and times. Whole numbers have to be integers, and a number too great for a double is
refused. A date or a time becomes a text.
-/

namespace SqlRequest.Toml

/-- A character of a value that is no text and has no parts. A date may have one blank
in it. -/
def inPlain (c : Char) : Bool :=
  c.isAlphanum || c = '+' || c = '-' || c = '_' || c = '.' || c = ':'

/-- Digits with single underscores between them, without the underscores. -/
def joinDigits (isDigit : Char → Bool) : List Char → Option (List Char)
  | [] => none
  | [c] => if isDigit c then some [c] else none
  | c :: '_' :: cs => if isDigit c then (joinDigits isDigit cs).map (c :: ·) else none
  | c :: cs => if isDigit c then (joinDigits isDigit cs).map (c :: ·) else none

/-- A whole number that fits 64 bits. -/
def ranged (n : Int) : Option Setting :=
  if Integer.fits n then some (.integer n) else none

/-- A whole number in a base other than ten. -/
def based (base : Nat) (isDigit : Char → Bool) (cs : List Char) : Option Setting := do
  let ds ← joinDigits isDigit cs
  let digits ← ds.mapM Text.hexDigit?
  let n := digits.foldl (fun n d => base * n + d) 0
  ranged (n : Nat)

/-- Digits of a whole part: no zero stands before another digit. -/
def wholeDigits (cs : List Char) : Option (List Char) := do
  let ds ← joinDigits Char.isDigit cs
  match ds with
  | '0' :: _ :: _ => none
  | ds => some ds

def isExponentMark (c : Char) : Bool := c = 'e' || c = 'E'

/-- The power of ten that a number ends in, its mark included; zero if the number has
none. -/
def exponent : List Char → Option Int
  | [] => some 0
  | _ :: cs => do
    let (negative, ds) := Decimal.readSign cs
    let ds ← joinDigits Char.isDigit ds
    let n : Int := Decimal.digitsValue 0 ds
    if negative then return -n else return n

/-- A number with a point or an exponent, its sign read. -/
def realNumber (negative : Bool) (cs : List Char) : Option Setting := do
  let mantissa := cs.takeWhile fun c => !isExponentMark c
  let power := cs.dropWhile fun c => !isExponentMark c
  let whole ← wholeDigits (mantissa.takeWhile (· ≠ '.'))
  let fraction ← match mantissa.dropWhile (· ≠ '.') with
    | [] => some []
    | _ :: ds => joinDigits Char.isDigit ds
  let e ← exponent power
  let x := Decimal.toFloat
    ⟨negative, Decimal.digitsValue 0 (whole ++ fraction), e - fraction.length⟩
  if x.isInf then none else return .real x

/-- A number in base ten, or one of the words for no finite number. -/
def decimalNumber (cs : List Char) : Option Setting :=
  let (negative, ds) := Decimal.readSign cs
  let infinity : Float := 1 / 0
  if ds = ['i', 'n', 'f'] then some (.real (if negative then -infinity else infinity))
  else if ds = ['n', 'a', 'n'] then some (.real (0 / 0))
  else if ds.any fun c => c = '.' || isExponentMark c then realNumber negative ds
  else do
    let ds ← wholeDigits ds
    let n : Int := Decimal.digitsValue 0 ds
    ranged (if negative then -n else n)

/-- A number of so many digits, in a range. -/
def field (digits least greatest : Nat) : Reader Nat := fun cs => do
  let ds := cs.take digits
  if ds.length ≠ digits ∨ !ds.all Char.isDigit then none
  let n := Decimal.digitsValue 0 ds
  if least ≤ n ∧ n ≤ greatest then return (n, cs.drop digits) else none

def mark (c : Char) : Reader Unit
  | d :: cs => if d = c then some ((), cs) else none
  | [] => none

/-- The days of a month. -/
def daysIn (year month : Nat) : Nat :=
  if month = 2 then
    if year % 4 = 0 ∧ (year % 100 ≠ 0 ∨ year % 400 = 0) then 29 else 28
  else if month = 4 ∨ month = 6 ∨ month = 9 ∨ month = 11 then 30
  else 31

/-- A date as it is written. -/
def date : Reader (List Char) := fun cs => do
  let (year, rest) ← field 4 0 9999 cs
  let (_, rest) ← mark '-' rest
  let (month, rest) ← field 2 1 12 rest
  let (_, rest) ← mark '-' rest
  let (_, rest) ← field 2 1 (daysIn year month) rest
  return (cs.take 10, rest)

/-- The part of a second; at most nine digits count, and no zero at the end. -/
def secondPart : Reader (List Char)
  | '.' :: cs => do
    let ds := cs.takeWhile Char.isDigit
    if ds.isEmpty then none
    let kept := ((ds.take 9).reverse.dropWhile (· = '0')).reverse
    return (if kept.isEmpty then [] else '.' :: kept, cs.dropWhile Char.isDigit)
  | cs => some ([], cs)

/-- A time of the day as it is written; seconds may be left out. -/
def time : Reader (List Char) := fun cs => do
  let (_, rest) ← field 2 0 23 cs
  let (_, rest) ← mark ':' rest
  let (_, rest) ← field 2 0 59 rest
  match mark ':' rest with
  | none => return (cs.take 5, rest)
  | some (_, rest) =>
    let (_, rest) ← field 2 0 60 rest
    let (part, rest) ← secondPart rest
    return (cs.take 8 ++ part, rest)

/-- The distance from universal time. -/
def offset : Reader (List Char)
  | 'Z' :: cs | 'z' :: cs => some (['Z'], cs)
  | s :: cs =>
    if s = '+' ∨ s = '-' then do
      let (_, rest) ← field 2 0 23 cs
      let (_, rest) ← mark ':' rest
      let (_, rest) ← field 2 0 59 rest
      return (s :: cs.take 5, rest)
    else some ([], s :: cs)
  | [] => some ([], [])

/-- A date, a time, or both, as a text. -/
def moment (cs : List Char) : Option Setting := do
  let written ← match date cs with
    | none => do
      let (t, rest) ← time cs
      if rest.isEmpty then some t else none
    | some (d, []) => some d
    | some (d, c :: rest) => do
      if c ≠ 'T' ∧ c ≠ 't' ∧ c ≠ ' ' then none
      let (t, rest) ← time rest
      let (o, rest) ← offset rest
      if rest.isEmpty then some (d ++ 'T' :: t ++ o) else none
  return .text (String.ofList written)

/-- A value that is no text and has no parts. -/
def plainValue (cs : List Char) : Option Setting :=
  match cs with
  | ['t', 'r', 'u', 'e'] => some (.bool true)
  | ['f', 'a', 'l', 's', 'e'] => some (.bool false)
  | '0' :: 'x' :: ds => based 16 Text.isHexDigit ds
  | '0' :: 'o' :: ds => based 8 (fun c => '0' ≤ c ∧ c ≤ '7') ds
  | '0' :: 'b' :: ds => based 2 (fun c => c = '0' ∨ c = '1') ds
  | _ => (decimalNumber cs).or (moment cs)

/-- A plain value at the start of a text. A blank belongs to it if it stands between a
date and a time. -/
def plain : Reader Setting := fun cs =>
  let word := cs.takeWhile inPlain
  let rest := cs.dropWhile inPlain
  match date word, rest with
  | some (_, []), ' ' :: d :: ds =>
    if d.isDigit then
      (moment (word ++ ' ' :: (d :: ds).takeWhile inPlain)).map fun s =>
        (s, (d :: ds).dropWhile inPlain)
    else (plainValue word).map fun s => (s, rest)
  | _, _ => (plainValue word).map fun s => (s, rest)

end SqlRequest.Toml
