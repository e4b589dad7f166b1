import SqlRequest.Decimal.Basic
import SqlRequest.Integer

/-!
The shortest decimal that reads back as a given double. A positive double is a
whole number of halves, quarters or powers of two, and every real between the two
points halfway to its neighbours rounds to it. Among the decimals there, the ones
on the coarsest decimal grid have the fewest digits, and of those the nearest to
the double is taken. All of it is exact arithmetic on natural numbers.
-/

namespace SqlRequest.Decimal

/-- A positive rational number; the denominator is meant to be positive. -/
structure Ratio where
  num : Nat
  den : Nat

/-- The number `n * 2 ^ q`. -/
def Ratio.ofBinary (n : Nat) (q : Int) : Ratio :=
  if q < 0 then ⟨n, Nat.pow 2 q.natAbs⟩ else ⟨n * Nat.pow 2 q.toNat, 1⟩

/-- The number in units of `10 ^ k`. -/
def Ratio.inUnits (r : Ratio) (k : Int) : Ratio :=
  if k < 0 then ⟨r.num * Nat.pow 10 k.natAbs, r.den⟩
  else ⟨r.num, r.den * Nat.pow 10 k.toNat⟩

/-- The order of rationals. -/
def Ratio.le (a b : Ratio) : Bool := a.num * b.den ≤ b.num * a.den

/-- A positive double `m * 2 ^ q`; `narrow` says that the double below it is only
half as far away as the one above it. -/
structure Binary where
  m : Nat
  q : Int
  narrow : Bool

/-- The number of doubles from one power of two to the next: `2 ^ 52`. -/
def Binary.step : Nat := 4503599627370496

/-- The parts of the double with the given bits, its sign aside. -/
def Binary.ofBits (bits : Nat) : Binary :=
  let fraction : Nat := bits % step
  let power : Nat := bits / step % 2048
  if power = 0 then ⟨fraction, -1074, false⟩
  else ⟨step + fraction, (power : Int) - 1075, fraction = 0 ∧ power > 1⟩

/-- The double itself. -/
def Binary.value (b : Binary) : Ratio := .ofBinary (4 * b.m) (b.q - 2)

/-- The least real that may round to the double. -/
def Binary.least (b : Binary) : Ratio :=
  .ofBinary (4 * b.m - if b.narrow then 1 else 2) (b.q - 2)

/-- The greatest real that may round to the double. -/
def Binary.greatest (b : Binary) : Ratio := .ofBinary (4 * b.m + 2) (b.q - 2)

/-- Whether `d * 10 ^ k` rounds to the double. Halfway points round to the double
with even `m`. -/
def Binary.holds (b : Binary) (k : Int) (d : Nat) : Bool :=
  let least := b.least.inUnits k
  let greatest := b.greatest.inUnits k
  let here : Ratio := ⟨d, 1⟩
  if b.m % 2 = 0 then least.le here && here.le greatest
  else !here.le least && !greatest.le here

/-- Which of two decimals equally near to a double is taken. -/
inductive Tie where
  /-- The greater one. -/
  | up
  /-- The one whose last digit is even. -/
  | even
  deriving DecidableEq, Repr

/-- The multiple of `10 ^ k` nearest to the double among those that round to it. -/
def Binary.onGrid (b : Binary) (tie : Tie) (k : Int) : Option Nat :=
  let v := b.value.inUnits k
  let d := v.num / v.den
  let twice := 2 * (v.num % v.den)
  match b.holds k d, b.holds k (d + 1) with
  | false, false => none
  | true, false => some d
  | false, true => some (d + 1)
  | true, true =>
    if twice < v.den then some d
    else if v.den < twice then some (d + 1)
    else match tie with
      | .up => some (d + 1)
      | .even => some (if d % 2 = 0 then d else d + 1)

/-- The first hit on the grids `10 ^ k`, `10 ^ (k - 1)`, and so on. -/
def Binary.search (b : Binary) (tie : Tie) : Nat → Int → Nat × Int
  | 0, k => (0, k)
  | fuel + 1, k =>
    match b.onGrid tie k with
    | some d => (d, k)
    | none => b.search tie fuel (k - 1)

/-- The power of ten at which every positive double has a decimal. -/
def finest : Nat := 324

/-- The shortest decimal that reads back as a finite double. A grid coarser than the
digits before the point holds no decimal that rounds to the double, so the search
starts there; the finest one ends it. -/
def ofFloat (tie : Tie) (x : Float) : Decimal :=
  let bits := x.toBits.toNat
  let b := Binary.ofBits bits
  let start := (Nat.toDigits 10 (b.value.num / b.value.den)).length
  let (d, k) := if b.m = 0 then (0, 0) else b.search tie (start + finest + 1) start
  ⟨Integer.greatest < bits, d, k⟩

end SqlRequest.Decimal
