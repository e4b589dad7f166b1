import SqlRequest.Decimal.Basic

/-!
The double of a decimal by arithmetic in pairs of doubles. The digits that fit a word of
64 bits are scaled by powers of ten; the sum of a pair keeps about twice the bits of a
double, so that the result is the nearest double save for a few decimals that lie close
to the middle between two of them, or have more digits than a word.
-/

namespace SqlRequest

/-- Two doubles that stand for their sum; the second one is small beside the first. -/
structure FloatPair where
  high : Float
  low : Float

namespace FloatPair

/-- The first half of the bits of a double, as a double. A product of two such halves is
exact. -/
def coarse (x : Float) : Float := Float.ofBits (x.toBits &&& 0xfffffffffc000000)

/-- The greatest double below `2^64`. -/
def greatestBelowWord : Float := 18446744073709549568

/-- The pair of a whole number below `2^64`: the nearest double, and what it is off. If
the nearest double is `2^64`, nothing is said of that. -/
def ofNat (n : Nat) : FloatPair :=
  let high := Float.ofNat n
  ⟨high, if high ≤ greatestBelowWord then Float.ofInt (n - high.toUInt64.toNat) else 0⟩

/-- The product of two pairs. -/
def mul (x y : FloatPair) : FloatPair :=
  let hx := coarse x.high
  let tx := x.high - hx
  let hy := coarse y.high
  let ty := y.high - hy
  let p := hx * hy
  let q := hx * ty + tx * hy
  let c := p + q
  let rest := p - c + q + tx * ty
  let rest := x.high * y.low + x.low * y.high + rest
  let high := c + rest
  ⟨high, c - high + rest⟩

/-- A pair multiplied by another one as often as a number says. -/
def scale (y : FloatPair) (n : Nat) (x : FloatPair) : FloatPair := n.repeat (fun x => x.mul y) x

/-- A pair times a power of ten, hundreds of powers first. -/
def scaleTen (e : Int) (x : FloatPair) : FloatPair :=
  let n := e.natAbs
  let (hundred, ten, one) : FloatPair × FloatPair × FloatPair :=
    if 0 ≤ e then
      (⟨1.0e100, -1.5902891109759918046e83⟩, ⟨1.0e10, 0⟩, ⟨10, 0⟩)
    else
      (⟨1.0e-100, -1.99918998026028836196e-117⟩, ⟨1.0e-10, -3.6432197315497741579e-27⟩,
        ⟨0.1, -5.5511151231257827021e-18⟩)
  scale one (n % 10) (scale ten (n % 100 / 10) (scale hundred (n / 100) x))

end FloatPair

namespace Decimal

/-- As long as a number is below this one, a digit may be added to it. -/
def fullWord : Nat := 1844674407370955160

/-- As long as a number is below this one, a zero may be added to it. -/
def fullScaled : Nat := 1844674407370954956

/-- Digits of a number from the first one on, as many as fit a word, and how many are
left out. -/
def fitDigits : Nat → List Char → Nat × Nat
  | n, [] => (n, 0)
  | n, c :: cs => if n < fullWord then fitDigits (10 * n + digitValue c) cs else (n, cs.length + 1)

/-- Zeros moved from the power of ten to the digits, while they fit a word. -/
def widen : Nat → Nat → Nat × Nat
  | n, 0 => (n, 0)
  | n, e + 1 => if n < fullScaled then widen (10 * n) e else (n, e + 1)

/-- Zeros moved from the digits to a negative power of ten. -/
def narrow : Nat → Nat → Nat × Nat
  | n, 0 => (n, 0)
  | n, e + 1 => if n % 10 = 0 then narrow (n / 10) e else (n, e + 1)

/-- A power of ten beyond which every number is an infinity, or a zero. -/
def farPower : Int := 1000

/-- The double of a decimal. -/
def toFloatPaired (d : Decimal) : Float :=
  let (n, left) := fitDigits 0 (Nat.toDigits 10 d.digits)
  let e := min farPower (max (-farPower) (d.exponent + left))
  let x :=
    if n = 0 then ⟨0, 0⟩
    else if 0 ≤ e then
      let (n, e) := widen n e.toNat
      FloatPair.scaleTen e (.ofNat n)
    else
      let (n, e) := narrow n e.natAbs
      FloatPair.scaleTen (-e) (.ofNat n)
  let x := x.high + x.low
  let x := if x.isNaN then 1 / 0 else x
  if d.negative then -x else x

end Decimal

end SqlRequest
