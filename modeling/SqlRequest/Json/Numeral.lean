import SqlRequest.Integer
import SqlRequest.Json.Basic

/-!
Numbers in JSON texts: their shape, and the number a shape denotes. A whole number
that fits is exact. Any other is a double that is worked out from the digits that
fit a word of 64 bits, scaled by powers of ten step by step; it need not be the
double nearest to the decimal.
-/

namespace SqlRequest

/-- The parts of a number as it is written; the fraction and the exponent may be
missing. -/
structure Numeral where
  negative : Bool
  whole : List Char
  fraction : Option (List Char)
  exponent : Option Int
  deriving DecidableEq, Repr

namespace Numeral

/-- Digits before the point: the number they denote while it fits a word, and how
many digits were left out after that. -/
def readWhole : Nat → List Char → Nat × Nat
  | n, [] => (n, 0)
  | n, c :: cs =>
    let n' := 10 * n + Decimal.digitValue c
    if n' ≤ Integer.greatestWord then readWhole n' cs else (n, cs.length + 1)

/-- Digits after the point: the number they continue while it fits a word, and how
many were taken. -/
def readFraction : Nat → List Char → Nat × Nat
  | n, [] => (n, 0)
  | n, c :: cs =>
    let n' := 10 * n + Decimal.digitValue c
    if n' ≤ Integer.greatestWord then
      let (m, taken) := readFraction n' cs
      (m, taken + 1)
    else (n, 0)

/-- A power of ten as a double. -/
def tenTo (n : Nat) : Float := Float.ofScientific 1 false n

/-- The greatest power of ten among the doubles. -/
def greatestPower : Nat := 308

/-- A non-negative double times a power of ten, unless it is beyond the doubles.
Division by the greatest power comes first, as often as it takes. -/
def scale (x : Float) (e : Int) : Option Float :=
  if e.natAbs ≤ greatestPower then
    if 0 ≤ e then
      let y := x * tenTo e.toNat
      if y.isInf then none else some y
    else some (x / tenTo e.natAbs)
  else if x == 0 then some x
  else if 0 ≤ e then none
  else scale (x / tenTo greatestPower) (e + greatestPower)
termination_by e.natAbs
decreasing_by simp only [greatestPower] at *; omega

/-- The double that digits and a power of ten give. -/
def real (negative : Bool) (digits : Nat) (e : Int) : Scalar :=
  match scale (Float.ofNat digits) e with
  | some x => .number (.real (if negative then -x else x))
  | none => .hugeNumber

/-- A whole number that fits a word, with its sign. The negative zero and numbers
below `-2^63` are doubles. -/
def signed (negative : Bool) (n : Nat) : Scalar :=
  if !negative then .number (.whole n)
  else if 0 < n ∧ Integer.least ≤ -n then .number (.whole (-n))
  else .number (.real (-Float.ofNat n))

/-- The number that a numeral denotes. -/
def value (l : Numeral) : Scalar :=
  let (n, left) := readWhole 0 l.whole
  match l.fraction, l.exponent with
  | none, none => if left = 0 then signed l.negative n else real l.negative n left
  | none, some e => real l.negative n (left + e)
  | some ds, e =>
    let (m, taken) := readFraction n ds
    real l.negative m (left - taken + e.getD 0)

/-- Where a digit is needed: the flaw if there is none. A text that ends here is
unfinished to a reader and wrong to one who skips. -/
def digitFault : List Char → Fault
  | [] => .unquoted .ended .malformed
  | _ => .of .malformed

/-- The exponent that `e` or `E` announces, and what follows it. -/
def readExponent (cs : List Char) : Except Fault (Int × List Char) :=
  let (negative, ds) := Decimal.readSign cs
  let digits := ds.takeWhile Char.isDigit
  let rest := ds.dropWhile Char.isDigit
  if digits = [] then .error (digitFault rest)
  else
    let n : Int := Decimal.digitsValue 0 digits
    .ok (if negative then -n else n, rest)

/-- The exponent, if one follows. -/
def readExponent? : List Char → Except Fault (Option Int × List Char)
  | [] => .ok (none, [])
  | c :: cs =>
    if c = 'e' ∨ c = 'E' then (readExponent cs).map fun (e, rest) => (some e, rest)
    else .ok (none, c :: cs)

/-- The digits after a point, if one follows. -/
def readFraction? : List Char → Except Fault (Option (List Char) × List Char)
  | '.' :: cs =>
    let digits := cs.takeWhile Char.isDigit
    let rest := cs.dropWhile Char.isDigit
    if digits = [] then .error (digitFault rest) else .ok (some digits, rest)
  | cs => .ok (none, cs)

/-- A numeral at the start of a text, and what follows it. A zero is followed by no
further digit of the whole part. -/
def read (negative : Bool) (cs : List Char) : Except Fault (Numeral × List Char) :=
  let whole := cs.takeWhile Char.isDigit
  let rest := cs.dropWhile Char.isDigit
  match whole with
  | [] => .error (digitFault rest)
  | '0' :: _ :: _ => .error (.of .malformed)
  | _ => do
    let (fraction, rest) ← readFraction? rest
    let (exponent, rest) ← readExponent? rest
    return (⟨negative, whole, fraction, exponent⟩, rest)

/-! ### What is read is dropped -/

theorem dropDigits_length (cs : List Char) :
    (cs.dropWhile Char.isDigit).length ≤ cs.length :=
  (List.dropWhile_sublist _).length_le

theorem readSign_length (cs : List Char) : (Decimal.readSign cs).2.length ≤ cs.length := by
  unfold Decimal.readSign
  split <;> simp

theorem readExponent_length {cs : List Char} {p : Int × List Char}
    (h : readExponent cs = .ok p) : p.2.length ≤ cs.length := by
  have h₁ := readSign_length cs
  have h₂ := dropDigits_length (Decimal.readSign cs).2
  simp only [readExponent] at h
  split at h
  · simp at h
  · simp only [Except.ok.injEq] at h
    subst h
    exact Nat.le_trans h₂ h₁

theorem readExponent?_length {cs : List Char} {p : Option Int × List Char}
    (h : readExponent? cs = .ok p) : p.2.length ≤ cs.length := by
  unfold readExponent? at h
  split at h
  · simp only [Except.ok.injEq] at h
    subst h
    exact Nat.le_refl _
  · split at h
    · next c cs _ =>
      cases hx : readExponent cs with
      | error f => simp [hx, Except.map] at h
      | ok q =>
        have := readExponent_length hx
        simp only [hx, Except.map, Except.ok.injEq] at h
        subst h
        simp only [List.length_cons]
        omega
    · simp only [Except.ok.injEq] at h
      subst h
      exact Nat.le_refl _

theorem readFraction?_length {cs : List Char} {p : Option (List Char) × List Char}
    (h : readFraction? cs = .ok p) : p.2.length ≤ cs.length := by
  unfold readFraction? at h
  split at h
  · next cs =>
    have := dropDigits_length cs
    simp only at h
    split at h
    · simp at h
    · simp only [Except.ok.injEq] at h
      subst h
      simp only [List.length_cons]
      omega
  · simp only [Except.ok.injEq] at h
    subst h
    exact Nat.le_refl _

/-- Nothing of a numeral is read twice, and its digits are read. -/
theorem read_length {negative : Bool} {cs : List Char} {p : Numeral × List Char}
    (h : read negative cs = .ok p) : p.2.length ≤ (cs.dropWhile Char.isDigit).length := by
  unfold read at h
  simp only at h
  split at h
  · simp at h
  · simp at h
  · cases hf : readFraction? (cs.dropWhile Char.isDigit) with
    | error f => simp [hf, bind, Except.bind] at h
    | ok r =>
      have h₁ := readFraction?_length hf
      cases he : readExponent? r.2 with
      | error f => simp [hf, he, bind, Except.bind] at h
      | ok q =>
        have h₂ := readExponent?_length he
        simp only [hf, he, bind, Except.bind, pure, Except.pure, Except.ok.injEq] at h
        subst h
        exact Nat.le_trans h₂ h₁

end Numeral

end SqlRequest
