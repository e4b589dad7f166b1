import Mathlib.Tactic

/-!
Rounding of natural numbers to 53 binary digits, as doubles do it.

* `halfEven`: a number without its last digits, rounded to the nearest, a tie to the even one.
* `nearest`: a number rounded to its first 53 digits. `nearest_mul_two_pow`, `nearest_mono`: it is
  homogeneous and monotone.
* `two_pow_le_nearest_iff`: it reaches a power of two from half a unit below it on.
-/

namespace SqlRequest.Double

/-! ### Dropping digits -/

/-- A number without its last `k` binary digits, rounded to the nearest; a tie goes to the even
one. -/
def halfEven (m k : ℕ) : ℕ :=
  if 2 * (m % 2 ^ k) < 2 ^ k then m / 2 ^ k
  else if 2 * (m % 2 ^ k) = 2 ^ k then m / 2 ^ k + m / 2 ^ k % 2
  else m / 2 ^ k + 1

section HalfEven

variable {m m' k : ℕ}

lemma le_halfEven (m k : ℕ) : m / 2 ^ k ≤ halfEven m k := by
  rw [halfEven]
  split_ifs <;> omega

lemma halfEven_le (m k : ℕ) : halfEven m k ≤ m / 2 ^ k + 1 := by
  rw [halfEven]
  split_ifs <;> omega

lemma halfEven_mul_two_pow (m k a : ℕ) : halfEven (m * 2 ^ a) (k + a) = halfEven m k := by
  have hpos : 0 < 2 ^ a := Nat.two_pow_pos a
  have hdiv : m * 2 ^ a / 2 ^ (k + a) = m / 2 ^ k := by
    rw [pow_add, Nat.mul_div_mul_right _ _ hpos]
  have hmod : m * 2 ^ a % 2 ^ (k + a) = m % 2 ^ k * 2 ^ a := by
    rw [pow_add, Nat.mul_mod_mul_right]
  have hlt : 2 * (m % 2 ^ k * 2 ^ a) < 2 ^ k * 2 ^ a ↔ 2 * (m % 2 ^ k) < 2 ^ k := by
    rw [← mul_assoc, Nat.mul_lt_mul_right hpos]
  have heq : 2 * (m % 2 ^ k * 2 ^ a) = 2 ^ k * 2 ^ a ↔ 2 * (m % 2 ^ k) = 2 ^ k := by
    rw [← mul_assoc, Nat.mul_left_inj hpos.ne']
  rw [halfEven, halfEven, hdiv, hmod, pow_add]
  simp only [hlt, heq]

lemma halfEven_mono (h : m ≤ m') (k : ℕ) : halfEven m k ≤ halfEven m' k := by
  rcases (Nat.div_le_div_right h : m / 2 ^ k ≤ m' / 2 ^ k).lt_or_eq with hlt | heq
  · calc halfEven m k ≤ m / 2 ^ k + 1 := halfEven_le m k
      _ ≤ m' / 2 ^ k := hlt
      _ ≤ halfEven m' k := le_halfEven m' k
  · -- the quotients are the same, so the remainders decide
    have hmod : m % 2 ^ k ≤ m' % 2 ^ k := by
      have hm := Nat.div_add_mod m (2 ^ k)
      have hm' := Nat.div_add_mod m' (2 ^ k)
      rw [heq] at hm
      omega
    rw [halfEven, halfEven, heq]
    split_ifs <;> omega

/-- Half a unit is enough to be rounded up to an even number. -/
lemma le_halfEven_iff {q : ℕ} (hq : Even q) :
    q ≤ halfEven m k ↔ q * 2 ^ k ≤ m + 2 ^ k / 2 := by
  have hm := Nat.div_add_mod m (2 ^ k)
  have hr := Nat.mod_lt m (Nat.two_pow_pos k)
  have hhalf : 2 ^ k / 2 * 2 = 2 ^ k ∨ 2 ^ k = 1 := by
    cases k with
    | zero => exact .inr rfl
    | succ k => exact .inl (by omega)
  rcases lt_trichotomy (m / 2 ^ k + 1) q with hlt | rfl | hgt
  · have hhalfEven := halfEven_le m k
    have hmul : (m / 2 ^ k + 2) * 2 ^ k ≤ q * 2 ^ k := Nat.mul_le_mul_right _ hlt
    rw [add_mul, mul_comm (m / 2 ^ k)] at hmul
    constructor <;> omega
  · -- one step up: the quotient is odd, so a tie goes up
    have hodd : m / 2 ^ k % 2 = 1 := Nat.even_add_one.mp hq |> Nat.not_even_iff.mp
    rw [halfEven, add_mul, one_mul, mul_comm (m / 2 ^ k)]
    split_ifs <;> constructor <;> omega
  · have hhalfEven := le_halfEven m k
    have hmul : q * 2 ^ k ≤ m / 2 ^ k * 2 ^ k := Nat.mul_le_mul_right _ (by omega)
    rw [mul_comm (m / 2 ^ k)] at hmul
    constructor <;> omega

end HalfEven

/-! ### Keeping 53 digits -/

/-- The number with 53 binary digits, and zeros after them, that is nearest; a tie goes to the one
whose last digit of these is even. -/
def nearest (m : ℕ) : ℕ := halfEven m (m.log2 - 52) * 2 ^ (m.log2 - 52)

section Nearest

variable {m m' : ℕ}

lemma log2_mul_two_pow (hm : m ≠ 0) (a : ℕ) : (m * 2 ^ a).log2 = m.log2 + a := by
  rw [Nat.log2_eq_iff (by positivity)]
  have hlow := Nat.log2_self_le hm
  have hhigh := Nat.lt_log2_self (n := m)
  constructor
  · rw [pow_add]
    exact Nat.mul_le_mul_right _ hlow
  · rw [add_right_comm, pow_add]
    exact Nat.mul_lt_mul_of_pos_right hhigh (Nat.two_pow_pos a)

lemma fiftyTwo_le_log2 (hm : 2 ^ 52 ≤ m) : 52 ≤ m.log2 :=
  (Nat.le_log2 (by omega)).mpr hm

/-- The digits that are kept begin with a one. -/
lemma two_pow_le_div (hm : 2 ^ 52 ≤ m) : 2 ^ 52 ≤ m / 2 ^ (m.log2 - 52) := by
  have hlog := fiftyTwo_le_log2 hm
  rw [Nat.le_div_iff_mul_le (Nat.two_pow_pos _), ← pow_add, Nat.add_sub_cancel' hlog]
  exact Nat.log2_self_le (by omega)

lemma div_lt_two_pow (m : ℕ) : m / 2 ^ (m.log2 - 52) < 2 ^ 53 := by
  rw [Nat.div_lt_iff_lt_mul (Nat.two_pow_pos _), ← pow_add]
  calc m < 2 ^ (m.log2 + 1) := Nat.lt_log2_self
    _ ≤ 2 ^ (53 + (m.log2 - 52)) := Nat.pow_le_pow_right (by decide) (by omega)

/-- A number is not rounded beyond the powers of two around it. -/
lemma two_pow_log2_le_nearest (hm : 2 ^ 52 ≤ m) : 2 ^ m.log2 ≤ nearest m := by
  have hlog := fiftyTwo_le_log2 hm
  calc 2 ^ m.log2 = 2 ^ 52 * 2 ^ (m.log2 - 52) := by rw [← pow_add, Nat.add_sub_cancel' hlog]
    _ ≤ nearest m :=
      Nat.mul_le_mul_right _ ((two_pow_le_div hm).trans (le_halfEven m _))

lemma nearest_le_two_pow (hm : 2 ^ 52 ≤ m) : nearest m ≤ 2 ^ (m.log2 + 1) := by
  have hlog := fiftyTwo_le_log2 hm
  calc nearest m ≤ 2 ^ 53 * 2 ^ (m.log2 - 52) :=
        Nat.mul_le_mul_right _ ((halfEven_le m _).trans (div_lt_two_pow m))
    _ = 2 ^ (m.log2 + 1) := by rw [← pow_add]; congr 1; omega

lemma nearest_mul_two_pow (hm : 2 ^ 52 ≤ m) (a : ℕ) :
    nearest (m * 2 ^ a) = nearest m * 2 ^ a := by
  have hlog := fiftyTwo_le_log2 hm
  rw [nearest, log2_mul_two_pow (by omega), Nat.sub_add_comm hlog, halfEven_mul_two_pow, pow_add,
    ← mul_assoc, nearest]

lemma nearest_mono (hm : 2 ^ 52 ≤ m) (h : m ≤ m') : nearest m ≤ nearest m' := by
  have hlog : m.log2 ≤ m'.log2 :=
    (Nat.le_log2 (by omega)).mpr ((Nat.log2_self_le (by omega)).trans h)
  rcases hlog.lt_or_eq with hlt | heq
  · calc nearest m ≤ 2 ^ (m.log2 + 1) := nearest_le_two_pow hm
      _ ≤ 2 ^ m'.log2 := Nat.pow_le_pow_right (by decide) hlt
      _ ≤ nearest m' := two_pow_log2_le_nearest (hm.trans h)
  · rw [nearest, nearest, heq]
    exact Nat.mul_le_mul_right _ (halfEven_mono h _)

/-- **A power of two is reached** from half a unit of the numbers below it on. -/
theorem two_pow_le_nearest_iff (hm : 2 ^ 52 ≤ m) {p : ℕ} (hp : 54 ≤ p) :
    2 ^ p ≤ nearest m ↔ (2 ^ 54 - 1) * 2 ^ (p - 54) ≤ m := by
  have hsplit : 2 ^ p = 2 ^ 54 * 2 ^ (p - 54) := by rw [← pow_add, Nat.add_sub_cancel' hp]
  have hlow := Nat.log2_self_le (n := m) (by omega)
  have hhigh := Nat.lt_log2_self (n := m)
  rcases lt_trichotomy (m.log2 + 1) p with hlt | heq | hgt
  · -- the next power of two is not above the number by as much as a digit
    have hpow : 2 ^ (m.log2 + 1) * 2 ≤ 2 ^ p := by
      rw [← pow_succ]
      exact Nat.pow_le_pow_right (by decide) hlt
    have hnearest := nearest_le_two_pow hm
    have hpos := Nat.two_pow_pos (p - 54)
    constructor <;> omega
  · have hk : m.log2 - 52 = p - 54 + 1 := by omega
    have heven : Even (2 ^ 53) := ⟨2 ^ 52, rfl⟩
    have hfactor : 2 ^ p = 2 ^ 53 * 2 ^ (p - 54 + 1) := by rw [← pow_add]; congr 1; omega
    rw [nearest, hk, hfactor, Nat.mul_le_mul_right_iff (Nat.two_pow_pos _), le_halfEven_iff heven,
      ← hfactor, hsplit, pow_succ]
    omega
  · have hpow : 2 ^ p ≤ 2 ^ m.log2 := Nat.pow_le_pow_right (by decide) (by omega)
    have hnearest := two_pow_log2_le_nearest hm
    constructor <;> omega

end Nearest

end SqlRequest.Double
