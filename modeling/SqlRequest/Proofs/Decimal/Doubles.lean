import Mathlib
import SqlRequest.Proofs.Decimal.Rounding

/-!
Doubles as numbers: what rounding, packing and multiplication do to doubles of 53 digits.

* `roundWithAccuracy_eq`: rounding keeps the 53 digits of `nearest`.
* `unpack_pack`: what is packed is unpacked again, or is an infinity if it is too great.
* `Denotes`: a double as a natural number of units; the unit is the least positive double, so that
  there are no fractions. `denotes_ofScientific`: the double of a decimal.
* `isInf_mul_iff`: a product is infinite from half a unit above the greatest double on.
-/

namespace SqlRequest.Double

open Float.Model Float.Model.UnpackedFloat

/-! ### Shifting -/

/-- What is known of a number without its last digits: the quotient, whether the rest of it is
half a unit or more, and whether anything is left over then. -/
lemma shiftRight_eq (m k : ℕ) :
    (ExtendedMantissa.mk m false false) >>> k =
      ⟨m / 2 ^ k, decide (2 ^ k ≤ 2 * (m % 2 ^ k)), decide (2 * (m % 2 ^ k) % 2 ^ k ≠ 0)⟩ := by
  induction k with
  | zero => simp [HShiftRight.hShiftRight, Nat.repeat, Nat.mod_one]
  | succ k ih =>
      have hstep : (ExtendedMantissa.mk m false false) >>> (k + 1) =
          ((ExtendedMantissa.mk m false false) >>> k).shiftRightOne := rfl
      have hmod : m % 2 ^ (k + 1) = m % 2 ^ k + 2 ^ k * (m / 2 ^ k % 2) := Nat.mod_pow_succ
      have hlt := Nat.mod_lt m (Nat.two_pow_pos k)
      have hdiv : m / 2 ^ k / 2 = m / 2 ^ (k + 1) := by rw [Nat.div_div_eq_div_mul, pow_succ]
      have hround : (m / 2 ^ k % 2 != 0) = decide (2 ^ (k + 1) ≤ 2 * (m % 2 ^ (k + 1))) := by
        rw [hmod, pow_succ]
        rcases Nat.mod_two_eq_zero_or_one (m / 2 ^ k) with hbit | hbit
        · simp [hbit]
          omega
        · simp [hbit]
          omega
      have hsticky : (decide (2 ^ k ≤ 2 * (m % 2 ^ k)) || decide (2 * (m % 2 ^ k) % 2 ^ k ≠ 0)) =
          decide (2 * (m % 2 ^ (k + 1)) % 2 ^ (k + 1) ≠ 0) := by
        have hrest : 2 * (m % 2 ^ (k + 1)) % 2 ^ (k + 1) = 2 * (m % 2 ^ k) := by
          rw [pow_succ', Nat.mul_mod_mul_left, ← pow_succ', hmod, Nat.add_mul_mod_self_left,
            Nat.mod_mod]
        rw [hrest, Bool.eq_iff_iff]
        simp only [Bool.or_eq_true, decide_eq_true_eq]
        by_cases hhalf : 2 ^ k ≤ 2 * (m % 2 ^ k)
        · simp only [hhalf, true_or, true_iff]
          have := Nat.two_pow_pos k
          omega
        · rw [Nat.mod_eq_of_lt (not_le.mp hhalf)]
          exact or_iff_right hhalf
      rw [hstep, ih, ExtendedMantissa.shiftRightOne, hdiv, hround, hsticky]

lemma roundedMantissa_shiftRight (m k : ℕ) :
    ((ExtendedMantissa.mk m false false) >>> k).roundedMantissa = halfEven m k := by
  have hlt := Nat.mod_lt m (Nat.two_pow_pos k)
  rw [shiftRight_eq, halfEven]
  rcases lt_trichotomy (2 * (m % 2 ^ k)) (2 ^ k) with hbelow | htie | habove
  · have hround : ¬ 2 ^ k ≤ 2 * (m % 2 ^ k) := by omega
    rw [if_pos hbelow, decide_eq_false hround]
    cases decide (2 * (m % 2 ^ k) % 2 ^ k ≠ 0) <;> rfl
  · rw [if_neg (by omega), if_pos htie, htie, Nat.mod_self]
    simp [ExtendedMantissa.roundedMantissa, ExtendedMantissa.accuracy, Accuracy.roundToNearestEven]
  · have hsticky : 2 * (m % 2 ^ k) % 2 ^ k ≠ 0 := by
      rw [Nat.mod_eq_sub_mod habove.le, Nat.mod_eq_of_lt (by omega)]
      omega
    rw [if_neg (by omega), if_neg (by omega), decide_eq_true habove.le, decide_eq_true hsticky]
    rfl

/-! ### Rounding -/

/-- A number that fits 53 digits is left as it is. -/
lemma shiftToTargetExponent_of_lt {m : ℕ} {e : ℤ} (hm : 2 ^ 52 ≤ m) (hlt : m < 2 ^ 53)
    (he : -1074 ≤ e) :
    shiftToTargetExponent .binary64 m e .exact = (⟨m, false, false⟩, e) := by
  have hlog : m.log2 = 52 := (Nat.log2_eq_iff (by omega)).mpr ⟨hm, hlt⟩
  have htarget : Format.binary64.targetExponent (totalExponent m e) = e := by
    rw [Format.targetExponent, totalExponent, hlog, Format.mantissaBits, Format.minExponent]
    norm_num [Format.mantissaBits]
    omega
  rw [shiftToTargetExponent, htarget, shiftToExponent, sub_self]
  simp [ExtendedMantissa.ofMantissaAndAccuracy, HShiftRight.hShiftRight, Nat.repeat]

lemma shiftToTargetExponent_eq {m : ℕ} {e : ℤ} (hm : 2 ^ 52 ≤ m) (he : -1074 ≤ e) :
    shiftToTargetExponent .binary64 m e .exact =
      ((ExtendedMantissa.mk m false false) >>> (m.log2 - 52), e + (m.log2 - 52 : ℕ)) := by
  have hlog := fiftyTwo_le_log2 hm
  have htarget : Format.binary64.targetExponent (totalExponent m e) = e + (m.log2 - 52 : ℕ) := by
    rw [Format.targetExponent, totalExponent, Format.mantissaBits, Format.minExponent]
    norm_num [Format.mantissaBits]
    omega
  rw [shiftToTargetExponent, htarget, shiftToExponent, add_sub_cancel_left]
  rfl

/-- Rounding keeps 53 digits of a number, and the number of zeros after them. -/
lemma roundWithAccuracy_eq {m : ℕ} {e : ℤ} (hm : 2 ^ 52 ≤ m) (he : -1074 ≤ e) (s : Sign) :
    ∃ (d j : ℕ) (h : 0 < d),
      roundWithAccuracy .binary64 s m e .exact = .finite s d (e + j) h ∧
        2 ^ 52 ≤ d ∧ d < 2 ^ 53 ∧ d * 2 ^ j = nearest m := by
  have hlow : 2 ^ 52 ≤ halfEven m (m.log2 - 52) := (two_pow_le_div hm).trans (le_halfEven m _)
  have hhigh : halfEven m (m.log2 - 52) ≤ 2 ^ 53 :=
    (halfEven_le m _).trans (div_lt_two_pow m)
  have hfinish {p : ExtendedMantissa × ℤ} {em : ExtendedMantissa} {e' : ℤ} (hp : p = (em, e'))
      (h : 0 < em.mantissa) :
      (if h : p.1.mantissa = 0 then .zero s
        else .finite s p.1.mantissa p.2 (Nat.pos_of_ne_zero h)) = finite s em.mantissa e' h := by
    subst hp
    exact dif_neg h.ne'
  rw [roundWithAccuracy, shiftToTargetExponent_eq hm he]
  simp only [roundedMantissa_shiftRight]
  rcases hhigh.lt_or_eq with hlt | heq
  · have hd : 0 < halfEven m (m.log2 - 52) := by omega
    exact ⟨halfEven m (m.log2 - 52), m.log2 - 52, hd,
      hfinish (shiftToTargetExponent_of_lt hlow hlt (by omega)) hd, hlow, hlt, rfl⟩
  · -- all digits were ones, and rounding has made them one digit more
    have hsecond : shiftToTargetExponent .binary64 (halfEven m (m.log2 - 52))
        (e + (m.log2 - 52 : ℕ)) .exact = (⟨2 ^ 52, false, false⟩, e + (m.log2 - 52 + 1 : ℕ)) := by
      rw [heq, shiftToTargetExponent_eq (by decide) (by omega), Nat.log2_two_pow, shiftRight_eq,
        Nat.cast_add, add_assoc]
      rfl
    refine ⟨2 ^ 52, m.log2 - 52 + 1, by decide, hfinish hsecond (by decide), le_rfl, by decide, ?_⟩
    rw [nearest, heq, ← pow_add, ← pow_add]
    congr 1
    omega

/-! ### Packing -/

lemma unpack_packedInfinity (s : Sign) :
    UnpackedFloat.unpack .binary64 (packedInfinity .binary64 s) = .infinity s := by
  rw [packedInfinity, UnpackedFloat.unpack]
  simp only [unpackMantissa_packComponents, unpackExponent_packComponents,
    unpackSign_packComponents, Sign.ofBitVec_toBitVec]
  rfl

lemma unpack_packComponents {d n : ℕ} (hlow : 2 ^ 52 ≤ d) (hhigh : d < 2 ^ 53) (hn : 0 < n)
    (hn' : n < 2047) (s : Sign) :
    UnpackedFloat.unpack .binary64
        (packComponents .binary64 s (BitVec.ofNat 11 n) (BitVec.ofNat 52 d)) =
      .finite s d (n - 1075) (by omega) := by
  have hexponent : (BitVec.ofNat 11 n).toNat = n := by
    rw [BitVec.toNat_ofNat, Nat.mod_eq_of_lt (by omega)]
  have hall : BitVec.ofNat 11 n ≠ -1#11 := by
    intro h
    rw [h] at hexponent
    exact absurd hexponent (by simp; omega)
  have hzero : BitVec.ofNat 11 n ≠ 0#11 := by
    intro h
    rw [h] at hexponent
    exact absurd hexponent (by simp; omega)
  have hmantissa : (1#1 ++ BitVec.ofNat 52 d).toNat = d := by
    rw [BitVec.toNat_append, BitVec.toNat_ofNat, BitVec.toNat_ofNat,
      ← Nat.shiftLeft_add_eq_or_of_lt (Nat.mod_lt _ (by decide))]
    omega
  rw [UnpackedFloat.unpack]
  simp only [unpackMantissa_packComponents, unpackExponent_packComponents,
    unpackSign_packComponents, Sign.ofBitVec_toBitVec]
  rw [if_neg hall, if_neg hzero]
  simp only [hmantissa, hexponent]
  rfl

/-- A number of 53 digits is packed as it is, unless its exponent is too great. -/
lemma unpack_pack {d : ℕ} {e : ℤ} {h : 0 < d} (hlow : 2 ^ 52 ≤ d) (hhigh : d < 2 ^ 53)
    (he : -1074 ≤ e) (s : Sign) :
    (Float.Model.pack (.finite s d e h)).unpack =
      if e ≤ 971 then .finite s d e h else .infinity s := by
  have hlog : d.log2 = 52 := (Nat.log2_eq_iff (by omega)).mpr ⟨hlow, hhigh⟩
  obtain ⟨n, hn⟩ : ∃ n : ℕ, (n : ℤ) = e + 1075 := ⟨(e + 1075).toNat, by omega⟩
  have hbiased : (e + Format.binary64.exponentBias +
      Format.binary64.mantissaBitsWithoutImplicit).toNat = n := by
    norm_num [Format.exponentBias]
    omega
  change UnpackedFloat.unpack .binary64 (UnpackedFloat.pack .binary64 (.finite s d e h)) = _
  simp only [UnpackedFloat.pack, hbiased, hlog]
  by_cases hle : e ≤ 971
  · rw [if_pos hle, if_neg (by norm_num; omega), if_pos (by decide),
      unpack_packComponents hlow hhigh (by omega) (by omega)]
    congr
    omega
  · rw [if_neg hle, if_pos (by norm_num; omega), unpack_packedInfinity]

/-! ### Doubles as numbers -/

/-- How many units there are to one. The unit is the least positive double. -/
def one : ℕ := 2 ^ 1074

lemma one_pos : 0 < one := by
  rw [one]
  positivity

/-- From how many units on a number is rounded to infinity: they are half a unit of the last digit
above the greatest double. -/
def overflow : ℕ := (2 ^ 54 - 1) * 2 ^ (2098 - 54)

/-- A positive double of 53 digits is a number of units. -/
def Denotes (x : Float) (v : ℕ) : Prop :=
  ∃ (d j : ℕ) (h : 0 < d), x.toModel.unpack = .finite .positive d (j - 1074) h ∧
    2 ^ 52 ≤ d ∧ d < 2 ^ 53 ∧ v = d * 2 ^ j

/-- A double of 53 digits is below a power of two if the number that is rounded to it is below it
by more than half a unit. -/
lemma exponent_le_iff {v d j p : ℕ} (hv : 2 ^ 52 ≤ v) (hlow : 2 ^ 52 ≤ d) (hhigh : d < 2 ^ 53)
    (h : d * 2 ^ j = nearest v) (hp : 54 ≤ p) :
    53 + j ≤ p ↔ v < (2 ^ 54 - 1) * 2 ^ (p - 54) := by
  have hiff := two_pow_le_nearest_iff hv hp
  rw [← h] at hiff
  rw [lt_iff_not_ge, ← hiff, not_le]
  constructor
  · intro hj
    calc d * 2 ^ j < 2 ^ 53 * 2 ^ j := Nat.mul_lt_mul_of_pos_right hhigh (Nat.two_pow_pos j)
      _ = 2 ^ (53 + j) := (pow_add 2 53 j).symm
      _ ≤ 2 ^ p := Nat.pow_le_pow_right (by decide) hj
  · intro hlt
    have hpow : 2 ^ (52 + j) < 2 ^ p := by
      rw [pow_add]
      exact (Nat.mul_le_mul_right _ hlow).trans_lt hlt
    have hexponent := (Nat.pow_lt_pow_iff_right (by decide)).mp hpow
    omega

/-- A number of units is rounded to the double nearest to it, unless that is too great. -/
lemma unpack_round {m : ℕ} (hm : 2 ^ 52 ≤ m) (a : ℕ) :
    ∃ (d j : ℕ) (h : 0 < d),
      (Float.Model.pack (roundWithAccuracy .binary64 .positive m (a - 1074) .exact)).unpack =
          (if m * 2 ^ a < overflow then .finite .positive d (j - 1074) h
            else .infinity .positive) ∧
        2 ^ 52 ≤ d ∧ d < 2 ^ 53 ∧ nearest (m * 2 ^ a) = d * 2 ^ j := by
  obtain ⟨d, j, hd, hround, hlow, hhigh, hnearest⟩ :=
    roundWithAccuracy_eq hm (e := a - 1074) (by omega) .positive
  have hvalue : d * 2 ^ (j + a) = nearest (m * 2 ^ a) := by
    rw [nearest_mul_two_pow hm, ← hnearest, pow_add, mul_assoc]
  have hv : 2 ^ 52 ≤ m * 2 ^ a := hm.trans (Nat.le_mul_of_pos_right m (Nat.two_pow_pos a))
  have hexponent : (a : ℤ) - 1074 + j ≤ 971 ↔ m * 2 ^ a < overflow := by
    have hiff : 53 + (j + a) ≤ 2098 ↔ m * 2 ^ a < overflow :=
      exponent_le_iff hv hlow hhigh hvalue (by decide)
    rw [← hiff]
    omega
  refine ⟨d, j + a, hd, ?_, hlow, hhigh, hvalue.symm⟩
  rw [hround, unpack_pack hlow hhigh (by omega)]
  simp only [hexponent]
  congr 2
  omega

/-- The double of a decimal is the nearest one, if that is not too great. -/
lemma denotes_ofScientific {n e : ℕ} (hn : 0 < n) (he : e ≤ 2 ^ 11)
    (hlt : n * 10 ^ e * one < overflow) :
    Denotes (.ofModel (.ofScientific n e)) (nearest (n * 10 ^ e * one)) := by
  have hm : 2 ^ 52 ≤ n <<< 53 * 10 ^ e := by
    rw [Nat.shiftLeft_eq, mul_right_comm]
    have hpos : 0 < n * 10 ^ e := Nat.mul_pos hn (Nat.pow_pos (by decide))
    omega
  have hunits : n <<< 53 * 10 ^ e * 2 ^ 1021 = n * 10 ^ e * one := by
    rw [Nat.shiftLeft_eq, mul_right_comm n, mul_assoc, ← pow_add, one]
  obtain ⟨d, j, hd, hunpack, hlow, hhigh, hnearest⟩ := unpack_round hm 1021
  rw [hunits] at hunpack hnearest
  rw [if_pos hlt] at hunpack
  refine ⟨d, j, hd, ?_, hlow, hhigh, hnearest⟩
  rw [← hunpack, Float.Model.ofScientific, UnpackedFloat.ofScientific, dif_neg hn.ne',
    if_neg (by norm_num; omega), if_neg (by norm_num; omega), if_pos (by omega)]
  rfl

lemma Denotes.ne_zero {x : Float} {v : ℕ} (h : Denotes x v) : (x == 0) = false := by
  obtain ⟨d, j, hd, hx, -⟩ := h
  have hzero : (0 : Float) = .ofModel (Float.Model.pack (.zero .positive)) := by decide +kernel
  rw [hzero]
  change UnpackedFloat.beq x.toModel.unpack (.zero .positive) = false
  rw [hx]
  rfl

section Product

variable {x y : Float} {v w : ℕ}

/-- A double that is one or more has few digits after the point. -/
lemma Denotes.le_exponent (h : Denotes x v) (hv : one ≤ v) :
    ∃ (d j : ℕ) (h : 0 < d), x.toModel.unpack = .finite .positive d (j - 1074) h ∧
      2 ^ 52 ≤ d ∧ v = d * 2 ^ j ∧ 1022 ≤ j := by
  obtain ⟨d, j, hd, hx, hlow, hhigh, rfl⟩ := h
  refine ⟨d, j, hd, hx, hlow, rfl, ?_⟩
  have hpow : 2 ^ 1074 < 2 ^ (53 + j) := by
    rw [pow_add]
    exact hv.trans_lt (Nat.mul_lt_mul_of_pos_right hhigh (Nat.two_pow_pos j))
  have hlt := (Nat.pow_lt_pow_iff_right (by decide)).mp hpow
  omega

/-- **A product of doubles is infinite** from half a unit above the greatest double on. -/
theorem isInf_mul_iff (hx : Denotes x v) (hy : Denotes y w) (hv : one ≤ v) (hw : one ≤ w) :
    (x * y).isInf = true ↔ overflow * one ≤ v * w := by
  obtain ⟨d, j, hd, hxd, hlow, rfl, hj⟩ := hx.le_exponent hv
  obtain ⟨d', j', hd', hyd, hlow', rfl, hj'⟩ := hy.le_exponent hw
  have hm : 2 ^ 52 ≤ d * d' := hlow.trans (Nat.le_mul_of_pos_right d hd')
  obtain ⟨d'', j'', hd'', hunpack, -⟩ := unpack_round hm (j + j' - 1074)
  have hunits : d * d' * 2 ^ (j + j' - 1074) * one = d * 2 ^ j * (d' * 2 ^ j') := by
    rw [one, mul_assoc, ← pow_add, Nat.sub_add_cancel (by omega), pow_add, mul_mul_mul_comm]
  have hproduct : (x * y).toModel.unpack =
      (Float.Model.pack (roundWithAccuracy .binary64 .positive (d * d')
        ((j + j' - 1074 : ℕ) - 1074) .exact)).unpack := by
    have hexponent : (j - 1074 + (j' - 1074) : ℤ) = (j + j' - 1074 : ℕ) - 1074 := by omega
    change (Float.Model.pack (UnpackedFloat.mul .binary64 x.toModel.unpack
      y.toModel.unpack)).unpack = _
    rw [hxd, hyd, UnpackedFloat.mul, hexponent]
    rfl
  rw [Float.isInf, Float.Model.isInf, hproduct, hunpack, ← hunits, Nat.mul_le_mul_right_iff one_pos]
  split
  · next h => simpa [UnpackedFloat.isInf] using h
  · next h => simpa [UnpackedFloat.isInf] using h

end Product

end SqlRequest.Double
