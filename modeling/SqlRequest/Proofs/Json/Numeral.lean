import SqlRequest.Json.Numeral
import SqlRequest.Proofs.Decimal.Doubles

/-!
Which numbers a whole number in a JSON text denotes.

* `Numeral.readWhole_of_le`, `Numeral.readWhole_of_lt`: the digits that fit a word, and how many are
  left out.
* `Numeral.scale_eq_none_iff`: a word and as many zeros have no double from `Numeral.tooGreat` on,
  which is a little less than the greatest double.
* `Scalar.ofInt`: what a whole number denotes. `Scalar.ofInt_eq`, `Scalar.ofInt_real`,
  `Scalar.ofInt_huge`: itself, a double, or nothing.
-/

namespace SqlRequest

open Double

namespace Numeral

/-! ### Powers of ten and words as doubles -/

/-- A power of ten, or a word, in units. -/
def rounded (n : ℕ) : ℕ := nearest (n * one)

lemma rounded_mono {m n : ℕ} (hm : 0 < m) (h : m ≤ n) : rounded m ≤ rounded n := by
  have hunits : 2 ^ 52 ≤ m * one := by
    calc 2 ^ 52 ≤ one := by decide +kernel
      _ ≤ m * one := Nat.le_mul_of_pos_left one hm
  exact nearest_mono hunits (Nat.mul_le_mul_right one h)

lemma one_le_rounded {n : ℕ} (hn : 0 < n) : one ≤ rounded n := by
  have hone : rounded 1 = one := by decide +kernel
  rw [← hone]
  exact rounded_mono (by decide) hn

lemma denotes_tenTo {e : ℕ} (he : e ≤ greatestPower) : Denotes (tenTo e) (rounded (10 ^ e)) := by
  have hsmall : ∀ i : Fin 23, tenTo i = .ofModel (.ofScientific 1 i) := by decide +kernel
  have htenTo : tenTo e = .ofModel (.ofScientific 1 e) := by
    by_cases h : e < 23
    · exact hsmall ⟨e, h⟩
    · rw [tenTo, Float.ofScientific, dif_neg (by omega)]
      rfl
  have hlt : 1 * 10 ^ e * one < overflow := by
    calc 1 * 10 ^ e * one ≤ 1 * 10 ^ greatestPower * one :=
          Nat.mul_le_mul_right one (Nat.mul_le_mul_left 1 (Nat.pow_le_pow_right (by decide) he))
      _ < overflow := by decide +kernel
  have hdenotes := denotes_ofScientific (by decide) (he.trans (by decide)) hlt
  rwa [htenTo, rounded, ← one_mul (10 ^ e)]

lemma denotes_ofNat {n : ℕ} (hn : 2 ^ 53 ≤ n) (hlt : n * one < overflow) :
    Denotes (Float.ofNat n) (rounded n) := by
  have hofNat : Float.ofNat n = .ofModel (.ofScientific n 0) := by
    change Float.ofScientific n false 0 = _
    rw [Float.ofScientific, dif_neg (by omega)]
    rfl
  have hdenotes := denotes_ofScientific (n := n) (e := 0) (by omega) (by decide)
    (by rwa [pow_zero, mul_one])
  rw [pow_zero, mul_one] at hdenotes
  rwa [hofNat]

/-! ### Words with zeros behind them -/

/-- From here on a whole number has no double. It would have one if its first digits were not
rounded before the zeros come: this is less than the greatest double. -/
def tooGreat : ℕ := 17976931348623156225 * 10 ^ 289

/-- The least word that is left when a digit does not fit any more. -/
def leastFull : ℕ := 1844674407370955161

/-- The first digits and the zeros, each rounded, are too great together. -/
def Exceeds (n e : ℕ) : Prop := overflow * one ≤ rounded n * rounded (10 ^ e)

instance (n e : ℕ) : Decidable (Exceeds n e) := inferInstanceAs (Decidable (_ ≤ _))

lemma Exceeds.mono {m n d e : ℕ} (h : Exceeds m d) (hm : 0 < m) (hmn : m ≤ n) (hde : d ≤ e) :
    Exceeds n e :=
  h.trans (Nat.mul_le_mul (rounded_mono hm hmn)
    (rounded_mono (Nat.pow_pos (by decide)) (Nat.pow_le_pow_right (by decide) hde)))

/-- Where rounding leads beyond the doubles. -/
lemma exceeds_iff {n e : ℕ} (hn : leastFull ≤ n) (hword : n ≤ Integer.greatestWord) :
    Exceeds n e ↔ tooGreat ≤ n * 10 ^ e := by
  have hpos : 0 < n := Nat.lt_of_lt_of_le (by decide) hn
  have hmul {m d : ℕ} (hm : m ≤ n) (hd : d ≤ e) : m * 10 ^ d ≤ n * 10 ^ e :=
    Nat.mul_le_mul hm (Nat.pow_le_pow_right (by decide) hd)
  rcases lt_trichotomy e 289 with hlt | rfl | hgt
  · -- even the greatest word has too few zeros
    have hexceeds : ¬ Exceeds n e := fun h =>
      absurd (h.mono hpos hword (Nat.le_of_lt_succ hlt)) (by decide +kernel)
    have hless : n * 10 ^ e < tooGreat := by
      calc n * 10 ^ e ≤ Integer.greatestWord * 10 ^ 288 :=
            Nat.mul_le_mul hword (Nat.pow_le_pow_right (by decide) (Nat.le_of_lt_succ hlt))
        _ < tooGreat := by decide +kernel
    exact iff_of_false hexceeds (not_le.mpr hless)
  · rw [tooGreat, Nat.mul_le_mul_right_iff (by positivity)]
    constructor
    · intro h
      by_contra hless
      have hbelow : n ≤ 17976931348623156224 := by omega
      exact absurd (h.mono hpos hbelow le_rfl) (by decide +kernel)
    · intro h
      have habove : Exceeds 17976931348623156225 289 := by decide +kernel
      exact habove.mono (by decide) h le_rfl
  · -- even the least word has too many zeros
    have hleast : Exceeds leastFull 290 := by decide +kernel
    have hgreat : tooGreat ≤ leastFull * 10 ^ 290 := by decide +kernel
    exact iff_of_true (hleast.mono (by decide) hn hgt) (hgreat.trans (hmul hn hgt))

/-- A word with zeros behind it has no double if it is too great, and only then. -/
lemma scale_eq_none_iff {n e : ℕ} (hn : leastFull ≤ n) (hword : n ≤ Integer.greatestWord) :
    scale (Float.ofNat n) e = none ↔ tooGreat ≤ n * 10 ^ e := by
  have hlt : n * one < overflow := by
    calc n * one ≤ Integer.greatestWord * one := Nat.mul_le_mul_right one hword
      _ < overflow := by decide +kernel
  have hdenotes := denotes_ofNat ((by decide : 2 ^ 53 ≤ leastFull).trans hn) hlt
  have hpos : 0 < n := Nat.lt_of_lt_of_le (by decide) hn
  rw [← exceeds_iff hn hword, scale, Int.natAbs_natCast]
  by_cases he : e ≤ greatestPower
  · rw [if_pos he, if_pos (Int.natCast_nonneg e), Int.toNat_natCast, Exceeds,
      ← isInf_mul_iff hdenotes (denotes_tenTo he) (one_le_rounded hpos)
        (one_le_rounded (by positivity))]
    simp
  · have hexceeds : Exceeds leastFull 290 := by decide +kernel
    have hgreater : 290 ≤ e := (by decide : 290 ≤ greatestPower).trans (not_le.mp he).le
    rw [if_neg he, if_neg (by simp [hdenotes.ne_zero]), if_pos (Int.natCast_nonneg e)]
    exact iff_of_true rfl (hexceeds.mono (by decide) hn hgreater)

/-! ### Digits that fit a word -/

lemma digitValue_le {c : Char} (hc : c.isDigit = true) : Decimal.digitValue c ≤ 9 := by
  have hrange : 48 ≤ c.toNat ∧ c.toNat ≤ 57 := by
    simpa [Char.isDigit, UInt32.le_iff_toNat_le] using hc
  rw [Decimal.digitValue]
  omega

/-- Further digits do not change the digits before them. -/
lemma digitsValue_div {cs : List Char} (hcs : ∀ c ∈ cs, c.isDigit = true) (n : ℕ) :
    Decimal.digitsValue n cs / 10 ^ cs.length = n := by
  induction cs generalizing n with
  | nil => exact Nat.div_one n
  | cons c cs ih =>
      rw [List.forall_mem_cons] at hcs
      have hdigit := digitValue_le hcs.1
      rw [Decimal.digitsValue, List.foldl_cons, List.length_cons, pow_succ,
        ← Nat.div_div_eq_div_mul, ← Decimal.digitsValue, ih hcs.2]
      omega

/-- A number that fits a word is read whole. -/
lemma readWhole_of_le {n : ℕ} {cs : List Char} (hcs : ∀ c ∈ cs, c.isDigit = true)
    (h : Decimal.digitsValue n cs ≤ Integer.greatestWord) :
    readWhole n cs = (Decimal.digitsValue n cs, 0) := by
  induction cs generalizing n with
  | nil => rfl
  | cons c cs ih =>
      rw [List.forall_mem_cons] at hcs
      have hfits : 10 * n + Decimal.digitValue c ≤ Integer.greatestWord := by
        rw [← digitsValue_div hcs.2 (10 * n + Decimal.digitValue c)]
        exact (Nat.div_le_self _ _).trans h
      rw [readWhole, if_pos hfits, ih hcs.2 h]
      rfl

/-- Of any other number the first digits are read, as many as fit a word. -/
lemma readWhole_of_lt {n : ℕ} {cs : List Char} (hcs : ∀ c ∈ cs, c.isDigit = true)
    (hn : n ≤ Integer.greatestWord) (h : Integer.greatestWord < Decimal.digitsValue n cs) :
    ∃ left, readWhole n cs = (Decimal.digitsValue n cs / 10 ^ left, left) ∧ left ≠ 0 ∧
      leastFull ≤ Decimal.digitsValue n cs / 10 ^ left ∧
        Decimal.digitsValue n cs / 10 ^ left ≤ Integer.greatestWord := by
  induction cs generalizing n with
  | nil => exact absurd h (not_lt.mpr hn)
  | cons c cs ih =>
      rw [readWhole]
      split
      · next hfits => exact ih (List.forall_mem_cons.mp hcs).2 hfits h
      · next hfull =>
        have hdigit := digitValue_le (List.forall_mem_cons.mp hcs).1
        have hleast : leastFull ≤ n := by
          rw [leastFull]
          rw [Integer.greatestWord] at hfull
          omega
        have hread : Decimal.digitsValue n (c :: cs) / 10 ^ (cs.length + 1) = n :=
          digitsValue_div hcs n
        exact ⟨cs.length + 1, by rw [hread], Nat.succ_ne_zero _, hleast.trans_eq hread.symm,
          hread.trans_le hn⟩

lemma signed_false (n : ℕ) : signed false n = .number (.whole n) := rfl

lemma signed_true (n : ℕ) :
    signed true n = if 0 < n ∧ Integer.least ≤ -n then .number (.whole (-n))
      else .number (.real (-Float.ofNat n)) := rfl

/-- A whole number written out: its sign and its digits. -/
def ofInt (n : ℤ) : Numeral := ⟨decide (n < 0), Nat.toDigits 10 n.natAbs, none, none⟩

lemma digitsValue_toDigits (n : ℕ) : Decimal.digitsValue 0 (Nat.toDigits 10 n) = n :=
  Nat.ofDigitChars_toDigits (by decide) (by decide)

lemma isDigit_toDigits (n : ℕ) : ∀ c ∈ Nat.toDigits 10 n, c.isDigit = true :=
  fun _ => Nat.isDigit_of_mem_toDigits (by decide) (by decide)

lemma value_ofInt_of_le {n : ℤ} (h : n.natAbs ≤ Integer.greatestWord) :
    (ofInt n).value = signed (decide (n < 0)) n.natAbs := by
  have hread : readWhole 0 (Nat.toDigits 10 n.natAbs) = (n.natAbs, 0) := by
    rw [readWhole_of_le (isDigit_toDigits _) (by rwa [digitsValue_toDigits]), digitsValue_toDigits]
  simp only [value, ofInt, hread, if_true]

lemma value_ofInt_of_lt {n : ℤ} (h : Integer.greatestWord < n.natAbs) :
    ∃ m left : ℕ, (ofInt n).value = real (decide (n < 0)) m left ∧
      m = n.natAbs / 10 ^ left ∧ leastFull ≤ m ∧ m ≤ Integer.greatestWord := by
  obtain ⟨left, hread, hleft, hleast, hword⟩ :=
    readWhole_of_lt (isDigit_toDigits n.natAbs) (Nat.zero_le _) (by rwa [digitsValue_toDigits])
  rw [digitsValue_toDigits] at hread hleast hword
  refine ⟨_, left, ?_, rfl, hleast, hword⟩
  simp only [value, ofInt, hread, if_neg hleft]

/-- What is left out are zeros, as far as the bound is concerned. -/
lemma tooGreat_le_iff {n left : ℕ} (hn : leastFull ≤ n / 10 ^ left) :
    tooGreat ≤ n / 10 ^ left * 10 ^ left ↔ tooGreat ≤ n := by
  have hle : n / 10 ^ left * 10 ^ left ≤ n := Nat.div_mul_le_self n _
  rcases Nat.lt_or_ge 289 left with hgt | hle'
  · have hgreat : tooGreat ≤ n / 10 ^ left * 10 ^ left := by
      calc tooGreat ≤ leastFull * 10 ^ 290 := by decide +kernel
        _ ≤ n / 10 ^ left * 10 ^ left :=
          Nat.mul_le_mul hn (Nat.pow_le_pow_right (by decide) hgt)
    exact iff_of_true hgreat (hgreat.trans hle)
  · have hsplit : tooGreat = 17976931348623156225 * 10 ^ (289 - left) * 10 ^ left := by
      rw [tooGreat, mul_assoc, ← pow_add, Nat.sub_add_cancel hle']
    rw [hsplit, Nat.mul_le_mul_right_iff (by positivity), Nat.le_div_iff_mul_le (by positivity)]

end Numeral

open Numeral

/-- What a whole number denotes that is written out. -/
def Scalar.ofInt (n : ℤ) : Scalar := (Numeral.ofInt n).value

namespace Scalar

variable {n : ℤ}

/-- Between the least integer and the greatest word it is the number itself. -/
lemma ofInt_eq (hlow : Integer.least ≤ n) (hhigh : n ≤ Integer.greatestWord) :
    ofInt n = .number (.whole n) := by
  have hword : n.natAbs ≤ Integer.greatestWord := by
    rw [Integer.least] at hlow
    rw [Integer.greatestWord] at hhigh ⊢
    omega
  rw [ofInt, value_ofInt_of_le hword]
  by_cases hneg : n < 0
  · have habs : -(n.natAbs : ℤ) = n := by omega
    rw [decide_eq_true hneg, signed_true, habs, if_pos ⟨by omega, hlow⟩]
  · have habs : (n.natAbs : ℤ) = n := by omega
    rw [decide_eq_false hneg, signed_false, habs]

/-- Outside, it is a double, unless it is too great. -/
lemma ofInt_real (hout : n < Integer.least ∨ Integer.greatestWord < n)
    (hlt : n.natAbs < tooGreat) : ∃ x, ofInt n = .number (.real x) := by
  rcases Nat.lt_or_ge Integer.greatestWord n.natAbs with hgt | hle
  · obtain ⟨m, left, hvalue, rfl, hleast, hword⟩ := value_ofInt_of_lt hgt
    have hsome : scale (Float.ofNat (n.natAbs / 10 ^ left)) left ≠ none := by
      rw [Ne, scale_eq_none_iff hleast hword, tooGreat_le_iff hleast]
      exact not_le.mpr hlt
    obtain ⟨x, hx⟩ := Option.ne_none_iff_exists'.mp hsome
    rw [ofInt, hvalue, real, hx]
    exact ⟨_, rfl⟩
  · have hneg : n < 0 := by
      rw [Integer.least] at hout
      omega
    have hbelow : ¬ (0 < n.natAbs ∧ Integer.least ≤ -n.natAbs) := by omega
    rw [ofInt, value_ofInt_of_le hle, decide_eq_true hneg, signed_true, if_neg hbelow]
    exact ⟨_, rfl⟩

/-- A number that is too great denotes nothing. -/
lemma ofInt_huge (h : tooGreat ≤ n.natAbs) : ofInt n = .hugeNumber := by
  have hgt : Integer.greatestWord < n.natAbs := lt_of_lt_of_le (by decide +kernel) h
  obtain ⟨m, left, hvalue, rfl, hleast, hword⟩ := value_ofInt_of_lt hgt
  have hnone : scale (Float.ofNat (n.natAbs / 10 ^ left)) left = none := by
    rw [scale_eq_none_iff hleast hword, tooGreat_le_iff hleast]
    exact h
  rw [ofInt, hvalue, real, hnone]

end Scalar

end SqlRequest
