/-!
The whole numbers that fit an integer of 64 bits, and those that fit a word of 64 bits
without a sign.
-/

namespace SqlRequest.Integer

/-- The least integer. -/
def least : Int := -9223372036854775808

/-- The greatest integer. -/
def greatest : Int := 9223372036854775807

/-- The greatest word. -/
def greatestWord : Nat := 18446744073709551615

/-- Whether a whole number is an integer. -/
def fits (n : Int) : Bool := least ≤ n && n ≤ greatest

theorem fits_iff {n : Int} : fits n = true ↔ least ≤ n ∧ n ≤ greatest := by
  simp [fits]

theorem fits_toInt (n : Int64) : fits n.toInt = true :=
  fits_iff.2 ⟨Int64.le_toInt n, Int.le_of_lt_add_one (Int64.toInt_lt n)⟩

theorem toInt_ofInt {n : Int} (h : fits n = true) : (Int64.ofInt n).toInt = n := by
  obtain ⟨h₁, h₂⟩ := fits_iff.1 h
  exact Int64.toInt_ofInt_of_le h₁ (Int.lt_add_one_of_le h₂)

end SqlRequest.Integer
