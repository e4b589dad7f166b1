import SqlRequest.Condition.Clause
import SqlRequest.Decode.Basic
import SqlRequest.Proofs.Json.Reading

/-!
Whole numbers that are texts by themselves, as values.

* `Decode.ofText_value`: such a text is decoded to `Value.ofInt`.
* `Value.ofInt_integer`, `Value.ofInt_text`, `Value.ofInt_real`, `Value.ofInt_huge`: an integer, the
  text of the digits, a double, or nothing.
* `Value.Kept`: the numbers that keep their digits. `Value.literal_of_kept`,
  `Value.expand_of_kept`: that is what they show. `Value.toString_inj_of_kept`: so they are told
  apart.
-/

namespace SqlRequest

open Numeral (tooGreat)

/-! ### Texts that are numbers -/

/-- What is read as a value is decoded as that value. -/
lemma Json.ReadAs.decode {α : Type} {d : Decoder α} {i j : Json} (h : ReadAs i.compactChars j) :
    Decode.ofText d i.compact = (d j).mapError .decode := by
  rw [Decode.ofText, h.ofText, Decode.document]
  cases d j <;> rfl

/-- The decoded value of a whole number. -/
def Value.ofInt (n : ℤ) : Except DecodeFault Value := Decode.value (.scalar (.ofInt n))

lemma Decode.ofText_value (n : ℤ) :
    Decode.ofText Decode.value (toString n) = (Value.ofInt n).mapError .decode := by
  have hcompact : (Json.whole n).compact = toString n := String.ofList_toList
  rw [← hcompact, (Json.readAs_whole n).decode, Value.ofInt]

lemma Decode.ofText_value_eq_ok_iff {n : ℤ} {v : Value} :
    Decode.ofText Decode.value (toString n) = .ok v ↔ Value.ofInt n = .ok v := by
  rw [ofText_value]
  cases Value.ofInt n <;> simp [Except.mapError]

namespace Value

variable {n : ℤ} {v : Value}

lemma ofInt_integer (hlow : -2 ^ 63 ≤ n) (hhigh : n < 2 ^ 63) :
    ofInt n = .ok (.integer (Int64.ofInt n)) ∧ (Int64.ofInt n).toInt = n := by
  have hfits : Integer.fits n = true := by
    rw [Integer.fits_iff, Integer.least, Integer.greatest]
    omega
  have hscalar : Scalar.ofInt n = .number (.whole n) := by
    refine Scalar.ofInt_eq ?_ ?_
    · rw [Integer.least]; omega
    · rw [Integer.greatestWord]; omega
  refine ⟨?_, Integer.toInt_ofInt hfits⟩
  rw [ofInt, hscalar, Decode.value, if_pos hfits]

lemma ofInt_text (hlow : 2 ^ 63 ≤ n) (hhigh : n < 2 ^ 64) :
    ofInt n = .ok (.text (toString n)) := by
  have hfits : ¬ Integer.fits n = true := by
    rw [Integer.fits_iff, Integer.least, Integer.greatest]
    omega
  have hscalar : Scalar.ofInt n = .number (.whole n) := by
    refine Scalar.ofInt_eq ?_ ?_
    · rw [Integer.least]; omega
    · rw [Integer.greatestWord]; omega
  rw [ofInt, hscalar, Decode.value, if_neg hfits]

lemma ofInt_real (hout : n < -2 ^ 63 ∨ 2 ^ 64 ≤ n) (hlt : n.natAbs < tooGreat) :
    ∃ x, ofInt n = .ok (.real x) := by
  have hout' : n < Integer.least ∨ Integer.greatestWord < n := by
    rw [Integer.least, Integer.greatestWord]
    omega
  obtain ⟨x, hx⟩ := Scalar.ofInt_real hout' hlt
  refine ⟨x, ?_⟩
  rw [ofInt, hx, Decode.value]

lemma ofInt_huge (h : tooGreat ≤ n.natAbs) : ofInt n = .error (.flaw .malformed) := by
  rw [ofInt, Scalar.ofInt_huge h]
  rfl

/-- There is one thing that may be wrong with a number. -/
lemma eq_of_ofInt_error {e : DecodeFault} (h : ofInt n = .error e) :
    e = .flaw .malformed ∧ Scalar.ofInt n = .hugeNumber := by
  rcases lt_or_ge n.natAbs tooGreat with hlt | hge
  · rcases lt_or_ge n (-2 ^ 63) with hlow | hlow
    · obtain ⟨x, hx⟩ := ofInt_real (.inl hlow) hlt
      simp [hx] at h
    rcases lt_or_ge n (2 ^ 63) with hhigh | hhigh
    · simp [(ofInt_integer hlow hhigh).1] at h
    rcases lt_or_ge n (2 ^ 64) with hword | hword
    · simp [ofInt_text hhigh hword] at h
    · obtain ⟨x, hx⟩ := ofInt_real (.inr hword) hlt
      simp [hx] at h
  · rw [ofInt_huge hge] at h
    exact ⟨(Except.error.inj h).symm, Scalar.ofInt_huge hge⟩

lemma eq_of_ofText_error {e : Error} (h : Decode.ofText Decode.value (toString n) = .error e) :
    e = .decode (.flaw .malformed) ∧ ∃ e', ofInt n = .error e' := by
  rw [Decode.ofText_value] at h
  cases hvalue : ofInt n with
  | ok v =>
      rw [hvalue] at h
      cases h
  | error e' =>
      rw [hvalue, (eq_of_ofInt_error hvalue).1] at h
      exact ⟨(Except.error.inj h).symm, e', rfl⟩

/-- From the least integer to the greatest word of 64 bits. -/
def Kept (n : ℤ) : Prop := -2 ^ 63 ≤ n ∧ n < 2 ^ 64

/-- What is kept is the text of the digits. -/
lemma form_of_kept (hn : Kept n) (h : ofInt n = .ok v) :
    v.form = toString n ∧ v.isNull = false := by
  rcases lt_or_ge n (2 ^ 63) with hlt | hge
  · obtain ⟨hinteger, htoInt⟩ := ofInt_integer hn.1 hlt
    obtain rfl := Except.ok.inj (hinteger.symm.trans h)
    refine ⟨?_, rfl⟩
    change toString (Int64.ofInt n).toInt = toString n
    rw [htoInt]
  · obtain rfl := Except.ok.inj ((ofInt_text hge hn.2).symm.trans h)
    exact ⟨rfl, rfl⟩

/-- What a number is kept as. -/
def ofKept (n : ℤ) : Value := if n < 2 ^ 63 then .integer (Int64.ofInt n) else .text (toString n)

lemma ofInt_of_kept (hn : Kept n) : ofInt n = .ok (ofKept n) := by
  rw [ofKept]
  split
  · next hlt => exact (ofInt_integer hn.1 hlt).1
  · next hge => exact ofInt_text (not_lt.mp hge) hn.2

lemma literal_of_kept (hn : Kept n) (h : ofInt n = .ok v) (q : Quoter) :
    q.literal v = q.quote (toString n) := by
  obtain ⟨hform, hnull⟩ := form_of_kept hn h
  rw [Quoter.literal_of_ne_null q hnull, hform]

lemma expand_of_kept (hn : Kept n) (h : ofInt n = .ok v) :
    Wildcard.none.expand v = toString n := by
  obtain ⟨hform, hnull⟩ := form_of_kept hn h
  rw [Wildcard.expand, hnull, if_neg Bool.false_ne_true, Wildcard.surround, hform]

/-- Numbers that are kept have different digits. -/
lemma toString_inj_of_kept {m : ℤ} (hm : Kept m) (hn : Kept n) (h : toString m = toString n) :
    m = n := by
  have hscalar (k : ℤ) (hk : Kept k) : Scalar.ofInt k = .number (.whole k) := by
    refine Scalar.ofInt_eq ?_ ?_
    · rw [Integer.least]; exact hk.1
    · rw [Integer.greatestWord]; exact Int.le_of_lt_add_one hk.2
  have htokens (k : ℤ) : Token.list (toString k).toList = [.scalar (.ofInt k)] := by
    have hlist := Token.spells_whole k [] (by simp [Delimits])
    rwa [List.append_nil, Token.list] at hlist
  have hsame := htokens m
  rw [h, htokens n, hscalar m hm, hscalar n hn] at hsame
  simpa using hsame.symm

end Value

end SqlRequest
