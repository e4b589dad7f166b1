import SqlRequest.Json.Printer
import SqlRequest.Json.Reader
import SqlRequest.Proofs.Json.Numeral

/-!
Reading what is written without blanks.

* `Quoted.read_write`: a text between quotes is read as the text.
* `Numeral.read_digits`: the digits of a whole number are read as that number.
* `Json.ReadAs`: characters that are read as a value wherever one may stand. `readAs_text`,
  `readAs_whole`, `readAs_list`, `readAs_record`: so are the characters of a value, part by part.
-/

namespace SqlRequest

/-! ### Texts -/

namespace Quoted

/-- One character of a written text is read as itself. -/
lemma read_writeChar (c : Char) (cs : List Char) :
    read none (writeChar c ++ cs) = (read none cs).push c := by
  by_cases hcontrol : c.toNat < 0x20
  · -- each of the controls has an escape, which is read without a look at what follows
    obtain ⟨n, hn, rfl⟩ : ∃ n < 32, c = Char.ofNat n :=
      ⟨c.toNat, hcontrol, (Char.ofNat_toNat c).symm⟩
    interval_cases n <;> rfl
  have hne {d : Char} (hd : d.toNat < 0x20) : c ≠ d := by
    rintro rfl
    exact hcontrol hd
  rw [writeChar]
  split
  · next hquote =>
    subst hquote
    rfl
  · next hquote =>
    split
    · next hbackslash =>
      subst hbackslash
      rfl
    · next hbackslash =>
      rw [if_neg (hne (by decide)), if_neg (hne (by decide)), if_neg (hne (by decide)),
        if_neg (hne (by decide)), if_neg (hne (by decide)), List.singleton_append, read,
        if_neg hcontrol]
      · rfl
      · exact hquote
      all_goals
        intros
        contradiction

lemma read_write (cs rest : List Char) :
    read none (cs.flatMap writeChar ++ '"' :: rest) = .closed (some cs) rest := by
  induction cs with
  | nil => rfl
  | cons c cs ih =>
      rw [List.flatMap_cons, List.append_assoc, read_writeChar, ih]
      rfl

end Quoted

/-! ### Digits -/

/-- What may stand behind a number: nothing that would be a part of it. -/
def Delimits (rest : List Char) : Prop :=
  ∀ c ∈ rest.head?, c.isDigit = false ∧ c ≠ '.' ∧ c ≠ 'e' ∧ c ≠ 'E'

namespace Numeral

variable {rest : List Char}

lemma readFraction?_of_delimits (h : Delimits rest) : readFraction? rest = .ok (none, rest) := by
  cases rest with
  | nil => rfl
  | cons c cs =>
      rw [readFraction?]
      rintro _ heq
      exact (h c rfl).2.1 (List.cons.inj heq).1

lemma readExponent?_of_delimits (h : Delimits rest) : readExponent? rest = .ok (none, rest) := by
  cases rest with
  | nil => rfl
  | cons c cs =>
      have hexponent : ¬ (c = 'e' ∨ c = 'E') := not_or.mpr (h c rfl).2.2
      rw [readExponent?, if_neg hexponent]

/-- A whole number that is not zero has no zero in front. -/
lemma head_toDigits_ne_zero {n : ℕ} (hn : n ≠ 0) : (Nat.toDigits 10 n).head? ≠ some '0' := by
  induction n using Nat.strong_induction_on with
  | _ n ih =>
      rw [Nat.toDigits_eq_if (by decide)]
      split
      · next hlt => interval_cases n <;> first | contradiction | decide
      · next hge =>
        rw [List.head?_append_of_ne_nil _ Nat.toDigits_ne_nil]
        exact ih (n / 10) (by omega) (by omega)

/-- Digits with nothing of a number behind them are read as a whole number. -/
lemma read_digits (negative : Bool) (n : ℕ) (h : Delimits rest) :
    read negative (Nat.toDigits 10 n ++ rest) =
      .ok (⟨negative, Nat.toDigits 10 n, none, none⟩, rest) := by
  have hdigits := isDigit_toDigits n
  have hstop : rest.takeWhile Char.isDigit = [] ∧ rest.dropWhile Char.isDigit = rest := by
    cases rest with
    | nil => exact ⟨rfl, rfl⟩
    | cons c cs =>
        have hc : ¬ c.isDigit = true := by simp [(h c rfl).1]
        exact ⟨List.takeWhile_cons_of_neg hc, List.dropWhile_cons_of_neg hc⟩
  rw [read, List.takeWhile_append_of_pos hdigits, List.dropWhile_append_of_pos hdigits, hstop.1,
    hstop.2, List.append_nil]
  simp only [readFraction?_of_delimits h]
  split
  · next hnil => exact absurd hnil Nat.toDigits_ne_nil
  · next c cs hzero =>
    by_cases hn : n = 0
    · subst hn
      cases hzero
    · exact absurd (congrArg List.head? hzero) (head_toDigits_ne_zero hn)
  · change (readExponent? rest >>= _) = _
    rw [readExponent?_of_delimits h]
    rfl

end Numeral

/-! ### Tokens -/

namespace Token

/-- Characters that are one token of a text, the scalar `s`, as long as no number goes on behind
them. -/
def Spells (cs : List Char) (s : Scalar) : Prop :=
  ∀ rest, Delimits rest → list (cs ++ rest) = .scalar s :: list rest

lemma list_cons {c : Char} (cs : List Char) (hc : isSpace c = false) :
    list (c :: cs) = (next c cs).1 :: list (next c cs).2 := by
  rw [list, if_neg (by simp [hc])]

lemma list_quoted (cs rest : List Char) :
    list (Quoted.write cs ++ rest) = .scalar (.text (String.ofList cs)) :: list rest := by
  have hnext : next '"' (cs.flatMap Quoted.writeChar ++ '"' :: rest) =
      (.scalar (.text (String.ofList cs)), rest) := by
    change ofQuoted _ = _
    rw [ofQuoted, Quoted.read_write]
  rw [Quoted.write, List.cons_append, List.cons_append, List.append_assoc, List.singleton_append,
    list_cons _ (by decide), hnext]

lemma spells_text (s : String) : Spells (Quoted.write s.toList) (.text s) := by
  intro rest _
  rw [list_quoted, String.ofList_toList]

lemma spells_null : Spells "null".toList .null := by
  intro rest _
  change list ('n' :: 'u' :: 'l' :: 'l' :: rest) = _
  rw [list_cons _ (by decide)]
  rfl

/-- A digit begins a number. -/
lemma next_digit {c : Char} (hc : c.isDigit = true) (cs : List Char) :
    next c cs = ofNumeral false (c :: cs) := by
  unfold next
  split
  case h_12 => rw [if_pos hc]
  all_goals contradiction

lemma isSpace_digit {c : Char} (hc : c.isDigit = true) : isSpace c = false := by
  refine Bool.eq_false_iff.mpr fun hspace => ?_
  simp only [isSpace, Bool.or_eq_true, decide_eq_true_eq] at hspace
  rcases hspace with ((rfl | rfl) | rfl) | rfl <;> contradiction

lemma ofNumeral_digits (negative : Bool) (n : ℕ) {rest : List Char} (h : Delimits rest) :
    ofNumeral negative (Nat.toDigits 10 n ++ rest) =
      (.scalar (Numeral.value ⟨negative, Nat.toDigits 10 n, none, none⟩), rest) := by
  rw [ofNumeral, Numeral.read_digits negative n h]

lemma list_digits (n : ℕ) {rest : List Char} (h : Delimits rest) :
    list (Nat.toDigits 10 n ++ rest) =
      .scalar (Numeral.value ⟨false, Nat.toDigits 10 n, none, none⟩) :: list rest := by
  have hnumeral := ofNumeral_digits false n h
  obtain ⟨c, cs, hcs⟩ := List.exists_cons_of_ne_nil (Nat.toDigits_ne_nil (b := 10) (n := n))
  have hdigit : c.isDigit = true := Numeral.isDigit_toDigits n c (by simp [hcs])
  rw [hcs, List.cons_append] at hnumeral ⊢
  rw [list_cons _ (isSpace_digit hdigit), next_digit hdigit, hnumeral]

/-- A whole number is one token. -/
lemma spells_whole (n : ℤ) : Spells (toString n).toList (.ofInt n) := by
  intro rest h
  rw [Int.toString_eq_repr, Int.repr_eq_if, Scalar.ofInt, Numeral.ofInt]
  by_cases hsign : 0 ≤ n
  · have habs : n.natAbs = n.toNat := by omega
    rw [if_pos hsign, Nat.toList_repr, decide_eq_false (not_lt.mpr hsign), habs, list_digits _ h]
  · have habs : n.natAbs = (-n).toNat := by omega
    have hnext : next '-' (Nat.toDigits 10 (-n).toNat ++ rest) =
        (.scalar (Numeral.value ⟨true, Nat.toDigits 10 (-n).toNat, none, none⟩), rest) :=
      ofNumeral_digits true _ h
    rw [if_neg hsign, decide_eq_true (not_le.mp hsign), habs, String.toList_append,
      Nat.toList_repr]
    change list ('-' :: (Nat.toDigits 10 (-n).toNat ++ rest)) = _
    rw [list_cons _ (by decide), hnext]

end Token

/-! ### Values -/

namespace Json

/-- Characters that are read as a value, wherever a value may stand, and whatever comes after it. -/
def ReadAs (cs : List Char) (j : Json) : Prop :=
  ∀ rest, Delimits rest → ∀ first stack,
    read (Token.list (cs ++ rest)) (.value first) stack = read (Token.list rest) (.after j) stack

/-- A text that is read as a value is a document of that value, and of nothing else. -/
lemma ReadAs.ofText {i j : Json} (h : ReadAs i.compactChars j) :
    Document.ofText i.compact = ⟨j, false⟩ := by
  have hread := h [] (by simp [Delimits]) false []
  have hend : Token.list [] = [] := by rw [Token.list]
  rw [List.append_nil, hend] at hread
  rw [Document.ofText, compact, String.toList_ofList, hread, read]

lemma readAs_scalar {cs : List Char} {s : Scalar} (h : Token.Spells cs s) :
    ReadAs cs (.scalar s) := by
  intro rest hrest first stack
  rw [h rest hrest, read]

lemma readAs_null : ReadAs null.compactChars null := readAs_scalar Token.spells_null

lemma readAs_text (s : String) : ReadAs (text s).compactChars (text s) :=
  readAs_scalar (Token.spells_text s)

lemma readAs_whole (n : ℤ) : ReadAs (whole n).compactChars (.scalar (.ofInt n)) :=
  readAs_scalar (Token.spells_whole n)

/-- What stands in an array or an object after its first part. -/
lemma delimits_cons {c : Char} (hc : c = ',' ∨ c = ']' ∨ c = '\x7d') (cs : List Char) :
    Delimits (c :: cs) := by
  rintro _ ⟨⟩
  rcases hc with rfl | rfl | rfl <;> decide

lemma delimits_items (vs : List Json) (rest : List Char) :
    Delimits (compactItems false vs ++ ']' :: rest) := by
  cases vs with
  | nil => exact delimits_cons (by decide) rest
  | cons v vs => exact delimits_cons (by decide) _

lemma delimits_members (ms : List (Key × Json)) (rest : List Char) :
    Delimits (compactMembers false ms ++ '\x7d' :: rest) := by
  cases ms with
  | nil => exact delimits_cons (by decide) rest
  | cons m ms => exact delimits_cons (by decide) _

/-- The items of an array that come after one that has been read, and the end of the array. -/
lemma read_items {vs ws : List Json} (h : List.Forall₂ (fun v w => ReadAs v.compactChars w) vs ws)
    (rest : List Char) (w : Json) (before : List Json) (stack : List Frame) :
    read (Token.list (compactItems false vs ++ ']' :: rest)) (.after w) (.array before :: stack) =
      read (Token.list rest) (.after (.list ((w :: before).reverse ++ ws))) stack := by
  induction h generalizing w before with
  | nil =>
      rw [compactItems, List.nil_append, Token.list_cons _ (by decide), List.append_nil]
      rfl
  | @cons v w' vs ws hv _ ih =>
      have hchars : compactItems false (v :: vs) ++ ']' :: rest =
          ',' :: (v.compactChars ++ (compactItems false vs ++ ']' :: rest)) := by
        simp [compactItems]
      rw [hchars, Token.list_cons _ (by decide)]
      change read (Token.list (v.compactChars ++ (compactItems false vs ++ ']' :: rest)))
        (.value false) (.array (w :: before) :: stack) = _
      rw [hv _ (delimits_items vs rest), ih]
      simp

/-- An array is read as what its items are read as. -/
lemma readAs_list {vs ws : List Json}
    (h : List.Forall₂ (fun v w => ReadAs v.compactChars w) vs ws) :
    ReadAs (list vs).compactChars (list ws) := by
  intro rest _ first stack
  rw [list, compactChars, List.cons_append, List.cons_append, List.append_assoc,
    List.singleton_append, Token.list_cons _ (by decide)]
  change read (Token.list (compactItems true vs ++ ']' :: rest)) (.value true)
    (.array [] :: stack) = _
  cases h with
  | nil =>
      rw [compactItems, List.nil_append, Token.list_cons _ (by decide)]
      rfl
  | @cons v w vs ws hv hvs =>
      have hchars : compactItems true (v :: vs) ++ ']' :: rest =
          v.compactChars ++ (compactItems false vs ++ ']' :: rest) := by
        simp [compactItems]
      rw [hchars, hv _ (delimits_items vs rest), read_items hvs]
      simp

/-- Members are read as members: each key is the same, and each value is read as the other. -/
def ReadMember (m n : String × Json) : Prop := m.1 = n.1 ∧ ReadAs m.2.compactChars n.2

/-- The members of an object, as they are kept. -/
def named (ms : List (String × Json)) : List (Key × Json) := ms.map fun m => (.name m.1, m.2)

/-- A member whose value is read next: its key and the colon. -/
lemma read_member {m n : String × Json} (h : ReadMember m n) {rest : List Char}
    (hrest : Delimits rest) (before : List (Key × Json)) (first : Bool) (stack : List Frame) :
    read (Token.list (Quoted.write m.1.toList ++ ':' :: (m.2.compactChars ++ rest)))
        (.key before first) stack =
      read (Token.list rest) (.after n.2) (.object before (.name n.1) :: stack) := by
  obtain ⟨hkey, hvalue⟩ := h
  rw [Token.list_quoted, String.ofList_toList, Token.list_cons _ (by decide), hkey]
  change read (Token.list (m.2.compactChars ++ rest)) (.value false)
    (.object before (.name n.1) :: stack) = _
  rw [hvalue rest hrest]

/-- The members of an object that come after one that has been read, and the end of the object. -/
lemma read_members {ms ns : List (String × Json)} (h : List.Forall₂ ReadMember ms ns)
    (rest : List Char) (key : Key) (w : Json) (before : List (Key × Json)) (stack : List Frame) :
    read (Token.list (compactMembers false (named ms) ++ '\x7d' :: rest)) (.after w)
        (.object before key :: stack) =
      read (Token.list rest)
        (.after (.object (((key, w) :: before).reverse ++ named ns) .bracket)) stack := by
  induction h generalizing key w before with
  | nil =>
      rw [named, List.map_nil, compactMembers, List.nil_append, Token.list_cons _ (by decide),
        List.append_nil]
      rfl
  | @cons m n ms ns hm _ ih =>
      have hchars : compactMembers false (named (m :: ms)) ++ '\x7d' :: rest =
          ',' :: (Quoted.write m.1.toList ++ ':' :: (m.2.compactChars ++
            (compactMembers false (named ms) ++ '\x7d' :: rest))) := by
        simp [named, compactMembers, Key.chars]
      rw [hchars, Token.list_cons _ (by decide)]
      change read (Token.list (Quoted.write m.1.toList ++ ':' :: (m.2.compactChars ++
        (compactMembers false (named ms) ++ '\x7d' :: rest)))) (.key ((key, w) :: before) false)
          stack = _
      rw [read_member hm (delimits_members _ rest), ih]
      simp [named]

/-- An object is read as an object with the same keys. -/
lemma readAs_record {ms ns : List (String × Json)} (h : List.Forall₂ ReadMember ms ns) :
    ReadAs (record ms).compactChars (record ns) := by
  intro rest _ first stack
  rw [record, compactChars, List.cons_append, List.cons_append, List.append_assoc,
    List.singleton_append, Token.list_cons _ (by decide)]
  change read (Token.list (compactMembers true (named ms) ++ '\x7d' :: rest)) (.key [] true)
    stack = _
  cases h with
  | nil =>
      rw [named, List.map_nil, compactMembers, List.nil_append, Token.list_cons _ (by decide)]
      rfl
  | @cons m n ms ns hm hms =>
      have hchars : compactMembers true (named (m :: ms)) ++ '\x7d' :: rest =
          Quoted.write m.1.toList ++ ':' :: (m.2.compactChars ++
            (compactMembers false (named ms) ++ '\x7d' :: rest)) := by
        simp [named, compactMembers, Key.chars]
      rw [hchars, read_member hm (delimits_members _ rest), read_members hms]
      rfl

end Json

end SqlRequest
