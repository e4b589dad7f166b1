import SqlRequest.Proofs.Quotation.Scan

/-!
Quoted texts tell where they end.

* `readQuoted`: the quotation at the start of a text, and what is left behind it. `MayFollow`: what
  is left does not begin with the mark.
* `readQuoted_eq_some_iff`: what is read is what has been quoted, and nothing else is read.
* `enclose_inj_of_mayFollow`: a text is a quotation and what follows it in one way at most.
* `quotings_selfDelimiting`: so it is with literals and with quoted names.
-/

namespace SqlRequest

/-! ### Reading a quotation -/

/-- The text that is quoted at the start of a text, and what is left behind the closing mark. -/
def readQuoted (mark : Char) (t : String) : Option (String × String) :=
  match t.toList with
  | [] => none
  | c :: cs =>
    if c = mark then (readEnclosed mark cs).map fun p => (String.ofList p.1, String.ofList p.2)
    else none

/-- A text that does not begin with the mark: what follows a quotation, since another mark would
not let it end. -/
def MayFollow (mark : Char) (r : String) : Prop := r.toList.head? ≠ some mark

instance (mark : Char) (r : String) : Decidable (MayFollow mark r) :=
  inferInstanceAs (Decidable (_ ≠ _))

variable {mark : Char} {t v w r s : String}

lemma not_mayFollow_iff : ¬MayFollow mark r ↔ ∃ u, r = String.singleton mark ++ u := by
  rw [MayFollow, not_not]
  constructor
  · intro h
    obtain ⟨cs, hcs⟩ := List.head?_eq_some_iff.mp h
    refine ⟨String.ofList cs, String.toList_injective ?_⟩
    simp [hcs]
  · rintro ⟨u, rfl⟩
    simp

/-- The mark does not follow where a quotation was read. -/
lemma head?_of_readEnclosed {cs inside rest : List Char}
    (h : readEnclosed mark cs = some (inside, rest)) : rest.head? ≠ some mark := by
  fun_induction readEnclosed mark cs generalizing inside rest with
  | case1 => simp at h
  | case2 =>
      simp only [Option.some.injEq, Prod.mk.injEq] at h
      obtain ⟨-, rfl⟩ := h
      simp
  | case3 => simp at h
  | case4 cs ih | case6 _ _ cs _ ih =>
      obtain ⟨⟨inside', rest'⟩, hread, hp⟩ := Option.map_eq_some_iff.mp h
      obtain ⟨-, rfl⟩ := Prod.mk.inj hp
      exact ih hread
  | case5 d cs hd =>
      simp only [Option.some.injEq, Prod.mk.injEq] at h
      obtain ⟨-, rfl⟩ := h
      simpa using hd

lemma toList_enclose_append :
    (enclose mark v ++ r).toList = mark :: (doubled mark v.toList ++ mark :: r.toList) := by
  simp [toList_enclose, encloseChars]

/-- What is quoted is read back before everything that may follow, and what is read has been
quoted. -/
lemma readQuoted_eq_some_iff :
    readQuoted mark t = some (v, r) ↔ t = enclose mark v ++ r ∧ MayFollow mark r := by
  constructor
  · intro h
    rw [readQuoted] at h
    split at h
    · cases h
    · next c cs hcs =>
      rw [Option.ite_none_right_eq_some] at h
      obtain ⟨rfl, h⟩ := h
      obtain ⟨⟨inside, rest⟩, hread, hp⟩ := Option.map_eq_some_iff.mp h
      obtain ⟨rfl, rfl⟩ := Prod.mk.inj hp
      constructor
      · rw [← String.toList_inj, hcs, toList_enclose_append, doubled_of_readEnclosed hread,
          String.toList_ofList, String.toList_ofList]
      · rw [MayFollow, String.toList_ofList]
        exact head?_of_readEnclosed hread
  · rintro ⟨rfl, hr⟩
    rw [readQuoted, toList_enclose_append]
    simp only [if_true, readEnclosed_body hr, Option.map_some, String.ofList_toList]

/-- A quotation and what follows it are told apart. -/
lemma enclose_inj_of_mayFollow (hr : MayFollow mark r) (hs : MayFollow mark s)
    (h : enclose mark v ++ r = enclose mark w ++ s) : v = w ∧ r = s := by
  have hv : readQuoted mark (enclose mark v ++ r) = some (v, r) :=
    readQuoted_eq_some_iff.mpr ⟨rfl, hr⟩
  have hw : readQuoted mark (enclose mark v ++ r) = some (w, s) :=
    readQuoted_eq_some_iff.mpr ⟨h, hs⟩
  exact Prod.mk.inj (Option.some.inj (hv.symm.trans hw))

/-! ### Literals and names -/

/-- A way to quote whose texts tell where they end. -/
structure SelfDelimiting (mark : Char) (quote : String → String) : Prop where
  /-- Before what may follow the quoted text is read back, all of it and nothing more. Nothing else
  is read. -/
  read_iff : ∀ t v r, readQuoted mark t = some (v, r) ↔ t = quote v ++ r ∧ MayFollow mark r
  /-- Two quoted texts, each before what may follow, are equal only part by part. -/
  inj : ∀ v w r s, MayFollow mark r → MayFollow mark s → quote v ++ r = quote w ++ s →
    v = w ∧ r = s
  /-- No quoted text is another one with something behind it that may follow. -/
  ne_append : ∀ v w r, v ≠ w → MayFollow mark r → quote w ≠ quote v ++ r
  /-- Where a quoted text is the beginning of another one, alone or before what may follow, the
  mark comes next, so that it does not end there. -/
  mark_next : ∀ v w r s, v ≠ w → MayFollow mark s → quote w ++ s = quote v ++ r →
    ∃ u, r = String.singleton mark ++ u
  injective : Function.Injective quote

lemma mayFollow_empty : MayFollow mark "" := by simp [MayFollow]

lemma selfDelimiting_enclose (mark : Char) : SelfDelimiting mark (enclose mark) where
  read_iff _ _ _ := readQuoted_eq_some_iff
  inj _ _ _ _ := enclose_inj_of_mayFollow
  ne_append v w r hne hr h := by
    rw [← String.append_empty (s := enclose mark w)] at h
    exact hne (enclose_inj_of_mayFollow mayFollow_empty hr h).1.symm
  mark_next v w r s hne hs h := by
    rw [← not_mayFollow_iff]
    exact fun hr => hne (enclose_inj_of_mayFollow hs hr h).1.symm
  injective v w h := by
    have hboth : enclose mark v ++ "" = enclose mark w ++ "" := by rw [h]
    exact (enclose_inj_of_mayFollow mayFollow_empty mayFollow_empty hboth).1

/-- **Literals and quoted names tell where they end.** Whatever characters a text has, marks at its
end included, it is read back from its quoted form before everything that does not begin with the
mark, and exactly that is left. So no quoted form is another one with such a rest behind it, and
different texts have different quoted forms. -/
theorem quotings_selfDelimiting :
    SelfDelimiting '\'' quoteLiteral ∧ SelfDelimiting '\x60' backtick :=
  ⟨selfDelimiting_enclose '\'', selfDelimiting_enclose '\x60'⟩

/-- A text that ends with a run of marks, before a rest that has marks further on. -/
theorem quotings_selfDelimiting_run :
    MayFollow '\'' ", ''" ∧
      readQuoted '\'' (quoteLiteral "it''" ++ ", ''") = some ("it''", ", ''") ∧
      MayFollow '\x60' "=\x60" ∧
      readQuoted '\x60' (backtick "\x60" ++ "=\x60") = some ("\x60", "=\x60") := by
  obtain ⟨hliteral, hname⟩ := quotings_selfDelimiting
  have hcomma : MayFollow '\'' ", ''" := by decide
  have hequals : MayFollow '\x60' "=\x60" := by decide
  exact ⟨hcomma, (hliteral.read_iff _ _ _).mpr ⟨rfl, hcomma⟩, hequals,
    (hname.read_iff _ _ _).mpr ⟨rfl, hequals⟩⟩

end SqlRequest
