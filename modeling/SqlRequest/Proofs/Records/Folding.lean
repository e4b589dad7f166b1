import SqlRequest.Proofs.Records.Grouped

/-!
Folding loses nothing and invents nothing. What is collected of the texts of a column
is some of these texts between commas, the first among them; a text that is left out is
contained in what is collected, and one that is kept was not contained in what had been
collected before it.

* `Keeps`: how the texts that are kept are related to all texts so far.
* `Keeps.nil`, `Keeps.concat_of_within`, `Keeps.concat_of_not_within`: it holds of the
  first text alone, and one more text preserves it. A text that was left out stays
  contained, since a comma parts what comes later from what it was contained in.
* `keeps_foldTexts`: it holds of what is collected of any texts.
* `keeps_of_ofRows`: so it does of every field of every record.
-/

namespace SqlRequest

/-- Of a first text and the texts `vs` after it, the first one and `ks` are kept. -/
structure Keeps (v : String) (vs ks : List String) : Prop where
  /-- What is kept comes in the order in which it came up. -/
  sublist : ks.Sublist vs
  /-- Every text, kept or not, is contained in what is collected. -/
  within : ∀ w ∈ v :: vs, Within w (",".intercalate (v :: ks))
  /-- What is kept was not contained in what was kept before it. -/
  fresh : ∀ before w after, v :: ks = before ++ w :: after → before ≠ [] →
    ¬ Within w (",".intercalate before)

lemma intercalate_concat {ts : List String} (h : ts ≠ []) (t : String) :
    ",".intercalate (ts ++ [t]) = ",".intercalate ts ++ "," ++ t := by
  rw [String.intercalate_append_of_ne_nil h (by simp), String.intercalate_singleton]

variable {v w : String} {vs ks : List String}

lemma Keeps.nil (v : String) : Keeps v [] [] where
  sublist := List.Sublist.refl []
  within := by simpa using within_refl v
  fresh := by
    intro before w after h hne
    obtain ⟨b, bs, rfl⟩ := List.exists_cons_of_ne_nil hne
    simp at h

/-- A text that is contained is left out. -/
lemma Keeps.concat_of_within (h : Keeps v vs ks) (hw : Within w (",".intercalate (v :: ks))) :
    Keeps v (vs ++ [w]) ks where
  sublist := h.sublist.trans (List.sublist_append_left vs [w])
  within := by
    rw [← List.cons_append, List.forall_mem_append]
    exact ⟨h.within, by simpa using hw⟩
  fresh := h.fresh

/-- A text that is not contained is kept. What was contained before still is, for the
new text comes after a comma. -/
lemma Keeps.concat_of_not_within (h : Keeps v vs ks)
    (hw : ¬ Within w (",".intercalate (v :: ks))) : Keeps v (vs ++ [w]) (ks ++ [w]) where
  sublist := h.sublist.append (List.Sublist.refl [w])
  within := by
    have hjoin : ",".intercalate (v :: (ks ++ [w])) = ",".intercalate (v :: ks) ++ "," ++ w :=
      intercalate_concat (List.cons_ne_nil v ks) w
    rw [hjoin, ← List.cons_append, List.forall_mem_append]
    refine ⟨fun u hu => (h.within u hu).append_comma w, ?_⟩
    simpa using within_append_comma (",".intercalate (v :: ks)) w
  fresh := by
    intro before u after hsplit hne
    rcases List.eq_nil_or_concat after with rfl | ⟨after, a, rfl⟩
    · -- the text that has just been kept
      rw [← List.cons_append] at hsplit
      obtain ⟨rfl, hu⟩ := List.append_inj' hsplit rfl
      obtain rfl : w = u := by simpa using hu
      exact hw
    · -- a text that was kept before
      have hsplit' : (v :: ks) ++ [w] = (before ++ u :: after) ++ [a] := by simpa using hsplit
      exact h.fresh before u after (List.append_inj' hsplit' rfl).1 hne

/-- **What is collected of some texts**: the first one and those of the others that are
kept, between commas. -/
theorem keeps_foldTexts (v : String) (vs : List String) :
    ∃ ks, foldTexts (v :: vs) = ",".intercalate (v :: ks) ∧ Keeps v vs ks := by
  induction vs using List.reverseRecOn with
  | nil => exact ⟨[], by simp [foldTexts], Keeps.nil v⟩
  | append_singleton vs w ih =>
      obtain ⟨ks, htext, hks⟩ := ih
      have hstep : foldTexts (v :: (vs ++ [w])) = addText (foldTexts (v :: vs)) w := by
        rw [foldTexts, List.foldl_append]
        rfl
      rw [hstep, htext, addText]
      by_cases hw : Within w (",".intercalate (v :: ks))
      · exact ⟨ks, by rw [if_pos hw], hks.concat_of_within hw⟩
      · refine ⟨ks ++ [w], ?_, hks.concat_of_not_within hw⟩
        rw [if_neg hw, ← List.cons_append, intercalate_concat (List.cons_ne_nil v ks)]

/-! ### Fields of records -/

/-- The string forms of a column in the rows of an address, in order. The first row
decides what the key is. -/
def formsAt (rows : List Row) (k column : String) : List String :=
  let key := rows.head?.bind fun r => keyOf r.columns
  formsOf column ((rowsAt key rows k).flatMap Row.cells)

/-- A field of a record is collected of the forms of its column. -/
lemma get?_get?_ofRows {rows : List Row} {records : Records} {record : Record}
    {k column text : String} (hrows : Records.ofRows rows = some records)
    (hk : records.get? k = some record) (hc : record.get? column = some text) :
    formsAt rows k column ≠ [] ∧ text = foldTexts (formsAt rows k column) := by
  cases rows with
  | nil => simp [Records.ofRows] at hrows
  | cons first rest =>
      rw [ofRows_cons, Option.some.injEq] at hrows
      rw [← hrows, get?_grouped] at hk
      split at hk
      · simp at hk
      rw [Option.some.injEq] at hk
      rw [← hk, recordOf, OrderedMap.get?_tabulate] at hc
      split at hc
      · next hmem =>
        obtain ⟨c, hcell, hcol⟩ := List.mem_map.1 hmem
        have hform : c.2.form ∈ formsAt (first :: rest) k column :=
          List.mem_map.2 ⟨c, List.mem_filter.2 ⟨hcell, by simpa using hcol⟩, rfl⟩
        exact ⟨List.ne_nil_of_mem hform, (Option.some.inj hc).symm⟩
      · simp at hc

/-- **Folding loses nothing and invents nothing.** The text of every field is the first
form of its column and some of the others, in order and between commas. Every form is
contained in it, and none of those that were added had been contained before. -/
theorem keeps_of_ofRows {rows : List Row} {records : Records} {record : Record}
    {k column text : String} (hrows : Records.ofRows rows = some records)
    (hk : records.get? k = some record) (hc : record.get? column = some text) :
    ∃ v vs ks, formsAt rows k column = v :: vs ∧ text = ",".intercalate (v :: ks) ∧
      Keeps v vs ks := by
  obtain ⟨hne, htext⟩ := get?_get?_ofRows hrows hk hc
  obtain ⟨v, vs, hforms⟩ := List.exists_cons_of_ne_nil hne
  obtain ⟨ks, hfold, hks⟩ := keeps_foldTexts v vs
  exact ⟨v, vs, ks, hforms, by rw [htext, hforms, hfold], hks⟩

/-- A capital sigma that ends a word does not contain one that stands alone, and a word
in small letters adds nothing to the same word in capitals. -/
theorem keeps_of_ofRows_sigma :
    let row (s : String) : Row := ⟨["roadId", "name"], [.text "7", .text s], rfl⟩
    let rows := [row "ΟΔΟΣ", row "Σ", row "οδος"]
    ∃ records record text, Records.ofRows rows = some records ∧
      records.get? "7" = some record ∧ record.get? "name" = some text ∧ text = "ΟΔΟΣ,Σ" ∧
        ∃ v vs ks, formsAt rows "7" "name" = v :: vs ∧ text = ",".intercalate (v :: ks) ∧
          Keeps v vs ks := by
  intro row rows
  have htext : ((Records.ofRows rows).bind fun records =>
      (records.get? "7").bind fun record => record.get? "name") = some "ΟΔΟΣ,Σ" := by
    decide +kernel
  obtain ⟨records, hrows, hrest⟩ := Option.bind_eq_some_iff.1 htext
  obtain ⟨record, hk, hc⟩ := Option.bind_eq_some_iff.1 hrest
  exact ⟨records, record, _, hrows, hk, hc, rfl, keeps_of_ofRows hrows hk hc⟩

end SqlRequest
