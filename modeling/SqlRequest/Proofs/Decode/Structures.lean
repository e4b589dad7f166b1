import SqlRequest.Decode.Request
import SqlRequest.Proofs.Decode.Layout

/-!
The structures of a request: each of them is decoded by a layout that checks what it
fetches, and no two fields of one have the same name. So `struct_record_eq_ok_iff` and
`struct_list_eq_ok_iff` say when each of them is decoded.

What tells comparisons from fallbacks: a comparison has a field (`Comparison.lookup_field`) and
a fallback a tag (`Fallback.tag_mem_of_ofJson`), and the third element of an array is a text in
a comparison (`Comparison.third_of_list`) and none in a fallback (`Fallback.exists_third`).
-/

namespace SqlRequest

open Layout

lemma Ident.eq_of_ofJson {j : Json} {i : Ident} (h : ofJson j = .ok i) : j = .text i.text := by
  obtain ⟨s, htext, rfl⟩ := map_eq_ok.mp h
  exact Decode.text_eq_ok_iff.mp htext

lemma Comparison.faithful_layout : layout.Faithful :=
  ((faithful_field _).map _).seq (faithful_field _) |>.seq (faithful_field _)
    |>.seq (faithful_field _) |>.seq (faithful_field _) |>.seq (faithful_field _)

lemma Comparison.nodup_names : layout.names.Nodup := by decide

/-- A comparison is fetched if its fields are. -/
lemma Comparison.fetch_eq_ok_iff {p : Parts} {c : Comparison} :
    layout.fetch p = .ok c ↔
      (FieldSpec.required "field" Ident.ofJson).fetch p = .ok c.field ∧
        (FieldSpec.optional "logicalOperator" Connective.ofJson? none).fetch p =
          .ok c.connective ∧
        (FieldSpec.optional "operator" Decode.text "LIKE").fetch p = .ok c.operator ∧
        (FieldSpec.optional "queue" Decode.value .null).fetch p = .ok c.queue ∧
        (FieldSpec.optional "wildcard" Wildcard.ofJson .none).fetch p = .ok c.wildcard ∧
        (FieldSpec.optional "tableOverride" (Decode.optional Ident.ofJson) none).fetch p =
          .ok c.table := by
  constructor
  · intro h
    obtain ⟨_, hfive, table, htable, rfl⟩ := fetch_seq_eq_ok_iff.mp h
    obtain ⟨_, hfour, wildcard, hwildcard, rfl⟩ := fetch_seq_eq_ok_iff.mp hfive
    obtain ⟨_, hthree, queue, hqueue, rfl⟩ := fetch_seq_eq_ok_iff.mp hfour
    obtain ⟨_, htwo, operator, hoperator, rfl⟩ := fetch_seq_eq_ok_iff.mp hthree
    obtain ⟨_, hone, connective, hconnective, rfl⟩ := fetch_seq_eq_ok_iff.mp htwo
    obtain ⟨field, hfield, rfl⟩ := fetch_map_eq_ok_iff.mp hone
    exact ⟨hfield, hconnective, hoperator, hqueue, hwildcard, htable⟩
  · rintro ⟨hfield, hconnective, hoperator, hqueue, hwildcard, htable⟩
    exact fetch_seq_eq_ok_iff.mpr ⟨_, fetch_seq_eq_ok_iff.mpr ⟨_, fetch_seq_eq_ok_iff.mpr
      ⟨_, fetch_seq_eq_ok_iff.mpr ⟨_, fetch_seq_eq_ok_iff.mpr ⟨_, fetch_map_eq_ok_iff.mpr
        ⟨_, hfield, rfl⟩, _, hconnective, rfl⟩, _, hoperator, rfl⟩, _, hqueue, rfl⟩,
          _, hwildcard, rfl⟩, _, htable, rfl⟩

/-- A comparison in an object has a text for its field. -/
lemma Comparison.lookup_field {ms : List (String × Json)} {c : Comparison}
    (h : ofJson (.record ms) = .ok c) : ms.lookup "field" = some (.text c.field.text) := by
  obtain ⟨-, -, hfetch⟩ := (Decode.struct_record_eq_ok_iff faithful_layout).mp h
  obtain ⟨j, hget, hj⟩ := exists_get_of_fetch_required (fetch_eq_ok_iff.mp hfetch).1
  rw [Decode.get_partsOfMembers] at hget
  rw [hget, Ident.eq_of_ofJson hj]

lemma Comparison.fails_of_lookup {ms : List (String × Json)} (h : ms.lookup "field" = none) :
    Decode.Fails ofJson (.record ms) := by
  refine Decode.fails_iff.mpr fun c hcomparison => ?_
  rw [lookup_field hcomparison] at h
  cases h

/-- In an array the third element of a comparison, if there is one, is the text of its
operator. -/
lemma Comparison.third_of_list {js : List Json} {c : Comparison}
    (h : ofJson (.list js) = .ok c) {j : Json} (hj : js[2]? = some j) : j = .text c.operator := by
  obtain ⟨-, hfetch⟩ := (Decode.struct_list_eq_ok_iff faithful_layout nodup_names).mp h
  have hget : (Decode.partsOfItems "SimpleCondition" layout.fields js).get "operator" = some j :=
    (Decode.get_partsOfItems (by decide) js).trans hj
  obtain ⟨-, -, hoperator, -⟩ := fetch_eq_ok_iff.mp hfetch
  exact Decode.text_eq_ok_iff.mp (FieldSpec.decode_of_fetch hoperator hget)

lemma Branch.faithful_layout : layout.Faithful :=
  ((faithful_field _).map _).seq (faithful_field _) |>.seq (faithful_field _)
    |>.seq (faithful_field _) |>.seq (faithful_field _)

lemma Branch.nodup_names : layout.names.Nodup := by decide

/-- A branch is fetched if its fields are. -/
lemma Branch.fetch_eq_ok_iff {p : Parts} {b : Branch} :
    layout.fetch p = .ok b ↔
      (FieldSpec.required "field" Ident.ofJson).fetch p = .ok b.field ∧
        (FieldSpec.optional "operator" (Decode.optional Decode.text) none).fetch p =
          .ok b.operator ∧
        (FieldSpec.optional "queue" Decode.value .null).fetch p = .ok b.queue ∧
        (FieldSpec.optional "wildcard" Wildcard.ofJson .none).fetch p = .ok b.wildcard ∧
        (FieldSpec.optional "tableOverride" (Decode.optional Ident.ofJson) none).fetch p =
          .ok b.table := by
  constructor
  · intro h
    obtain ⟨_, hfour, table, htable, rfl⟩ := fetch_seq_eq_ok_iff.mp h
    obtain ⟨_, hthree, wildcard, hwildcard, rfl⟩ := fetch_seq_eq_ok_iff.mp hfour
    obtain ⟨_, htwo, queue, hqueue, rfl⟩ := fetch_seq_eq_ok_iff.mp hthree
    obtain ⟨_, hone, operator, hoperator, rfl⟩ := fetch_seq_eq_ok_iff.mp htwo
    obtain ⟨field, hfield, rfl⟩ := fetch_map_eq_ok_iff.mp hone
    exact ⟨hfield, hoperator, hqueue, hwildcard, htable⟩
  · rintro ⟨hfield, hoperator, hqueue, hwildcard, htable⟩
    exact fetch_seq_eq_ok_iff.mpr ⟨_, fetch_seq_eq_ok_iff.mpr ⟨_, fetch_seq_eq_ok_iff.mpr
      ⟨_, fetch_seq_eq_ok_iff.mpr ⟨_, fetch_map_eq_ok_iff.mpr ⟨_, hfield, rfl⟩,
        _, hoperator, rfl⟩, _, hqueue, rfl⟩, _, hwildcard, rfl⟩, _, htable, rfl⟩

lemma Fallback.faithful_layout : layout.Faithful :=
  ((faithful_field _).map _).seq (faithful_field _) |>.seq (faithful_field _)
    |>.seq (faithful_field _) |>.seq (faithful_field _)

lemma Fallback.nodup_names : layout.names.Nodup := by decide

/-- A fallback is fetched if its tag and its fields are. -/
lemma Fallback.fetch_eq_ok_iff {p : Parts} {f : Fallback} :
    layout.fetch p = .ok f ↔
      (FieldSpec.required "type" tag).fetch p = .ok () ∧
        (FieldSpec.optional "logicalOperator" Connective.ofJson? none).fetch p =
          .ok f.connective ∧
        (FieldSpec.required "if" Branch.ofJson).fetch p = .ok f.test ∧
        (FieldSpec.required "then" Branch.ofJson).fetch p = .ok f.yes ∧
        (FieldSpec.required "else" Branch.ofJson).fetch p = .ok f.no := by
  constructor
  · intro h
    obtain ⟨_, hfour, no, hno, rfl⟩ := fetch_seq_eq_ok_iff.mp h
    obtain ⟨_, hthree, yes, hyes, rfl⟩ := fetch_seq_eq_ok_iff.mp hfour
    obtain ⟨_, htwo, test, htest, rfl⟩ := fetch_seq_eq_ok_iff.mp hthree
    obtain ⟨_, hone, connective, hconnective, rfl⟩ := fetch_seq_eq_ok_iff.mp htwo
    obtain ⟨⟨⟩, htag, rfl⟩ := fetch_map_eq_ok_iff.mp hone
    exact ⟨htag, hconnective, htest, hyes, hno⟩
  · rintro ⟨htag, hconnective, htest, hyes, hno⟩
    exact fetch_seq_eq_ok_iff.mpr ⟨_, fetch_seq_eq_ok_iff.mpr ⟨_, fetch_seq_eq_ok_iff.mpr
      ⟨_, fetch_seq_eq_ok_iff.mpr ⟨_, fetch_map_eq_ok_iff.mpr ⟨(), htag, rfl⟩,
        _, hconnective, rfl⟩, _, htest, rfl⟩, _, hyes, rfl⟩, _, hno, rfl⟩

/-- A fallback in an object has its tag. -/
lemma Fallback.tag_mem_of_ofJson {ms : List (String × Json)} {f : Fallback}
    (h : ofJson (.record ms) = .ok f) : "type" ∈ ms.map Prod.fst := by
  obtain ⟨-, -, hfetch⟩ := (Decode.struct_record_eq_ok_iff faithful_layout).mp h
  obtain ⟨j, hget, -⟩ := exists_get_of_fetch_required (fetch_eq_ok_iff.mp hfetch).1
  rw [Decode.get_partsOfMembers] at hget
  by_contra hmem
  rw [Decode.lookup_eq_none_iff.mpr hmem] at hget
  cases hget

lemma Fallback.fails_of_lookup {ms : List (String × Json)} (h : ms.lookup "type" = none) :
    Decode.Fails ofJson (.record ms) :=
  Decode.fails_iff.mpr fun _ hfallback =>
    Decode.lookup_eq_none_iff.mp h (tag_mem_of_ofJson hfallback)

/-- In an array the third element of a fallback is its test, and that is no text. -/
lemma Fallback.exists_third {js : List Json} {f : Fallback} (h : ofJson (.list js) = .ok f) :
    ∃ j, js[2]? = some j ∧ ∀ s, j ≠ .text s := by
  obtain ⟨-, hfetch⟩ := (Decode.struct_list_eq_ok_iff faithful_layout nodup_names).mp h
  obtain ⟨j, hget, hj⟩ := exists_get_of_fetch_required (fetch_eq_ok_iff.mp hfetch).2.2.1
  rw [Decode.get_partsOfItems (by decide)] at hget
  refine ⟨j, hget, ?_⟩
  rintro s rfl
  exact Decode.mismatch_ne_ok _ _ _ hj

/-- An array that is a comparison is no fallback: its third element would have to be a text. -/
lemma Comparison.fails_fallback_of_list {js : List Json} {c : Comparison}
    (h : ofJson (.list js) = .ok c) : Decode.Fails Fallback.ofJson (.list js) := by
  refine Decode.fails_iff.mpr fun f hfallback => ?_
  obtain ⟨j, hj, htext⟩ := Fallback.exists_third hfallback
  exact htext _ (third_of_list h hj)

lemma Condition.ofWhole_of_fallback {j : Json} {f : Fallback} (h : Fallback.ofJson j = .ok f) :
    ofWhole j = .ok (.fallback f) := by
  rw [ofWhole, h]

lemma Condition.ofWhole_of_comparison {j : Json} {c : Comparison}
    (hfallback : Decode.Fails Fallback.ofJson j) (h : Comparison.ofJson j = .ok c) :
    ofWhole j = .ok (.comparison c) := by
  obtain ⟨e, he⟩ := hfallback
  rw [ofWhole, he, h]

/-- A value is taken for a condition because it is a fallback, or else a comparison. -/
lemma Condition.of_ofWhole {j : Json} {c : Condition} (h : ofWhole j = .ok c) :
    (∃ f, c = .fallback f ∧ Fallback.ofJson j = .ok f) ∨
      ∃ d, c = .comparison d ∧ Decode.Fails Fallback.ofJson j ∧ Comparison.ofJson j = .ok d := by
  rw [ofWhole] at h
  cases hfallback : Fallback.ofJson j with
  | ok f =>
      rw [hfallback] at h
      exact .inl ⟨f, (Except.ok.inj h).symm, rfl⟩
  | error e =>
      rw [hfallback] at h
      cases hcomparison : Comparison.ofJson j with
      | ok d =>
          rw [hcomparison] at h
          exact .inr ⟨d, (Except.ok.inj h).symm, ⟨e, hfallback⟩, rfl⟩
      | error e' =>
          rw [hcomparison] at h
          cases h

lemma Join.faithful_layout : layout.Faithful :=
  ((faithful_field _).map _).seq (faithful_field _)

lemma Join.nodup_names : layout.names.Nodup := by decide

lemma GroupConcat.faithful_layout : layout.Faithful :=
  ((faithful_field _).map _).seq (faithful_field _)

lemma GroupConcat.nodup_names : layout.names.Nodup := by decide

lemma Grouping.faithful_layout : layout.Faithful :=
  ((faithful_field _).map _).seq (faithful_field _)

lemma Grouping.nodup_names : layout.names.Nodup := by decide

lemma Select.faithful_layout : layout.Faithful :=
  ((faithful_field _).map _).seq (faithful_field _) |>.seq (faithful_field _)
    |>.seq (faithful_field _) |>.seq (faithful_field _) |>.seq (faithful_field _)

lemma Select.nodup_names : layout.names.Nodup := by decide

lemma SelectMany.faithful_layout : layout.Faithful :=
  ((faithful_field _).map _).seq (faithful_field _) |>.seq (faithful_field _)
    |>.seq (faithful_field _) |>.seq (faithful_field _) |>.seq (faithful_field _)
    |>.seq (faithful_field _)

lemma SelectMany.nodup_names : layout.names.Nodup := by decide

lemma Update.faithful_layout : layout.Faithful :=
  ((faithful_field _).map _).seq (faithful_field _) |>.seq (faithful_field _)
    |>.seq (faithful_field _)

lemma Update.nodup_names : layout.names.Nodup := by decide

lemma Insert.faithful_layout : layout.Faithful :=
  ((faithful_field _).map _).seq (faithful_field _) |>.seq (faithful_field _)

lemma Insert.nodup_names : layout.names.Nodup := by decide

lemma Delete.faithful_layout : layout.Faithful :=
  ((faithful_field _).map _).seq (faithful_field _) |>.seq (faithful_field _)

lemma Delete.nodup_names : layout.names.Nodup := by decide

end SqlRequest
