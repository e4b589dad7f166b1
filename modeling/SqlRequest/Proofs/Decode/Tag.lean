import SqlRequest.Proofs.Decode.Untagged

/-!
Objects with the tag of a fallback. The tag is a member like any other: an object that has it
and is no fallback all the same is tried as a comparison, and a comparison does not know the tag.

* `Fallback.WellFormed`: what an object needs beside the tag to be a fallback;
  `Fallback.exists_ofJson_iff`: it needs nothing else.
* `Condition.OfTagged`: the conditions that an object with the tag may be taken for.
* `Condition.ofJson_tagged`: it is taken for one of these, alone and in a list.
-/

namespace SqlRequest

open Layout

/-! ### When a tagged object is a fallback -/

namespace FieldSpec

variable {α : Type} {name : String} {d : Decoder α} {p : Parts}

/-- A field that has to be given is fetched if it is given and decodes. -/
lemma exists_fetch_required :
    (∃ a, (required name d).fetch p = .ok a) ↔ ∃ j, p.get name = some j ∧ ∃ a, d j = .ok a := by
  rw [fetch, required]
  cases p.get name with
  | some j => simp
  | none => simp

/-- A field that may be left out is fetched unless it is given and does not decode. -/
lemma exists_fetch_optional {absent : α} :
    (∃ a, (optional name d absent).fetch p = .ok a) ↔
      ∀ j, p.get name = some j → ∃ a, d j = .ok a := by
  rw [fetch, optional]
  cases p.get name with
  | some j => simp
  | none => simp

end FieldSpec

namespace Fallback

/-- What an object needs beside the tag to be a fallback: none of the fields comes twice, the
connective is fine if there is one, and each branch is there and is fine. -/
structure WellFormed (ms : List (String × Json)) : Prop where
  nodup : ((ms.map Prod.fst).filter fun name => name ∈ layout.names).Nodup
  connective : ∀ j, ms.lookup "logicalOperator" = some j → ∃ c, Connective.ofJson? j = .ok c
  branch : ∀ name ∈ ["if", "then", "else"],
    ∃ j, ms.lookup name = some j ∧ ∃ b, Branch.ofJson j = .ok b

lemma exists_fetch_iff {p : Parts} :
    (∃ f, layout.fetch p = .ok f) ↔
      (FieldSpec.required "type" tag).fetch p = .ok () ∧
        (∃ c, (FieldSpec.optional "logicalOperator" Connective.ofJson? none).fetch p = .ok c) ∧
        (∃ b, (FieldSpec.required "if" Branch.ofJson).fetch p = .ok b) ∧
        (∃ b, (FieldSpec.required "then" Branch.ofJson).fetch p = .ok b) ∧
        ∃ b, (FieldSpec.required "else" Branch.ofJson).fetch p = .ok b := by
  constructor
  · rintro ⟨f, hf⟩
    obtain ⟨htag, hconnective, htest, hyes, hno⟩ := fetch_eq_ok_iff.mp hf
    exact ⟨htag, ⟨_, hconnective⟩, ⟨_, htest⟩, ⟨_, hyes⟩, _, hno⟩
  · rintro ⟨htag, ⟨connective, hconnective⟩, ⟨test, htest⟩, ⟨yes, hyes⟩, no, hno⟩
    exact ⟨⟨connective, test, yes, no⟩,
      fetch_eq_ok_iff.mpr ⟨htag, hconnective, htest, hyes, hno⟩⟩

variable {ms : List (String × Json)}

/-- An object with the tag is a fallback if it is well formed, and only then, where all that is
in it can be skipped. -/
lemma exists_ofJson_iff (htag : ("type", .text "conditionalFallback") ∈ ms)
    (hskip : ∀ m ∈ ms, m.2.skipFlaw? = none) :
    (∃ f, ofJson (.record ms) = .ok f) ↔ WellFormed ms := by
  simp only [ofJson, Decode.struct_record_eq_ok_iff faithful_layout,
    and_iff_right fun m hm _ => hskip m hm, exists_and_left]
  rw [exists_fetch_iff, FieldSpec.exists_fetch_optional, FieldSpec.exists_fetch_required,
    FieldSpec.exists_fetch_required, FieldSpec.exists_fetch_required]
  simp only [Decode.get_partsOfMembers]
  constructor
  · rintro ⟨hnodup, -, hconnective, htest, hyes, hno⟩
    refine ⟨hnodup, hconnective, ?_⟩
    simp only [List.forall_mem_cons]
    exact ⟨htest, hyes, hno, List.forall_mem_nil _⟩
  · rintro ⟨hnodup, hconnective, hbranch⟩
    simp only [List.forall_mem_cons] at hbranch
    obtain ⟨htest, hyes, hno, -⟩ := hbranch
    have htype : ms.lookup "type" = some (.text "conditionalFallback") :=
      Decode.lookup_of_mem hnodup htag (by decide)
    refine ⟨hnodup, ?_, hconnective, htest, hyes, hno⟩
    rw [FieldSpec.fetch, FieldSpec.required, Decode.get_partsOfMembers, htype]
    rfl

end Fallback

/-! ### What a tagged object is taken for -/

namespace Condition

/-- The conditions that an object with the tag may be taken for: a fallback, or else, if it is
not well formed as one, the comparison that it is by itself. Such an object has a text for its
field. -/
inductive OfTagged (ms : List (String × Json)) : Condition → Prop where
  | fallback {f : Fallback} (h : Fallback.ofJson (.record ms) = .ok f) :
      OfTagged ms (.fallback f)
  | comparison {c : Comparison} (hmalformed : ¬Fallback.WellFormed ms)
      (h : Comparison.ofJson (.record ms) = .ok c)
      (hfield : ms.lookup "field" = some (.text c.field.text)) : OfTagged ms (.comparison c)

variable {ms : List (String × Json)} {c : Condition}

lemma ofWhole_tagged_iff (htag : ("type", .text "conditionalFallback") ∈ ms)
    (hskip : ∀ m ∈ ms, m.2.skipFlaw? = none) :
    ofWhole (.record ms) = .ok c ↔ OfTagged ms c := by
  have hwell := Fallback.exists_ofJson_iff htag hskip
  constructor
  · intro h
    rcases of_ofWhole h with ⟨f, rfl, hf⟩ | ⟨d, rfl, hfails, hd⟩
    · exact .fallback hf
    · refine .comparison (fun hms => ?_) hd (Comparison.lookup_field hd)
      obtain ⟨f, hf⟩ := hwell.mpr hms
      exact Decode.fails_iff.mp hfails f hf
  · intro h
    cases h with
    | fallback hf => exact ofWhole_of_fallback hf
    | comparison hmalformed hd _ =>
        refine ofWhole_of_comparison (Decode.fails_iff.mpr fun f hf => ?_) hd
        exact hmalformed (hwell.mp ⟨f, hf⟩)

/-- **The tag decides, up to malformed fallbacks.** An object with the tag is taken for a
fallback or for nothing, unless it is malformed as a fallback and a comparison by itself: then
it is taken for that. It is so alone and in a list of conditions. -/
theorem ofJson_tagged (htag : ("type", .text "conditionalFallback") ∈ ms) :
    (∀ depth c, ofJson depth (.record ms) = .ok c ↔
      (Json.record ms).readFlaw? (deepest - depth) = none ∧ OfTagged ms c) ∧
    ∀ depth js cs, Conditions.ofJson depth (.list js) = .ok cs →
      ∃ items, cs = .list items ∧
        List.Forall₂ (fun j c => j = .record ms → OfTagged ms c) js items := by
  have hwhole : ∀ {room}, (Json.record ms).readFlaw? room = none →
      ∀ c, ofWhole (.record ms) = .ok c ↔ OfTagged ms c := fun hflaw _ =>
    ofWhole_tagged_iff htag fun m hm =>
      Content.skipFlaw?_of_readFlaw? (Json.readFlaw?_of_mem_record hflaw m hm)
  constructor
  · intro depth c
    rw [ofJson_eq_ok_iff]
    exact and_congr_right fun hflaw => hwhole hflaw c
  · intro depth js cs h
    obtain ⟨hflaw, items, rfl, hitems⟩ := Conditions.ofJson_list_eq_ok_iff.mp h
    refine ⟨items, rfl, List.forall₂_iff_zip.mpr ⟨hitems.length_eq, fun {j c} hmem hj => ?_⟩⟩
    have hitem := Json.readFlaw?_of_mem_list hflaw j (List.of_mem_zip hmem).1
    subst hj
    exact (hwhole hitem c).mp (List.forall₂_zip hitems hmem)

/-- The members of an object with the tag, and with a slip in the key of the test. There is a
field beside the branches. -/
def misspelled : List (String × Json) :=
  [("type", .text "conditionalFallback"), ("field", .text "name"),
    ("if", .record [("feild", .text "nick")]),
    ("then", .record [("field", .text "nick"), ("queue", .text "a")]),
    ("else", .list [.text "name"])]

/-- It is taken for a comparison of that field, alone and in a list. -/
theorem misspelled_comparison :
    ("type", .text "conditionalFallback") ∈ misspelled ∧
      ofJson 0 (.record misspelled) = .ok (.comparison (.of ⟨"name"⟩ .null)) ∧
      Conditions.ofJson 0 (.list [.record misspelled]) =
        .ok (.list [.comparison (.of ⟨"name"⟩ .null)]) :=
  ⟨List.mem_cons_self, rfl, rfl⟩

/-- So it is malformed as a fallback. Without the slip it is one. -/
theorem ofJson_tagged_misspelled :
    ("type", .text "conditionalFallback") ∈ misspelled ∧
      OfTagged misspelled (.comparison (.of ⟨"name"⟩ .null)) ∧
      ¬Fallback.WellFormed misspelled ∧
      (∃ items, Conditions.ofJson 0 (.list [.record misspelled]) = .ok (.list items) ∧
        List.Forall₂ (fun j c => j = Json.record misspelled → OfTagged misspelled c)
          [Json.record misspelled] items) ∧
      ∃ f, OfTagged (misspelled.set 2 ("if", .record [("field", .text "nick")])) (.fallback f) := by
  have htag : ("type", .text "conditionalFallback") ∈ misspelled := List.mem_cons_self
  have hmisspelled : OfTagged misspelled (.comparison (.of ⟨"name"⟩ .null)) :=
    (((ofJson_tagged htag).1 0 _).mp rfl).2
  have htag' : ("type", .text "conditionalFallback") ∈
      misspelled.set 2 ("if", .record [("field", .text "nick")]) := List.mem_cons_self
  have hspelled := ((ofJson_tagged htag').1 0
    (.fallback (.of (.of ⟨"nick"⟩) ((Branch.of ⟨"nick"⟩).withQueue (.text "a"))
      (.of ⟨"name"⟩)))).mp rfl
  have hlist : Conditions.ofJson 0 (.list [.record misspelled]) =
      .ok (.list [.comparison (.of ⟨"name"⟩ .null)]) := rfl
  obtain ⟨items, hitems, hforall⟩ := (ofJson_tagged htag).2 0 _ _ hlist
  refine ⟨htag, hmisspelled, ?_, ⟨items, hitems ▸ hlist, hforall⟩, _, hspelled.2⟩
  cases hmisspelled with
  | comparison hmalformed => exact hmalformed

end Condition

end SqlRequest
