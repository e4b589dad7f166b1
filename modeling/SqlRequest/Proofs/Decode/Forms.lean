import SqlRequest.Proofs.Decode.Reordered

/-!
The two forms of a structure in JSON: an object with its fields under their names, and an array
of its fields in the order of declaration.

* `Structure`: the structures of requests. `Json.Keyed`: an object with the values of an array
  under the names of the first fields.
* `Decode.sameOutcome_of_keyed`: they decode to the same, for every layout.
* `Structure.IsVariant.ofWhole_list`: so does a condition that is read as a whole.
* `Structure.forms_agree`: the two forms mean the same, alone and in a list of conditions.
-/

namespace SqlRequest

open Json Layout

/-! ### The structures -/

/-- The structures that requests are made of. -/
inductive Structure : Type → Type 1 where
  | comparison : Structure Comparison
  | branch : Structure Branch
  | fallback : Structure Fallback
  | join : Structure Join
  | groupConcat : Structure GroupConcat
  | grouping : Structure Grouping
  | select : Structure Select
  | selectMany : Structure SelectMany
  | update : Structure Update
  | insert : Structure Insert
  | delete : Structure Delete

namespace Structure

variable {α : Type}

def name : Structure α → String
  | comparison => "SimpleCondition"
  | branch => "FallbackBranch"
  | fallback => "ConditionalFallback"
  | join => "Join"
  | groupConcat => "GroupConcat"
  | grouping => "Grouping"
  | select => "Select"
  | selectMany => "SelectMany"
  | update => "Update"
  | insert => "Insert"
  | delete => "Delete"

def layout : Structure α → Layout α
  | comparison => Comparison.layout
  | branch => Branch.layout
  | fallback => Fallback.layout
  | join => Join.layout
  | groupConcat => GroupConcat.layout
  | grouping => Grouping.layout
  | select => Select.layout
  | selectMany => SelectMany.layout
  | update => Update.layout
  | insert => Insert.layout
  | delete => Delete.layout

def ofJson : Structure α → Decoder α
  | comparison => Comparison.ofJson
  | branch => Branch.ofJson
  | fallback => Fallback.ofJson
  | join => Join.ofJson
  | groupConcat => GroupConcat.ofJson
  | grouping => Grouping.ofJson
  | select => Select.ofJson
  | selectMany => SelectMany.ofJson
  | update => Update.ofJson
  | insert => Insert.ofJson
  | delete => Delete.ofJson

/-- The fields without a default that an object may leave out all the same. -/
def pinned : Structure α → List String
  | delete => ["conditions"]
  | _ => []

/-- The structures that are tried where a condition is expected. -/
inductive IsVariant : ∀ {α : Type}, Structure α → Prop where
  | fallback : IsVariant fallback
  | comparison : IsVariant comparison

lemma ofJson_eq (s : Structure α) : s.ofJson = Decode.struct s.name s.layout := by
  cases s <;> rfl

lemma faithful_layout (s : Structure α) : s.layout.Faithful := by
  cases s with
  | comparison => exact Comparison.faithful_layout
  | branch => exact Branch.faithful_layout
  | fallback => exact Fallback.faithful_layout
  | join => exact Join.faithful_layout
  | groupConcat => exact GroupConcat.faithful_layout
  | grouping => exact Grouping.faithful_layout
  | select => exact Select.faithful_layout
  | selectMany => exact SelectMany.faithful_layout
  | update => exact Update.faithful_layout
  | insert => exact Insert.faithful_layout
  | delete => exact Delete.faithful_layout

lemma nodup_names (s : Structure α) : s.layout.names.Nodup := by
  cases s <;> decide

lemma pinned_subset (s : Structure α) : s.pinned ⊆ s.layout.names := by
  cases s with
  | delete => exact List.cons_subset.mpr ⟨by decide, List.nil_subset _⟩
  | _ => exact List.nil_subset _

lemma exists_respects (s : Structure α) : ∃ R, s.layout.Respects s.pinned R := by
  cases s with
  | comparison => exact ⟨_, Comparison.respects_layout⟩
  | branch => exact ⟨_, @Branch.respects_layout 0⟩
  | fallback => exact ⟨_, @Fallback.respects_layout 0⟩
  | join => exact ⟨_, @Join.respects_layout 0⟩
  | groupConcat => exact ⟨_, @GroupConcat.respects_layout 0⟩
  | grouping => exact ⟨_, @Grouping.respects_layout 0⟩
  | select => exact ⟨_, Select.respects_layout⟩
  | selectMany => exact ⟨_, SelectMany.respects_layout⟩
  | update => exact ⟨_, Update.respects_layout⟩
  | insert => exact ⟨_, Insert.respects_layout⟩
  | delete => exact ⟨_, Delete.respects_layout⟩

end Structure

/-! ### An array and an object with the same values -/

namespace Json

/-- An object that gives the values of an array under the first of the names, in any order. -/
def Keyed (names : List String) (js : List Json) (j : Json) : Prop :=
  js.length ≤ names.length ∧ ∃ ms, j = .record ms ∧ ms.Perm (names.zip js)

variable {names : List String} {js : List Json} {ms : List (String × Json)}

lemma map_fst_zip_of_perm (hlength : js.length ≤ names.length) (h : ms.Perm (names.zip js)) :
    (ms.map Prod.fst).Perm (names.take js.length) := by
  refine (h.map Prod.fst).trans (.of_eq ?_)
  rw [List.zip_eq_zip_take_min, List.map_fst_zip (by simp), min_eq_right hlength]

lemma map_snd_zip_of_perm (hlength : js.length ≤ names.length) (h : ms.Perm (names.zip js)) :
    (ms.map Prod.snd).Perm js :=
  (h.map Prod.snd).trans (.of_eq (List.map_snd_zip hlength))

/-- There is no member of another name. -/
lemma lookup_eq_none_of_perm (h : ms.Perm (names.zip js)) {name : String} (hname : name ∉ names) :
    ms.lookup name = none := by
  refine Decode.lookup_eq_none_iff.mpr fun hmem => hname ?_
  obtain ⟨m, hm, rfl⟩ := List.mem_map.mp hmem
  exact (List.of_mem_zip (h.mem_iff.mp hm)).1

/-- Both have a flaw, or none has. -/
lemma Keyed.readFlaw?_eq_none_iff {j : Json} {room : Nat} (h : j.Keyed names js) :
    (Json.list js).readFlaw? room = none ↔ j.readFlaw? room = none := by
  obtain ⟨hlength, ms, rfl, hms⟩ := h
  cases room with
  | zero => simp [list, record, readFlaw?]
  | succ room =>
      have hvalues := map_snd_zip_of_perm hlength hms
      rw [list, readFlaw?_array, and_iff_left rfl, readFlaw?_record]
      calc (∀ j ∈ js, j.readFlaw? room = none)
          ↔ ∀ j ∈ ms.map Prod.snd, j.readFlaw? room = none :=
            forall_congr' fun j => imp_congr_left hvalues.mem_iff.symm
        _ ↔ ∀ m ∈ ms, m.2.readFlaw? room = none := List.forall_mem_map

end Json

/-- **An array means what an object with the same values means**, for a layout that can be
decoded in either form and whose pinned fields are given. -/
theorem Decode.sameOutcome_of_keyed {α : Type} {l : Layout α} {pinned : List String}
    {R : String → Json → Json → Prop} (hl : l.Faithful) (hnames : l.names.Nodup)
    (hr : l.Respects pinned R) {js : List Json} {j : Json} (h : j.Keyed l.names js)
    (hgiven : ∀ name ∈ pinned, name ∈ l.names.take js.length) (structName : String) :
    SameOutcome (struct structName l (.list js)) (struct structName l j) := by
  obtain ⟨hlength, ms, rfl, hms⟩ := h
  have hkeys := map_fst_zip_of_perm hlength hms
  have hkeys' := map_fst_zip_of_perm hlength (.refl (l.names.zip js))
  have hnodup := hnames.sublist (List.take_sublist js.length _)
  have halike : MembersAlike l.names (fun name j j' => j = j' ∨ R name j j') (l.names.zip js) ms :=
    membersAlike_of_perm (fun _ _ => .inl rfl) hms.symm
  have hget : ∀ name ∈ l.names, Option.Rel (fun j j' => j = j' ∨ R name j j')
      ((partsOfItems structName l.fields js).get name)
      ((partsOfMembers (ms.map fun m => (.name m.1, m.2))).get name) := by
    intro name hname
    rw [get_partsOfMembers]
    exact halike.lookup ((hkeys'.nodup_iff.mpr hnodup).filter _) hname
  have hpinned : ∀ name ∈ pinned, (partsOfItems structName l.fields js).get name ≠ none := by
    intro name hname hnone
    exact lookup_eq_none_iff.mp hnone (hkeys'.mem_iff.mpr (hgiven name hname))
  have hunknown : ∀ m ∈ ms, m.1 ∉ l.names → m.2.skipFlaw? = none := by
    intro m hm hname
    exact absurd (List.of_mem_zip (hms.mem_iff.mp hm)).1 hname
  have hfetch := sameOutcome_iff.mp (hr hget (.inr hpinned))
  rw [sameOutcome_iff]
  intro a
  rw [struct_list_eq_ok_iff hl hnames, struct_record_eq_ok_iff hl,
    and_iff_right ((hkeys.nodup_iff.mpr hnodup).filter _), and_iff_right hunknown,
    and_iff_right (by simpa [names] using hlength)]
  exact hfetch a

namespace Structure

variable {α : Type} {s : Structure α} {js : List Json} {j : Json}

/-- A pinned field that is not left out is given. -/
lemma mem_take_of_pinned {n : Nat} (h : ∀ name ∈ s.layout.names.drop n, name ∉ s.pinned) :
    ∀ name ∈ s.pinned, name ∈ s.layout.names.take n := by
  intro name hname
  have hmem : name ∈ s.layout.names.take n ++ s.layout.names.drop n := by
    rw [List.take_append_drop]
    exact s.pinned_subset hname
  exact (List.mem_append.mp hmem).resolve_right fun hdrop => h name hdrop hname

lemma sameOutcome_of_keyed (h : j.Keyed s.layout.names js)
    (hgiven : ∀ name ∈ s.layout.names.drop js.length, name ∉ s.pinned) :
    Decode.SameOutcome (s.ofJson (.list js)) (s.ofJson j) := by
  obtain ⟨R, hR⟩ := s.exists_respects
  rw [s.ofJson_eq]
  exact Decode.sameOutcome_of_keyed s.faithful_layout s.nodup_names hR h
    (mem_take_of_pinned hgiven) _

/-- An array with an element more than there are fields is none of the structure. -/
lemma fails_of_length_lt (h : s.layout.names.length < js.length) :
    Decode.Fails s.ofJson (.list js) := by
  refine Decode.fails_iff.mpr fun a hdecode => ?_
  rw [s.ofJson_eq, Decode.struct_list_eq_ok_iff s.faithful_layout s.nodup_names] at hdecode
  rw [names, List.length_map] at h
  omega

end Structure

/-! ### Conditions in lists -/

/-- An object that is a condition under the names of one of the structures is the same condition
as an array. -/
lemma Structure.IsVariant.ofWhole_list {α : Type} {s : Structure α} (hs : s.IsVariant)
    {js : List Json} {j : Json} (h : j.Keyed s.layout.names js) {c : Condition}
    (hc : Condition.ofWhole j = .ok c) : Condition.ofWhole (.list js) = .ok c := by
  have hforms := Decode.sameOutcome_iff.mp (sameOutcome_of_keyed h (by cases hs <;> nofun))
  obtain ⟨-, ms, rfl, hms⟩ := h
  rcases Condition.of_ofWhole hc with ⟨f, rfl, hf⟩ | ⟨d, rfl, -, hd⟩
  · cases hs with
    | fallback => exact Condition.ofWhole_of_fallback ((hforms f).mpr hf)
    | comparison =>
        -- an object without the tag
        have hfails := Fallback.fails_of_lookup (lookup_eq_none_of_perm hms (by decide))
        exact absurd hf (Decode.fails_iff.mp hfails f)
  · cases hs with
    | fallback =>
        -- an object without a field
        have hfails := Comparison.fails_of_lookup (lookup_eq_none_of_perm hms (by decide))
        exact absurd hd (Decode.fails_iff.mp hfails d)
    | comparison =>
        have hlist := (hforms d).mpr hd
        exact Condition.ofWhole_of_comparison (Comparison.fails_fallback_of_list hlist) hlist

/-- One item of a list makes the flaw of the list appear or not, as it has one or not. -/
lemma Json.readFlaw?_list_congr {room : Nat} {before after : List Json} {j j' : Json}
    (h : ∀ room, j.readFlaw? room = none ↔ j'.readFlaw? room = none) :
    (Json.list (before ++ j :: after)).readFlaw? room = none ↔
      (Json.list (before ++ j' :: after)).readFlaw? room = none := by
  cases room with
  | zero => simp [list, readFlaw?]
  | succ room =>
      simp only [list, readFlaw?_array, List.forall_mem_append, List.forall_mem_cons, h room]

namespace Structure

variable {α : Type}

/-- **The two forms of a structure mean the same.** An array with values for the first fields
and an object with the same values under their names decode to the same, or both to nothing,
if no field is left out that only an object may leave out. An array with more elements than
there are fields is refused. In a list of conditions, an object that is a condition may be
replaced by the array. -/
theorem forms_agree (s : Structure α) (js : List Json) :
    (∀ j, j.Keyed s.layout.names js →
      (∀ name ∈ s.layout.names.drop js.length, name ∉ s.pinned) →
        Decode.SameOutcome (s.ofJson (.list js)) (s.ofJson j)) ∧
    (s.layout.names.length < js.length → Decode.Fails s.ofJson (.list js)) ∧
    (s.IsVariant → ∀ j, j.Keyed s.layout.names js → ∀ c, Condition.ofWhole j = .ok c →
      ∀ depth before after,
        Decode.SameOutcome (Conditions.ofJson depth (.list (before ++ j :: after)))
          (Conditions.ofJson depth (.list (before ++ .list js :: after)))) := by
  refine ⟨fun j => sameOutcome_of_keyed, fails_of_length_lt, ?_⟩
  intro hs j hj c hc depth before after
  have hitem : Decode.SameOutcome (Condition.ofWhole j) (Condition.ofWhole (.list js)) :=
    .inl ⟨c, hc, hs.ofWhole_list hj hc⟩
  have hflaw : ∀ room, j.readFlaw? room = none ↔ (Json.list js).readFlaw? room = none :=
    fun _ => hj.readFlaw?_eq_none_iff.symm
  refine Conditions.sameOutcome_list (readFlaw?_list_congr hflaw) ?_
  exact List.rel_append (List.forall₂_same.mpr fun _ _ => .refl _)
    (.cons hitem (List.forall₂_same.mpr fun _ _ => .refl _))

/-- A comparison without what comes last in it, as an array. -/
def equalsItems : List Json := [.text "name", .null, .text "=", .text "a"]

/-- The same as an object. -/
def equalsRecord : Json :=
  .record [("queue", .text "a"), ("field", .text "name"), ("logicalOperator", .null),
    ("operator", .text "=")]

theorem forms_agree_equals :
    equalsRecord.Keyed comparison.layout.names equalsItems ∧
      Decode.SameOutcome (Comparison.ofJson (.list equalsItems)) (Comparison.ofJson equalsRecord) ∧
      (∃ cs, Conditions.ofJson 0 (.list [equalsRecord]) = .ok cs ∧
        Conditions.ofJson 0 (.list [.list equalsItems]) = .ok cs) ∧
      Decode.Fails Comparison.ofJson (.list (.replicate 7 .null)) := by
  have hperm := @List.perm_append_comm (String × Json) [("queue", .text "a")]
    [("field", .text "name"), ("logicalOperator", .null), ("operator", .text "=")]
  have hkeyed : equalsRecord.Keyed comparison.layout.names equalsItems :=
    ⟨by decide, _, rfl, hperm⟩
  obtain ⟨hforms, -, hlist⟩ := forms_agree comparison equalsItems
  refine ⟨hkeyed, hforms _ hkeyed fun _ _ => List.not_mem_nil, ?_,
    (forms_agree comparison (.replicate 7 .null)).2.1 (by decide)⟩
  rcases hlist .comparison _ hkeyed _ rfl 0 [] [] with h | ⟨⟨e, he⟩, -⟩
  · exact h
  · -- the object is decoded
    cases he

/-- The conditions of a delete have no default, and yet an object may leave them out. -/
example : Decode.Fails Delete.ofJson (.list [.text "users"]) ∧
    Delete.ofJson (.record [("table", .text "users")]) = .ok (.of ⟨"users"⟩ .none) :=
  ⟨⟨_, rfl⟩, rfl⟩

end Structure

end SqlRequest
