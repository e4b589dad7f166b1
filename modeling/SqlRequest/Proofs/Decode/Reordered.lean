import SqlRequest.Proofs.Decode.Alike
import SqlRequest.Proofs.Decode.FrontEnds

/-!
Requests in JSON that differ in the order of their members and in members that are no fields.

* `Branch.Alike`, `Condition.Alike`, `Conditions.Alike`, `Join.Alike`, `Grouping.Alike`,
  `Request.Alike`: two values that differ in nothing else, at any depth. The members of a
  payload are no fields, they keep their order.
* `Condition.respects`, `Conditions.respects`, `Grouping.respects`, `Request.respects`: none of
  the decoders tells such values apart.
* `Request.sameOutcome_of_alike`: they decode to the same request, or both to none.
-/

namespace SqlRequest

open Json Layout

/-! ### Values that are alike -/

def Branch.Alike : Json → Json → Prop := FieldsAlike layout.names fun _ => Eq

/-- The members of a fallback that may differ: its branches. -/
def Fallback.part : String → Json → Json → Prop
  | "if" | "then" | "else" => Branch.Alike
  | _ => Eq

/-- The keys that mean something in a condition, be it a comparison or a fallback. -/
def Condition.keys : List String := Comparison.layout.names ++ Fallback.layout.names

/-- In an array the elements from the third to the fifth are the branches of a fallback. But
after an operator, which is a text, the array can be no fallback and the fifth element is a
wildcard. That is no structure, so it does not vary, unless it is no wildcard either way. -/
inductive Condition.Alike : Json → Json → Prop where
  | same (j : Json) : Alike j j
  | record {ms ms' : List (String × Json)} (h : MembersAlike keys Fallback.part ms ms') :
      Alike (.record ms) (.record ms')
  | list {js js' : List Json} (h : ItemsAlike Fallback.layout.names Fallback.part js js')
      (hwildcard : ∀ s, js[2]? = some (.text s) → ∀ j ∈ js[4]?, ∀ j' ∈ js'[4]?,
        j = j' ∨ Decode.Fails Wildcard.ofJson j ∧ Decode.Fails Wildcard.ofJson j') :
      Alike (.list js) (.list js')

def Conditions.Alike : Json → Json → Prop := ListAlike Condition.Alike

def Join.Alike : Json → Json → Prop := FieldsAlike layout.names fun _ => Eq

def GroupConcat.Alike : Json → Json → Prop := FieldsAlike layout.names fun _ => Eq

def Grouping.part : String → Json → Json → Prop
  | "groups" => ListAlike GroupConcat.Alike
  | _ => Eq

def Grouping.Alike : Json → Json → Prop := FieldsAlike layout.names part

namespace Request

/-- The members of a request that may differ. -/
def part : String → Json → Json → Prop
  | "conditions" => Conditions.Alike
  | "joins" => ListAlike Join.Alike
  | "grouping" => Grouping.Alike
  | _ => Eq

/-- The names of the fields of a request. -/
def Kind.names : Kind → List String
  | .select => Select.layout.names
  | .selectMany => SelectMany.layout.names
  | .update => Update.layout.names
  | .insert => Insert.layout.names
  | .delete => Delete.layout.names

/-- Two values for requests of a kind that differ, at any depth, in the order of members and in
members that are no fields. -/
def Alike (k : Kind) : Json → Json → Prop := FieldsAlike k.names part

end Request

/-! ### Conditions -/

variable {room : Nat}

/-- A field that does not vary. -/
lemma Layout.respects_fixed {α : Type} {f : FieldSpec α} {pinned : List String}
    {R : String → Json → Json → Prop} (hpinned : f.ifShort = f.ifMissing)
    (h : R f.name = Clean room Eq) : (field f).Respects pinned R := by
  refine respects_field (.inl hpinned) fun j j' hj => ?_
  rw [h] at hj
  exact Decode.respects_eq f.decode hj.2.2

lemma Branch.respects_layout : layout.Respects [] fun _ => Clean room Eq :=
  ((respects_fixed rfl rfl).map _).seq (respects_fixed rfl rfl) |>.seq (respects_fixed rfl rfl)
    |>.seq (respects_fixed rfl rfl) |>.seq (respects_fixed rfl rfl)

lemma Branch.respects : Decode.Respects ofJson (Clean room Alike) :=
  Decode.respects_struct faithful_layout nodup_names respects_layout _

lemma Fallback.respects_layout :
    layout.Respects [] fun name => Clean room (Fallback.part name) :=
  ((respects_fixed rfl rfl).map _).seq (respects_fixed rfl rfl)
    |>.seq (respects_field (.inl rfl) Branch.respects)
    |>.seq (respects_field (.inl rfl) Branch.respects)
    |>.seq (respects_field (.inl rfl) Branch.respects)

/-- A value that is alike as a condition is alike as a fallback. -/
lemma Fallback.respects : Decode.Respects ofJson (Clean room Condition.Alike) := by
  rintro j j' ⟨hflaw, hflaw', h⟩
  have halike : FieldsAlike layout.names part j j' := by
    cases h with
    | same j => exact .same j
    | record h => exact .record (h.mono (List.subset_append_right _ _))
    | list h _ => exact .list h
  exact Decode.respects_struct faithful_layout nodup_names respects_layout _
    ⟨hflaw, hflaw', halike⟩

/-- How the fields of a comparison may differ where the elements of an array might be those of a
fallback. -/
def Comparison.part : String → Json → Json → Prop
  | "operator" | "queue" => Branch.Alike
  | "wildcard" => fun j j' => Decode.Fails Wildcard.ofJson j ∧ Decode.Fails Wildcard.ofJson j'
  | _ => Eq

/-- What fails on all objects and arrays does not tell branches apart. -/
lemma Decode.respects_branch {α : Type} {d : Decoder α} (hrecord : ∀ ms, Fails d (.record ms))
    (hlist : ∀ js, Fails d (.list js)) : Respects d Branch.Alike := by
  intro j j' h
  cases h with
  | same j => exact .refl _
  | @record ms ms' _ => exact .inr ⟨hrecord ms, hrecord ms'⟩
  | @list js js' _ => exact .inr ⟨hlist js, hlist js'⟩

lemma Comparison.respects_layout : layout.Respects [] part :=
  ((respects_field (.inl rfl) (Decode.respects_eq _)).map _).seq
    (respects_field (.inl rfl) (Decode.respects_eq _))
    |>.seq (respects_field (.inl rfl)
      (Decode.respects_branch (fun _ => ⟨_, rfl⟩) fun _ => ⟨_, rfl⟩))
    |>.seq (respects_field (.inl rfl)
      (Decode.respects_branch (fun _ => ⟨_, rfl⟩) fun _ => ⟨_, rfl⟩))
    |>.seq (respects_field (.inl rfl) fun _ _ => .inr)
    |>.seq (respects_field (.inl rfl) (Decode.respects_eq _))

lemma Comparison.fails_of_third {js : List Json} {j : Json} (hj : js[2]? = some j)
    (htext : ∀ s, j ≠ .text s) : Decode.Fails ofJson (.list js) :=
  Decode.fails_iff.mpr fun _ h => htext _ (third_of_list h hj)

/-- What is alike as the branch of a fallback and no text is none afterwards. -/
lemma Branch.Alike.ne_text {j j' : Json} (h : Alike j j') (hj : ∀ s, j ≠ .text s) (s : String) :
    j' ≠ .text s := by
  cases h with
  | same j => exact hj s
  | record | list => nofun

/-- An array that is alike as a condition is alike as a comparison, unless its third element is
no operator. -/
lemma Comparison.itemsAlike {js js' : List Json}
    (h : ItemsAlike Fallback.layout.names Fallback.part js js')
    (hwildcard : ∀ s, js[2]? = some (.text s) → ∀ j ∈ js[4]?, ∀ j' ∈ js'[4]?,
      j = j' ∨ Decode.Fails Wildcard.ofJson j ∧ Decode.Fails Wildcard.ofJson j')
    (hthird : ∀ j, js[2]? = some j → ∃ s, j = .text s) :
    ItemsAlike layout.names (fun name j j' => j = j' ∨ part name j j') js js' := by
  refine h.imp fun i j hj j' hj' hpart => ?_
  match i with
  | 0 | 1 | 5 => exact .inl hpart
  | 2 | 3 => exact .inr hpart
  | 4 =>
      obtain ⟨hlength, -⟩ := List.getElem?_eq_some_iff.mp hj
      have hget := List.getElem?_eq_getElem (show 2 < js.length by omega)
      obtain ⟨s, hs⟩ := hthird _ hget
      exact hwildcard s (hget.trans (congrArg some hs)) j hj j' hj'
  | n + 6 => exact hpart

/-- No field of a comparison is a branch. -/
lemma Fallback.part_of_mem_names {name : String} (h : name ∈ Comparison.layout.names) :
    part name = Eq := by
  have hall : ∀ name ∈ ["field", "logicalOperator", "operator", "queue", "wildcard",
      "tableOverride"], part name = Eq := by
    simp only [List.forall_mem_cons]
    exact ⟨rfl, rfl, rfl, rfl, rfl, rfl, List.forall_mem_nil _⟩
  exact hall name h

/-- A value that is alike as a condition is alike as a comparison. -/
lemma Comparison.respects : Decode.Respects ofJson (Clean room Condition.Alike) := by
  rintro _ _ ⟨hflaw, hflaw', h⟩
  cases h with
  | same j => exact .refl _
  | @record ms ms' h =>
      have hms := readFlaw?_of_mem_record hflaw
      have hms' := readFlaw?_of_mem_record hflaw'
      refine Decode.sameOutcome_record faithful_layout respects_layout
        (fun m hm => Content.skipFlaw?_of_readFlaw? (hms m hm))
        (fun m hm => Content.skipFlaw?_of_readFlaw? (hms' m hm)) ?_
      refine (h.mono (List.subset_append_left _ _)).imp fun m _ m' _ hname hpart => .inl ?_
      rwa [Fallback.part_of_mem_names hname] at hpart
  | @list js js' h hwildcard =>
      -- without an operator in the third place neither array is a comparison
      by_cases hthird : ∀ j, js[2]? = some j → ∃ s, j = .text s
      · exact Decode.sameOutcome_list faithful_layout nodup_names respects_layout
          (itemsAlike h hwildcard hthird)
      · push Not at hthird
        obtain ⟨j, hj, htext⟩ := hthird
        have hrel : Option.Rel Branch.Alike js[2]? js'[2]? := h 2
        rw [hj] at hrel
        generalize hj' : js'[2]? = o at hrel
        cases hrel with
        | some halike =>
            exact .inr ⟨fails_of_third hj htext, fails_of_third hj' (halike.ne_text htext)⟩

lemma Condition.respects : Decode.Respects ofWhole (Clean room Alike) := by
  intro j j' h
  have hfallback := Decode.sameOutcome_iff_toOption.mp (Fallback.respects h)
  have hcomparison := Decode.sameOutcome_iff_toOption.mp (Comparison.respects h)
  rw [Decode.sameOutcome_iff_toOption, toOption_ofWhole, toOption_ofWhole, hfallback,
    hcomparison]

/-- Lists of values that come to the same as conditions one by one, come to the same if none of
them has a flaw or both have one. -/
lemma Conditions.sameOutcome_list {depth : Nat} {js js' : List Json}
    (hflaw : (Json.list js).readFlaw? (deepest - depth) = Option.none ↔
      (Json.list js').readFlaw? (deepest - depth) = Option.none)
    (h : List.Forall₂
      (fun j j' => Decode.SameOutcome (Condition.ofWhole j) (Condition.ofWhole j')) js js') :
    Decode.SameOutcome (ofJson depth (.list js)) (ofJson depth (.list js')) := by
  have hitems := Decode.sameOutcome_iff.mp (Decode.sameOutcome_items (fun _ _ h => h) h)
  simp only [Decode.items_eq_ok_iff] at hitems
  rw [Decode.sameOutcome_iff]
  intro cs
  rw [ofJson_list_eq_ok_iff, ofJson_list_eq_ok_iff, hflaw]
  exact and_congr_right fun _ => exists_congr fun items => and_congr_right fun _ => hitems items

lemma Conditions.respects {depth : Nat} :
    Decode.Respects (ofJson depth) (Clean (deepest - depth) Alike) := by
  rintro _ _ ⟨hflaw, hflaw', h⟩
  cases h with
  | same j => exact .refl _
  | @list js js' h =>
      have hitems := Decode.forall₂_clean (readFlaw?_of_mem_list hflaw)
        (readFlaw?_of_mem_list hflaw') h
      exact sameOutcome_list (by rw [hflaw, hflaw']) (hitems.imp fun _ _ hj => Condition.respects hj)

/-! ### Joins and groupings -/

lemma Join.respects_layout : layout.Respects [] fun _ => Clean room Eq :=
  ((respects_fixed rfl rfl).map _).seq (respects_fixed rfl rfl)

lemma Join.respects : Decode.Respects ofJson (Clean room Alike) :=
  Decode.respects_struct faithful_layout nodup_names respects_layout _

lemma GroupConcat.respects_layout : layout.Respects [] fun _ => Clean room Eq :=
  ((respects_fixed rfl rfl).map _).seq (respects_fixed rfl rfl)

lemma GroupConcat.respects : Decode.Respects ofJson (Clean room Alike) :=
  Decode.respects_struct faithful_layout nodup_names respects_layout _

lemma Grouping.respects_layout :
    layout.Respects [] fun name => Clean room (Grouping.part name) :=
  ((respects_fixed rfl rfl).map _).seq
    (respects_field (.inl rfl) (Decode.respects_list GroupConcat.respects))

lemma Grouping.respects : Decode.Respects ofJson (Clean room Alike) :=
  Decode.respects_struct faithful_layout nodup_names respects_layout _

/-- What gives fields alike is the same null, or null neither way. -/
lemma Decode.respects_optional {α : Type} {d : Decoder α} {names : List String}
    {part : String → Json → Json → Prop} (hd : Respects d (Clean room (FieldsAlike names part))) :
    Respects (optional d) (Clean room (FieldsAlike names part)) := by
  rintro j j' ⟨hflaw, hflaw', h⟩
  have hsome := (hd ⟨hflaw, hflaw', h⟩).map some
  cases h with
  | same j => exact .refl _
  | record | list => exact hsome

/-! ### Requests -/

/-- The conditions of a request stand one level deep, and so do its other parts. -/
abbrev Request.Inside (name : String) : Json → Json → Prop := Clean (deepest - 1) (part name)

lemma Select.respects_layout : layout.Respects [] Request.Inside :=
  ((respects_fixed rfl rfl).map _).seq (respects_fixed rfl rfl)
    |>.seq (respects_field (.inl rfl) Conditions.respects)
    |>.seq (respects_field (.inl rfl) (Decode.respects_list Join.respects))
    |>.seq (respects_field (.inl rfl) (Decode.respects_optional Grouping.respects))
    |>.seq (respects_fixed rfl rfl)

lemma SelectMany.respects_layout : layout.Respects [] Request.Inside :=
  ((respects_fixed rfl rfl).map _).seq (respects_field (.inl rfl) Conditions.respects)
    |>.seq (respects_field (.inl rfl) (Decode.respects_list Join.respects))
    |>.seq (respects_field (.inl rfl) (Decode.respects_optional Grouping.respects))
    |>.seq (respects_fixed rfl rfl) |>.seq (respects_fixed rfl rfl) |>.seq (respects_fixed rfl rfl)

lemma Update.respects_layout : layout.Respects [] Request.Inside :=
  ((respects_fixed rfl rfl).map _).seq (respects_fixed rfl rfl)
    |>.seq (respects_field (.inl rfl) Conditions.respects)
    |>.seq (respects_fixed rfl rfl)

lemma Insert.respects_layout : layout.Respects [] Request.Inside :=
  ((respects_fixed rfl rfl).map _).seq (respects_fixed rfl rfl) |>.seq (respects_fixed rfl rfl)

/-- Only an object may leave out the conditions of a delete. -/
lemma Delete.respects_layout : layout.Respects ["conditions"] Request.Inside :=
  ((respects_fixed rfl rfl).map _).seq
    (respects_field (.inr (List.mem_singleton_self _)) Conditions.respects) |>.seq
    (respects_fixed rfl rfl)

namespace Request

/-- No decoder of requests tells apart what is alike. -/
lemma respects (k : Kind) : Decode.Respects (ofJson k) (Clean deepest (Alike k)) := by
  intro j j' h
  cases k with
  | select =>
      exact .map _ (Decode.respects_struct Select.faithful_layout Select.nodup_names
        Select.respects_layout _ h)
  | selectMany =>
      exact .map _ (Decode.respects_struct SelectMany.faithful_layout SelectMany.nodup_names
        SelectMany.respects_layout _ h)
  | update =>
      exact .map _ (Decode.respects_struct Update.faithful_layout Update.nodup_names
        Update.respects_layout _ h)
  | insert =>
      exact .map _ (Decode.respects_struct Insert.faithful_layout Insert.nodup_names
        Insert.respects_layout _ h)
  | delete =>
      exact .map _ (Decode.respects_struct Delete.faithful_layout Delete.nodup_names
        Delete.respects_layout _ h)

/-- **The order of keys and unknown keys do not matter.** Two values without a flaw that differ
in nothing else, at any depth, decode to the same request of each kind, or both to none. -/
theorem sameOutcome_of_alike {k : Kind} {j j' : Json} (hflaw : j.readFlaw? deepest = none)
    (hflaw' : j'.readFlaw? deepest = none) (h : Alike k j j') :
    (∃ r, ofJson k j = .ok r ∧ ofJson k j' = .ok r) ∨
      Decode.Fails (ofJson k) j ∧ Decode.Fails (ofJson k) j' :=
  respects k ⟨hflaw, hflaw', h⟩

/-- A deletion with a comparison and a fallback, the fallback in an array. -/
def orderedDelete : Json :=
  .record [("table", .text "users"),
    ("conditions", .list [
      .record [("field", .text "name"), ("queue", .text "a")],
      .list [.text "conditionalFallback", .null,
        .record [("field", .text "nick"), ("operator", .text "IS NULL")],
        .list [.text "name"], .list [.text "nick"]]])]

/-- The same in another order, with members that mean nothing where they stand: a key of a
comparison in the request, and one of a request in the branch. -/
def shuffledDelete : Json :=
  .record [("queue", .null),
    ("conditions", .list [
      .record [("comment", .list []), ("queue", .text "a"), ("field", .text "name")],
      .list [.text "conditionalFallback", .null,
        .record [("table", .bool true), ("operator", .text "IS NULL"), ("field", .text "nick")],
        .list [.text "name"], .list [.text "nick"]]]),
    ("table", .text "users")]

lemma alike_shuffledDelete : Alike .delete orderedDelete shuffledDelete := by
  have hcomparison : Condition.Alike
      (.record [("field", .text "name"), ("queue", .text "a")])
      (.record [("comment", .list []), ("queue", .text "a"), ("field", .text "name")]) :=
    .record (.cons_of_not_mem (by decide)
      ⟨_, .swap _ _ _, .cons ⟨rfl, rfl⟩ (.cons ⟨rfl, rfl⟩ .nil)⟩)
  have hbranch : Branch.Alike
      (.record [("field", .text "nick"), ("operator", .text "IS NULL")])
      (.record [("table", .bool true), ("operator", .text "IS NULL"), ("field", .text "nick")]) :=
    .record (.cons_of_not_mem (by decide) (membersAlike_of_perm (fun _ _ => rfl) (.swap _ _ _)))
  have hfallback : Condition.Alike
      (.list [.text "conditionalFallback", .null,
        .record [("field", .text "nick"), ("operator", .text "IS NULL")],
        .list [.text "name"], .list [.text "nick"]])
      (.list [.text "conditionalFallback", .null,
        .record [("table", .bool true), ("operator", .text "IS NULL"), ("field", .text "nick")],
        .list [.text "name"], .list [.text "nick"]]) := by
    refine .list (fun i => ?_) nofun
    match i with
    | 0 | 1 => exact .some rfl
    | 2 => exact .some hbranch
    | 3 | 4 => exact .some (.same _)
    | _ + 5 => exact .none
  have hconditions := ListAlike.list (.cons hcomparison (.cons hfallback .nil))
  exact .record (.cons_of_not_mem (by decide)
    ⟨_, .swap _ _ _, .cons ⟨rfl, hconditions⟩ (.cons ⟨rfl, rfl⟩ .nil)⟩)

/-- Both are the same deletion. -/
theorem sameOutcome_of_alike_shuffledDelete :
    orderedDelete.readFlaw? deepest = none ∧ shuffledDelete.readFlaw? deepest = none ∧
      Alike .delete orderedDelete shuffledDelete ∧
        ∃ r, ofJson .delete orderedDelete = .ok r ∧ ofJson .delete shuffledDelete = .ok r := by
  refine ⟨rfl, rfl, alike_shuffledDelete, ?_⟩
  rcases sameOutcome_of_alike rfl rfl alike_shuffledDelete with h | ⟨⟨e, he⟩, -⟩
  · exact h
  · -- the ordered one is decoded
    cases he

end Request

end SqlRequest
