import SqlRequest.Proofs.Decode.Content

/-!
Values that give the same fields: in another order, among other members, or with values that
differ in their turn.

* `Decode.SameOutcome`: two decodings come to the same value, or both to none.
* `Json.MembersAlike`, `Json.ItemsAlike`: members and elements that give fields alike;
  `MembersAlike.lookup`, `ItemsAlike.getElem?`: what they give for a name is alike.
* `Decode.Respects`, `Layout.Respects`: a decoder and a layout do not tell apart what is
  alike; a layout does not if none of its fields does.
* `Decode.sameOutcome_record`, `Decode.sameOutcome_list`: nor does a structure.
-/

namespace SqlRequest

variable {α β : Type}

/-! ### Outcomes -/

namespace Decode

/-- Two decodings come to the same: to one value, or both to none. -/
def SameOutcome (x y : Except DecodeFault α) : Prop :=
  (∃ a, x = .ok a ∧ y = .ok a) ∨ (∃ e, x = .error e) ∧ ∃ e, y = .error e

variable {x y z : Except DecodeFault α}

lemma sameOutcome_iff : SameOutcome x y ↔ ∀ a, x = .ok a ↔ y = .ok a := by
  cases x with
  | ok a =>
      cases y with
      | ok b => simp [SameOutcome, eq_comm]
      | error e => simp [SameOutcome]
  | error e =>
      cases y with
      | ok b => simp [SameOutcome]
      | error e' => simp [SameOutcome]

lemma sameOutcome_iff_toOption : SameOutcome x y ↔ x.toOption = y.toOption := by
  rw [sameOutcome_iff, Option.ext_iff]
  simp only [Content.toOption_eq_some_iff]

lemma SameOutcome.refl (x : Except DecodeFault α) : SameOutcome x x :=
  sameOutcome_iff.mpr fun _ => Iff.rfl

lemma SameOutcome.map (f : α → β) (h : SameOutcome x y) : SameOutcome (x.map f) (y.map f) := by
  rw [sameOutcome_iff_toOption] at h ⊢
  rw [Content.toOption_map, Content.toOption_map, h]

lemma SameOutcome.bind {f g : α → Except DecodeFault β} (h : SameOutcome x y)
    (hfg : ∀ a, SameOutcome (f a) (g a)) : SameOutcome (x >>= f) (y >>= g) := by
  simp only [sameOutcome_iff_toOption] at h hfg ⊢
  rw [Content.toOption_bind, Content.toOption_bind, h]
  exact congrArg _ (funext hfg)

end Decode

/-! ### Parts that are alike -/

namespace Json

/-- Members that give the fields of the names alike: in any order, with values that may differ
as `part` says. Members of other names do not count. -/
def MembersAlike (names : List String) (part : String → Json → Json → Prop)
    (ms ms' : List (String × Json)) : Prop :=
  ∃ ns, (ms.filter fun m => m.1 ∈ names).Perm ns ∧
    List.Forall₂ (fun m m' => m.1 = m'.1 ∧ part m.1 m.2 m'.2) ns
      (ms'.filter fun m => m.1 ∈ names)

/-- How elements at an index may differ: as the field of that index, and not at all after the
last field. -/
def atIndex (names : List String) (part : String → Json → Json → Prop) (i : Nat) :
    Json → Json → Prop :=
  match names[i]? with
  | some name => part name
  | none => Eq

/-- Elements that give the fields of the names alike, in the order of the names. -/
def ItemsAlike (names : List String) (part : String → Json → Json → Prop)
    (js js' : List Json) : Prop :=
  ∀ i : Nat, Option.Rel (atIndex names part i) js[i]? js'[i]?

variable {names : List String} {part : String → Json → Json → Prop}

lemma exists_mem_of_forall₂ {R : α → β → Prop} {as : List α} {bs : List β}
    (h : List.Forall₂ R as bs) {a : α} (ha : a ∈ as) : ∃ b ∈ bs, R a b := by
  induction h with
  | nil => cases ha
  | cons hab _ ih =>
      rcases List.mem_cons.mp ha with rfl | ha
      · exact ⟨_, List.mem_cons_self, hab⟩
      · obtain ⟨b, hb, hR⟩ := ih ha
        exact ⟨b, List.mem_cons_of_mem _ hb, hR⟩

section Members

variable {ms ms' : List (String × Json)}

/-- Permuted members are alike. -/
lemma membersAlike_of_perm (hpart : ∀ name j, part name j j) (h : ms.Perm ms') :
    MembersAlike names part ms ms' :=
  ⟨_, h.filter _, List.forall₂_same.mpr fun m _ => ⟨rfl, hpart m.1 m.2⟩⟩

/-- A member of another name makes no difference. -/
lemma MembersAlike.cons_of_not_mem {name : String} {j : Json} (hname : name ∉ names)
    (h : MembersAlike names part ms ms') : MembersAlike names part ms ((name, j) :: ms') := by
  rw [MembersAlike, List.filter_cons_of_neg (by simpa using hname)]
  exact h

/-- What gives many fields alike gives a few of them alike. -/
lemma MembersAlike.mono {few : List String} (hfew : few ⊆ names)
    (h : MembersAlike names part ms ms') : MembersAlike few part ms ms' := by
  obtain ⟨ns, hperm, hns⟩ := h
  have hfilter : ∀ ms : List (String × Json),
      (ms.filter fun m => m.1 ∈ names).filter (fun m => m.1 ∈ few) =
        ms.filter fun m => m.1 ∈ few := by
    intro ms
    rw [List.filter_filter]
    refine List.filter_congr fun m _ => ?_
    by_cases hm : m.1 ∈ few
    · simp [hm, hfew hm]
    · simp [hm]
  refine ⟨ns.filter fun m => m.1 ∈ few, hfilter ms ▸ hperm.filter _, ?_⟩
  rw [← hfilter ms']
  exact List.rel_filter (fun m m' hm => by simp [hm.1]) hns

/-- The relation of the values may be widened, member by member. -/
lemma MembersAlike.imp {part' : String → Json → Json → Prop}
    (himp : ∀ m ∈ ms, ∀ m' ∈ ms', m.1 ∈ names → part m.1 m.2 m'.2 → part' m.1 m.2 m'.2)
    (h : MembersAlike names part ms ms') : MembersAlike names part' ms ms' := by
  obtain ⟨ns, hperm, hns⟩ := h
  refine ⟨ns, hperm, List.forall₂_iff_zip.mpr ⟨hns.length_eq, fun {m m'} hmem => ?_⟩⟩
  obtain ⟨hname, hpart⟩ := List.forall₂_zip hns hmem
  obtain ⟨hm, hknown⟩ := List.mem_filter.mp (hperm.mem_iff.mpr (List.of_mem_zip hmem).1)
  have hm' : m' ∈ ms' := (List.mem_filter.mp (List.of_mem_zip hmem).2).1
  exact ⟨hname, himp m hm m' hm' (by simpa using hknown) hpart⟩

/-- The names that members give alike are the same ones, as often. -/
lemma MembersAlike.perm_names (h : MembersAlike names part ms ms') :
    ((ms.map Prod.fst).filter fun name => name ∈ names).Perm
      ((ms'.map Prod.fst).filter fun name => name ∈ names) := by
  obtain ⟨ns, hperm, hns⟩ := h
  have hkeys : ns.map Prod.fst = (ms'.filter fun m => m.1 ∈ names).map Prod.fst := by
    rw [← List.forall₂_eq_eq_eq, List.forall₂_map_left_iff, List.forall₂_map_right_iff]
    exact hns.imp fun _ _ h => h.1
  rw [List.filter_map, List.filter_map]
  exact (hperm.map Prod.fst).trans (.of_eq hkeys)

/-- Members that give fields alike, none of them twice, give values for a name that are
alike. -/
lemma MembersAlike.lookup (h : MembersAlike names part ms ms')
    (hnodup : ((ms.map Prod.fst).filter fun name => name ∈ names).Nodup) {name : String}
    (hname : name ∈ names) : Option.Rel (part name) (ms.lookup name) (ms'.lookup name) := by
  have hnodup' := h.perm_names.nodup_iff.mp hnodup
  have hknown : decide (name ∈ names) = true := by simpa using hname
  by_cases hmem : name ∈ ms.map Prod.fst
  · obtain ⟨m, hm, rfl⟩ := List.mem_map.mp hmem
    obtain ⟨ns, hperm, hns⟩ := h
    obtain ⟨m', hm', hsame, hpart⟩ :=
      exists_mem_of_forall₂ hns (hperm.mem_iff.mp (List.mem_filter.mpr ⟨hm, hknown⟩))
    have hm' := (List.mem_filter.mp hm').1
    rw [Decode.lookup_of_mem hnodup hm hknown, hsame,
      Decode.lookup_of_mem hnodup' hm' (hsame ▸ hknown)]
    exact .some (hsame ▸ hpart)
  · have hmem' : name ∉ ms'.map Prod.fst := fun hmem' => by
      have hfilter := h.perm_names.mem_iff.mpr (List.mem_filter.mpr ⟨hmem', hknown⟩)
      exact hmem (List.mem_filter.mp hfilter).1
    rw [Decode.lookup_eq_none_iff.mpr hmem, Decode.lookup_eq_none_iff.mpr hmem']
    exact .none

end Members

section Items

variable {js js' : List Json}

lemma atIndex_idxOf {name : String} (hname : name ∈ names) :
    atIndex names part (names.idxOf name) = part name := by
  rw [atIndex, List.getElem?_idxOf hname]

lemma atIndex_imp {part' : String → Json → Json → Prop} {i : Nat} {j j' : Json}
    (himp : ∀ name, part name j j' → part' name j j') (h : atIndex names part i j j') :
    atIndex names part' i j j' := by
  revert h
  rw [atIndex, atIndex]
  cases names[i]? with
  | some name => exact himp name
  | none => exact id

lemma ItemsAlike.length_eq (h : ItemsAlike names part js js') : js.length = js'.length := by
  have hends : ∀ {as bs : Option Json} {i : Nat},
      Option.Rel (atIndex names part i) as bs → (as = none ↔ bs = none) := by
    rintro _ _ _ (_ | _) <;> simp
  refine le_antisymm ?_ ?_
  · exact List.getElem?_eq_none_iff.mp
      ((hends (h js'.length)).mpr (List.getElem?_eq_none_iff.mpr le_rfl))
  · exact List.getElem?_eq_none_iff.mp
      ((hends (h js.length)).mp (List.getElem?_eq_none_iff.mpr le_rfl))

/-- Elements that give fields alike give values for a name that are alike. -/
lemma ItemsAlike.getElem? (h : ItemsAlike names part js js') {name : String}
    (hname : name ∈ names) :
    Option.Rel (part name) js[names.idxOf name]? js'[names.idxOf name]? := by
  have hindex := h (names.idxOf name)
  rwa [atIndex_idxOf hname] at hindex

/-- The relation of the values may be widened, index by index. -/
lemma ItemsAlike.imp {names' : List String} {part' : String → Json → Json → Prop}
    (himp : ∀ i, ∀ j ∈ js[i]?, ∀ j' ∈ js'[i]?, atIndex names part i j j' →
      atIndex names' part' i j j')
    (h : ItemsAlike names part js js') : ItemsAlike names' part' js js' := by
  intro i
  have hi := h i
  have himp := himp i
  revert hi himp
  generalize js[i]? = a, js'[i]? = a'
  rintro (hj | _) himp
  · exact .some (himp _ rfl _ rfl hj)
  · exact .none

end Items

end Json

/-! ### Decoders and layouts -/

/-- A decoder does not tell apart what is related. -/
def Decode.Respects (d : Decoder α) (R : Json → Json → Prop) : Prop :=
  ∀ ⦃j j' : Json⦄, R j j' → SameOutcome (d j) (d j')

lemma Decode.respects_eq (d : Decoder α) : Respects d Eq := by
  rintro j _ rfl
  exact SameOutcome.refl (d j)

namespace Layout

/-- A layout does not tell apart parts that give values for each field that are the same or
related. If one of the parts stands in an array and the other in an object, the `pinned` fields
have to be given: those that only an object may leave out. -/
def Respects (l : Layout α) (pinned : List String) (R : String → Json → Json → Prop) : Prop :=
  ∀ ⦃p p' : Parts⦄,
    (∀ name ∈ l.names,
      Option.Rel (fun j j' => j = j' ∨ R name j j') (p.get name) (p'.get name)) →
    (p.inArray = p'.inArray ∨ ∀ name ∈ pinned, p.get name ≠ none) →
      Decode.SameOutcome (l.fetch p) (l.fetch p')

variable {pinned : List String} {R : String → Json → Json → Prop}

lemma respects_field {f : FieldSpec α} (hpinned : f.ifShort = f.ifMissing ∨ f.name ∈ pinned)
    (h : Decode.Respects f.decode (R f.name)) : (field f).Respects pinned R := by
  intro p p' hget hforms
  have hrel := hget f.name (List.mem_singleton_self _)
  change Decode.SameOutcome (f.fetch p) (f.fetch p')
  rw [FieldSpec.fetch, FieldSpec.fetch]
  cases hp : p.get f.name with
  | some j =>
      rw [hp] at hrel
      cases hp' : p'.get f.name with
      | none => rw [hp'] at hrel; cases hrel
      | some j' =>
          rw [hp'] at hrel
          cases hrel with
          | some hj =>
              rcases hj with rfl | hj
              · exact .refl _
              · exact h hj
  | none =>
      rw [hp] at hrel
      cases hp' : p'.get f.name with
      | some j' => rw [hp'] at hrel; cases hrel
      | none =>
          -- what the field is then depends on the form, unless the field is pinned
          have habsent : (if p.inArray then f.ifShort else f.ifMissing) =
              if p'.inArray then f.ifShort else f.ifMissing := by
            rcases hforms with harray | hgiven
            · rw [harray]
            · rcases hpinned with hsame | hmem
              · rw [hsame, ite_self, ite_self]
              · exact absurd hp (hgiven f.name hmem)
          simp only [habsent]
          cases if p'.inArray then f.ifShort else f.ifMissing with
          | some a => exact .refl _
          | none => exact .inr ⟨⟨_, rfl⟩, _, rfl⟩

lemma Respects.seq {f : Layout (α → β)} {x : Layout α} (hf : f.Respects pinned R)
    (hx : x.Respects pinned R) : (f <*> x).Respects pinned R := by
  intro p p' hget hforms
  have hnames : (f <*> x : Layout β).names = f.names ++ x.names := List.map_append
  rw [hnames, List.forall_mem_append] at hget
  change Decode.SameOutcome (f.fetch p >>= fun g => x.fetch p >>= fun a => pure (g a))
    (f.fetch p' >>= fun g => x.fetch p' >>= fun a => pure (g a))
  exact (hf hget.1 hforms).bind fun g => (hx hget.2 hforms).bind fun a => .refl _

lemma Respects.map {x : Layout α} (g : α → β) (hx : x.Respects pinned R) :
    (g <$> x).Respects pinned R := by
  intro p p' hget hforms
  exact (hx hget hforms).map g

end Layout

/-! ### Structures and lists -/

namespace Json

/-- Two values that give the fields of a structure alike, both as objects or both as arrays. -/
inductive FieldsAlike (names : List String) (part : String → Json → Json → Prop) :
    Json → Json → Prop where
  | same (j : Json) : FieldsAlike names part j j
  | record {ms ms' : List (String × Json)} (h : MembersAlike names part ms ms') :
      FieldsAlike names part (.record ms) (.record ms')
  | list {js js' : List Json} (h : ItemsAlike names part js js') :
      FieldsAlike names part (.list js) (.list js')

/-- Two arrays with elements that are alike one by one. -/
inductive ListAlike (R : Json → Json → Prop) : Json → Json → Prop where
  | same (j : Json) : ListAlike R j j
  | list {js js' : List Json} (h : List.Forall₂ R js js') : ListAlike R (.list js) (.list js')

/-- Two values that are related, with no flaw in either within so many levels of nesting. -/
def Clean (room : Nat) (R : Json → Json → Prop) (j j' : Json) : Prop :=
  j.readFlaw? room = none ∧ j'.readFlaw? room = none ∧ R j j'

end Json

namespace Decode

variable {l : Layout α} {pinned : List String} {R : String → Json → Json → Prop}

/-- A structure is the same in objects that give its fields alike. -/
lemma sameOutcome_record (hl : l.Faithful) (hr : l.Respects pinned R) {structName : String}
    {ms ms' : List (String × Json)} (hskip : ∀ m ∈ ms, m.2.skipFlaw? = none)
    (hskip' : ∀ m ∈ ms', m.2.skipFlaw? = none)
    (h : Json.MembersAlike l.names (fun name j j' => j = j' ∨ R name j j') ms ms') :
    SameOutcome (struct structName l (.record ms)) (struct structName l (.record ms')) := by
  rw [sameOutcome_iff]
  intro a
  rw [struct_record_eq_ok_iff hl, struct_record_eq_ok_iff hl, ← h.perm_names.nodup_iff]
  refine and_congr_right fun hnodup => ?_
  have hfetch : SameOutcome (l.fetch (partsOfMembers (ms.map fun m => (.name m.1, m.2))))
      (l.fetch (partsOfMembers (ms'.map fun m => (.name m.1, m.2)))) := by
    refine hr (fun name hname => ?_) (.inl rfl)
    rw [get_partsOfMembers, get_partsOfMembers]
    exact h.lookup hnodup hname
  rw [and_iff_right fun m hm _ => hskip m hm, and_iff_right fun m hm _ => hskip' m hm]
  exact sameOutcome_iff.mp hfetch a

/-- A structure is the same in arrays that give its fields alike. -/
lemma sameOutcome_list (hl : l.Faithful) (hnames : l.names.Nodup) (hr : l.Respects pinned R)
    {structName : String} {js js' : List Json}
    (h : Json.ItemsAlike l.names (fun name j j' => j = j' ∨ R name j j') js js') :
    SameOutcome (struct structName l (.list js)) (struct structName l (.list js')) := by
  rw [sameOutcome_iff]
  intro a
  rw [struct_list_eq_ok_iff hl hnames, struct_list_eq_ok_iff hl hnames, h.length_eq]
  refine and_congr_right fun _ => ?_
  have hfetch : SameOutcome (l.fetch (partsOfItems structName l.fields js))
      (l.fetch (partsOfItems structName l.fields js')) :=
    hr (fun name hname => by
      rw [get_partsOfItems hname, get_partsOfItems hname]
      exact h.getElem? hname) (.inl rfl)
  exact sameOutcome_iff.mp hfetch a

/-- **A structure does not tell apart** what gives its fields alike, if none of its fields
does. -/
theorem respects_struct {room : Nat} {part : String → Json → Json → Prop} (hl : l.Faithful)
    (hnames : l.names.Nodup)
    (hr : l.Respects pinned fun name => Json.Clean (room - 1) (part name))
    (structName : String) :
    Respects (struct structName l) (Json.Clean room (Json.FieldsAlike l.names part)) := by
  rintro _ _ ⟨hflaw, hflaw', h⟩
  cases h with
  | same j => exact .refl _
  | @record ms ms' h =>
      have hms := Json.readFlaw?_of_mem_record hflaw
      have hms' := Json.readFlaw?_of_mem_record hflaw'
      refine sameOutcome_record hl hr (fun m hm => Content.skipFlaw?_of_readFlaw? (hms m hm))
        (fun m hm => Content.skipFlaw?_of_readFlaw? (hms' m hm)) ?_
      exact h.imp fun m hm m' hm' _ hpart => .inr ⟨hms m hm, hms' m' hm', hpart⟩
  | @list js js' h =>
      have hjs := Json.readFlaw?_of_mem_list hflaw
      have hjs' := Json.readFlaw?_of_mem_list hflaw'
      refine sameOutcome_list hl hnames hr (h.imp fun i j hj j' hj' => ?_)
      exact Json.atIndex_imp fun name hpart => .inr
        ⟨hjs j (List.mem_of_getElem? hj), hjs' j' (List.mem_of_getElem? hj'), hpart⟩

/-- Items that are related one by one come to the same. -/
lemma sameOutcome_items {d : Decoder α} {R : Json → Json → Prop} (hd : Respects d R)
    {js js' : List Json} (h : List.Forall₂ R js js') :
    SameOutcome (items d js) (items d js') := by
  induction h with
  | nil => exact .refl _
  | cons hj _ ih => exact (hd hj).bind fun a => ih.bind fun as => .refl _

lemma forall₂_clean {room : Nat} {R : Json → Json → Prop} {js js' : List Json}
    (hjs : ∀ j ∈ js, j.readFlaw? room = none) (hjs' : ∀ j ∈ js', j.readFlaw? room = none)
    (h : List.Forall₂ R js js') : List.Forall₂ (Json.Clean room R) js js' := by
  refine List.forall₂_iff_zip.mpr ⟨h.length_eq, fun {j j'} hmem => ?_⟩
  exact ⟨hjs j (List.of_mem_zip hmem).1, hjs' j' (List.of_mem_zip hmem).2,
    List.forall₂_zip h hmem⟩

lemma respects_list {room : Nat} {d : Decoder α} {R : Json → Json → Prop}
    (hd : Respects d (Json.Clean (room - 1) R)) :
    Respects (list d) (Json.Clean room (Json.ListAlike R)) := by
  rintro _ _ ⟨hflaw, hflaw', h⟩
  cases h with
  | same j => exact .refl _
  | @list js js' h =>
      have hitems := sameOutcome_items hd (forall₂_clean (Json.readFlaw?_of_mem_list hflaw)
        (Json.readFlaw?_of_mem_list hflaw') h)
      exact hitems.bind fun as => .refl _

end Decode

end SqlRequest
