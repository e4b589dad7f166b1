import SqlRequest.Decode.Layout
import SqlRequest.Proofs.Fallible
import SqlRequest.Proofs.Json.Flaws
import SqlRequest.Proofs.OrderedMap

/-!
When a structure is decoded. A layout checks the parts of a value in the order of the text
and then fetches its fields. What comes of it does not depend on that order.

* `Layout.Faithful`: whatever a layout fetches would have passed its check. Layouts are
  faithful field by field.
* `Decode.struct_record_eq_ok_iff`: a structure is decoded from an object exactly if no
  field is given twice, what is no field can be skipped, and the fields can be fetched.
* `Decode.struct_list_eq_ok_iff`: the same for an array, which may not be too long.
* `Decode.items_eq_ok_iff`, `Decode.items_fails_iff`: a list is decoded item by item, and
  is not if one item is not. `Decode.members_eq_ok_iff`: the same for members.
-/

namespace SqlRequest

variable {α β : Type}

lemma Decode.unflawed_eq_ok_iff {o : Option Flaw} : unflawed o = .ok () ↔ o = none := by
  cases o <;> simp [unflawed]

lemma Decode.mismatch_ne_ok (expected : String) (j : Json) (a : α) :
    (mismatch expected j : Except DecodeFault α) ≠ .ok a := by
  rw [mismatch]
  cases found j <;> nofun

/-- A text is decoded from itself, and from nothing else. -/
lemma Decode.text_eq_ok_iff {j : Json} {s : String} : text j = .ok s ↔ j = .text s := by
  constructor
  · intro h
    unfold text at h
    split at h
    · exact congrArg Json.text (Except.ok.inj h)
    · exact absurd h (mismatch_ne_ok _ _ _)
  · rintro rfl
    rfl

/-- The items of an array are decoded exactly if each of them is. -/
lemma Decode.items_eq_ok_iff {d : Decoder α} {js : List Json} {as : List α} :
    items d js = .ok as ↔ List.Forall₂ (fun j a => d j = .ok a) js as := by
  induction js generalizing as with
  | nil =>
      rw [items, List.forall₂_nil_left_iff]
      exact ⟨fun h => (Except.ok.inj h).symm, fun h => h ▸ rfl⟩
  | cons j js ih =>
      rw [items, bind_eq_ok, List.forall₂_cons_left_iff]
      refine exists_congr fun a => ?_
      rw [bind_eq_ok]
      constructor
      · rintro ⟨hj, as', hjs, has⟩
        exact ⟨as', hj, ih.mp hjs, (Except.ok.inj has).symm⟩
      · rintro ⟨as', hj, hjs, rfl⟩
        exact ⟨hj, as', ih.mpr hjs, rfl⟩

/-- A decoder fails on a value. -/
def Decode.Fails (d : Decoder α) (j : Json) : Prop := ∃ e, d j = .error e

lemma Decode.fails_iff {d : Decoder α} {j : Json} : Fails d j ↔ ∀ a, d j ≠ .ok a := by
  rw [Fails]
  cases d j with
  | ok a => simp
  | error e => simp

lemma Decode.items_congr {d d' : Decoder α} {js : List Json} (h : ∀ j ∈ js, d j = d' j) :
    items d js = items d' js := by
  induction js with
  | nil => rfl
  | cons j js ih =>
      rw [List.forall_mem_cons] at h
      rw [items, items, h.1, ih h.2]

/-- One item that is not decoded is enough for the array not to be. -/
lemma Decode.items_fails_iff {d : Decoder α} {js : List Json} :
    (∃ e, items d js = .error e) ↔ ∃ j ∈ js, Fails d j := by
  induction js with
  | nil => simp [items]
  | cons j js ih =>
      rw [List.exists_mem_cons_iff, ← ih, items, Fails]
      cases d j with
      | error e => simp [bind, Except.bind]
      | ok a => cases items d js <;> simp [bind, Except.bind, pure, Except.pure]

/-- The members of an object are decoded exactly if each of them is. -/
lemma Decode.members_eq_ok_iff {d : Decoder α} {ms : List (String × Json)}
    {as : List (String × α)} :
    members d (ms.map fun m => (.name m.1, m.2)) = .ok as ↔
      List.Forall₂ (fun m a => m.1 = a.1 ∧ d m.2 = .ok a.2) ms as := by
  induction ms generalizing as with
  | nil =>
      rw [List.map_nil, members, List.forall₂_nil_left_iff]
      exact ⟨fun h => (Except.ok.inj h).symm, fun h => h ▸ rfl⟩
  | cons m ms ih =>
      rw [List.map_cons, members, List.forall₂_cons_left_iff]
      change (d m.2 >>= fun a => _) = .ok as ↔ _
      rw [bind_eq_ok]
      constructor
      · rintro ⟨a, ha, h⟩
        obtain ⟨as', hms, has⟩ := bind_eq_ok.mp h
        exact ⟨(m.1, a), as', ⟨rfl, ha⟩, ih.mp hms, (Except.ok.inj has).symm⟩
      · rintro ⟨⟨_, a⟩, as', ⟨rfl, ha⟩, hms, rfl⟩
        exact ⟨a, ha, bind_eq_ok.mpr ⟨as', ih.mpr hms, rfl⟩⟩

/-- Members of which one is not decoded, and always for the same reason, are not decoded for that
reason. -/
lemma Decode.members_eq_error {d : Decoder α} {e : DecodeFault} {ms : List (String × Json)}
    (hone : ∀ m ∈ ms, ∀ e', d m.2 = .error e' → e' = e) (h : ∃ m ∈ ms, ∃ e', d m.2 = .error e') :
    members d (ms.map fun m => (.name m.1, m.2)) = .error e := by
  induction ms with
  | nil => simp at h
  | cons m ms ih =>
      rw [List.forall_mem_cons] at hone
      rw [List.map_cons, members]
      cases hm : d m.2 with
      | error e' =>
          obtain rfl := hone.1 e' hm
          rfl
      | ok a =>
          have hrest : ∃ m ∈ ms, ∃ e', d m.2 = .error e' := by
            obtain ⟨m', hm', e', he'⟩ := h
            rcases List.mem_cons.mp hm' with rfl | hm'
            · simp [hm] at he'
            · exact ⟨m', hm', e', he'⟩
          rw [ih hone.2 hrest]
          rfl

/-- A field that is fetched and given has been decoded. -/
lemma FieldSpec.decode_of_fetch {f : FieldSpec α} {p : Parts} {a : α} (h : f.fetch p = .ok a)
    {j : Json} (hj : p.get f.name = some j) : f.decode j = .ok a := by
  rw [FieldSpec.fetch] at h
  simpa only [hj] using h

namespace Layout

/-! ### What a layout fetches -/

/-- The names of the fields. -/
def names (l : Layout α) : List String := l.fields.map FieldCheck.name

section Fetch

variable {f : Layout (α → β)} {x : Layout α} {g : α → β} {p : Parts}

lemma fetch_seq_eq_ok_iff {b : β} :
    (f <*> x).fetch p = .ok b ↔
      ∃ g, f.fetch p = .ok g ∧ ∃ a, x.fetch p = .ok a ∧ g a = b := by
  change (do let g ← f.fetch p; let a ← x.fetch p; return g a) = .ok b ↔ _
  simp only [bind_eq_ok]
  refine exists_congr fun g => and_congr_right fun _ => exists_congr fun a =>
    and_congr_right fun _ => ?_
  exact ⟨fun h => Except.ok.inj h, fun h => h ▸ rfl⟩

lemma fetch_map_eq_ok_iff {b : β} :
    (g <$> x).fetch p = .ok b ↔ ∃ a, x.fetch p = .ok a ∧ g a = b := by
  change (pure g <*> x : Layout β).fetch p = .ok b ↔ _
  rw [fetch_seq_eq_ok_iff]
  constructor
  · rintro ⟨_, ⟨⟩, h⟩
    exact h
  · exact fun h => ⟨g, rfl, h⟩

/-- A field that has to be given is fetched only if it is. -/
lemma exists_get_of_fetch_required {name : String} {d : Decoder α} {a : α}
    (h : (Layout.required name d).fetch p = .ok a) : ∃ j, p.get name = some j ∧ d j = .ok a := by
  change FieldSpec.fetch p (.required name d) = .ok a at h
  rw [FieldSpec.fetch, FieldSpec.required] at h
  cases hget : p.get name with
  | some j => exact ⟨j, rfl, by simpa only [hget] using h⟩
  | none => simp [hget] at h

/-- A field that may be left out is fetched as what it is then, or as what has been decoded. -/
lemma eq_or_exists_of_fetch_optional {name : String} {d : Decoder α} {absent a : α}
    (h : (Layout.optional name d absent).fetch p = .ok a) : a = absent ∨ ∃ j, d j = .ok a := by
  change FieldSpec.fetch p (.optional name d absent) = .ok a at h
  rw [FieldSpec.fetch, FieldSpec.optional] at h
  cases hget : p.get name with
  | some j => exact .inr ⟨j, by simpa only [hget] using h⟩
  | none => exact .inl (by simpa [hget] using h.symm)

end Fetch

/-! ### Faithful layouts -/

/-- What is fetched of a value has been checked: each field that is there passes. -/
def Faithful (l : Layout α) : Prop :=
  ∀ ⦃p : Parts⦄ ⦃a : α⦄, l.fetch p = .ok a →
    ∀ f ∈ l.fields, ∀ j, p.get f.name = some j → f.check j = .ok ()

lemma faithful_field (f : FieldSpec α) : Faithful (field f) := by
  intro p a h g hg j hj
  obtain rfl := List.mem_singleton.mp hg
  change (f.decode j).map _ = .ok ()
  rw [FieldSpec.decode_of_fetch h hj]
  rfl

lemma Faithful.seq {f : Layout (α → β)} {x : Layout α} (hf : f.Faithful) (hx : x.Faithful) :
    (f <*> x).Faithful := by
  intro p b h g hg j hj
  obtain ⟨_, hfetch, _, hfetch', -⟩ := fetch_seq_eq_ok_iff.mp h
  rcases List.mem_append.mp hg with hg | hg
  · exact hf hfetch g hg j hj
  · exact hx hfetch' g hg j hj

lemma Faithful.map {x : Layout α} (g : α → β) (hx : x.Faithful) : (g <$> x).Faithful := by
  intro p b h f hf j hj
  obtain ⟨_, hfetch, -⟩ := fetch_map_eq_ok_iff.mp h
  exact hx hfetch f hf j hj

end Layout

namespace Decode

/-- Whatever a structure is decoded from, its fields have been fetched. -/
lemma exists_fetch_of_struct {l : Layout α} {structName : String} {j : Json} {a : α}
    (h : struct structName l j = .ok a) : ∃ p, l.fetch p = .ok a := by
  unfold struct at h
  split at h
  · obtain ⟨_, -, h⟩ := bind_eq_ok.mp h
    obtain ⟨_, -, hfetch⟩ := bind_eq_ok.mp h
    exact ⟨_, hfetch⟩
  · obtain ⟨_, -, hfetch⟩ := bind_eq_ok.mp h
    exact ⟨_, hfetch⟩
  · exact absurd h (mismatch_ne_ok _ _ _)

/-! ### Objects -/

section Members

variable {fields : List FieldCheck} {seen : List String} {name : String} {j : Json}

/-- A member that is no field has to be fit to be skipped. -/
lemma checkMembers_of_unknown (h : name ∉ fields.map FieldCheck.name) (ms : List (Key × Json)) :
    checkMembers fields seen ((.name name, j) :: ms) =
      (do unflawed j.skipFlaw?; checkMembers fields seen ms) := by
  have hfind : (fields.find? fun f => f.name = name) = none := by
    rw [List.find?_eq_none]
    exact fun f hf hname => h (List.mem_map.mpr ⟨f, hf, by simpa using hname⟩)
  simp only [checkMembers, key, Key.read, Except.mapError, bind, Except.bind, hfind]

/-- A member that is a field must not have been seen and has to pass its check. -/
lemma checkMembers_of_known (h : name ∈ fields.map FieldCheck.name) (seen : List String)
    (j : Json) (ms : List (Key × Json)) :
    ∃ f ∈ fields, f.name = name ∧
      checkMembers fields seen ((.name name, j) :: ms) =
        if name ∈ seen then .error (.repeatedField name)
        else (do f.check j; checkMembers fields (name :: seen) ms) := by
  cases hfind : fields.find? fun f => f.name = name with
  | none =>
      obtain ⟨f, hf, hname⟩ := List.mem_map.mp h
      exact absurd (by simpa using hname) (List.find?_eq_none.mp hfind f hf)
  | some f =>
      refine ⟨f, List.mem_of_find?_eq_some hfind, by simpa using List.find?_some hfind, ?_⟩
      simp only [checkMembers, key, Key.read, Except.mapError, bind, Except.bind, hfind]

/-- Members that pass give no field twice, and what is no field can be skipped. The
induction is on the members; each field that passes is not seen again. -/
lemma of_checkMembers {ms : List (String × Json)}
    (h : checkMembers fields seen (ms.map fun m => (.name m.1, m.2)) = .ok ()) :
    ((ms.map Prod.fst).filter fun name => name ∈ fields.map FieldCheck.name).Nodup ∧
      (∀ m ∈ ms, m.1 ∈ fields.map FieldCheck.name → m.1 ∉ seen) ∧
        ∀ m ∈ ms, m.1 ∉ fields.map FieldCheck.name → m.2.skipFlaw? = none := by
  induction ms generalizing seen with
  | nil => simp
  | cons m ms ih =>
      obtain ⟨name, j⟩ := m
      rw [List.map_cons] at h
      by_cases hname : name ∈ fields.map FieldCheck.name
      · obtain ⟨f, -, -, hcheck⟩ := checkMembers_of_known hname seen j
          (ms.map fun m => (.name m.1, m.2))
        rw [hcheck] at h
        split at h
        · cases h
        · next hseen =>
            obtain ⟨_, -, h⟩ := bind_eq_ok.mp h
            obtain ⟨hnodup, hfresh, hskip⟩ := ih h
            have hnew : ∀ m ∈ ms, m.1 ≠ name := by
              rintro m hm rfl
              exact hfresh m hm hname (List.mem_cons_self)
            simp only [List.map_cons, List.filter_cons, hname, decide_true, if_true,
              List.nodup_cons, List.forall_mem_cons]
            refine ⟨⟨?_, hnodup⟩, ⟨fun _ => hseen, fun m hm hknown hmem => ?_⟩,
              fun hunknown => absurd trivial hunknown, hskip⟩
            · intro hmem
              obtain ⟨m, hm, hm'⟩ := List.mem_map.mp (List.mem_of_mem_filter hmem)
              exact hnew m hm hm'
            · exact hfresh m hm hknown (List.mem_cons_of_mem _ hmem)
      · rw [checkMembers_of_unknown hname] at h
        obtain ⟨_, hflaw, h⟩ := bind_eq_ok.mp h
        obtain ⟨hnodup, hfresh, hskip⟩ := ih h
        simp only [List.map_cons, List.filter_cons, hname, decide_false, List.forall_mem_cons]
        exact ⟨hnodup, ⟨fun hknown => hknown.elim, hfresh⟩,
          fun _ => unflawed_eq_ok_iff.mp hflaw, hskip⟩

/-- Members pass if they give no field twice, the fields pass and the rest can be skipped. -/
lemma checkMembers_of {ms : List (String × Json)}
    (hnodup : ((ms.map Prod.fst).filter fun name => name ∈ fields.map FieldCheck.name).Nodup)
    (hseen : ∀ m ∈ ms, m.1 ∈ fields.map FieldCheck.name → m.1 ∉ seen)
    (hskip : ∀ m ∈ ms, m.1 ∉ fields.map FieldCheck.name → m.2.skipFlaw? = none)
    (hcheck : ∀ f ∈ fields, ∀ m ∈ ms, f.name = m.1 → f.check m.2 = .ok ()) :
    checkMembers fields seen (ms.map fun m => (.name m.1, m.2)) = .ok () := by
  induction ms generalizing seen with
  | nil => rfl
  | cons m ms ih =>
      obtain ⟨name, j⟩ := m
      rw [List.forall_mem_cons] at hseen hskip
      have hrest : ∀ f ∈ fields, ∀ m ∈ ms, f.name = m.1 → f.check m.2 = .ok () :=
        fun f hf m hm => hcheck f hf m (List.mem_cons_of_mem _ hm)
      rw [List.map_cons]
      by_cases hname : name ∈ fields.map FieldCheck.name
      · obtain ⟨f, hf, hfname, heq⟩ := checkMembers_of_known hname seen j
          (ms.map fun m => (.name m.1, m.2))
        simp only [List.map_cons, List.filter_cons, hname, decide_true, if_true,
          List.nodup_cons] at hnodup
        rw [heq, if_neg (hseen.1 hname), hcheck f hf (name, j) List.mem_cons_self hfname]
        refine ih hnodup.2 (fun m hm hknown hmem => ?_) hskip.2 hrest
        rcases List.mem_cons.mp hmem with rfl | hmem
        · exact hnodup.1 (List.mem_filter.mpr ⟨List.mem_map_of_mem hm, by simpa using hknown⟩)
        · exact hseen.2 m hm hknown hmem
      · simp only [List.map_cons, List.filter_cons, hname, decide_false] at hnodup
        rw [checkMembers_of_unknown hname, unflawed_eq_ok_iff.mpr (hskip.1 hname)]
        exact ih hnodup hseen.2 hskip.2 hrest

end Members

/-- What an object gives for a name is its first member of that name. -/
lemma get_partsOfMembers (ms : List (String × Json)) (name : String) :
    (partsOfMembers (ms.map fun m => (.name m.1, m.2))).get name = ms.lookup name := by
  change (List.find? _ _).map Prod.snd = _
  rw [List.find?_map, Option.map_map, OrderedMap.lookup_eq_find?]
  simp [Function.comp_def]

/-- What an array gives for the name of a field is the element at its index. -/
lemma get_partsOfItems {l : Layout α} {structName name : String} (hname : name ∈ l.names)
    (js : List Json) :
    (partsOfItems structName l.fields js).get name = js[l.names.idxOf name]? := by
  change (l.names.zip js).lookup name = _
  rw [OrderedMap.lookup_zip, List.idxOf_eq_getD_idxOf?]
  cases hi : l.names.idxOf? name with
  | none => exact absurd hname (List.idxOf?_eq_none_iff.mp hi)
  | some i => rfl

lemma lookup_eq_none_iff {ms : List (String × Json)} {name : String} :
    ms.lookup name = none ↔ name ∉ ms.map Prod.fst := by
  simp only [List.lookup_eq_none_iff, bne_iff_ne, List.mem_map, not_exists, not_and]
  exact forall₂_congr fun m _ => ne_comm

/-- Members of other names may be left out of a search. -/
lemma lookup_filter {p : String → Bool} {name : String} (hname : p name = true)
    (ms : List (String × Json)) : (ms.filter fun m => p m.1).lookup name = ms.lookup name := by
  induction ms with
  | nil => rfl
  | cons m ms ih =>
      by_cases hm : name = m.1
      · rw [List.filter_cons_of_pos (hm ▸ hname), List.lookup_cons, List.lookup_cons, hm,
          beq_self_eq_true]
      · have hne : (name == m.1) = false := beq_eq_false_iff_ne.mpr hm
        rw [List.filter_cons, List.lookup_cons, hne]
        split
        · rw [List.lookup_cons, hne]
          exact ih
        · exact ih

/-- Among members that give no name of a kind twice, each one of the kind is the first of its
name. -/
lemma lookup_of_mem {known : String → Bool} {ms : List (String × Json)}
    (hnodup : ((ms.map Prod.fst).filter known).Nodup) {m : String × Json} (hm : m ∈ ms)
    (hknown : known m.1 = true) : ms.lookup m.1 = some m.2 := by
  induction ms with
  | nil => cases hm
  | cons n ms ih =>
      rw [List.map_cons, List.filter_cons] at hnodup
      rcases List.mem_cons.mp hm with rfl | hm
      · rw [List.lookup_cons, beq_self_eq_true]
      · by_cases hn : m.1 = n.1
        · -- the name would come twice
          rw [← hn, if_pos hknown, List.nodup_cons] at hnodup
          exact absurd (List.mem_filter.mpr ⟨List.mem_map_of_mem hm, hknown⟩) hnodup.1
        · have hrest : ((ms.map Prod.fst).filter known).Nodup := by
            split at hnodup
            · exact hnodup.of_cons
            · exact hnodup
          rw [List.lookup_cons, beq_eq_false_iff_ne.mpr hn]
          exact ih hrest hm

/-- **A structure is decoded from an object** exactly if no field is given twice, what is no
field can be skipped, and the fields can be fetched. -/
theorem struct_record_eq_ok_iff {l : Layout α} (hl : l.Faithful) {structName : String}
    {ms : List (String × Json)} {a : α} :
    struct structName l (.record ms) = .ok a ↔
      ((ms.map Prod.fst).filter fun name => name ∈ l.names).Nodup ∧
        (∀ m ∈ ms, m.1 ∉ l.names → m.2.skipFlaw? = none) ∧
          l.fetch (partsOfMembers (ms.map fun m => (.name m.1, m.2))) = .ok a := by
  rw [Json.record, struct, bind_eq_ok]
  constructor
  · rintro ⟨_, hcheck, hfetch⟩
    obtain ⟨hnodup, -, hskip⟩ := of_checkMembers hcheck
    exact ⟨hnodup, hskip, hfetch⟩
  · rintro ⟨hnodup, hskip, hfetch⟩
    refine ⟨(), checkMembers_of hnodup (fun _ _ _ => List.not_mem_nil) hskip ?_, hfetch⟩
    intro f hf m hm hname
    have hknown : m.1 ∈ l.names := hname ▸ List.mem_map_of_mem hf
    refine hl hfetch f hf m.2 ?_
    rw [get_partsOfMembers, hname]
    exact lookup_of_mem hnodup hm (by simpa using hknown)

/-! ### Arrays -/

/-- Elements pass if there are not too many of them and each passes the check of its field. -/
lemma checkItems_bracket_eq_ok_iff {fields : List FieldCheck} {js : List Json} :
    checkItems fields js .bracket = .ok () ↔
      js.length ≤ fields.length ∧ ∀ e ∈ fields.zip js, e.1.check e.2 = .ok () := by
  induction fields generalizing js with
  | nil => cases js <;> simp [checkItems, unflawed, Close.flaw?]
  | cons f fields ih =>
      cases js with
      | nil => simp [checkItems, unflawed, Close.flaw?]
      | cons j js =>
          rw [checkItems, bind_eq_ok]
          simp only [ih, List.length_cons, List.zip_cons_cons, List.forall_mem_cons]
          constructor
          · rintro ⟨⟨⟩, hj, hlength, hjs⟩
            exact ⟨by omega, hj, hjs⟩
          · rintro ⟨hlength, hj, hjs⟩
            exact ⟨(), hj, by omega, hjs⟩

/-- **A structure is decoded from an array** exactly if there are not too many elements and
the fields can be fetched. -/
theorem struct_list_eq_ok_iff {l : Layout α} (hl : l.Faithful) (hnames : l.names.Nodup)
    {structName : String} {js : List Json} {a : α} :
    struct structName l (.list js) = .ok a ↔
      js.length ≤ l.fields.length ∧ l.fetch (partsOfItems structName l.fields js) = .ok a := by
  rw [Json.list, struct, bind_eq_ok]
  constructor
  · rintro ⟨⟨⟩, hcheck, hfetch⟩
    exact ⟨(checkItems_bracket_eq_ok_iff.mp hcheck).1, hfetch⟩
  · rintro ⟨hlength, hfetch⟩
    refine ⟨(), checkItems_bracket_eq_ok_iff.mpr ⟨hlength, fun e he => ?_⟩, hfetch⟩
    refine hl hfetch e.1 (List.of_mem_zip he).1 e.2 ?_
    have hmem : (e.1.name, e.2) ∈ (l.fields.map FieldCheck.name).zip js := by
      rw [List.zip_map_left]
      exact List.mem_map_of_mem he
    have hnodup : ((((l.fields.map FieldCheck.name).zip js).map Prod.fst).filter
        fun _ => true).Nodup := by
      rw [List.filter_true, List.zip_eq_zip_take_min, List.map_fst_zip (by simp)]
      exact hnames.sublist (List.take_sublist _ _)
    exact lookup_of_mem hnodup hmem rfl

end Decode

end SqlRequest
