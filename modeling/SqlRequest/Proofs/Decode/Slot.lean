import SqlRequest.Proofs.Decode.Layout

/-!
Objects that write the fields of a structure, in any order, and without some of those that
have their defaults.

* `Slot`: how one field is written; `Json.Writes`: an object that writes fields.
* `Layout.Takes`: a layout that makes a value of the fields. `Decode.struct_of_writes`: then
  every object that writes the fields is decoded to the value.
* `Json.readFlaw?_of_writes`, `Json.exists_writes`: such objects have no flaw, and there are
  some.
-/

namespace SqlRequest

variable {α β : Type}

/-- How a field is written: under which key, as which values, and when it may be left out. -/
structure Slot where
  key : String
  written : Json → Prop
  omissible : Prop

namespace Slot

/-- A field that is always written. -/
def required (key : String) (written : Json → Prop) : Slot := ⟨key, written, False⟩

/-- A field that may be left out if it has its default. -/
def defaulted (key : String) (written : Json → Prop) (isDefault : Prop) : Slot :=
  ⟨key, written, isDefault⟩

/-- A field that may be nothing: then it is null, or left out. -/
def optional (key : String) (written : α → Json → Prop) (o : Option α) : Slot :=
  ⟨key, o.elim (· = .null) written, o = none⟩

end Slot

/-- Members that write fields: none comes twice, each is one of the fields, and what may not
be left out is there. -/
structure Writing (slots : List Slot) (ms : List (String × Json)) : Prop where
  nodup : (ms.map Prod.fst).Nodup
  written : ∀ m ∈ ms, ∃ slot ∈ slots, slot.key = m.1 ∧ slot.written m.2
  complete : ∀ slot ∈ slots, slot.key ∈ ms.map Prod.fst ∨ slot.omissible

namespace Json

/-- An object that writes fields. -/
def Writes (slots : List Slot) (j : Json) : Prop := ∃ ms, j = .record ms ∧ Writing slots ms

/-- An array that writes a list. -/
def WritesList (written : α → Json → Prop) (as : List α) (j : Json) : Prop :=
  ∃ js, j = .list js ∧ List.Forall₂ written as js

end Json

/-! ### Decoding -/

/-- Parts that give a field as it is written. -/
def Parts.Gives (p : Parts) (slot : Slot) : Prop :=
  (∃ j, p.get slot.key = some j ∧ slot.written j) ∨ (p.get slot.key = none ∧ slot.omissible)

namespace Layout

/-- A layout makes a value of any parts of an object that give the fields as they are
written. -/
def Takes (l : Layout α) (slots : List Slot) (a : α) : Prop :=
  ∀ p : Parts, p.inArray = false → (∀ slot ∈ slots, p.Gives slot) → l.fetch p = .ok a

lemma takes_field {f : FieldSpec α} {slot : Slot} {a : α} (hkey : slot.key = f.name)
    (hwritten : ∀ j, slot.written j → f.decode j = .ok a)
    (homissible : slot.omissible → f.ifMissing = some a) : (field f).Takes [slot] a := by
  intro p harray hgives
  change f.fetch p = .ok a
  rw [FieldSpec.fetch, ← hkey, harray]
  rcases hgives slot List.mem_cons_self with ⟨j, hget, hj⟩ | ⟨hget, homitted⟩
  · rw [hget]
    exact hwritten j hj
  · rw [hget, homissible homitted]
    rfl

variable {slots slots' : List Slot}

lemma Takes.seq {f : Layout (α → β)} {x : Layout α} {g : α → β} {a : α} (hf : f.Takes slots g)
    (hx : x.Takes slots' a) : (f <*> x).Takes (slots ++ slots') (g a) := by
  intro p harray hgives
  rw [List.forall_mem_append] at hgives
  exact fetch_seq_eq_ok_iff.mpr ⟨g, hf p harray hgives.1, a, hx p harray hgives.2, rfl⟩

lemma Takes.map {x : Layout α} {a : α} (hx : x.Takes slots a) (g : α → β) :
    (g <$> x).Takes slots (g a) :=
  fun p harray hgives => fetch_map_eq_ok_iff.mpr ⟨a, hx p harray hgives, rfl⟩

end Layout

/-- Members that write fields give each of them as it is written. -/
lemma Writing.gives {slots : List Slot} (hslots : (slots.map Slot.key).Nodup)
    {ms : List (String × Json)} (h : Writing slots ms) {slot : Slot} (hslot : slot ∈ slots) :
    (Decode.partsOfMembers (ms.map fun m => (.name m.1, m.2))).Gives slot := by
  rw [Parts.Gives, Decode.get_partsOfMembers]
  by_cases hkey : slot.key ∈ ms.map Prod.fst
  · obtain ⟨m, hm, hname⟩ := List.mem_map.mp hkey
    obtain ⟨slot', hslot', hkey', hwritten⟩ := h.written m hm
    -- keys are distinct, so it is this field and no other that the member writes
    obtain rfl := List.inj_on_of_nodup_map hslots hslot' hslot (hkey'.trans hname)
    have hnodup : ((ms.map Prod.fst).filter fun _ => true).Nodup := h.nodup.filter _
    exact .inl ⟨m.2, hname ▸ Decode.lookup_of_mem hnodup hm rfl, hwritten⟩
  · exact .inr ⟨Decode.lookup_eq_none_iff.mpr hkey, (h.complete slot hslot).resolve_left hkey⟩

/-- **An object that writes fields is decoded** to the value that the layout makes of the
fields. -/
theorem Decode.struct_of_writes {l : Layout α} (hl : l.Faithful) (hnames : l.names.Nodup)
    {slots : List Slot} (hslots : slots.map Slot.key = l.names) {a : α} (htakes : l.Takes slots a)
    {structName : String} {j : Json} (h : j.Writes slots) : struct structName l j = .ok a := by
  obtain ⟨ms, rfl, hms⟩ := h
  refine (struct_record_eq_ok_iff hl).mpr ⟨hms.nodup.filter _, fun m hm hunknown => ?_, ?_⟩
  · obtain ⟨slot, hslot, hkey, -⟩ := hms.written m hm
    rw [← hslots, ← hkey] at hunknown
    exact absurd (List.mem_map_of_mem hslot) hunknown
  · exact htakes _ rfl fun slot hslot => hms.gives (hslots ▸ hnames) hslot

/-! ### Objects that write fields -/

namespace Json

variable {slots : List Slot}

lemma ne_null_of_writes {j : Json} (h : j.Writes slots) : j ≠ .null := by
  obtain ⟨ms, rfl, -⟩ := h
  exact record_ne_null ms

/-- What is written without a flaw makes an object without one. -/
lemma readFlaw?_of_writes {room : Nat}
    (hslots : ∀ slot ∈ slots, ∀ j, slot.written j → j.readFlaw? room = none) {j : Json}
    (h : j.Writes slots) : j.readFlaw? (room + 1) = none := by
  obtain ⟨ms, rfl, hms⟩ := h
  refine readFlaw?_record.mpr fun m hm => ?_
  obtain ⟨slot, hslot, -, hwritten⟩ := hms.written m hm
  exact hslots slot hslot m.2 hwritten

end Json

/-- A list is related to one if each of its items is related to something. -/
lemma exists_forall₂_iff {R : α → β → Prop} {as : List α} :
    (∃ bs, List.Forall₂ R as bs) ↔ ∀ a ∈ as, ∃ b, R a b := by
  induction as with
  | nil => simp
  | cons a as ih =>
      rw [List.forall_mem_cons, ← ih]
      constructor
      · rintro ⟨_, hb | ⟨hb, hbs⟩⟩
        exact ⟨⟨_, hb⟩, _, hbs⟩
      · rintro ⟨⟨b, hb⟩, bs, hbs⟩
        exact ⟨b :: bs, .cons hb hbs⟩

namespace Json

lemma exists_writesList {written : α → Json → Prop} {as : List α}
    (h : ∀ a ∈ as, ∃ j, written a j) : ∃ j, WritesList written as j := by
  obtain ⟨js, hjs⟩ := exists_forall₂_iff.mpr h
  exact ⟨.list js, js, rfl, hjs⟩

/-- Fields that can be written one by one can be written as an object, all of them. -/
lemma exists_writes {slots : List Slot} (hslots : (slots.map Slot.key).Nodup)
    (h : ∀ slot ∈ slots, ∃ j, slot.written j) : ∃ j, Writes slots j := by
  obtain ⟨js, hjs⟩ := exists_forall₂_iff.mpr h
  have hkeys : ((slots.map Slot.key).zip js).map Prod.fst = slots.map Slot.key :=
    List.map_fst_zip (by rw [List.length_map, hjs.length_eq])
  refine ⟨_, _, rfl, hkeys ▸ hslots, fun m hm => ?_, ?_⟩
  · rw [List.zip_map_left, List.mem_map] at hm
    obtain ⟨⟨slot, j⟩, hmem, rfl⟩ := hm
    exact ⟨slot, (List.of_mem_zip hmem).1, rfl, List.forall₂_iff_zip.mp hjs |>.2 hmem⟩
  · refine fun slot hslot => .inl ?_
    rw [hkeys]
    exact List.mem_map_of_mem hslot

end Json

end SqlRequest
