import Mathlib.Tactic
import SqlRequest.Json.Flaws

/-!
Values that are read as a whole without a flaw: what they are made of, and what more room
does to them.

* `Json.ind`: the induction principle of the nested inductive.
* `Json.readFlaw?_array`, `Json.readFlaw?_object`: an array or an object has no flaw if it is
  closed, its keys are names and none of its parts has a flaw with one level less of room.
  `Json.readFlaw?_of_mem_list`, `Json.readFlaw?_of_mem_record`: the parts for any room.
* `Json.readFlaw?_mono`: what has no flaw with some room has none with more.
* `Json.skipFlaw?_list`, `Json.skipFlaw?_record`: what can be skipped part by part can be skipped.
  `Json.eq_malformed_of_readFlaw?`: what is wrong with it at worst.
-/

namespace SqlRequest

@[simp] lemma Close.flaw?_eq_none {close : Close} : close.flaw? = none ↔ close = .bracket := by
  cases close <;> simp [flaw?]

namespace Json

/-- A property holds of every value once it is inherited from the parts. -/
@[elab_as_elim]
theorem ind {P : Json → Prop} (scalar : ∀ s, P (.scalar s))
    (array : ∀ js close, (∀ j ∈ js, P j) → P (.array js close))
    (object : ∀ ms close, (∀ m ∈ ms, P m.2) → P (.object ms close))
    (fault : ∀ f, P (.fault f)) (j : Json) : P j :=
  @Json.rec P (fun js => ∀ j ∈ js, P j) (fun ms => ∀ m ∈ ms, P m.2) (fun m => P m.2)
    scalar (fun js close ih => array js close ih) (fun ms close ih => object ms close ih) fault
    (fun _ hj => absurd hj List.not_mem_nil)
    (fun _ _ hj hjs => List.forall_mem_cons.mpr ⟨hj, hjs⟩)
    (fun _ hm => absurd hm List.not_mem_nil)
    (fun _ _ hm hms => List.forall_mem_cons.mpr ⟨hm, hms⟩)
    (fun _ _ hj => hj) j

lemma list_ne_null (js : List Json) : list js ≠ null := nofun

lemma record_ne_null (ms : List (String × Json)) : record ms ≠ null := nofun

variable {room : Nat}

lemma readFlawItems?_eq_none {js : List Json} :
    readFlawItems? room js = none ↔ ∀ j ∈ js, readFlaw? room j = none := by
  induction js with
  | nil => simp [readFlawItems?]
  | cons j js ih => simp [readFlawItems?, ih]

lemma readFlawMembers?_eq_none {ms : List (Key × Json)} :
    readFlawMembers? room ms = none ↔
      ∀ m ∈ ms, (∃ name, m.1 = .name name) ∧ readFlaw? room m.2 = none := by
  induction ms with
  | nil => simp [readFlawMembers?]
  | cons m ms ih =>
      obtain ⟨key, j⟩ := m
      cases key with
      | name s => simp [readFlawMembers?, Key.read, ih]
      | brokenText | fault => simp [readFlawMembers?, Key.read]

lemma readFlaw?_array {js : List Json} {close : Close} :
    readFlaw? (room + 1) (.array js close) = none ↔
      (∀ j ∈ js, readFlaw? room j = none) ∧ close = .bracket := by
  simp [readFlaw?, readFlawItems?_eq_none]

lemma readFlaw?_object {ms : List (Key × Json)} {close : Close} :
    readFlaw? (room + 1) (.object ms close) = none ↔
      (∀ m ∈ ms, (∃ name, m.1 = .name name) ∧ readFlaw? room m.2 = none) ∧ close = .bracket := by
  simp [readFlaw?, readFlawMembers?_eq_none]

/-- Members whose keys are names are those of a record. -/
lemma exists_names {ms : List (Key × Json)} (h : ∀ m ∈ ms, ∃ name, m.1 = .name name) :
    ∃ ns : List (String × Json), ms = ns.map fun n => (.name n.1, n.2) := by
  induction ms with
  | nil => exact ⟨[], rfl⟩
  | cons m ms ih =>
      rw [List.forall_mem_cons] at h
      obtain ⟨name, hname⟩ := h.1
      obtain ⟨ns, rfl⟩ := ih h.2
      exact ⟨(name, m.2) :: ns, by rw [List.map_cons, ← hname]⟩

lemma readFlaw?_record {ns : List (String × Json)} :
    readFlaw? (room + 1) (.record ns) = none ↔ ∀ n ∈ ns, readFlaw? room n.2 = none := by
  rw [record, readFlaw?_object, List.forall_mem_map]
  simp

lemma readFlaw?_of_mem_list {room : Nat} {js : List Json}
    (h : (Json.list js).readFlaw? room = none) : ∀ j ∈ js, j.readFlaw? (room - 1) = none := by
  cases room with
  | zero => cases h
  | succ room => exact (readFlaw?_array.mp h).1

lemma readFlaw?_of_mem_record {room : Nat} {ms : List (String × Json)}
    (h : (Json.record ms).readFlaw? room = none) :
    ∀ m ∈ ms, m.2.readFlaw? (room - 1) = none := by
  cases room with
  | zero => cases h
  | succ room => exact readFlaw?_record.mp h

/-- What is read without a flaw is read without one where there is more room. -/
lemma readFlaw?_mono {room' : Nat} (hroom : room ≤ room') {j : Json}
    (h : readFlaw? room j = none) : readFlaw? room' j = none := by
  induction j using ind generalizing room room' with
  | scalar s => simpa [readFlaw?] using h
  | fault f => simp [readFlaw?] at h
  | array js close ih =>
      obtain _ | room := room
      · simp [readFlaw?] at h
      obtain ⟨room', rfl⟩ : ∃ n, room' = n + 1 := ⟨room' - 1, by omega⟩
      rw [readFlaw?_array] at h ⊢
      exact ⟨fun j hj => ih j hj (by omega) (h.1 j hj), h.2⟩
  | object ms close ih =>
      obtain _ | room := room
      · simp [readFlaw?] at h
      obtain ⟨room', rfl⟩ : ∃ n, room' = n + 1 := ⟨room' - 1, by omega⟩
      rw [readFlaw?_object] at h ⊢
      exact ⟨fun m hm => ⟨(h.1 m hm).1, ih m hm (by omega) (h.1 m hm).2⟩, h.2⟩

lemma skipFlawItems?_eq_none {js : List Json} :
    skipFlawItems? js = none ↔ ∀ j ∈ js, skipFlaw? j = none := by
  induction js with
  | nil => simp [skipFlawItems?]
  | cons j js ih => simp [skipFlawItems?, ih]

lemma skipFlawMembers?_eq_none {ms : List (Key × Json)} :
    skipFlawMembers? ms = none ↔ ∀ m ∈ ms, m.1.skipFlaw? = none ∧ skipFlaw? m.2 = none := by
  induction ms with
  | nil => simp [skipFlawMembers?]
  | cons m ms ih => simp [skipFlawMembers?, ih, and_assoc]

lemma skipFlaw?_list {js : List Json} :
    skipFlaw? (list js) = none ↔ ∀ j ∈ js, skipFlaw? j = none := by
  simp [list, skipFlaw?, skipFlawItems?_eq_none]

lemma skipFlaw?_record {ns : List (String × Json)} :
    skipFlaw? (record ns) = none ↔ ∀ n ∈ ns, skipFlaw? n.2 = none := by
  rw [record, skipFlaw?, Option.orElse_eq_none, skipFlawMembers?_eq_none, List.forall_mem_map]
  simp [Key.skipFlaw?]

lemma exists_of_readFlawItems? {js : List Json} {f : Flaw}
    (h : readFlawItems? room js = some f) : ∃ j ∈ js, readFlaw? room j = some f := by
  induction js with
  | nil => simp [readFlawItems?] at h
  | cons j js ih =>
      rw [readFlawItems?, Option.orElse_eq_some] at h
      rcases h with h | ⟨-, h⟩
      · exact ⟨j, List.mem_cons_self, h⟩
      · obtain ⟨j', hj', hf⟩ := ih h
        exact ⟨j', List.mem_cons_of_mem _ hj', hf⟩

lemma exists_of_readFlawMembers? {ms : List (Key × Json)} {f : Flaw}
    (h : readFlawMembers? room ms = some f) :
    ∃ m ∈ ms, m.1.read = .error f ∨ readFlaw? room m.2 = some f := by
  induction ms with
  | nil => simp [readFlawMembers?] at h
  | cons m ms ih =>
      obtain ⟨key, j⟩ := m
      rw [readFlawMembers?] at h
      cases hkey : key.read with
      | error f' =>
          rw [hkey] at h
          exact ⟨(key, j), List.mem_cons_self, .inl (hkey.trans (congrArg _ (Option.some.inj h)))⟩
      | ok name =>
          simp only [hkey] at h
          rw [Option.orElse_eq_some] at h
          rcases h with h | ⟨-, h⟩
          · exact ⟨(key, j), List.mem_cons_self, .inr h⟩
          · obtain ⟨m, hm, hf⟩ := ih h
            exact ⟨m, List.mem_cons_of_mem _ hm, hf⟩

/-- What can be skipped ends in its place, so to one who reads it, it is malformed at worst. -/
lemma eq_malformed_of_readFlaw? {j : Json} {f : Flaw} (h : skipFlaw? j = none)
    (hf : readFlaw? room j = some f) : f = .malformed := by
  induction j using ind generalizing room with
  | scalar s =>
      rw [readFlaw?] at hf
      cases s with
      | hugeNumber | brokenText => exact (Option.some.inj hf).symm
      | _ => cases hf
  | fault f' => simp [skipFlaw?] at h
  | array js close ih =>
      obtain _ | room := room
      · exact (Option.some.inj hf).symm
      rw [skipFlaw?, Option.orElse_eq_none, skipFlawItems?_eq_none] at h
      rw [readFlaw?, Option.orElse_eq_some, h.2] at hf
      obtain ⟨j, hj, hf⟩ := exists_of_readFlawItems? (hf.resolve_right (by simp))
      exact ih j hj (h.1 j hj) hf
  | object ms close ih =>
      obtain _ | room := room
      · exact (Option.some.inj hf).symm
      rw [skipFlaw?, Option.orElse_eq_none, skipFlawMembers?_eq_none] at h
      rw [readFlaw?, Option.orElse_eq_some, h.2] at hf
      obtain ⟨m, hm, hf | hf⟩ := exists_of_readFlawMembers? (hf.resolve_right (by simp))
      · obtain ⟨hskip, -⟩ := h.1 m hm
        cases hkey : m.1 with
        | name s => simp [hkey, Key.read] at hf
        | brokenText => simpa [hkey, Key.read] using hf.symm
        | fault f' => simp [hkey, Key.skipFlaw?] at hskip
      · exact ih m hm (h.1 m hm).2 hf

end Json

end SqlRequest
