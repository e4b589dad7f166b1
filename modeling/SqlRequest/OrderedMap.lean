/-!
Maps that keep the order in which their keys were first written. Writing to a key
that is there changes the entry in its place; writing to a new key adds an entry at
the end.
-/

namespace SqlRequest

/-- Entries with distinct keys, in the order in which the keys were first written. -/
structure OrderedMap (κ α : Type) where
  entries : List (κ × α)
  nodup : (entries.map Prod.fst).Nodup

namespace OrderedMap

variable {κ α : Type}

theorem ext {m n : OrderedMap κ α} (h : m.entries = n.entries) : m = n := by
  cases m
  cases n
  cases h
  rfl

instance [DecidableEq κ] [DecidableEq α] : DecidableEq (OrderedMap κ α) := fun m n =>
  decidable_of_iff (m.entries = n.entries) ⟨ext, fun h => h ▸ rfl⟩

/-- A map without entries. -/
def empty : OrderedMap κ α := ⟨[], List.nodup_nil⟩

instance : Inhabited (OrderedMap κ α) := ⟨empty⟩

/-- The keys, in the order in which they were first written. -/
def keys (m : OrderedMap κ α) : List κ := m.entries.map Prod.fst

def isEmpty (m : OrderedMap κ α) : Bool := m.entries.isEmpty

section Write

variable [DecidableEq κ]

/-- The entries with the one for a key changed, or added at the end. -/
def alterEntries (k : κ) (f : Option α → α) : List (κ × α) → List (κ × α)
  | [] => [(k, f none)]
  | (k', a) :: es => if k' = k then (k', f (some a)) :: es else (k', a) :: alterEntries k f es

/-- Keys stay where they are, and a new one comes last. -/
theorem map_fst_alterEntries (k : κ) (f : Option α → α) (es : List (κ × α)) :
    (alterEntries k f es).map Prod.fst =
      if k ∈ es.map Prod.fst then es.map Prod.fst else es.map Prod.fst ++ [k] := by
  induction es with
  | nil => simp [alterEntries]
  | cons e es ih =>
    obtain ⟨k', a⟩ := e
    by_cases h : k' = k
    · simp [alterEntries, h]
    · have h' : ¬ k = k' := fun e => h e.symm
      by_cases hm : k ∈ es.map Prod.fst <;> simp_all [alterEntries]

theorem nodup_alterEntries {k : κ} {f : Option α → α} {es : List (κ × α)}
    (h : (es.map Prod.fst).Nodup) : ((alterEntries k f es).map Prod.fst).Nodup := by
  rw [map_fst_alterEntries]
  split
  · exact h
  · next hk =>
    refine List.nodup_append.2 ⟨h, by simp, ?_⟩
    intro a ha b hb
    simp only [List.mem_singleton] at hb
    exact fun e => hk (hb ▸ e ▸ ha)

/-- The map with the value for a key computed from the one before, if there is one. -/
def alter (m : OrderedMap κ α) (k : κ) (f : Option α → α) : OrderedMap κ α :=
  ⟨alterEntries k f m.entries, nodup_alterEntries m.nodup⟩

/-- The map with a value written to a key. -/
def insert (m : OrderedMap κ α) (k : κ) (a : α) : OrderedMap κ α := m.alter k fun _ => a

/-- A list of writes, carried out in order. -/
def ofList (writes : List (κ × α)) : OrderedMap κ α :=
  writes.foldl (fun m w => m.insert w.1 w.2) empty

/-- The value for a key. -/
def get? (m : OrderedMap κ α) (k : κ) : Option α :=
  (m.entries.find? fun e => e.1 = k).map Prod.snd

theorem keys_alter (m : OrderedMap κ α) (k : κ) (f : Option α → α) :
    (m.alter k f).keys = if k ∈ m.keys then m.keys else m.keys ++ [k] :=
  map_fst_alterEntries k f m.entries

end Write

end OrderedMap

end SqlRequest
