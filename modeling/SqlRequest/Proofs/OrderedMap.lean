import Mathlib.Tactic
import SqlRequest.OrderedMap

/-!
Ordered maps through what they answer: their keys in order, and the value for each
key.

* `ext_get?`: the keys in order and the values for them are all there is of a map.
* `keys_foldl_alter` and `get?_foldl_alter`: what a run of writes leaves behind. The
  keys are those of the writes in the order in which they first come up, and the
  value for a key is computed by the writes to that key alone.
* `tabulate`: the map of a function on some keys. `foldl_alter_eq_tabulate`: a run of
  writes, however those to different keys alternate, gives such a map.
-/

namespace SqlRequest

/-! ### Lists without repetitions -/

section EraseDups

variable {α : Type} [DecidableEq α]

lemma eraseDups_concat (xs : List α) (x : α) :
    (xs ++ [x]).eraseDups = if x ∈ xs then xs.eraseDups else xs.eraseDups ++ [x] := by
  rw [List.eraseDups_append]
  by_cases h : x ∈ xs <;> simp [h, List.removeAll, List.eraseDups_cons]

lemma nodup_eraseDups (xs : List α) : xs.eraseDups.Nodup := by
  induction xs using List.reverseRecOn with
  | nil => simp
  | append_singleton xs x ih =>
      rw [eraseDups_concat]
      split
      · exact ih
      · next hx => simpa using ih.concat (by simpa using hx)

/-- Copies of what has come before are repetitions. -/
lemma eraseDups_copies {xs copies : List α} (h : ∀ x ∈ copies, x ∈ xs) (ys : List α) :
    (xs ++ copies ++ ys).eraseDups = (xs ++ ys).eraseDups := by
  have hnone : copies.removeAll xs = [] := by
    rw [List.removeAll, List.filter_eq_nil_iff]
    intro x hx
    simpa using h x hx
  rw [List.append_assoc, List.eraseDups_append, List.eraseDups_append]
  congr 2
  rw [List.removeAll, List.filter_append]
  change copies.removeAll xs ++ ys.removeAll xs = ys.removeAll xs
  rw [hnone, List.nil_append]

lemma eraseDups_of_nodup {xs : List α} (h : xs.Nodup) : xs.eraseDups = xs := by
  induction xs using List.reverseRecOn with
  | nil => rfl
  | append_singleton xs x ih =>
      obtain ⟨hxs, -, hx⟩ := List.nodup_append.mp h
      have hnew : x ∉ xs := fun hmem => hx x hmem x List.mem_cons_self rfl
      rw [eraseDups_concat, if_neg hnew, ih hxs]

end EraseDups

namespace OrderedMap

variable {κ α β : Type} [DecidableEq κ]

/-! ### Searches -/

/-- A search goes by the keys alone. -/
lemma lookup_map {κ α β : Type} [BEq κ] (f : α → β) (ws : List (κ × α)) (k : κ) :
    (ws.map fun w => (w.1, f w.2)).lookup k = (ws.lookup k).map f := by
  induction ws with
  | nil => rfl
  | cons w ws ih =>
      rw [List.map_cons, List.lookup_cons, List.lookup_cons, ih]
      split <;> rfl

lemma lookup_eq_find? {κ α : Type} [DecidableEq κ] (ws : List (κ × α)) (k : κ) :
    ws.lookup k = (ws.find? fun w => w.1 = k).map Prod.snd := by
  induction ws with
  | nil => rfl
  | cons w ws ih =>
      rw [List.lookup_cons]
      by_cases h : w.1 = k
      · simp [h]
      · simp [h, beq_false_of_ne (Ne.symm h), ih]

/-- What a key is paired with stands at the position of the key. -/
lemma lookup_zip {κ α : Type} [DecidableEq κ] (ks : List κ) (as : List α) (k : κ) :
    (ks.zip as).lookup k = (ks.idxOf? k).bind fun i => as[i]? := by
  induction ks generalizing as with
  | nil => rfl
  | cons k' ks ih =>
      rw [List.idxOf?_cons]
      cases as with
      | nil => simp [Option.bind_fun_none]
      | cons a as =>
          rw [List.zip_cons_cons, List.lookup_cons]
          by_cases h : k' = k
          · simp [h]
          · rw [beq_false_of_ne h, beq_false_of_ne (Ne.symm h), if_neg Bool.false_ne_true,
              Option.bind_map, ih]
            rfl

/-! ### Keys and values -/

@[simp] lemma get?_empty (k : κ) : (empty : OrderedMap κ α).get? k = none := rfl

lemma find?_alterEntries (k k' : κ) (f : Option α → α) (es : List (κ × α)) :
    ((alterEntries k f es).find? fun e => e.1 = k').map Prod.snd =
      if k' = k then some (f ((es.find? fun e => e.1 = k).map Prod.snd))
      else (es.find? fun e => e.1 = k').map Prod.snd := by
  induction es with
  | nil => by_cases h : k' = k <;> simp [alterEntries, h, eq_comm]
  | cons e es ih =>
      obtain ⟨l, a⟩ := e
      by_cases hl : l = k
      · subst hl
        by_cases h : k' = l
        · simp [alterEntries, h]
        · simp [alterEntries, h, Ne.symm h]
      · by_cases h : l = k'
        · subst h
          simp [alterEntries, hl]
        · simpa [alterEntries, hl, h] using ih

/-- A write changes the value for its key and no other. -/
lemma get?_alter (m : OrderedMap κ α) (k k' : κ) (f : Option α → α) :
    (m.alter k f).get? k' = if k' = k then some (f (m.get? k)) else m.get? k' :=
  find?_alterEntries k k' f m.entries

/-- The entries are the keys with their values. The induction is on the entries: the
first one is not found under any key of the others, since no key comes twice. -/
lemma entries_eq (m : OrderedMap κ α) :
    m.entries = m.keys.filterMap fun k => (m.get? k).map fun a => (k, a) := by
  obtain ⟨es, hes⟩ := m
  simp only [keys, get?]
  induction es with
  | nil => rfl
  | cons e es ih =>
      rw [List.map_cons, List.nodup_cons] at hes
      have hrest : ∀ k ∈ es.map Prod.fst,
          ((((e :: es).find? fun d => d.1 = k).map Prod.snd).map fun a => (k, a)) =
            ((es.find? fun d => d.1 = k).map Prod.snd).map fun a => (k, a) := by
        intro k hk
        have hne : e.1 ≠ k := fun h => hes.1 (h ▸ hk)
        simp [hne]
      rw [List.map_cons, List.filterMap_cons, List.filterMap_congr hrest, ← ih hes.2]
      simp

/-- Each key has one entry, and every other none. The induction is on the entries, of which
the first is the only one of its key. -/
lemma filter_entries (m : OrderedMap κ α) (k : κ) :
    (m.entries.filter fun e => e.1 = k) = ((m.get? k).map fun a => (k, a)).toList := by
  obtain ⟨es, hes⟩ := m
  simp only [get?]
  induction es with
  | nil => rfl
  | cons e es ih =>
      rw [List.map_cons, List.nodup_cons] at hes
      by_cases h : e.1 = k
      · have hrest : (es.filter fun d => d.1 = k) = [] := by
          refine List.filter_eq_nil_iff.2 fun d hd hk => hes.1 ?_
          rw [h, ← of_decide_eq_true hk]
          exact List.mem_map_of_mem hd
        rw [List.filter_cons_of_pos (by simpa using h), hrest,
          List.find?_cons_of_pos (by simpa using h), ← h]
        rfl
      · rw [List.filter_cons_of_neg (by simpa using h), List.find?_cons_of_neg (by simpa using h),
          ih hes.2]

lemma mem_keys_iff {m : OrderedMap κ α} {k : κ} : k ∈ m.keys ↔ ∃ a, m.get? k = some a := by
  constructor
  · intro hk
    obtain ⟨e, he, rfl⟩ := List.mem_map.1 hk
    have hmem : e ∈ m.entries.filter fun d => d.1 = e.1 := List.mem_filter.2 ⟨he, by simp⟩
    rw [filter_entries, Option.mem_toList, Option.map_eq_some_iff] at hmem
    obtain ⟨a, ha, -⟩ := hmem
    exact ⟨a, ha⟩
  · rintro ⟨a, h⟩
    obtain ⟨e, he, -⟩ := Option.map_eq_some_iff.1 h
    have hk : e.1 = k := by simpa using List.find?_some he
    exact hk ▸ List.mem_map_of_mem (List.mem_of_find?_eq_some he)

lemma mem_entries_iff {m : OrderedMap κ α} {k : κ} {a : α} :
    (k, a) ∈ m.entries ↔ m.get? k = some a := by
  have hfilter : (k, a) ∈ m.entries ↔ (k, a) ∈ m.entries.filter fun e => e.1 = k := by
    simp [List.mem_filter]
  rw [hfilter, filter_entries, Option.mem_toList, Option.map_eq_some_iff]
  simp

/-- A map is its keys in order with the values for them. -/
theorem ext_get? {m n : OrderedMap κ α} (hk : m.keys = n.keys)
    (hv : ∀ k ∈ m.keys, m.get? k = n.get? k) : m = n := by
  apply ext
  rw [m.entries_eq, n.entries_eq, ← hk]
  exact List.filterMap_congr fun k hm => by rw [hv k hm]

/-- A write that leaves the value for its key leaves the map. -/
lemma alter_of_get? {m : OrderedMap κ α} {k : κ} {f : Option α → α} {a : α}
    (h : m.get? k = some a) (hf : f (some a) = a) : m.alter k f = m := by
  apply ext_get?
  · rw [keys_alter, if_pos (mem_keys_iff.2 ⟨a, h⟩)]
  · intro l _
    rw [get?_alter]
    split
    · next hl => rw [hl, h, hf]
    · rfl

/-! ### Runs of writes -/

/-- Once there is a value, a run of writes to one key goes on from it. -/
lemma foldl_some (step : β → Option α → α) (ws : List β) (a : α) :
    ws.foldl (fun o w => some (step w o)) (some a) =
      some (ws.foldl (fun a w => step w (some a)) a) := by
  induction ws generalizing a with
  | nil => rfl
  | cons w ws ih => exact ih (step w (some a))

section Run

variable (key : β → κ) (step : β → Option α → α)

/-- After a run of writes the keys are those written, in the order in which they first
came up. -/
lemma keys_foldl_alter (ws : List β) :
    (ws.foldl (fun m w => m.alter (key w) (step w)) empty).keys = (ws.map key).eraseDups := by
  induction ws using List.reverseRecOn with
  | nil => rfl
  | append_singleton ws w ih =>
      rw [List.foldl_append, List.foldl_cons, List.foldl_nil, keys_alter, ih, List.map_append,
        List.map_cons, List.map_nil, eraseDups_concat]
      simp only [List.mem_eraseDups]

/-- After a run of writes the value for a key is what the writes to that key make of
the one before. -/
lemma get?_foldl_alter (ws : List β) (m : OrderedMap κ α) (k : κ) :
    (ws.foldl (fun m w => m.alter (key w) (step w)) m).get? k =
      (ws.filter fun w => key w = k).foldl (fun o w => some (step w o)) (m.get? k) := by
  induction ws generalizing m with
  | nil => rfl
  | cons w ws ih =>
      rw [List.foldl_cons, ih, get?_alter]
      by_cases h : key w = k
      · simp [h]
      · simp [h, Ne.symm h]

end Run

/-- A write to a new key adds an entry at the end. -/
lemma entries_insert_of_not_mem {m : OrderedMap κ α} {k : κ} {a : α} (h : k ∉ m.keys) :
    (m.insert k a).entries = m.entries ++ [(k, a)] := by
  obtain ⟨es, hes⟩ := m
  change alterEntries k (fun _ => a) es = es ++ [(k, a)]
  change k ∉ es.map Prod.fst at h
  clear hes
  induction es with
  | nil => rfl
  | cons e es ih =>
      rw [List.map_cons, List.mem_cons, not_or] at h
      rw [alterEntries, if_neg (Ne.symm h.1), ih h.2, List.cons_append]

lemma entries_foldl_insert {ws : List (κ × α)} {m : OrderedMap κ α}
    (h : (m.keys ++ ws.map Prod.fst).Nodup) :
    (ws.foldl (fun m w => m.insert w.1 w.2) m).entries = m.entries ++ ws := by
  induction ws generalizing m with
  | nil => exact (List.append_nil _).symm
  | cons w ws ih =>
      have hnew : w.1 ∉ m.keys := fun hw =>
        List.disjoint_of_nodup_append h hw List.mem_cons_self
      have hentries : (m.insert w.1 w.2).entries = m.entries ++ [w] :=
        entries_insert_of_not_mem hnew
      have hkeys : (m.insert w.1 w.2).keys = m.keys ++ [w.1] := by
        rw [keys, hentries, List.map_append]
        rfl
      rw [List.foldl_cons, ih (by simpa [hkeys] using h), hentries, List.append_assoc]
      rfl

/-- Writing the entries of a map gives the map. -/
lemma ofList_entries (m : OrderedMap κ α) : ofList m.entries = m :=
  ext (entries_foldl_insert m.nodup)

/-- A write to a key that is there changes its entry in its place. -/
lemma entries_insert_of_mem {m : OrderedMap κ α} {k : κ} (a : α) (h : k ∈ m.keys) :
    (m.insert k a).entries = m.entries.map fun e => if e.1 = k then (k, a) else e := by
  obtain ⟨es, hes⟩ := m
  change alterEntries k (fun _ => a) es = _
  change k ∈ es.map Prod.fst at h
  induction es with
  | nil => cases h
  | cons e es ih =>
      rw [List.map_cons, List.nodup_cons] at hes
      rw [alterEntries, List.map_cons]
      by_cases he : e.1 = k
      · -- no entry after it has the key
        have hrest : ∀ d ∈ es, (if d.1 = k then (k, a) else d) = d := by
          intro d hd
          rw [if_neg]
          rintro rfl
          exact hes.1 (he ▸ List.mem_map_of_mem hd)
        rw [if_pos he, if_pos he, List.map_congr_left hrest, List.map_id', he]
      · have hmem : k ∈ es.map Prod.fst :=
          (List.mem_cons.1 h).resolve_left fun hk => he hk.symm
        rw [if_neg he, if_neg he, ih hes.2 hmem]

/-! ### Writes of values -/

/-- What is left of some writes: each key once, where it first comes up, with the value that
is written to it last. -/
def lastWrites (ws : List (κ × α)) : List (κ × α) :=
  (ws.map Prod.fst).eraseDups.filterMap fun k => (ws.reverse.lookup k).map fun a => (k, a)

lemma ofList_concat (ws : List (κ × α)) (w : κ × α) :
    ofList (ws ++ [w]) = (ofList ws).insert w.1 w.2 := by
  rw [ofList, List.foldl_append]
  rfl

lemma keys_ofList (ws : List (κ × α)) : (ofList ws).keys = (ws.map Prod.fst).eraseDups :=
  keys_foldl_alter Prod.fst (fun w _ => w.2) ws

lemma get?_ofList (ws : List (κ × α)) (k : κ) : (ofList ws).get? k = ws.reverse.lookup k := by
  induction ws using List.reverseRecOn with
  | nil => rfl
  | append_singleton ws w ih =>
      rw [ofList_concat, insert, get?_alter, ih, List.reverse_concat, List.lookup_cons]
      by_cases h : k = w.1
      · rw [if_pos h, h, beq_self_eq_true]
      · rw [if_neg h, beq_eq_false_iff_ne.2 h]

/-- The last write to a key wins, and the first decides on its place. -/
lemma entries_ofList (ws : List (κ × α)) : (ofList ws).entries = lastWrites ws := by
  rw [entries_eq, keys_ofList, lastWrites]
  exact List.filterMap_congr fun k _ => by rw [get?_ofList]

/-- Each key stands where it was written first. -/
lemma map_fst_lastWrites (ws : List (κ × α)) :
    (lastWrites ws).map Prod.fst = (ws.map Prod.fst).eraseDups := by
  rw [← entries_ofList]
  exact keys_ofList ws

/-- The values do not matter to what is left. -/
lemma lastWrites_map {β : Type} (f : α → β) (ws : List (κ × α)) :
    lastWrites (ws.map fun w => (w.1, f w.2)) = (lastWrites ws).map fun w => (w.1, f w.2) := by
  rw [lastWrites, lastWrites, List.map_map, List.map_filterMap]
  refine List.filterMap_congr fun k _ => ?_
  rw [← List.map_reverse, lookup_map]
  cases ws.reverse.lookup k <;> rfl

/-- What is left under a key is the write after which there is no other. -/
lemma mem_lastWrites_iff {ws : List (κ × α)} {k : κ} {a : α} :
    (k, a) ∈ lastWrites ws ↔ ∃ bs cs, ws = bs ++ (k, a) :: cs ∧ ∀ w ∈ cs, w.1 ≠ k := by
  have hlookup : (k, a) ∈ lastWrites ws ↔ ws.reverse.lookup k = some a := by
    rw [← entries_ofList, ← get?_ofList]
    exact mem_entries_iff
  rw [hlookup, List.lookup_eq_some_iff]
  constructor
  · rintro ⟨cs, bs, hws, hcs⟩
    refine ⟨bs.reverse, cs.reverse, ?_, fun w hw => ?_⟩
    · rw [← List.reverse_reverse ws, hws]
      simp
    · exact Ne.symm (bne_iff_ne.1 (hcs w (List.mem_reverse.1 hw)))
  · rintro ⟨bs, cs, rfl, hcs⟩
    refine ⟨cs.reverse, bs.reverse, by simp, fun w hw => ?_⟩
    exact bne_iff_ne.2 (Ne.symm (hcs w (List.mem_reverse.1 hw)))

lemma mem_of_mem_lastWrites {ws : List (κ × α)} {w : κ × α} (h : w ∈ lastWrites ws) : w ∈ ws := by
  obtain ⟨bs, cs, rfl, -⟩ := mem_lastWrites_iff.mp h
  exact List.mem_append_right bs List.mem_cons_self

/-- Another write to a key changes what is left of it, in its place. -/
lemma lastWrites_concat {ws bs cs : List (κ × α)} {k : κ} {b : α}
    (h : lastWrites ws = bs ++ (k, b) :: cs) (a : α) :
    lastWrites (ws ++ [(k, a)]) = bs ++ (k, a) :: cs := by
  have hentries : (ofList ws).entries = bs ++ (k, b) :: cs := (entries_ofList ws).trans h
  have hmem : k ∈ (ofList ws).keys := by
    rw [keys, hentries]
    simp
  have hnodup := (ofList ws).nodup
  rw [hentries, List.map_append, List.map_cons, List.nodup_middle, List.nodup_cons] at hnodup
  -- the key of no other entry is `k`, so the others stay
  have hothers (es : List (κ × α)) (hes : ∀ e ∈ es, e ∈ bs ++ cs) :
      es.map (fun e => if e.1 = k then (k, a) else e) = es := by
    rw [List.map_congr_left (g := id) ?_, List.map_id]
    intro e he
    refine if_neg fun hk => hnodup.1 ?_
    have hmem : e.1 ∈ (bs ++ cs).map Prod.fst := List.mem_map_of_mem (hes e he)
    rwa [hk, List.map_append] at hmem
  rw [← entries_ofList, ofList_concat, entries_insert_of_mem a hmem, hentries, List.map_append,
    List.map_cons, hothers bs fun e he => List.mem_append_left cs he,
    hothers cs fun e he => List.mem_append_right bs he, if_pos rfl]

/-! ### Maps of functions -/

/-- The map of a function on some keys, in the order in which they first come up. -/
def tabulate (ks : List κ) (f : κ → α) : OrderedMap κ α where
  entries := ks.eraseDups.map fun k => (k, f k)
  nodup := by
    have hks : (ks.eraseDups.map fun k => (k, f k)).map Prod.fst = ks.eraseDups := by
      simp [Function.comp_def]
    rw [hks]
    exact nodup_eraseDups ks

@[simp] lemma keys_tabulate (ks : List κ) (f : κ → α) : (tabulate ks f).keys = ks.eraseDups := by
  simp [keys, tabulate, Function.comp_def]

lemma get?_tabulate (ks : List κ) (f : κ → α) (k : κ) :
    (tabulate ks f).get? k = if k ∈ ks then some (f k) else none := by
  have hfind (ls : List κ) :
      ((ls.map fun l => (l, f l)).find? fun e => e.1 = k).map Prod.snd =
        if k ∈ ls then some (f k) else none := by
    induction ls with
    | nil => rfl
    | cons l ls ih =>
        by_cases h : l = k
        · simp [h]
        · simpa [h, Ne.symm h] using ih
  rw [get?, tabulate, hfind]
  simp

/-- **A run of writes gives the map of a function**: for each key, what the writes to
that key make of nothing, however the writes to different keys alternate. -/
theorem foldl_alter_eq_tabulate (key : β → κ) (step : β → Option α → α) (f : κ → α)
    (ws : List β)
    (hf : ∀ k, (ws.filter fun w => key w = k) ≠ [] →
      (ws.filter fun w => key w = k).foldl (fun o w => some (step w o)) none = some (f k)) :
    ws.foldl (fun m w => m.alter (key w) (step w)) empty = tabulate (ws.map key) f := by
  apply ext_get?
  · rw [keys_foldl_alter, keys_tabulate]
  · intro k hk
    rw [keys_foldl_alter, List.mem_eraseDups] at hk
    obtain ⟨w, hw, hwk⟩ := List.mem_map.1 hk
    have hne : (ws.filter fun w => key w = k) ≠ [] :=
      List.ne_nil_of_mem (List.mem_filter.2 ⟨hw, by simpa using hwk⟩)
    rw [get?_foldl_alter, get?_empty, get?_tabulate, if_pos hk, hf k hne]

end OrderedMap

end SqlRequest
