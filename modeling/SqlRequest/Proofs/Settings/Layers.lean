import SqlRequest.Proofs.OrderedMap
import SqlRequest.Settings.Basic

/-!
Texts that are written into settings, one after the other.

* `Setting.at?`: what stands under some keys, one in the other; `textAt?`: its text, if it has one;
  `tableAt`: whether it is a table.
* `Step.apart`: paths that part from the keys at an entry. `at?_write_of_apart`: what is written
  there changes nothing under the keys.
* `textAt?_write`, `tableAt_write`: a text that is written to the keys themselves is their text from
  then on; one that is written over them or under them leaves none.
* `foldl_told`: of a run of writes the last one that tells anything decides.
-/

namespace SqlRequest.Setting

/-! ### Under some keys -/

/-- What stands under some keys, one in the other. -/
def at? : List String → Setting → Option Setting
  | [], s => some s
  | key :: keys, s => (s.get? key).bind (at? keys)

/-- The text of what stands under some keys. -/
def textAt? (keys : List String) (s : Setting) : Option String := (s.at? keys).bind text?

/-- Whether a table stands under some keys. -/
def tableAt (keys : List String) (s : Setting) : Bool := (s.at? keys).any isTable

/-- Settings without entries have nothing under keys. -/
lemma at?_of_entries_eq_nil {keys : List String} (hne : keys ≠ []) {s : Setting}
    (h : s.entries = []) : s.at? keys = none := by
  cases keys with
  | nil => exact absurd rfl hne
  | cons key keys => rw [at?, get?, h, List.lookup_nil, Option.bind_none]

lemma at?_getD_null {keys : List String} (hne : keys ≠ []) (s : Option Setting) :
    (s.getD null).at? keys = s.bind (at? keys) := by
  cases s with
  | none => exact at?_of_entries_eq_nil hne rfl
  | some s => rfl

lemma alterEntry_eq (key : String) (f : Option Setting → Setting) (es : List (String × Setting)) :
    alterEntry key f es = OrderedMap.alterEntries key f es := by
  induction es with
  | nil => rfl
  | cons e es ih => rw [alterEntry, OrderedMap.alterEntries, ih]

lemma lookup_alterEntry (key key' : String) (f : Option Setting → Setting)
    (es : List (String × Setting)) :
    (alterEntry key f es).lookup key' =
      if key' = key then some (f (es.lookup key)) else es.lookup key' := by
  rw [alterEntry_eq, OrderedMap.lookup_eq_find?, OrderedMap.find?_alterEntries,
    OrderedMap.lookup_eq_find?, OrderedMap.lookup_eq_find?]

/-- A path that begins with an entry makes a table, in which that entry alone is another. -/
lemma at?_write_entry (key key' : String) (path : List Step) (keys : List String)
    (later under : Setting) :
    (write (.entry key :: path) later under).at? (key' :: keys) =
      if key' = key then (write path later ((under.get? key).getD null)).at? keys
      else under.at? (key' :: keys) := by
  rw [write, at?, get?, entries, lookup_alterEntry]
  split <;> rfl

/-! ### One write -/

/-- Whether a path parts from some keys: at some point it goes to another entry. -/
def Step.apart : List Step → List String → Bool
  | .entry key :: path, key' :: keys => key' ≠ key || apart path keys
  | _, _ => false

/-- Whether a path leads to an entry of what stands under some keys. -/
def Step.leadsInto : List Step → List String → Bool
  | .entry _ :: _, [] => true
  | .entry key :: path, key' :: keys => key' = key && leadsInto path keys
  | _, _ => false

variable {path : List Step} {keys : List String}

lemma Step.ne_nil_of_apart (h : Step.apart path keys = true) : keys ≠ [] := by
  rintro rfl
  rw [Step.apart.eq_def] at h
  split at h <;> simp_all

/-- What is written elsewhere changes nothing. -/
lemma at?_write_of_apart (h : Step.apart path keys = true) (later under : Setting) :
    (write path later under).at? keys = under.at? keys := by
  induction path generalizing keys under with
  | nil => simp [Step.apart] at h
  | cons step path ih =>
      cases step with
      | item index => simp [Step.apart] at h
      | entry key =>
          cases keys with
          | nil => simp [Step.apart] at h
          | cons key' keys =>
              rw [at?_write_entry]
              split
              · next hkey =>
                rw [Step.apart, hkey] at h
                have hpath : Step.apart path keys = true := by simpa using h
                rw [ih hpath, at?_getD_null (Step.ne_nil_of_apart hpath), at?, hkey]
              · rfl

/-- What a text that is written to a path tells of the text under some keys: nothing, if it is
written elsewhere, else the text itself or that there is none. -/
def toldText? (keys : List String) (path : List Step) (v : String) : Option (Option String) :=
  if Step.apart path keys then none
  else some (if path = keys.map .entry then some v else none)

/-- What a text that is written to a path tells of the table under some keys. -/
def toldTable? (keys : List String) (path : List Step) : Option Bool :=
  if Step.apart path keys then none else some (Step.leadsInto path keys)

/-- A text that is written to the keys, over them or under them. It is their text if it is written
to them, and it leaves a table if it is written under them. -/
lemma at?_write_of_not_apart (h : Step.apart path keys = false) (v : String) (under : Setting) :
    textAt? keys (write path (.text v) under) =
        (if path = keys.map .entry then some v else none) ∧
      tableAt keys (write path (.text v) under) = Step.leadsInto path keys := by
  induction path generalizing keys under with
  | nil => cases keys <;> exact ⟨rfl, rfl⟩
  | cons step path ih =>
      cases step with
      | item index =>
          cases keys <;>
            simp [textAt?, tableAt, at?, write, get?, entries, text?, isTable, Step.leadsInto]
      | entry key =>
          cases keys with
          | nil => simp [textAt?, tableAt, at?, write, text?, isTable, Step.leadsInto]
          | cons key' keys =>
              rw [Step.apart, Bool.or_eq_false_iff] at h
              obtain ⟨hkey, hpath⟩ := h
              obtain rfl : key' = key := by simpa using hkey
              rw [textAt?, tableAt, at?_write_entry, if_pos rfl, ← textAt?, ← tableAt]
              simpa [Step.leadsInto] using ih hpath _

lemma textAt?_write (keys : List String) (path : List Step) (v : String) (under : Setting) :
    textAt? keys (write path (.text v) under) =
      (toldText? keys path v).getD (textAt? keys under) := by
  rw [toldText?]
  cases h : Step.apart path keys with
  | true => rw [textAt?, at?_write_of_apart h, if_pos rfl, Option.getD_none, textAt?]
  | false =>
      rw [(at?_write_of_not_apart h v under).1]
      rfl

lemma tableAt_write (keys : List String) (path : List Step) (v : String) (under : Setting) :
    tableAt keys (write path (.text v) under) =
      (toldTable? keys path).getD (tableAt keys under) := by
  rw [toldTable?]
  cases h : Step.apart path keys with
  | true => rw [tableAt, at?_write_of_apart h, if_pos rfl, Option.getD_none, tableAt]
  | false =>
      rw [(at?_write_of_not_apart h v under).2]
      rfl

/-! ### A run of writes -/

/-- Of a run of writes the last one that tells anything of a part decides what that part is. -/
lemma foldl_told {α β γ : Type} {view : β → γ} {write : β → α → β} {told : α → Option γ}
    (h : ∀ b a, view (write b a) = (told a).getD (view b)) (as : List α) (b : β) :
    view (as.foldl write b) = (as.filterMap told).getLast?.getD (view b) := by
  induction as generalizing b with
  | nil => rfl
  | cons a as ih =>
      rw [List.foldl_cons, ih, h]
      cases htold : told a with
      | none => rw [List.filterMap_cons_none htold, Option.getD_none]
      | some c =>
          rw [List.filterMap_cons_some htold, List.getLast?_cons, Option.getD_some,
            Option.getD_some]

end SqlRequest.Setting
