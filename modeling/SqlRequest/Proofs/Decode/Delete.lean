import SqlRequest.Decode.Request
import SqlRequest.Proofs.Decode.Layout
import SqlRequest.Proofs.Fallible

/-!
The conditions of a delete that is decoded.

* `Delete.givenConditions`: the part of a JSON value that gives the conditions, in the object
  and in the array form of a delete;
* `Delete.conditions_of_ofJson`: a delete that is decoded has the conditions of that part,
  and none if there is no such part;
* `Delete.SelectsAll`, `Delete.isEmpty_of_selectsAll`: the JSON values that put no condition
  on a delete all decode to conditions that are empty.
-/

namespace SqlRequest

/-- What a text decodes to is what its value decodes to. -/
lemma Decode.root_of_ofText {α : Type} {d : Decoder α} {s : String} {a : α}
    (h : ofText d s = .ok a) : d (Document.ofText s).root = .ok a := by
  rw [ofText] at h
  cases hdocument : document d (.ofText s) with
  | error e => simp [hdocument, Except.mapError] at h
  | ok b =>
      rw [hdocument] at h
      cases h
      obtain ⟨b, hroot, hb⟩ := bind_eq_ok.mp hdocument
      split at hb
      · cases hb
      · cases hb
        exact hroot

/-! ### Conditions of one value -/

namespace Conditions

variable {depth : Nat} {cs : Conditions}

lemma ofJson_text {s : String} (h : ofJson depth (.scalar (.text s)) = .ok cs) : cs = .raw ⟨s⟩ := by
  obtain ⟨_, -, hwhole⟩ := bind_eq_ok.mp h
  exact (Except.ok.inj hwhole).symm

lemma ofJson_array_nil {close : Close} (h : ofJson depth (.array [] close) = .ok cs) :
    cs = .list [] := by
  obtain ⟨_, -, hwhole⟩ := bind_eq_ok.mp h
  exact (Except.ok.inj hwhole).symm

end Conditions

/-! ### The conditions of a delete -/

namespace Delete

/-- What a JSON value gives as the conditions of a delete: the member of that name, or the
second element. -/
def givenConditions : Json → Option Json
  | .object members _ => (members.find? fun m => m.1 = .name "conditions").map Prod.snd
  | .array items _ => items[1]?
  | _ => none

/-- The conditions of a delete, once all its parts are there. -/
lemma fetch_conditions {p : Parts} {r : Delete} (h : layout.fetch p = .ok r) :
    (FieldSpec.named "conditions" (Conditions.ofJson 1) Conditions.none).fetch p =
      .ok r.conditions := by
  obtain ⟨_, hfirst, debug, -, rfl⟩ := Layout.fetch_seq_eq_ok_iff.mp h
  obtain ⟨_, htable, conditions, hconditions, rfl⟩ := Layout.fetch_seq_eq_ok_iff.mp hfirst
  obtain ⟨table, -, rfl⟩ := Layout.fetch_map_eq_ok_iff.mp htable
  exact hconditions

/-- An array gives the conditions as its second element. -/
lemma get_conditions_partsOfItems (items : List Json) :
    (Decode.partsOfItems "Delete" layout.fields items).get "conditions" = items[1]? :=
  Decode.get_partsOfItems (by decide) items

/-- A delete that is decoded has the conditions that its JSON value gives, and none if it
gives none. -/
lemma conditions_of_ofJson {j : Json} {r : Delete} (h : ofJson j = .ok r) :
    match givenConditions j with
    | some part => Conditions.ofJson 1 part = .ok r.conditions
    | none => r.conditions = .none := by
  cases j with
  | scalar s =>
      obtain ⟨_, -, h⟩ := bind_eq_ok.mp h
      cases h
  | fault f =>
      obtain ⟨_, -, h⟩ := bind_eq_ok.mp h
      cases h
  | object members close =>
      obtain ⟨_, -, h⟩ := bind_eq_ok.mp h
      obtain ⟨_, -, h⟩ := bind_eq_ok.mp h
      have hfetch := fetch_conditions h
      cases hgiven : givenConditions (.object members close) with
      | some part =>
          have hget : (Decode.partsOfMembers members).get "conditions" = some part := hgiven
          rwa [FieldSpec.fetch, FieldSpec.named, hget] at hfetch
      | none =>
          have hget : (Decode.partsOfMembers members).get "conditions" = none := hgiven
          rw [FieldSpec.fetch, FieldSpec.named, hget] at hfetch
          exact (Except.ok.inj hfetch).symm
  | array items close =>
      obtain ⟨_, -, h⟩ := bind_eq_ok.mp h
      have hfetch := fetch_conditions h
      rw [FieldSpec.fetch, FieldSpec.named, get_conditions_partsOfItems] at hfetch
      cases hgiven : items[1]? with
      | some part =>
          rw [hgiven] at hfetch
          simpa only [givenConditions, hgiven] using hfetch
      | none =>
          -- an array has to give the conditions
          rw [hgiven] at hfetch
          cases hfetch

/-- A JSON value that puts no condition on a delete: there are none in it, or they are
null, a blank text or an empty array. -/
inductive SelectsAll (j : Json) : Prop where
  | absent (h : givenConditions j = none)
  | null (h : givenConditions j = some (.scalar .null))
  | blank (s : String) (h : givenConditions j = some (.scalar (.text s)))
      (hs : Text.blank s = true)
  | empty (close : Close) (h : givenConditions j = some (.array [] close))

/-- Whatever way a delete without conditions is written, it decodes to conditions that are
empty. -/
lemma isEmpty_of_selectsAll {j : Json} {r : Delete} (h : ofJson j = .ok r)
    (hall : SelectsAll j) : r.conditions.isEmpty = true := by
  have hconditions := conditions_of_ofJson h
  cases hall with
  | absent hgiven =>
      rw [hgiven] at hconditions
      rw [hconditions]
      rfl
  | null hgiven =>
      rw [hgiven] at hconditions
      rw [← Except.ok.inj hconditions]
      rfl
  | blank s hgiven hs =>
      rw [hgiven] at hconditions
      rw [Conditions.ofJson_text hconditions]
      exact hs
  | empty close hgiven =>
      rw [hgiven] at hconditions
      rw [Conditions.ofJson_array_nil hconditions]
      rfl

end Delete

end SqlRequest
