import SqlRequest.Proofs.Decode.Content
import SqlRequest.Proofs.Decode.Structures

/-!
Conditions carry no tag that says what they are. They are read as a whole first and taken
for what they are afterwards.

* `Fallback.ofContent`, `Comparison.ofContent`, `Condition.ofContent`,
  `Conditions.ofContent`: what is read off a content.
* `Fallback.agrees`, `Comparison.agrees`, `Condition.agrees`, `Conditions.agrees`: the decoders
  give just that for the value of a content.
* `Condition.ofJson_eq_ok_iff`, `Conditions.ofJson_list_eq_ok_iff`: when a condition is decoded,
  and an array of them.
* `Condition.Taken`, `Conditions.Taken`: what a value is taken for. `taken_of_unflawed`: so is
  every value without a flaw. `brokenNote_not_taken`: one with a flaw need not be.
-/

namespace SqlRequest

open Content Layout

/-! ### Reading conditions off contents -/

def Ident.ofContent (c : Content) : Option Ident := c.text?.map Ident.mk

/-- A whole number that is too great for an integer is kept as the text of its digits. -/
def Value.ofContent : Content → Option Value
  | .null => some .null
  | .bool b => some (.ofBool b)
  | .number (.whole n) =>
    some (if Integer.fits n then .integer (Int64.ofInt n) else .text (toString n))
  | .number (.real x) => some (.real x)
  | .text s => some (.text s)
  | .list _ | .record _ => none

def Wildcard.ofContent : Content → Option Wildcard :=
  variant? [("none", .none), ("before", .before), ("after", .after), ("both", .both)]

/-- Null and blank words name no connective. -/
def Connective.ofContent? (c : Content) : Option (Option Connective) := do
  match ← Content.optional text? c with
  | none => some none
  | some s => if Text.blank s then some none else (ofWord s).toOption.map some

def Comparison.ofContent (c : Content) : Option Comparison := do
  let given ← c.given?
    ["field", "logicalOperator", "operator", "queue", "wildcard", "tableOverride"]
  let field ← given.required "field" Ident.ofContent
  let connective ← given.optional "logicalOperator" Connective.ofContent? none
  let operator ← given.optional "operator" text? "LIKE"
  let queue ← given.optional "queue" Value.ofContent .null
  let wildcard ← given.optional "wildcard" Wildcard.ofContent .none
  let table ← given.optional "tableOverride" (Content.optional Ident.ofContent) none
  return { field, connective, operator, queue, wildcard, table }

def Branch.ofContent (c : Content) : Option Branch := do
  let given ← c.given? ["field", "operator", "queue", "wildcard", "tableOverride"]
  let field ← given.required "field" Ident.ofContent
  let operator ← given.optional "operator" (Content.optional text?) none
  let queue ← given.optional "queue" Value.ofContent .null
  let wildcard ← given.optional "wildcard" Wildcard.ofContent .none
  let table ← given.optional "tableOverride" (Content.optional Ident.ofContent) none
  return { field, operator, queue, wildcard, table }

def Fallback.ofContent (c : Content) : Option Fallback := do
  let given ← c.given? ["type", "logicalOperator", "if", "then", "else"]
  given.required "type" (variant? [("conditionalFallback", ())])
  let connective ← given.optional "logicalOperator" Connective.ofContent? none
  let test ← given.required "if" Branch.ofContent
  let yes ← given.required "then" Branch.ofContent
  let no ← given.required "else" Branch.ofContent
  return { connective, test, yes, no }

/-- A fallback if it is one, and else a comparison. -/
def Condition.ofContent (c : Content) : Option Condition :=
  ((Fallback.ofContent c).map .fallback).or ((Comparison.ofContent c).map .comparison)

/-- A raw predicate, or a list. Null stands for none. -/
def Conditions.ofContent : Content → Option Conditions
  | .null => some .none
  | .text s => some (.raw ⟨s⟩)
  | .list cs => (cs.mapM Condition.ofContent).map .list
  | .bool _ | .number _ | .record _ => Option.none

/-! ### Agreement with the decoders -/

lemma Ident.agrees : Agrees Ident.ofJson Ident.ofContent := agrees_text.map Ident.mk

lemma Value.agrees : Agrees Decode.value Value.ofContent := by
  intro c
  cases c with
  | number n => cases n <;> rfl
  | _ => rfl

lemma Wildcard.agrees : Agrees Wildcard.ofJson Wildcard.ofContent := agrees_variant _

lemma Connective.agrees : Agrees Connective.ofJson? Connective.ofContent? := by
  intro c
  unfold Connective.ofJson? Connective.ofContent?
  rw [toOption_bind, agrees_text.optional c]
  refine congrArg _ (funext fun o => ?_)
  cases o with
  | none => rfl
  | some s =>
      simp only [Connective.ofWord?]
      split
      · rfl
      · cases Connective.ofWord s <;> rfl

lemma Comparison.agrees : Agrees Comparison.ofJson Comparison.ofContent := by
  have hreads := ((reads_required Ident.agrees "field").map Comparison.mk).seq
    (reads_optional Connective.agrees "logicalOperator" none) |>.seq
    (reads_optional agrees_text "operator" "LIKE") |>.seq
    (reads_optional Value.agrees "queue" .null) |>.seq
    (reads_optional Wildcard.agrees "wildcard" .none) |>.seq
    (reads_optional Ident.agrees.optional "tableOverride" none)
  intro c
  refine (agrees_struct faithful_layout nodup_names hreads "SimpleCondition" c).trans ?_
  simp only [Option.map_eq_bind, Option.bind_assoc, Function.comp_def, Option.bind_some]
  rfl

lemma Branch.agrees : Agrees Branch.ofJson Branch.ofContent := by
  have hreads := ((reads_required Ident.agrees "field").map Branch.mk).seq
    (reads_optional agrees_text.optional "operator" none) |>.seq
    (reads_optional Value.agrees "queue" .null) |>.seq
    (reads_optional Wildcard.agrees "wildcard" .none) |>.seq
    (reads_optional Ident.agrees.optional "tableOverride" none)
  intro c
  refine (agrees_struct faithful_layout nodup_names hreads "FallbackBranch" c).trans ?_
  simp only [Option.map_eq_bind, Option.bind_assoc, Function.comp_def, Option.bind_some]
  rfl

lemma Fallback.agrees : Agrees Fallback.ofJson Fallback.ofContent := by
  have hreads := ((reads_required (agrees_variant [("conditionalFallback", ())]) "type").map
      fun (_ : Unit) connective test yes no => Fallback.mk connective test yes no).seq
    (reads_optional Connective.agrees "logicalOperator" none) |>.seq
    (reads_required Branch.agrees "if") |>.seq
    (reads_required Branch.agrees "then") |>.seq
    (reads_required Branch.agrees "else")
  intro c
  refine (agrees_struct faithful_layout nodup_names hreads "ConditionalFallback" c).trans ?_
  simp only [Option.map_eq_bind, Option.bind_assoc, Function.comp_def, Option.bind_some]
  rfl

/-- What a condition that has been read is taken for: a fallback, or else a comparison. -/
lemma Condition.toOption_ofWhole (j : Json) :
    (ofWhole j).toOption = ((Fallback.ofJson j).toOption.map .fallback).or
      ((Comparison.ofJson j).toOption.map .comparison) := by
  rw [ofWhole]
  cases Fallback.ofJson j with
  | ok f => rfl
  | error e => cases Comparison.ofJson j <;> rfl

lemma Condition.agrees : Agrees Condition.ofWhole Condition.ofContent := by
  intro c
  rw [Condition.toOption_ofWhole, Fallback.agrees c, Comparison.agrees c]
  rfl

/-- What a list of conditions that has been read is taken for: what its items are. -/
lemma Conditions.toOption_ofWhole_list (js : List Json) :
    (ofWhole (.list js)).toOption = (Decode.items Condition.ofWhole js).toOption.map .list := by
  rw [Json.list, ofWhole]
  cases Decode.items Condition.ofWhole js <;> rfl

lemma toOption_items {α : Type} {d : Decoder α} {read : Content → Option α} (h : Agrees d read)
    (cs : List Content) : (Decode.items d (cs.map json)).toOption = cs.mapM read := by
  induction cs with
  | nil => rfl
  | cons c cs ih =>
      rw [List.map_cons, Decode.items, toOption_bind, h c, List.mapM_cons]
      refine congrArg _ (funext fun a => ?_)
      rw [toOption_bind, ih]
      rfl

/-! ### Values without a flaw -/

section Unflawed

variable {depth : Nat} {j : Json}

lemma Condition.ofJson_eq_ofWhole (h : j.readFlaw? (deepest - depth) = none) :
    Condition.ofJson depth j = Condition.ofWhole j := by
  rw [Condition.ofJson, Decode.unflawedAt, Decode.unflawed_eq_ok_iff.mpr h]
  rfl

/-- The items of an array without a flaw have none by themselves. -/
lemma Condition.items_ofWhole {js : List Json}
    (h : (Json.list js).readFlaw? (deepest - depth) = none) :
    Decode.items Condition.ofWhole js = Decode.items (Condition.ofJson 0) js := by
  refine Decode.items_congr fun j hj => (Condition.ofJson_eq_ofWhole ?_).symm
  exact Json.readFlaw?_mono (by omega) (Json.readFlaw?_of_mem_list h j hj)

lemma Conditions.ofJson_eq_ofWhole (h : j.readFlaw? (deepest - depth) = Option.none)
    (hj : j ≠ .null) : Conditions.ofJson depth j = Conditions.ofWhole j := by
  rw [Conditions.ofJson, Decode.unflawedAt, Decode.unflawed_eq_ok_iff.mpr h]
  · rfl
  · exact hj

lemma Condition.ofJson_eq_ok_iff {c : Condition} :
    Condition.ofJson depth j = .ok c ↔
      j.readFlaw? (deepest - depth) = none ∧ Condition.ofWhole j = .ok c := by
  rw [Condition.ofJson, Decode.unflawedAt, bind_eq_ok]
  constructor
  · rintro ⟨⟨⟩, hflaw, hwhole⟩
    exact ⟨Decode.unflawed_eq_ok_iff.mp hflaw, hwhole⟩
  · rintro ⟨hflaw, hwhole⟩
    exact ⟨(), Decode.unflawed_eq_ok_iff.mpr hflaw, hwhole⟩

/-- An array gives the conditions that its items are, if there is no flaw in it. -/
lemma Conditions.ofJson_list_eq_ok_iff {js : List Json} {cs : Conditions} :
    Conditions.ofJson depth (.list js) = .ok cs ↔
      (Json.list js).readFlaw? (deepest - depth) = Option.none ∧
        ∃ items, cs = .list items ∧
          List.Forall₂ (fun i c => Condition.ofWhole i = .ok c) js items := by
  have hwhole : Conditions.ofWhole (.list js) = .ok cs ↔
      ∃ items, cs = .list items ∧
        List.Forall₂ (fun i c => Condition.ofWhole i = .ok c) js items := by
    rw [← toOption_eq_some_iff, toOption_ofWhole_list, Option.map_eq_some_iff]
    refine exists_congr fun items => ?_
    rw [toOption_eq_some_iff, Decode.items_eq_ok_iff, and_comm, @eq_comm _ _ cs]
  rw [← hwhole, Json.list, Conditions.ofJson]
  · rw [Decode.unflawedAt, bind_eq_ok]
    constructor
    · rintro ⟨⟨⟩, hflaw, h⟩
      exact ⟨Decode.unflawed_eq_ok_iff.mp hflaw, h⟩
    · rintro ⟨hflaw, h⟩
      exact ⟨(), Decode.unflawed_eq_ok_iff.mpr hflaw, h⟩
  · exact Json.list_ne_null js

end Unflawed

/-! ### What a value is taken for -/

/-- A value is taken for a fallback if it is one by itself, for a comparison if it is one
and no fallback, and for nothing else. -/
structure Condition.Taken (depth : Nat) (j : Json) : Prop where
  fallback (f : Fallback) :
    Condition.ofJson depth j = .ok (.fallback f) ↔ Fallback.ofJson j = .ok f
  comparison (c : Comparison) :
    Condition.ofJson depth j = .ok (.comparison c) ↔
      Decode.Fails Fallback.ofJson j ∧ Comparison.ofJson j = .ok c
  neither (e : DecodeFault) :
    Condition.ofJson depth j = .error e ↔
      e = .noVariant "Condition" ∧ Decode.Fails Fallback.ofJson j ∧ Decode.Fails Comparison.ofJson j

/-- A text is taken for a raw predicate, null for no conditions, and an array for the
conditions that its items are, each by itself. Everything else is refused, and so is an array
with an item that is no condition. -/
structure Conditions.Taken (depth : Nat) (j : Json) : Prop where
  raw (sql : Fragment) : Conditions.ofJson depth j = .ok (.raw sql) ↔ j = .text sql.text
  list (cs : List Condition) :
    Conditions.ofJson depth j = .ok (.list cs) ↔
      j = .null ∧ cs = [] ∨
        ∃ js, j = .list js ∧ List.Forall₂ (fun i c => Condition.ofJson 0 i = .ok c) js cs
  neither (e : DecodeFault) :
    Conditions.ofJson depth j = .error e ↔
      e = .noVariant "ConditionsRepr" ∧ j ≠ .null ∧ (∀ s, j ≠ .text s) ∧
        ∀ js, j = .list js → ∃ i ∈ js, Decode.Fails (Condition.ofJson 0) i

variable {depth : Nat} {j : Json}

lemma Condition.taken (h : j.readFlaw? (deepest - depth) = none) : Condition.Taken depth j := by
  have hwhole := Condition.ofJson_eq_ofWhole h
  rw [Condition.ofWhole] at hwhole
  cases hfallback : Fallback.ofJson j with
  | ok f =>
      rw [hfallback] at hwhole
      constructor <;> simp [hwhole, hfallback, Decode.Fails]
  | error e =>
      rw [hfallback] at hwhole
      cases hcomparison : Comparison.ofJson j with
      | ok c | error e' =>
          rw [hcomparison] at hwhole
          constructor <;> simp [hwhole, hfallback, hcomparison, Decode.Fails, eq_comm]

lemma Conditions.taken_null : Conditions.Taken depth .null := by
  have hwhole : Conditions.ofJson depth .null = .ok (.list []) := rfl
  rw [Json.null] at *
  constructor <;> simp [hwhole, Json.null, Json.text, Json.list, eq_comm]

lemma Conditions.taken_text (s : String) : Conditions.Taken depth (.text s) := by
  have hwhole : Conditions.ofJson depth (.text s) = .ok (.raw ⟨s⟩) := rfl
  rw [Json.text] at *
  constructor
  case raw =>
    rintro ⟨t⟩
    simp [hwhole, Json.text]
  all_goals simp [hwhole, Json.null, Json.text, Json.list]

lemma Conditions.taken_list {js : List Json}
    (h : (Json.list js).readFlaw? (deepest - depth) = Option.none) :
    Conditions.Taken depth (.list js) := by
  have hwhole := Conditions.ofJson_eq_ofWhole h (Json.list_ne_null js)
  rw [Json.list, ofWhole, Condition.items_ofWhole h] at hwhole
  cases hitems : Decode.items (Condition.ofJson 0) js with
  | ok cs | error e =>
      rw [hitems] at hwhole
      constructor <;>
        simp [hwhole, hitems, Json.null, Json.text, Json.list, ← Decode.items_eq_ok_iff,
          ← Decode.items_fails_iff, @eq_comm DecodeFault]

lemma Conditions.taken_of_error (hnull : j ≠ .null) (htext : ∀ s, j ≠ .text s)
    (hlist : ∀ js, j ≠ .list js)
    (h : Conditions.ofJson depth j = .error (.noVariant "ConditionsRepr")) :
    Conditions.Taken depth j := by
  constructor <;> simp [h, hnull, htext, hlist, eq_comm]

lemma Conditions.taken (h : j.readFlaw? (deepest - depth) = Option.none) :
    Conditions.Taken depth j := by
  obtain ⟨c, rfl⟩ := exists_content h
  cases c with
  | null => exact taken_null
  | text s => exact taken_text s
  | list cs => exact json_list cs ▸ taken_list (json_list cs ▸ h)
  | bool b | number n => exact taken_of_error nofun nofun nofun rfl
  | record ms =>
      rw [json_record] at h ⊢
      exact taken_of_error nofun nofun nofun (ofJson_eq_ofWhole h (Json.record_ne_null _))

/-- Conditions that are read as a whole are those of the content. -/
lemma Conditions.agrees {c : Content} (h : c.json.readFlaw? (deepest - depth) = Option.none) :
    (Conditions.ofJson depth c.json).toOption = Conditions.ofContent c := by
  cases c with
  | null | text s | bool b | number n => rfl
  | list cs =>
      rw [json_list] at h ⊢
      rw [ofJson_eq_ofWhole h (Json.list_ne_null _), toOption_ofWhole_list, ofContent,
        ← toOption_items Condition.agrees]
  | record ms =>
      rw [json_record] at h ⊢
      rw [ofJson_eq_ofWhole h (Json.record_ne_null _)]
      rfl

/-- **What carries no tag is taken for what it is.** A value without a flaw is taken for a
fallback if it is one by itself, and for a comparison only if it is none; conditions are taken
item by item. That they are read as a whole first makes no difference: the decoders of a text
give what is read off the content. -/
theorem taken_of_unflawed (h : j.readFlaw? (deepest - depth) = none) :
    Condition.Taken depth j ∧ Conditions.Taken depth j ∧
      ∃ c : Content, c.json = j ∧
        (Fallback.ofJson j).toOption = Fallback.ofContent c ∧
        (Comparison.ofJson j).toOption = Comparison.ofContent c ∧
        (Condition.ofJson depth j).toOption = Condition.ofContent c ∧
        (Conditions.ofJson depth j).toOption = Conditions.ofContent c := by
  refine ⟨Condition.taken h, Conditions.taken h, ?_⟩
  obtain ⟨c, rfl⟩ := exists_content h
  refine ⟨c, rfl, Fallback.agrees c, Comparison.agrees c, ?_, Conditions.agrees h⟩
  rw [Condition.ofJson_eq_ofWhole h, Condition.agrees c]

/-- A value that is a fallback, and a comparison to one who skips what is no field of one. -/
def fallbackWithField : Json :=
  .record [("field", .text "name"), ("type", .text "conditionalFallback"),
    ("if", .record [("field", .text "nick")]),
    ("then", .record [("field", .text "nick"), ("queue", .text "a")]),
    ("else", .list [.text "name"])]

/-- It is never taken for the comparison that it is by itself. -/
theorem taken_of_unflawed_fallbackWithField :
    fallbackWithField.readFlaw? (deepest - 0) = none ∧
      Condition.ofJson 0 fallbackWithField =
        .ok (.fallback (.of (.of ⟨"nick"⟩) ((Branch.of ⟨"nick"⟩).withQueue (.text "a"))
          (.of ⟨"name"⟩))) ∧
      Comparison.ofJson fallbackWithField = .ok (.of ⟨"name"⟩ .null) ∧
      ∀ c, Condition.ofJson 0 fallbackWithField ≠ .ok (.comparison c) := by
  have hfallback : Fallback.ofJson fallbackWithField =
      .ok (.of (.of ⟨"nick"⟩) ((Branch.of ⟨"nick"⟩).withQueue (.text "a")) (.of ⟨"name"⟩)) := rfl
  have htaken := (@taken_of_unflawed 0 fallbackWithField rfl).1
  refine ⟨rfl, (htaken.fallback _).mpr hfallback, rfl, fun c hc => ?_⟩
  obtain ⟨⟨e, he⟩, -⟩ := (htaken.comparison c).mp hc
  rw [hfallback] at he
  cases he

/-- A comparison with half of a surrogate pair in a member that is no field of one. -/
def brokenNote : Json := .record [("field", .text "name"), ("note", .scalar .brokenText)]

/-- One who skips the member takes it for the comparison. No condition is decoded from it, since
all of it is read first, and half of a pair cannot be read. -/
theorem brokenNote_not_taken :
    let text := "\x7b\"field\":\"name\",\"note\":\"\\ud800\"\x7d"
    Decode.Fails Fallback.ofJson brokenNote ∧
      Comparison.ofJson brokenNote = .ok (.of ⟨"name"⟩ .null) ∧
      Condition.ofJson 0 brokenNote = .error (.flaw .malformed) ∧
      Decode.ofText Comparison.ofJson text = .ok (.of ⟨"name"⟩ .null) ∧
      Decode.ofText (Condition.ofJson 0) text = .error (.decode (.flaw .malformed)) :=
  ⟨⟨_, rfl⟩, rfl, rfl, by decide +kernel, by decide +kernel⟩

end SqlRequest
