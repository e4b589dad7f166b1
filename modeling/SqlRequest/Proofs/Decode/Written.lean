import SqlRequest.Proofs.Decode.Slot
import SqlRequest.Proofs.Decode.Untagged

/-!
How the parts of a request are written in JSON: every field under its key, null or nothing
for what is absent, and nothing, if one likes, for what has the default of the builder.

* `Comparison.Written`, `Fallback.Written`, `Conditions.Written`, `Join.Written`,
  `Grouping.Written`: a JSON value writes a part.
* `Comparison.ofJson_of_written` and so on: what writes a part is decoded to it.
* `Comparison.exists_written` and so on: every part can be written, as long as its values are
  null, integers or texts.
-/

namespace SqlRequest

open Layout

/-! ### What has no parts -/

def Ident.Written (i : Ident) (j : Json) : Prop := j = .text i.text

def Fragment.Written (f : Fragment) (j : Json) : Prop := j = .text f.text

def Connective.Written (op : Connective) (j : Json) : Prop := j = .text op.sql

def Wildcard.Written (w : Wildcard) (j : Json) : Prop := j = .text w.name

/-- A value with nothing rounded in it: null, an integer or a text. -/
def Value.Exact (v : Value) : Prop := ∀ x, v ≠ .real x

lemma Value.exact_null : null.Exact := nofun

lemma Value.exact_integer (n : Int64) : (integer n).Exact := nofun

lemma Value.exact_text (s : String) : (Value.text s).Exact := nofun

def Value.Written (v : Value) (j : Json) : Prop := v.Exact ∧ j = v.toJson

lemma Ident.ofJson_of_written {i : Ident} {j : Json} (h : i.Written j) : ofJson j = .ok i := by
  rw [h]
  rfl

lemma Ident.not_written_null (i : Ident) : ¬ i.Written .null := by
  rw [Ident.Written]
  nofun

lemma Fragment.not_written_null (f : Fragment) : ¬ f.Written .null := by
  rw [Fragment.Written]
  nofun

lemma Fragment.ofJson_of_written {f : Fragment} {j : Json} (h : f.Written j) :
    ofJson j = .ok f := by
  rw [h]
  rfl

lemma Wildcard.ofJson_of_written {w : Wildcard} {j : Json} (h : w.Written j) :
    ofJson j = .ok w := by
  rw [h]
  cases w <;> rfl

lemma Value.ofJson_of_written {v : Value} {j : Json} (h : v.Written j) :
    Decode.value j = .ok v := by
  obtain ⟨hreal, rfl⟩ := h
  cases v with
  | null | text s => rfl
  | real x => exact absurd rfl (hreal x)
  | integer n =>
      change Except.ok (if Integer.fits n.toInt then Value.integer (Int64.ofInt n.toInt) else _) = _
      rw [if_pos (Integer.fits_toInt n), Int64.ofInt_toInt]

lemma Connective.ofWord?_sql (op : Connective) : ofWord? op.sql = .ok (some op) := by
  have hblank : Text.blank op.sql = false := by cases op <;> decide
  have hcapitals : capitals op.sql = op.sql := by
    rw [capitals, ← String.toList_inj, String.toList_map]
    cases op <;> decide
  rw [ofWord?, hblank, ofWord, hcapitals]
  cases op <;> rfl

/-- A connective that may be absent. -/
lemma Connective.ofJson?_of_written {key : String} {op : Option Connective} {j : Json}
    (h : (Slot.optional key Written op).written j) : ofJson? j = .ok op := by
  cases op with
  | none =>
      obtain rfl := h
      rfl
  | some op =>
      obtain rfl := h
      change (ofWord? op.sql).mapError _ = _
      rw [ofWord?_sql]
      rfl

/-- What may be absent is decoded if it is when it is there, and null stands for nothing
else. -/
lemma Decode.optional_of_written {α : Type} {d : Decoder α} {written : α → Json → Prop}
    {key : String} {o : Option α} {j : Json} (h : (Slot.optional key written o).written j)
    (hd : ∀ a j, written a j → d j = .ok a) (hnull : ∀ a, ¬ written a .null) :
    Decode.optional d j = .ok o := by
  cases o with
  | none =>
      obtain rfl := h
      rfl
  | some a =>
      have hj : j ≠ .null := by
        rintro rfl
        exact hnull a h
      rw [Decode.optional, hd a j h]
      · rfl
      · exact hj

lemma Ident.optional_of_written {key : String} {o : Option Ident} {j : Json}
    (h : (Slot.optional key Written o).written j) : Decode.optional ofJson j = .ok o :=
  Decode.optional_of_written h (fun _ _ => ofJson_of_written) not_written_null

lemma Decode.list_of_written {α : Type} {d : Decoder α} {written : α → Json → Prop}
    {as : List α} {j : Json} (h : j.WritesList written as)
    (hd : ∀ a j, written a j → d j = .ok a) : Decode.list d j = .ok as := by
  obtain ⟨js, rfl, hjs⟩ := h
  have hitems : Decode.items d js = .ok as :=
    Decode.items_eq_ok_iff.mpr (hjs.flip.imp fun j a => hd a j)
  rw [Json.list, Decode.list, hitems]
  rfl

lemma Ident.list_of_written {is : List Ident} {j : Json} (h : j.WritesList Written is) :
    Decode.list ofJson j = .ok is :=
  Decode.list_of_written h fun _ _ => ofJson_of_written

/-! ### Conditions -/

def Comparison.slots (c : Comparison) : List Slot := [
  .required "field" c.field.Written,
  .optional "logicalOperator" Connective.Written c.connective,
  .defaulted "operator" (· = .text c.operator)
    (c.operator = (Comparison.of c.field c.queue).operator),
  .defaulted "queue" c.queue.Written (c.queue = .null),
  .defaulted "wildcard" c.wildcard.Written
    (c.wildcard = (Comparison.of c.field c.queue).wildcard),
  .optional "tableOverride" Ident.Written c.table]

def Comparison.Written (c : Comparison) (j : Json) : Prop := j.Writes c.slots

def Branch.slots (b : Branch) : List Slot := [
  .required "field" b.field.Written,
  .optional "operator" (fun operator j => j = .text operator) b.operator,
  .defaulted "queue" b.queue.Written (b.queue = (Branch.of b.field).queue),
  .defaulted "wildcard" b.wildcard.Written (b.wildcard = (Branch.of b.field).wildcard),
  .optional "tableOverride" Ident.Written b.table]

def Branch.Written (b : Branch) (j : Json) : Prop := j.Writes b.slots

def Fallback.slots (f : Fallback) : List Slot := [
  .required "type" (· = .text "conditionalFallback"),
  .optional "logicalOperator" Connective.Written f.connective,
  .required "if" f.test.Written,
  .required "then" f.yes.Written,
  .required "else" f.no.Written]

def Fallback.Written (f : Fallback) (j : Json) : Prop := j.Writes f.slots

def Condition.Written : Condition → Json → Prop
  | .comparison c => c.Written
  | .fallback f => f.Written

/-- A raw predicate is a text, a list is an array, and null is the empty list. -/
inductive Conditions.Written : Conditions → Json → Prop where
  | raw (sql : Fragment) : Written (.raw sql) (.text sql.text)
  | null : Written Conditions.none .null
  | list {cs : List Condition} {j : Json} (h : j.WritesList Condition.Written cs) :
      Written (.list cs) j

lemma Comparison.takes (c : Comparison) : layout.Takes c.slots c :=
  ((takes_field rfl (fun _ => Ident.ofJson_of_written) False.elim).map Comparison.mk).seq
    (takes_field rfl (fun _ => Connective.ofJson?_of_written)
      fun h => h ▸ rfl) |>.seq
    (takes_field rfl (fun _ h => h ▸ rfl) fun h => h ▸ rfl) |>.seq
    (takes_field rfl (fun _ => Value.ofJson_of_written) fun h => h ▸ rfl) |>.seq
    (takes_field rfl (fun _ => Wildcard.ofJson_of_written) fun h => h ▸ rfl) |>.seq
    (takes_field rfl (fun _ => Ident.optional_of_written)
      fun h => h ▸ rfl)

lemma Branch.takes (b : Branch) : layout.Takes b.slots b :=
  ((takes_field rfl (fun _ => Ident.ofJson_of_written) False.elim).map Branch.mk).seq
    (takes_field rfl (fun _ h => Decode.optional_of_written h (fun _ _ h => h ▸ rfl) nofun)
      fun h => h ▸ rfl) |>.seq
    (takes_field rfl (fun _ => Value.ofJson_of_written) fun h => h ▸ rfl) |>.seq
    (takes_field rfl (fun _ => Wildcard.ofJson_of_written) fun h => h ▸ rfl) |>.seq
    (takes_field rfl (fun _ => Ident.optional_of_written) fun h => h ▸ rfl)

lemma Branch.ofJson_of_written {b : Branch} {j : Json} (h : b.Written j) : ofJson j = .ok b :=
  Decode.struct_of_writes faithful_layout nodup_names rfl b.takes h

lemma Fallback.tag_of_written {j : Json} (h : j = .text "conditionalFallback") :
    tag j = .ok () := by
  rw [h]
  rfl

lemma Fallback.takes (f : Fallback) : layout.Takes f.slots f :=
  ((takes_field rfl (fun _ => tag_of_written) False.elim).map _).seq
    (takes_field rfl (fun _ => Connective.ofJson?_of_written) fun h => h ▸ rfl) |>.seq
    (takes_field rfl (fun _ => Branch.ofJson_of_written) False.elim) |>.seq
    (takes_field rfl (fun _ => Branch.ofJson_of_written) False.elim) |>.seq
    (takes_field rfl (fun _ => Branch.ofJson_of_written) False.elim)

lemma Comparison.ofJson_of_written {c : Comparison} {j : Json} (h : c.Written j) :
    ofJson j = .ok c :=
  Decode.struct_of_writes faithful_layout nodup_names rfl c.takes h

lemma Fallback.ofJson_of_written {f : Fallback} {j : Json} (h : f.Written j) :
    ofJson j = .ok f :=
  Decode.struct_of_writes faithful_layout nodup_names rfl f.takes h

/-- No comparison is a fallback: it has no tag. -/
lemma Comparison.fails_fallback_of_written {c : Comparison} {j : Json} (h : c.Written j) :
    Decode.Fails Fallback.ofJson j := by
  refine Decode.fails_iff.mpr fun f hfallback => ?_
  obtain ⟨ms, rfl, hms⟩ := h
  obtain ⟨m, hm, hname⟩ := List.mem_map.mp (Fallback.tag_mem_of_ofJson hfallback)
  obtain ⟨slot, hslot, hkey, -⟩ := hms.written m hm
  have hmem : "type" ∈ c.slots.map Slot.key := hname ▸ hkey ▸ List.mem_map_of_mem hslot
  exact absurd hmem (by simp [slots, Slot.required, Slot.optional, Slot.defaulted])

lemma Condition.ofWhole_of_written {c : Condition} {j : Json} (h : c.Written j) :
    ofWhole j = .ok c := by
  cases c with
  | fallback f => exact ofWhole_of_fallback (Fallback.ofJson_of_written h)
  | comparison c =>
      exact ofWhole_of_comparison (Comparison.fails_fallback_of_written h)
        (Comparison.ofJson_of_written h)

/-! ### Conditions that are written have no flaw -/

lemma Ident.readFlaw?_of_written {room : Nat} {i : Ident} {j : Json} (h : i.Written j) :
    j.readFlaw? room = none := by
  obtain rfl := h
  rfl

lemma Value.readFlaw?_of_written {room : Nat} {v : Value} {j : Json} (h : v.Written j) :
    j.readFlaw? room = none := by
  obtain ⟨hreal, rfl⟩ := h
  cases v with
  | null | text s | integer n => rfl
  | real x => exact absurd rfl (hreal x)

lemma Slot.readFlaw?_of_optional {α : Type} {room : Nat} {key : String}
    {written : α → Json → Prop} (hwritten : ∀ a j, written a j → j.readFlaw? room = none)
    {o : Option α} {j : Json} (h : (Slot.optional key written o).written j) :
    j.readFlaw? room = none := by
  cases o with
  | none =>
      obtain rfl := h
      rfl
  | some a => exact hwritten a j h

lemma Comparison.readFlaw?_of_written {c : Comparison} {j : Json} (h : c.Written j) :
    j.readFlaw? 1 = none := by
  refine Json.readFlaw?_of_writes ?_ h
  simp only [slots, List.forall_mem_cons]
  exact ⟨fun _ => Ident.readFlaw?_of_written,
    fun _ => Slot.readFlaw?_of_optional fun _ _ h => h ▸ rfl, fun _ h => h ▸ rfl,
    fun _ => Value.readFlaw?_of_written, fun _ h => h ▸ rfl,
    fun _ => Slot.readFlaw?_of_optional fun _ _ => Ident.readFlaw?_of_written,
    List.forall_mem_nil _⟩

lemma Branch.readFlaw?_of_written {b : Branch} {j : Json} (h : b.Written j) :
    j.readFlaw? 1 = none := by
  refine Json.readFlaw?_of_writes ?_ h
  simp only [slots, List.forall_mem_cons]
  exact ⟨fun _ => Ident.readFlaw?_of_written,
    fun _ => Slot.readFlaw?_of_optional fun _ _ h => h ▸ rfl,
    fun _ => Value.readFlaw?_of_written, fun _ h => h ▸ rfl,
    fun _ => Slot.readFlaw?_of_optional fun _ _ => Ident.readFlaw?_of_written,
    List.forall_mem_nil _⟩

lemma Fallback.readFlaw?_of_written {f : Fallback} {j : Json} (h : f.Written j) :
    j.readFlaw? 2 = none := by
  refine Json.readFlaw?_of_writes ?_ h
  simp only [slots, List.forall_mem_cons]
  exact ⟨fun _ h => h ▸ rfl, fun _ => Slot.readFlaw?_of_optional fun _ _ h => h ▸ rfl,
    fun _ => Branch.readFlaw?_of_written, fun _ => Branch.readFlaw?_of_written,
    fun _ => Branch.readFlaw?_of_written, List.forall_mem_nil _⟩

lemma Condition.readFlaw?_of_written {c : Condition} {j : Json} (h : c.Written j) :
    j.readFlaw? 2 = none := by
  cases c with
  | comparison c => exact Json.readFlaw?_mono (by decide) (Comparison.readFlaw?_of_written h)
  | fallback f => exact Fallback.readFlaw?_of_written h

lemma Conditions.ofJson_of_written {cs : Conditions} {j : Json} (h : cs.Written j) :
    ofJson 1 j = .ok cs := by
  cases h with
  | raw sql | null => rfl
  | list h =>
      obtain ⟨js, rfl, hjs⟩ := h
      -- an array, a fallback, a branch and what stands in it: never deeper than that
      have hflaws : ∀ j ∈ js, j.readFlaw? 2 = Option.none :=
        ((List.forall₂_and_left _ _).mp (hjs.flip.imp fun _ _ h =>
          ⟨Condition.readFlaw?_of_written h, h⟩)).1
      have hlist : (Json.list js).readFlaw? (deepest - 1) = Option.none :=
        Json.readFlaw?_mono (by decide) (Json.readFlaw?_array.mpr ⟨hflaws, rfl⟩)
      have hitems : Decode.items Condition.ofWhole js = .ok _ :=
        Decode.items_eq_ok_iff.mpr (hjs.flip.imp fun _ _ => Condition.ofWhole_of_written)
      rw [ofJson_eq_ofWhole hlist (Json.list_ne_null js), Json.list, ofWhole, hitems]

/-! ### Joins and groupings -/

def Join.slots (join : Join) : List Slot := [
  .optional "table" Ident.Written join.table,
  .optional "on" Fragment.Written join.on]

def Join.Written (join : Join) (j : Json) : Prop := j.Writes join.slots

def GroupConcat.slots (g : GroupConcat) : List Slot := [
  .required "for" g.source.Written,
  .required "as" g.name.Written]

def GroupConcat.Written (g : GroupConcat) (j : Json) : Prop := j.Writes g.slots

def Grouping.slots (g : Grouping) : List Slot := [
  .required "identifier" g.identifier.Written,
  .defaulted "groups" (Json.WritesList GroupConcat.Written g.groups)
    (g.groups = (Grouping.of g.identifier).groups)]

def Grouping.Written (g : Grouping) (j : Json) : Prop := j.Writes g.slots

lemma Fragment.optional_of_written {key : String} {o : Option Fragment} {j : Json}
    (h : (Slot.optional key Written o).written j) : Decode.optional ofJson j = .ok o :=
  Decode.optional_of_written h (fun _ _ => ofJson_of_written) not_written_null

lemma Join.takes (join : Join) : layout.Takes join.slots join :=
  ((takes_field rfl (fun _ => Ident.optional_of_written) fun h => h ▸ rfl).map Join.mk).seq
    (takes_field rfl (fun _ => Fragment.optional_of_written) fun h => h ▸ rfl)

lemma Join.ofJson_of_written {join : Join} {j : Json} (h : join.Written j) :
    ofJson j = .ok join :=
  Decode.struct_of_writes faithful_layout nodup_names rfl join.takes h

lemma Join.list_of_written {joins : List Join} {j : Json} (h : j.WritesList Written joins) :
    Decode.list ofJson j = .ok joins :=
  Decode.list_of_written h fun _ _ => ofJson_of_written

lemma GroupConcat.takes (g : GroupConcat) : layout.Takes g.slots g :=
  ((takes_field rfl (fun _ => Ident.ofJson_of_written) False.elim).map GroupConcat.mk).seq
    (takes_field rfl (fun _ => Ident.ofJson_of_written) False.elim)

lemma GroupConcat.ofJson_of_written {g : GroupConcat} {j : Json} (h : g.Written j) :
    ofJson j = .ok g :=
  Decode.struct_of_writes faithful_layout nodup_names rfl g.takes h

lemma GroupConcat.list_of_written {gs : List GroupConcat} {j : Json}
    (h : j.WritesList Written gs) : Decode.list ofJson j = .ok gs :=
  Decode.list_of_written h fun _ _ => ofJson_of_written

lemma Grouping.takes (g : Grouping) : layout.Takes g.slots g :=
  ((takes_field rfl (fun _ => Ident.ofJson_of_written) False.elim).map Grouping.mk).seq
    (takes_field rfl (fun _ => GroupConcat.list_of_written) fun h => h ▸ rfl)

lemma Grouping.ofJson_of_written {g : Grouping} {j : Json} (h : g.Written j) :
    ofJson j = .ok g :=
  Decode.struct_of_writes faithful_layout nodup_names rfl g.takes h

lemma Grouping.optional_of_written {key : String} {o : Option Grouping} {j : Json}
    (h : (Slot.optional key Written o).written j) : Decode.optional ofJson j = .ok o :=
  Decode.optional_of_written h (fun _ _ => ofJson_of_written)
    fun _ h => Json.ne_null_of_writes h rfl

/-! ### Every part can be written -/

/-- The values of a condition. -/
def Condition.values : Condition → List Value
  | .comparison c => [c.queue]
  | .fallback f => [f.test.queue, f.yes.queue, f.no.queue]

def Conditions.values : Conditions → List Value
  | .raw _ => []
  | .list cs => cs.flatMap Condition.values

lemma Slot.exists_optional {α : Type} {key : String} {written : α → Json → Prop} {o : Option α}
    (h : ∀ a, o = some a → ∃ j, written a j) : ∃ j, (Slot.optional key written o).written j := by
  cases o with
  | none => exact ⟨.null, rfl⟩
  | some a => exact h a rfl

lemma Value.exists_written {v : Value} (h : v.Exact) : ∃ j, v.Written j := ⟨_, h, rfl⟩

lemma Comparison.exists_written {c : Comparison} (h : c.queue.Exact) : ∃ j, c.Written j := by
  refine Json.exists_writes nodup_names ?_
  simp only [slots, List.forall_mem_cons]
  exact ⟨⟨_, rfl⟩, Slot.exists_optional fun _ _ => ⟨_, rfl⟩, ⟨_, rfl⟩,
    Value.exists_written h, ⟨_, rfl⟩, Slot.exists_optional fun _ _ => ⟨_, rfl⟩,
    List.forall_mem_nil _⟩

lemma Branch.exists_written {b : Branch} (h : b.queue.Exact) : ∃ j, b.Written j := by
  refine Json.exists_writes nodup_names ?_
  simp only [slots, List.forall_mem_cons]
  exact ⟨⟨_, rfl⟩, Slot.exists_optional fun _ _ => ⟨_, rfl⟩, Value.exists_written h,
    ⟨_, rfl⟩, Slot.exists_optional fun _ _ => ⟨_, rfl⟩, List.forall_mem_nil _⟩

lemma Condition.exists_written {c : Condition} (h : ∀ v ∈ c.values, v.Exact) :
    ∃ j, c.Written j := by
  cases c with
  | comparison c => exact Comparison.exists_written (h _ List.mem_cons_self)
  | fallback f =>
      simp only [values, List.forall_mem_cons] at h
      obtain ⟨htest, hyes, hno, -⟩ := h
      refine Json.exists_writes Fallback.nodup_names ?_
      simp only [Fallback.slots, List.forall_mem_cons]
      exact ⟨⟨_, rfl⟩, Slot.exists_optional fun _ _ => ⟨_, rfl⟩, Branch.exists_written htest,
        Branch.exists_written hyes, Branch.exists_written hno, List.forall_mem_nil _⟩

lemma Conditions.exists_written {cs : Conditions} (h : ∀ v ∈ cs.values, v.Exact) :
    ∃ j, cs.Written j := by
  cases cs with
  | raw sql => exact ⟨_, .raw sql⟩
  | list cs =>
      have hitems : ∀ c ∈ cs, ∃ j, Condition.Written c j := fun c hc =>
        Condition.exists_written fun v hv => h v (List.mem_flatMap.mpr ⟨c, hc, hv⟩)
      obtain ⟨j, hj⟩ := Json.exists_writesList hitems
      exact ⟨j, .list hj⟩

lemma Join.exists_written (join : Join) : ∃ j, join.Written j := by
  refine Json.exists_writes nodup_names ?_
  simp only [slots, List.forall_mem_cons]
  exact ⟨Slot.exists_optional fun _ _ => ⟨_, rfl⟩, Slot.exists_optional fun _ _ => ⟨_, rfl⟩,
    List.forall_mem_nil _⟩

lemma GroupConcat.exists_written (g : GroupConcat) : ∃ j, g.Written j := by
  refine Json.exists_writes nodup_names ?_
  simp only [slots, List.forall_mem_cons]
  exact ⟨⟨_, rfl⟩, ⟨_, rfl⟩, List.forall_mem_nil _⟩

lemma Grouping.exists_written (g : Grouping) : ∃ j, g.Written j := by
  refine Json.exists_writes nodup_names ?_
  simp only [slots, List.forall_mem_cons]
  exact ⟨⟨_, rfl⟩, Json.exists_writesList fun g _ => g.exists_written, List.forall_mem_nil _⟩

end SqlRequest
