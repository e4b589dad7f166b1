import SqlRequest.Proofs.Decode.Written
import SqlRequest.Proofs.OrderedMap
import SqlRequest.Proofs.Request

/-!
The two front ends: requests that are made with the methods of a builder, and requests that
are decoded from JSON.

* `Request.Built`: the requests that the methods make, `Request.built`: these are all requests.
  `Request.Written`: a JSON value writes a request.
* `Select.field_ne_of_ofJson`: no JSON value names a field by an asterisk, although a method can.
* `Request.front_ends_agree`: every other request of nulls, integers and texts can be written, and
  whatever writes it is decoded to the request.
-/

namespace SqlRequest

open Layout

/-! ### How requests are written -/

/-- An asterisk stands for all fields, so no single field is written like that. -/
inductive Field.Written : Field → Json → Prop where
  | all : Written .all (.text "*")
  | named {name : String} (h : name ≠ "*") : Written (.named name) (.text name)

/-- The entries are the members, in order. -/
def Payload.Written (p : Payload) (j : Json) : Prop :=
  ∃ ms, j = .record ms ∧
    List.Forall₂ (fun e m => m.1 = e.1.text ∧ e.2.Written m.2) p.entries ms

def Select.slots (r : Select) : List Slot := [
  .required "table" r.table.Written,
  .defaulted "field" r.field.Written (r.field = (Select.of r.table).field),
  .defaulted "conditions" r.conditions.Written (r.conditions = (Select.of r.table).conditions),
  .defaulted "joins" (Json.WritesList Join.Written r.joins) (r.joins = (Select.of r.table).joins),
  .optional "grouping" Grouping.Written r.grouping,
  .defaulted "debug" (· = .bool r.debug) (r.debug = (Select.of r.table).debug)]

def SelectMany.slots (r : SelectMany) : List Slot := [
  .required "table" r.table.Written,
  .defaulted "conditions" r.conditions.Written
    (r.conditions = (SelectMany.of r.table).conditions),
  .defaulted "joins" (Json.WritesList Join.Written r.joins)
    (r.joins = (SelectMany.of r.table).joins),
  .optional "grouping" Grouping.Written r.grouping,
  .optional "orderBy" Fragment.Written r.orderBy,
  .defaulted "cols" (Json.WritesList Ident.Written r.cols) (r.cols = (SelectMany.of r.table).cols),
  .defaulted "debug" (· = .bool r.debug) (r.debug = (SelectMany.of r.table).debug)]

def Update.slots (r : Update) : List Slot := [
  .required "table" r.table.Written,
  .required "values" (Payload.Written r.values),
  .defaulted "conditions" r.conditions.Written (r.conditions = (Update.of r.table).conditions),
  .defaulted "debug" (· = .bool r.debug) (r.debug = (Update.of r.table).debug)]

def Insert.slots (r : Insert) : List Slot := [
  .required "table" r.table.Written,
  .required "values" (Payload.Written r.values),
  .defaulted "debug" (· = .bool r.debug) (r.debug = (Insert.of r.table).debug)]

/-- The conditions of a delete have no default. -/
def Delete.slots (r : Delete) : List Slot := [
  .required "table" r.table.Written,
  .required "conditions" r.conditions.Written,
  .defaulted "debug" (· = .bool r.debug) (r.debug = (Delete.of r.table r.conditions).debug)]

def Request.slots : Request → List Slot
  | .select r => r.slots
  | .selectMany r => r.slots
  | .update r => r.slots
  | .insert r => r.slots
  | .delete r => r.slots

/-- An object that writes a request. -/
def Request.Written (r : Request) (j : Json) : Prop := j.Writes r.slots

/-! ### What writes a request is decoded to it -/

lemma Field.ofJson_of_written {f : Field} {j : Json} (h : f.Written j) : ofJson j = .ok f := by
  cases h with
  | all => rfl
  | named h => exact congrArg Except.ok (if_neg h)

/-- Writes of values, listed as the members of an object in order. A key may be repeated. -/
def Payload.Lists (ws : List (Ident × Value)) (j : Json) : Prop :=
  ∃ ms, j = .record ms ∧ List.Forall₂ (fun w m => m.1 = w.1.text ∧ w.2.Written m.2) ws ms

/-- The members are written to the payload one after the other. -/
lemma Payload.ofJson_of_lists {ws : List (Ident × Value)} {j : Json} (h : Lists ws j) :
    ofJson j = .ok (.ofList ws) := by
  obtain ⟨ms, rfl, hms⟩ := h
  have hmembers : Decode.members Decode.value (ms.map fun m => (.name m.1, m.2)) =
      .ok (ws.map fun w => (w.1.text, w.2)) := by
    rw [Decode.members_eq_ok_iff, List.forall₂_map_right_iff]
    exact hms.flip.imp fun _ _ h => ⟨h.1, Value.ofJson_of_written h.2⟩
  have hwrites : (ws.map fun w => (w.1.text, w.2)).map
      (fun w => ((⟨w.1⟩ : Ident), w.2)) = ws := by
    rw [List.map_map]
    exact List.map_id _
  rw [Json.record, ofJson, hmembers]
  change Except.ok (OrderedMap.ofList ((ws.map _).map _)) = _
  rw [hwrites]

lemma Payload.ofJson_of_written {p : Payload} {j : Json} (h : Payload.Written p j) :
    ofJson j = .ok p := by
  rw [ofJson_of_lists h, OrderedMap.ofList_entries]

lemma Select.takes (r : Select) : layout.Takes r.slots r :=
  ((takes_field rfl (fun _ => Ident.ofJson_of_written) False.elim).map Select.mk).seq
    (takes_field rfl (fun _ => Field.ofJson_of_written) fun h => h ▸ rfl) |>.seq
    (takes_field rfl (fun _ => Conditions.ofJson_of_written) fun h => h ▸ rfl) |>.seq
    (takes_field rfl (fun _ => Join.list_of_written) fun h => h ▸ rfl) |>.seq
    (takes_field rfl (fun _ => Grouping.optional_of_written) fun h => h ▸ rfl) |>.seq
    (takes_field rfl (fun _ h => h ▸ rfl) fun h => h ▸ rfl)

lemma SelectMany.takes (r : SelectMany) : layout.Takes r.slots r :=
  ((takes_field rfl (fun _ => Ident.ofJson_of_written) False.elim).map SelectMany.mk).seq
    (takes_field rfl (fun _ => Conditions.ofJson_of_written) fun h => h ▸ rfl) |>.seq
    (takes_field rfl (fun _ => Join.list_of_written) fun h => h ▸ rfl) |>.seq
    (takes_field rfl (fun _ => Grouping.optional_of_written) fun h => h ▸ rfl) |>.seq
    (takes_field rfl (fun _ => Fragment.optional_of_written) fun h => h ▸ rfl) |>.seq
    (takes_field rfl (fun _ => Ident.list_of_written) fun h => h ▸ rfl) |>.seq
    (takes_field rfl (fun _ h => h ▸ rfl) fun h => h ▸ rfl)

lemma Update.takes (r : Update) : layout.Takes r.slots r :=
  ((takes_field rfl (fun _ => Ident.ofJson_of_written) False.elim).map Update.mk).seq
    (takes_field rfl (fun _ => Payload.ofJson_of_written) False.elim) |>.seq
    (takes_field rfl (fun _ => Conditions.ofJson_of_written) fun h => h ▸ rfl) |>.seq
    (takes_field rfl (fun _ h => h ▸ rfl) fun h => h ▸ rfl)

lemma Insert.takes (r : Insert) : layout.Takes r.slots r :=
  ((takes_field rfl (fun _ => Ident.ofJson_of_written) False.elim).map Insert.mk).seq
    (takes_field rfl (fun _ => Payload.ofJson_of_written) False.elim) |>.seq
    (takes_field rfl (fun _ h => h ▸ rfl) fun h => h ▸ rfl)

lemma Delete.takes (r : Delete) : layout.Takes r.slots r :=
  ((takes_field rfl (fun _ => Ident.ofJson_of_written) False.elim).map Delete.mk).seq
    (takes_field rfl (fun _ => Conditions.ofJson_of_written) False.elim) |>.seq
    (takes_field rfl (fun _ h => h ▸ rfl) fun h => h ▸ rfl)

namespace Request

/-- The kinds of requests. A JSON value does not tell of which kind it is. -/
inductive Kind where
  | select
  | selectMany
  | update
  | insert
  | delete

def kind : Request → Kind
  | .select _ => .select
  | .selectMany _ => .selectMany
  | .update _ => .update
  | .insert _ => .insert
  | .delete _ => .delete

/-- A request of a kind. -/
def ofJson : Kind → Decoder Request
  | .select => fun j => (Select.ofJson j).map .select
  | .selectMany => fun j => (SelectMany.ofJson j).map .selectMany
  | .update => fun j => (Update.ofJson j).map .update
  | .insert => fun j => (Insert.ofJson j).map .insert
  | .delete => fun j => (Delete.ofJson j).map .delete

lemma ofJson_of_written {r : Request} {j : Json} (h : r.Written j) :
    ofJson r.kind j = .ok r := by
  cases r with
  | select r =>
      exact congrArg (Except.map Request.select)
        (Decode.struct_of_writes Select.faithful_layout Select.nodup_names rfl r.takes h)
  | selectMany r =>
      exact congrArg (Except.map Request.selectMany)
        (Decode.struct_of_writes SelectMany.faithful_layout SelectMany.nodup_names rfl r.takes h)
  | update r =>
      exact congrArg (Except.map Request.update)
        (Decode.struct_of_writes Update.faithful_layout Update.nodup_names rfl r.takes h)
  | insert r =>
      exact congrArg (Except.map Request.insert)
        (Decode.struct_of_writes Insert.faithful_layout Insert.nodup_names rfl r.takes h)
  | delete r =>
      exact congrArg (Except.map Request.delete)
        (Decode.struct_of_writes Delete.faithful_layout Delete.nodup_names rfl r.takes h)

end Request

/-! ### Requests that the methods make -/

/-- Selects of one row. The method takes any field, so one whose name is an asterisk as well. -/
inductive Select.Built : Select → Prop where
  | of (table : Ident) : Built (.of table)
  | withField {r : Select} (h : Built r) (field : Field) : Built (r.withField field)
  | withConditions {r : Select} (h : Built r) (cs : Conditions) : Built (r.withConditions cs)
  | withJoin {r : Select} (h : Built r) (join : Join) : Built (r.withJoin join)
  | withGrouping {r : Select} (h : Built r) (g : Grouping) : Built (r.withGrouping g)
  | debugged {r : Select} (h : Built r) : Built r.debugged

inductive SelectMany.Built : SelectMany → Prop where
  | of (table : Ident) : Built (.of table)
  | withConditions {r : SelectMany} (h : Built r) (cs : Conditions) : Built (r.withConditions cs)
  | withJoin {r : SelectMany} (h : Built r) (join : Join) : Built (r.withJoin join)
  | withGrouping {r : SelectMany} (h : Built r) (g : Grouping) : Built (r.withGrouping g)
  | withOrder {r : SelectMany} (h : Built r) (order : Fragment) : Built (r.withOrder order)
  | withCol {r : SelectMany} (h : Built r) (col : Ident) : Built (r.withCol col)
  | debugged {r : SelectMany} (h : Built r) : Built r.debugged

inductive Update.Built : Update → Prop where
  | of (table : Ident) : Built (.of table)
  | set {r : Update} (h : Built r) (column : Ident) (v : Value) : Built (r.set column v)
  | withConditions {r : Update} (h : Built r) (cs : Conditions) : Built (r.withConditions cs)
  | debugged {r : Update} (h : Built r) : Built r.debugged

inductive Insert.Built : Insert → Prop where
  | of (table : Ident) : Built (.of table)
  | set {r : Insert} (h : Built r) (column : Ident) (v : Value) : Built (r.set column v)
  | debugged {r : Insert} (h : Built r) : Built r.debugged

inductive Delete.Built : Delete → Prop where
  | of (table : Ident) (cs : Conditions) : Built (.of table cs)
  | debugged {r : Delete} (h : Built r) : Built r.debugged

/-- The requests that the methods make. -/
def Request.Built : Request → Prop
  | .select r => r.Built
  | .selectMany r => r.Built
  | .update r => r.Built
  | .insert r => r.Built
  | .delete r => r.Built

/-- The values of a request: those of the payload, then those of the conditions. -/
def Request.values : Request → List Value
  | .select r => r.conditions.values
  | .selectMany r => r.conditions.values
  | .update r => r.values.entries.map Prod.snd ++ r.conditions.values
  | .insert r => r.values.entries.map Prod.snd
  | .delete r => r.conditions.values

/-- The field that a request asks for, if it is a select of one row. -/
def Request.field? : Request → Option Field
  | .select r => some r.field
  | .selectMany _ | .update _ | .insert _ | .delete _ => none

section Built

variable (table : Ident) (conditions : Conditions) (joins : List Join)

lemma Select.built_of_joins (field : Field) : Built { table, field, conditions, joins } := by
  induction joins using List.reverseRecOn with
  | nil => exact (Built.of table).withField field |>.withConditions conditions
  | append_singleton joins join ih => exact ih.withJoin join

lemma Select.built (r : Select) : r.Built := by
  obtain ⟨table, field, conditions, joins, grouping, debug⟩ := r
  have hjoins := built_of_joins table conditions joins field
  have hgrouping : Built { table, field, conditions, joins, grouping } := by
    cases grouping with
    | none => exact hjoins
    | some g => exact hjoins.withGrouping g
  cases debug with
  | false => exact hgrouping
  | true => exact hgrouping.debugged

lemma SelectMany.built_of_cols (cols : List Ident) : Built { table, conditions, joins, cols } := by
  induction cols using List.reverseRecOn with
  | append_singleton cols col ih => exact ih.withCol col
  | nil =>
      induction joins using List.reverseRecOn with
      | nil => exact (Built.of table).withConditions conditions
      | append_singleton joins join ih => exact ih.withJoin join

lemma SelectMany.built (r : SelectMany) : r.Built := by
  obtain ⟨table, conditions, joins, grouping, orderBy, cols, debug⟩ := r
  have hcols := built_of_cols table conditions joins cols
  have hgrouping : Built { table, conditions, joins, grouping, cols } := by
    cases grouping with
    | none => exact hcols
    | some g => exact hcols.withGrouping g
  have horder : Built { table, conditions, joins, grouping, orderBy, cols } := by
    cases orderBy with
    | none => exact hgrouping
    | some order => exact hgrouping.withOrder order
  cases debug with
  | false => exact horder
  | true => exact horder.debugged

/-- A payload is made of writes, which are set one after the other. -/
lemma Update.built_of_writes (ws : List (Ident × Value)) :
    Built { table, values := .ofList ws, conditions } := by
  induction ws using List.reverseRecOn with
  | nil => exact (Built.of table).withConditions conditions
  | append_singleton ws w ih =>
      rw [OrderedMap.ofList_concat]
      exact ih.set w.1 w.2

lemma Update.built (r : Update) : r.Built := by
  obtain ⟨table, values, conditions, debug⟩ := r
  have hvalues := built_of_writes table conditions values.entries
  rw [OrderedMap.ofList_entries] at hvalues
  cases debug with
  | false => exact hvalues
  | true => exact hvalues.debugged

lemma Insert.built_of_writes (ws : List (Ident × Value)) :
    Built { table, values := .ofList ws } := by
  induction ws using List.reverseRecOn with
  | nil => exact .of table
  | append_singleton ws w ih =>
      rw [OrderedMap.ofList_concat]
      exact ih.set w.1 w.2

lemma Insert.built (r : Insert) : r.Built := by
  obtain ⟨table, values, debug⟩ := r
  have hvalues := built_of_writes table values.entries
  rw [OrderedMap.ofList_entries] at hvalues
  cases debug with
  | false => exact hvalues
  | true => exact hvalues.debugged

lemma Delete.built (r : Delete) : r.Built := by
  obtain ⟨table, conditions, debug⟩ := r
  cases debug with
  | false => exact .of table conditions
  | true => exact (Built.of table conditions).debugged

end Built

/-- The methods make every request. -/
lemma Request.built (r : Request) : r.Built := by
  cases r with
  | select r => exact r.built
  | selectMany r => exact r.built
  | update r => exact r.built
  | insert r => exact r.built
  | delete r => exact r.built

/-! ### Which requests can be written -/

lemma Field.ofText_ne_asterisk (s : String) : ofText s ≠ .named "*" := by
  unfold ofText
  split
  · nofun
  · next hs => simpa using hs

lemma Field.ne_of_ofJson {j : Json} {f : Field} (h : ofJson j = .ok f) : f ≠ .named "*" := by
  obtain ⟨s, -, rfl⟩ := map_eq_ok.mp h
  exact ofText_ne_asterisk s

/-- An asterisk is decoded to all fields, and so is a field that is not given. -/
lemma Select.field_ne_of_ofJson {j : Json} {r : Select} (h : ofJson j = .ok r) :
    r.field ≠ .named "*" := by
  obtain ⟨p, hfetch⟩ := Decode.exists_fetch_of_struct h
  obtain ⟨_, hgrouping, debug, -, rfl⟩ := fetch_seq_eq_ok_iff.mp hfetch
  obtain ⟨_, hjoins, grouping, -, rfl⟩ := fetch_seq_eq_ok_iff.mp hgrouping
  obtain ⟨_, hconditions, joins, -, rfl⟩ := fetch_seq_eq_ok_iff.mp hjoins
  obtain ⟨_, hfields, conditions, -, rfl⟩ := fetch_seq_eq_ok_iff.mp hconditions
  obtain ⟨_, htable, field, hfield, rfl⟩ := fetch_seq_eq_ok_iff.mp hfields
  obtain ⟨table, -, rfl⟩ := fetch_map_eq_ok_iff.mp htable
  obtain rfl | ⟨j, hj⟩ := eq_or_exists_of_fetch_optional hfield
  · nofun
  · exact Field.ne_of_ofJson hj

lemma Request.field?_ne_of_ofJson {k : Kind} {j : Json} {r : Request} (h : ofJson k j = .ok r) :
    r.field? ≠ some (.named "*") := by
  cases k with
  | select =>
      obtain ⟨r, hr, rfl⟩ := map_eq_ok.mp h
      exact fun hfield => Select.field_ne_of_ofJson hr (Option.some.inj hfield)
  | selectMany | update | insert | delete =>
      obtain ⟨r, -, rfl⟩ := map_eq_ok.mp h
      nofun

lemma Field.exists_written {f : Field} (h : f ≠ .named "*") : ∃ j, f.Written j := by
  cases f with
  | all => exact ⟨_, .all⟩
  | named name => exact ⟨_, .named fun hname => h (congrArg Field.named hname)⟩

lemma Payload.exists_lists {ws : List (Ident × Value)} (h : ∀ w ∈ ws, w.2.Exact) :
    ∃ j, Payload.Lists ws j := by
  obtain ⟨ms, hms⟩ : ∃ ms : List (String × Json),
      List.Forall₂ (fun w m => m.1 = w.1.text ∧ w.2.Written m.2) ws ms := by
    refine exists_forall₂_iff.mpr fun w hw => ?_
    obtain ⟨j, hj⟩ := Value.exists_written (h w hw)
    exact ⟨(w.1.text, j), rfl, hj⟩
  exact ⟨.record ms, ms, rfl, hms⟩

lemma Payload.exists_written {p : Payload} (h : ∀ v ∈ p.entries.map Prod.snd, v.Exact) :
    ∃ j, Payload.Written p j :=
  exists_lists fun _ he => h _ (List.mem_map_of_mem he)

lemma Request.exists_written {r : Request} (hfield : r.field? ≠ some (.named "*"))
    (h : ∀ v ∈ r.values, v.Exact) : ∃ j, r.Written j := by
  cases r with
  | select r =>
      refine Json.exists_writes Select.nodup_names ?_
      simp only [slots, Select.slots, List.forall_mem_cons]
      exact ⟨⟨_, rfl⟩, Field.exists_written fun hname => hfield (congrArg some hname),
        Conditions.exists_written h, Json.exists_writesList fun j _ => j.exists_written,
        Slot.exists_optional fun g _ => g.exists_written, ⟨_, rfl⟩, List.forall_mem_nil _⟩
  | selectMany r =>
      refine Json.exists_writes SelectMany.nodup_names ?_
      simp only [slots, SelectMany.slots, List.forall_mem_cons]
      exact ⟨⟨_, rfl⟩, Conditions.exists_written h,
        Json.exists_writesList fun j _ => j.exists_written,
        Slot.exists_optional fun g _ => g.exists_written,
        Slot.exists_optional fun _ _ => ⟨_, rfl⟩, Json.exists_writesList fun _ _ => ⟨_, rfl⟩,
        ⟨_, rfl⟩, List.forall_mem_nil _⟩
  | update r =>
      simp only [values, List.forall_mem_append] at h
      refine Json.exists_writes Update.nodup_names ?_
      simp only [slots, Update.slots, List.forall_mem_cons]
      exact ⟨⟨_, rfl⟩, Payload.exists_written h.1, Conditions.exists_written h.2, ⟨_, rfl⟩,
        List.forall_mem_nil _⟩
  | insert r =>
      refine Json.exists_writes Insert.nodup_names ?_
      simp only [slots, Insert.slots, List.forall_mem_cons]
      exact ⟨⟨_, rfl⟩, Payload.exists_written h, ⟨_, rfl⟩, List.forall_mem_nil _⟩
  | delete r =>
      refine Json.exists_writes Delete.nodup_names ?_
      simp only [slots, Delete.slots, List.forall_mem_cons]
      exact ⟨⟨_, rfl⟩, Conditions.exists_written h, ⟨_, rfl⟩, List.forall_mem_nil _⟩

/-- **The two front ends agree.** The methods make every request. One of nulls, integers and texts
can be written as an object unless it names a field by an asterisk, and then nothing is decoded to
it. Every object that writes it, in whatever order and without whichever of the fields that have
their defaults, is decoded to that request; so the statement is the same. -/
theorem Request.front_ends_agree {r : Request} (h : ∀ v ∈ r.values, v.Exact) :
    r.Built ∧ ((∃ j, r.Written j) ↔ r.field? ≠ some (.named "*")) ∧
      ((∃ j, ofJson r.kind j = .ok r) ↔ r.field? ≠ some (.named "*")) ∧
      ∀ j, r.Written j →
        ofJson r.kind j = .ok r ∧
          ∀ q : Quoter, (ofJson r.kind j).map (Request.render q) = .ok (r.render q) := by
  have hdecode : ∀ j, r.Written j → ofJson r.kind j = .ok r := fun _ => ofJson_of_written
  have hwritten : r.field? ≠ some (.named "*") → ∃ j, r.Written j :=
    fun hfield => exists_written hfield h
  refine ⟨r.built, ⟨?_, hwritten⟩, ⟨?_, fun hfield => (hwritten hfield).imp hdecode⟩,
    fun j hj => ⟨hdecode j hj, fun q => by rw [hdecode j hj]; rfl⟩⟩
  · rintro ⟨j, hj⟩
    exact field?_ne_of_ofJson (hdecode j hj)
  · rintro ⟨j, hj⟩
    exact field?_ne_of_ofJson hj

/-- Users whose names begin with a letter, and one column of them. -/
def initialUsers : SelectMany :=
  ((SelectMany.of ⟨"users"⟩).withConditions
    (.list [.comparison ((Comparison.of ⟨"name"⟩ (.text "a")).withWildcard .after)])).withCol ⟨"id"⟩

/-- The same, written in another order and without most of what has its default. -/
def initialUsersJson : Json :=
  .record [("cols", .list [.text "id"]),
    ("conditions", .list [.record
      [("wildcard", .text "after"), ("queue", .text "a"), ("field", .text "name")]]),
    ("orderBy", .null), ("table", .text "users")]

lemma initialUsersJson_written : Request.Written (.selectMany initialUsers) initialUsersJson := by
  let c := (Comparison.of ⟨"name"⟩ (.text "a")).withWildcard .after
  have hcondition : c.Written (.record
      [("wildcard", .text "after"), ("queue", .text "a"), ("field", .text "name")]) := by
    refine ⟨_, rfl, by decide, ?_, ?_⟩
    · simp only [List.forall_mem_cons]
      exact ⟨⟨_, List.get_mem c.slots ⟨4, by decide⟩, rfl, rfl⟩,
        ⟨_, List.get_mem c.slots ⟨3, by decide⟩, rfl, Value.exact_text "a", rfl⟩,
        ⟨_, List.get_mem c.slots ⟨0, by decide⟩, rfl, rfl⟩, List.forall_mem_nil _⟩
    · simp only [c, Comparison.slots, List.forall_mem_cons]
      exact ⟨.inl (by decide), .inr rfl, .inr rfl, .inl (by decide), .inl (by decide), .inr rfl,
        List.forall_mem_nil _⟩
  refine ⟨_, rfl, by decide, ?_, ?_⟩
  · simp only [List.forall_mem_cons]
    exact ⟨⟨_, List.get_mem initialUsers.slots ⟨5, by decide⟩, rfl, _, rfl, .cons rfl .nil⟩,
      ⟨_, List.get_mem initialUsers.slots ⟨1, by decide⟩, rfl,
        .list ⟨_, rfl, .cons hcondition .nil⟩⟩,
      ⟨_, List.get_mem initialUsers.slots ⟨4, by decide⟩, rfl, rfl⟩,
      ⟨_, List.get_mem initialUsers.slots ⟨0, by decide⟩, rfl, rfl⟩, List.forall_mem_nil _⟩
  · simp only [Request.slots, SelectMany.slots, List.forall_mem_cons]
    exact ⟨.inl (by decide), .inl (by decide), .inr rfl, .inr rfl, .inl (by decide),
      .inl (by decide), .inr rfl, List.forall_mem_nil _⟩

theorem front_ends_agree_initialUsers :
    (∃ j, Request.Written (.selectMany initialUsers) j) ∧
      Request.ofJson .selectMany initialUsersJson = .ok (.selectMany initialUsers) := by
  have hvalues : ∀ v ∈ (Request.selectMany initialUsers).values, v.Exact :=
    List.forall_mem_cons.mpr ⟨Value.exact_text "a", List.forall_mem_nil _⟩
  obtain ⟨-, hwritten, -, hdecode⟩ := Request.front_ends_agree hvalues
  exact ⟨hwritten.mpr nofun, (hdecode _ initialUsersJson_written).1⟩

/-- A select whose field has the name that stands for all fields. -/
def asteriskField : Select := (Select.of ⟨"users"⟩).withField (.named "*")

/-- Nothing is decoded to it: an object that gives the field as an asterisk is decoded to the
select of all fields. -/
theorem asteriskField_not_decoded :
    asteriskField.Built ∧ (∀ v ∈ (Request.select asteriskField).values, v.Exact) ∧
      (∀ j, Request.ofJson .select j ≠ .ok (.select asteriskField)) ∧
      Request.ofJson .select (.record [("table", .text "users"), ("field", .text "*")]) =
        .ok (.select (.of ⟨"users"⟩)) := by
  refine ⟨(Select.Built.of ⟨"users"⟩).withField _, List.forall_mem_nil _, fun j hj => ?_, rfl⟩
  exact Request.field?_ne_of_ofJson hj rfl

end SqlRequest
