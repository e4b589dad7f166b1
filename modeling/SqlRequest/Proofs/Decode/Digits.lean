import SqlRequest.Proofs.Decode.NumberCondition
import SqlRequest.Proofs.Payload

/-!
Whole numbers in requests, from a JSON text to the statement.

* `Insert.json`, `Update.json`, `Conditions.json`: requests whose values are whole numbers.
  `Insert.ofText_json`, `Update.ofText_json`, `Conditions.ofText_json`: what their texts are decoded
  to. `Update.ofJson_json_error` and so on: that they are refused if one of the numbers is.
* `Insert.render_of_kept`, `Update.assignments_of_kept`, `NumberCondition.map_render_of_kept`: the
  statements show the digits of the numbers that are kept.
* `digits_kept`: all of this for a number by itself and for requests.
-/

namespace SqlRequest

open Double Numeral
open OrderedMap (lastWrites)

/-! ### Requests with whole numbers for their values -/

/-- A payload of whole numbers in JSON. -/
def Payload.json (write : ℤ → Json) (ws : List (Ident × ℤ)) : Json :=
  .record (ws.map fun w => (w.1.text, write w.2))

/-- Conditions on whole numbers in JSON. -/
def Conditions.json (write : ℤ → Json) (cs : List NumberCondition) : Json :=
  .list (cs.map (NumberCondition.json write))

/-- An insert of whole numbers in JSON. -/
def Insert.json (write : ℤ → Json) (table : Ident) (ws : List (Ident × ℤ)) : Json := .record [
  ("table", .text table.text),
  ("values", Payload.json write ws)]

/-- An update to whole numbers, where there are whole numbers, in JSON. -/
def Update.json (write : ℤ → Json) (table : Ident) (ws : List (Ident × ℤ))
    (cs : List NumberCondition) : Json := .record [
  ("table", .text table.text),
  ("values", Payload.json write ws),
  ("conditions", Conditions.json write cs)]

section Requests

open NumberCondition (readNumber)

variable {value : ℤ → Value} {table : Ident} {ws : List (Ident × ℤ)} {cs : List NumberCondition}

/-- Two ways to write a list are related part by part. -/
lemma forall₂_map_map {α β γ : Type} {R : β → γ → Prop} {f : α → β} {g : α → γ} {as : List α}
    (h : ∀ a ∈ as, R (f a) (g a)) : List.Forall₂ R (as.map f) (as.map g) :=
  List.forall₂_map_left_iff.mpr (List.forall₂_map_right_iff.mpr (List.forall₂_same.mpr h))

lemma Payload.ofJson_json (h : ∀ w ∈ ws, Value.ofInt w.2 = .ok (value w.2)) :
    ofJson (json readNumber ws) = .ok (.ofList (ws.map fun w => (w.1, value w.2))) := by
  have hmembers : Decode.members Decode.value ((ws.map fun w => (w.1.text, readNumber w.2)).map
      fun m => (.name m.1, m.2)) = .ok (ws.map fun w => (w.1.text, value w.2)) :=
    Decode.members_eq_ok_iff.mpr (forall₂_map_map fun w hw => ⟨rfl, h w hw⟩)
  rw [json, Json.record, ofJson, hmembers]
  change Except.ok (OrderedMap.ofList ((ws.map fun w => (w.1.text, value w.2)).map
    fun w => (Ident.mk w.1, w.2))) = _
  rw [List.map_map]
  rfl

lemma Payload.ofJson_json_error (h : ∃ w ∈ ws, ∃ e, Value.ofInt w.2 = .error e) :
    ofJson (json readNumber ws) = .error (.flaw .malformed) := by
  have hmembers : Decode.members Decode.value ((ws.map fun w => (w.1.text, readNumber w.2)).map
      fun m => (.name m.1, m.2)) = .error (.flaw .malformed) := by
    refine Decode.members_eq_error ?_ ?_
    · simp only [List.forall_mem_map]
      exact fun w _ e he => (Value.eq_of_ofInt_error he).1
    · obtain ⟨w, hw, e, he⟩ := h
      exact ⟨_, List.mem_map_of_mem hw, e, he⟩
  rw [json, Json.record, ofJson, hmembers]
  rfl

lemma Payload.readAs_json (ws : List (Ident × ℤ)) :
    Json.ReadAs (json .whole ws).compactChars (json readNumber ws) :=
  Json.readAs_record (forall₂_map_map fun w _ => ⟨rfl, Json.readAs_whole w.2⟩)

lemma Conditions.readAs_json (cs : List NumberCondition) :
    Json.ReadAs (json .whole cs).compactChars (json readNumber cs) :=
  Json.readAs_list (forall₂_map_map fun c _ => c.readAs_json)

lemma Conditions.readFlaw?_json {room : ℕ} :
    (json readNumber cs).readFlaw? (room + 3) = Option.none ↔
      ∀ c ∈ cs, ∀ n ∈ c.numbers, ∃ v, Value.ofInt n = .ok v := by
  rw [json, Json.list, Json.readFlaw?_array, List.forall_mem_map]
  simp only [NumberCondition.readFlaw?_json, and_true]

variable {depth : ℕ}

/-- There is room for conditions on numbers in a request, and where there is none around them. -/
lemma exists_room (hdepth : depth ≤ 1) : ∃ room, deepest - depth = room + 3 := by
  refine ⟨deepest - depth - 3, ?_⟩
  rw [deepest]
  omega

lemma Conditions.ofJson_json (hdepth : depth ≤ 1)
    (h : ∀ c ∈ cs, ∀ n ∈ c.numbers, Value.ofInt n = .ok (value n)) :
    ofJson depth (json readNumber cs) = .ok (.list (cs.map (NumberCondition.condition value))) := by
  obtain ⟨room, hroom⟩ := exists_room hdepth
  refine ofJson_list_eq_ok_iff.mpr ⟨?_, _, rfl, ?_⟩
  · rw [hroom]
    exact readFlaw?_json.mpr fun c hc n hn => ⟨_, h c hc n hn⟩
  · exact forall₂_map_map fun c hc => NumberCondition.ofWhole_json (h c hc)

lemma Conditions.ofJson_json_error (hdepth : depth ≤ 1)
    (h : ∃ c ∈ cs, ∃ n ∈ c.numbers, ∃ e, Value.ofInt n = .error e) :
    ofJson depth (json readNumber cs) = .error (.flaw .malformed) := by
  obtain ⟨room, hroom⟩ := exists_room hdepth
  obtain ⟨c, hc, n, hn, e, he⟩ := h
  have hskip : (json readNumber cs).skipFlaw? = Option.none := by
    rw [json, Json.skipFlaw?_list]
    exact List.forall_mem_map.mpr fun c _ => NumberCondition.skipFlaw?_json
  cases hflaw : (json readNumber cs).readFlaw? (deepest - depth) with
  | none =>
      rw [hroom, readFlaw?_json] at hflaw
      obtain ⟨v, hv⟩ := hflaw c hc n hn
      simp [hv] at he
  | some f =>
      obtain rfl := Json.eq_malformed_of_readFlaw? hskip hflaw
      rw [json] at hflaw ⊢
      rw [ofJson, Decode.unflawedAt, hflaw]
      · rfl
      · exact Json.list_ne_null _

lemma Insert.ofJson_json (write : ℤ → Json) (table : Ident) (ws : List (Ident × ℤ)) :
    ofJson (json write table ws) =
      (Payload.ofJson (Payload.json write ws)).map fun values => { table, values } := by
  -- every part is checked in its turn, and then every field is fetched
  have hshape : ofJson (json write table ws) =
      (((Payload.ofJson (Payload.json write ws)).map fun _ => ()).bind fun _ => .ok ()).bind
        fun _ => ((Payload.ofJson (Payload.json write ws)).bind
          fun values => .ok (Insert.mk table values)).bind fun r => .ok (r false) := rfl
  rw [hshape]
  cases Payload.ofJson (Payload.json write ws) <;> rfl

lemma Update.ofJson_json (write : ℤ → Json) (table : Ident) (ws : List (Ident × ℤ))
    (cs : List NumberCondition) :
    ofJson (json write table ws cs) =
      (Payload.ofJson (Payload.json write ws)).bind fun values =>
        (Conditions.ofJson 1 (Conditions.json write cs)).map fun conditions =>
          { table, values, conditions } := by
  have hshape : ofJson (json write table ws cs) =
      (((Payload.ofJson (Payload.json write ws)).map fun _ => ()).bind fun _ =>
        ((Conditions.ofJson 1 (Conditions.json write cs)).map fun _ => ()).bind fun _ =>
          .ok ()).bind fun _ =>
            (((Payload.ofJson (Payload.json write ws)).bind fun values =>
              .ok (Update.mk table values)).bind fun r =>
                (Conditions.ofJson 1 (Conditions.json write cs)).bind fun conditions =>
                  .ok (r conditions)).bind fun r => .ok (r false) := rfl
  rw [hshape]
  cases Payload.ofJson (Payload.json write ws) <;>
    cases Conditions.ofJson 1 (Conditions.json write cs) <;> rfl

lemma Insert.readAs_json (table : Ident) (ws : List (Ident × ℤ)) :
    Json.ReadAs (json .whole table ws).compactChars (json readNumber table ws) :=
  Json.readAs_record (.cons ⟨rfl, Json.readAs_text _⟩ (.cons ⟨rfl, Payload.readAs_json ws⟩ .nil))

lemma Update.readAs_json (table : Ident) (ws : List (Ident × ℤ)) (cs : List NumberCondition) :
    Json.ReadAs (json .whole table ws cs).compactChars (json readNumber table ws cs) :=
  Json.readAs_record (.cons ⟨rfl, Json.readAs_text _⟩ (.cons ⟨rfl, Payload.readAs_json ws⟩
    (.cons ⟨rfl, Conditions.readAs_json cs⟩ .nil)))

lemma Update.ofJson_json_error (h : (∃ w ∈ ws, ∃ e, Value.ofInt w.2 = .error e) ∨
    ∃ c ∈ cs, ∃ n ∈ c.numbers, ∃ e, Value.ofInt n = .error e) :
    ofJson (json readNumber table ws cs) = .error (.flaw .malformed) := by
  rw [ofJson_json]
  by_cases hws : ∃ w ∈ ws, ∃ e, Value.ofInt w.2 = .error e
  · rw [Payload.ofJson_json_error hws]
    rfl
  · obtain ⟨value, hvalue⟩ : ∃ value : ℤ → Value, ∀ n v, Value.ofInt n = .ok v → value n = v :=
      ⟨fun n => (Value.ofInt n).toOption.getD .null, fun n v h => by simp [h, Except.toOption]⟩
    have hvalues : ∀ w ∈ ws, Value.ofInt w.2 = .ok (value w.2) := by
      intro w hw
      cases h : Value.ofInt w.2 with
      | ok v => rw [hvalue w.2 v h]
      | error e => exact absurd ⟨w, hw, e, h⟩ hws
    rw [Payload.ofJson_json hvalues, Except.bind,
      Conditions.ofJson_json_error le_rfl (h.resolve_left hws)]
    rfl

/-- What an insert of whole numbers is decoded to. -/
lemma Insert.ofText_json (hws : ∀ w ∈ ws, Value.ofInt w.2 = .ok (value w.2)) :
    Decode.ofText Insert.ofJson (Insert.json .whole table ws).compact =
      .ok { table, values := .ofList (ws.map fun w => (w.1, value w.2)) } := by
  rw [(Insert.readAs_json table ws).decode, Insert.ofJson_json, Payload.ofJson_json hws]
  rfl

lemma Update.ofText_json (hws : ∀ w ∈ ws, Value.ofInt w.2 = .ok (value w.2))
    (hcs : ∀ c ∈ cs, ∀ n ∈ c.numbers, Value.ofInt n = .ok (value n)) :
    Decode.ofText Update.ofJson (Update.json .whole table ws cs).compact =
      .ok { table, values := .ofList (ws.map fun w => (w.1, value w.2))
            conditions := .list (cs.map (NumberCondition.condition value)) } := by
  rw [(Update.readAs_json table ws cs).decode, Update.ofJson_json, Payload.ofJson_json hws,
    Except.bind, Conditions.ofJson_json le_rfl hcs]
  rfl

lemma Conditions.ofText_json
    (hcs : ∀ c ∈ cs, ∀ n ∈ c.numbers, Value.ofInt n = .ok (value n)) :
    Conditions.ofText (Conditions.json .whole cs).compact =
      .ok (.list (cs.map (NumberCondition.condition value))) := by
  rw [Conditions.ofText, (Conditions.readAs_json cs).decode,
    Conditions.ofJson_json (Nat.zero_le 1) hcs]
  rfl

/-! ### What they show -/

/-- Numbers that are kept, one by one, are left when the last writes are. -/
lemma map_lastWrites_of_kept {β : Type} {f : Ident → Value → β} {g : Ident → ℤ → β}
    (hws : ∀ w ∈ ws, Value.Kept w.2)
    (h : ∀ i n v, Value.Kept n → Value.ofInt n = .ok v → f i v = g i n) :
    (OrderedMap.ofList (ws.map fun w => (w.1, Value.ofKept w.2))).entries.map (fun e => f e.1 e.2) =
      (lastWrites ws).map fun w => g w.1 w.2 := by
  rw [OrderedMap.entries_ofList, OrderedMap.lastWrites_map, List.map_map]
  refine List.map_congr_left fun w hw => ?_
  have hkept := hws w (OrderedMap.mem_of_mem_lastWrites hw)
  exact h w.1 w.2 _ hkept (Value.ofInt_of_kept hkept)

lemma Insert.render_of_kept (hws : ∀ w ∈ ws, Value.Kept w.2) (q : Quoter) :
    Insert.render q { table, values := .ofList (ws.map fun w => (w.1, Value.ofKept w.2)) } =
      "INSERT INTO " ++ table.text ++ " (" ++
        ", ".intercalate ((lastWrites ws).map fun w => w.1.backticked) ++ ") VALUES (" ++
        ", ".intercalate ((lastWrites ws).map fun w => q.quote (toString w.2)) ++ ");" := by
  have hcolumns := map_lastWrites_of_kept (f := fun i _ => i.backticked) hws fun _ _ _ _ _ => rfl
  have hvalues := map_lastWrites_of_kept (f := fun _ v => q.literal v) hws
    fun _ _ _ hkept hvalue => Value.literal_of_kept hkept hvalue q
  delta Insert.render
  rw [hcolumns, hvalues]

lemma Update.assignments_of_kept (hws : ∀ w ∈ ws, Value.Kept w.2) (conditions : Conditions)
    (q : Quoter) :
    Update.assignments q
        { table, values := .ofList (ws.map fun w => (w.1, Value.ofKept w.2)), conditions } =
      (lastWrites ws).map fun w => w.1.backticked ++ " = " ++ q.quote (toString w.2) := by
  have hassigned : ∀ e ∈ (OrderedMap.ofList (ws.map fun w => (w.1, Value.ofKept w.2))).entries,
      e.2.assigned = true := by
    rw [OrderedMap.entries_ofList, OrderedMap.lastWrites_map, List.forall_mem_map]
    intro w hw
    have hkept := hws w (OrderedMap.mem_of_mem_lastWrites hw)
    obtain ⟨hform, -⟩ := Value.form_of_kept hkept (Value.ofInt_of_kept hkept)
    rw [Value.assigned, hform, Bool.or_eq_true]
    exact .inr (bne_iff_ne.mpr (Value.toString_ne_empty w.2))
  rw [Update.assignments, List.filter_eq_self.mpr hassigned]
  refine map_lastWrites_of_kept (f := assignment q)
    (g := fun i n => i.backticked ++ " = " ++ q.quote (toString n)) hws fun i n v hkept hvalue => ?_
  rw [assignment, Value.literal_of_kept hkept hvalue]

lemma NumberCondition.map_render_of_kept
    (hcs : ∀ c ∈ cs, c.Bare ∧ ∀ n ∈ c.numbers, Value.Kept n) (q : Quoter) (ambient : Ident) :
    (cs.map (NumberCondition.condition Value.ofKept)).map (Condition.render q ambient) =
      cs.map (NumberCondition.text q ambient) := by
  rw [List.map_map]
  refine List.map_congr_left fun c hc => ?_
  obtain ⟨hbare, hkept⟩ := hcs c hc
  exact c.render_condition hbare (fun n hn => ⟨hkept n hn, Value.ofInt_of_kept (hkept n hn)⟩) q
    ambient

end Requests

/-! ### From the text to the statement -/

/-- What becomes of a whole number that is a text by itself. -/
structure WrittenOut (n : ℤ) : Prop where
  /-- An integer of 64 bits is kept as an integer. -/
  integer : -2 ^ 63 ≤ n → n < 2 ^ 63 →
    Decode.ofText Decode.value (toString n) = .ok (.integer (Int64.ofInt n)) ∧
      (Int64.ofInt n).toInt = n
  /-- A word of 64 bits that is greater is kept as the text of its digits. -/
  text : 2 ^ 63 ≤ n → n < 2 ^ 64 →
    Decode.ofText Decode.value (toString n) = .ok (.text (toString n))
  /-- Beyond, there are doubles, -/
  real : n < -2 ^ 63 ∨ 2 ^ 64 ≤ n → n.natAbs < tooGreat →
    ∃ x, Decode.ofText Decode.value (toString n) = .ok (.real x)
  /-- and beyond these, nothing. -/
  huge : tooGreat ≤ n.natAbs →
    Decode.ofText Decode.value (toString n) = .error (.decode (.flaw .malformed))
  /-- What is kept shows its digits, whether a literal or a bare pattern is asked for. -/
  shown : Value.Kept n → ∀ v, Decode.ofText Decode.value (toString n) = .ok v →
    v.form = toString n ∧
      ∀ q : Quoter, q.literal v = q.quote (toString n) ∧ q.pattern .none v = q.quote (toString n)

/-- What becomes of whole numbers in the texts of requests and of conditions: of each the same as
of the number by itself. -/
structure InRequests (table : Ident) (ws : List (Ident × ℤ)) (cs : List NumberCondition) :
    Prop where
  insert_decoded : ∀ value : ℤ → Value,
    (∀ w ∈ ws, Decode.ofText Decode.value (toString w.2) = .ok (value w.2)) →
      Decode.ofText Insert.ofJson (Insert.json .whole table ws).compact =
        .ok { table, values := .ofList (ws.map fun w => (w.1, value w.2)) }
  update_decoded : ∀ value : ℤ → Value,
    (∀ w ∈ ws, Decode.ofText Decode.value (toString w.2) = .ok (value w.2)) →
    (∀ c ∈ cs, ∀ n ∈ c.numbers, Decode.ofText Decode.value (toString n) = .ok (value n)) →
      Decode.ofText Update.ofJson (Update.json .whole table ws cs).compact =
        .ok { table, values := .ofList (ws.map fun w => (w.1, value w.2))
              conditions := .list (cs.map (NumberCondition.condition value)) }
  conditions_decoded : ∀ value : ℤ → Value,
    (∀ c ∈ cs, ∀ n ∈ c.numbers, Decode.ofText Decode.value (toString n) = .ok (value n)) →
      Conditions.ofText (Conditions.json .whole cs).compact =
        .ok (.list (cs.map (NumberCondition.condition value)))
  insert_refused : ∀ e, (∃ w ∈ ws, Decode.ofText Decode.value (toString w.2) = .error e) →
    Decode.ofText Insert.ofJson (Insert.json .whole table ws).compact = .error e
  update_refused : ∀ e, (∃ w ∈ ws, Decode.ofText Decode.value (toString w.2) = .error e) ∨
      (∃ c ∈ cs, ∃ n ∈ c.numbers, Decode.ofText Decode.value (toString n) = .error e) →
    Decode.ofText Update.ofJson (Update.json .whole table ws cs).compact = .error e
  conditions_refused : ∀ e,
    (∃ c ∈ cs, ∃ n ∈ c.numbers, Decode.ofText Decode.value (toString n) = .error e) →
      Conditions.ofText (Conditions.json .whole cs).compact = .error e
  /-- Of the numbers that are kept an insert shows the digits between the quotes. -/
  insert_shown : (∀ w ∈ ws, Value.Kept w.2) → ∀ q : Quoter,
    ∃ r, Decode.ofText Insert.ofJson (Insert.json .whole table ws).compact = .ok r ∧
      r.render q = "INSERT INTO " ++ table.text ++ " (" ++
        ", ".intercalate ((lastWrites ws).map fun w => w.1.backticked) ++ ") VALUES (" ++
        ", ".intercalate ((lastWrites ws).map fun w => q.quote (toString w.2)) ++ ");"
  /-- So do the assignments of an update, and the predicates after it. -/
  update_shown : (∀ w ∈ ws, Value.Kept w.2) → (∀ c ∈ cs, c.Bare ∧ ∀ n ∈ c.numbers, Value.Kept n) →
    ∀ q : Quoter, ∃ r conditions,
      Decode.ofText Update.ofJson (Update.json .whole table ws cs).compact = .ok r ∧
        r.assignments q =
          (lastWrites ws).map (fun w => w.1.backticked ++ " = " ++ q.quote (toString w.2)) ∧
        r.conditions = .list conditions ∧
          conditions.map (Condition.render q table) = cs.map (NumberCondition.text q table)
  conditions_shown : (∀ c ∈ cs, c.Bare ∧ ∀ n ∈ c.numbers, Value.Kept n) → ∀ q : Quoter,
    ∃ conditions, Conditions.ofText (Conditions.json .whole cs).compact = .ok (.list conditions) ∧
      conditions.map (Condition.render q table) = cs.map (NumberCondition.text q table)

lemma Value.writtenOut (n : ℤ) : WrittenOut n where
  integer hlow hhigh := by
    obtain ⟨hvalue, htoInt⟩ := ofInt_integer hlow hhigh
    rw [Decode.ofText_value, hvalue]
    exact ⟨rfl, htoInt⟩
  text hlow hhigh := by
    rw [Decode.ofText_value, ofInt_text hlow hhigh]
    rfl
  real hout hlt := by
    obtain ⟨x, hx⟩ := ofInt_real hout hlt
    rw [Decode.ofText_value, hx]
    exact ⟨x, rfl⟩
  huge h := by
    rw [Decode.ofText_value, ofInt_huge h]
    rfl
  shown hkept v hv := by
    rw [Decode.ofText_value_eq_ok_iff] at hv
    obtain ⟨hform, hnull⟩ := form_of_kept hkept hv
    refine ⟨hform, fun q => ⟨literal_of_kept hkept hv q, ?_⟩⟩
    rw [Quoter.pattern, hnull, if_neg Bool.false_ne_true, expand_of_kept hkept hv]

lemma NumberCondition.inRequests (table : Ident) (ws : List (Ident × ℤ))
    (cs : List NumberCondition) : InRequests table ws cs where
  insert_decoded value hws := by
    simp only [Decode.ofText_value_eq_ok_iff] at hws
    exact Insert.ofText_json hws
  update_decoded value hws hcs := by
    simp only [Decode.ofText_value_eq_ok_iff] at hws hcs
    exact Update.ofText_json hws hcs
  conditions_decoded value hcs := by
    simp only [Decode.ofText_value_eq_ok_iff] at hcs
    exact Conditions.ofText_json hcs
  insert_refused := by
    rintro e ⟨w, hw, h⟩
    obtain ⟨rfl, herror⟩ := Value.eq_of_ofText_error h
    rw [(Insert.readAs_json table ws).decode, Insert.ofJson_json,
      Payload.ofJson_json_error ⟨w, hw, herror⟩]
    rfl
  update_refused := by
    intro e h
    have hrefused : e = .decode (.flaw .malformed) ∧
        ((∃ w ∈ ws, ∃ e', Value.ofInt w.2 = .error e') ∨
          ∃ c ∈ cs, ∃ n ∈ c.numbers, ∃ e', Value.ofInt n = .error e') := by
      rcases h with ⟨w, hw, h⟩ | ⟨c, hc, n, hn, h⟩
      · obtain ⟨he, herror⟩ := Value.eq_of_ofText_error h
        exact ⟨he, .inl ⟨w, hw, herror⟩⟩
      · obtain ⟨he, herror⟩ := Value.eq_of_ofText_error h
        exact ⟨he, .inr ⟨c, hc, n, hn, herror⟩⟩
    obtain ⟨rfl, herror⟩ := hrefused
    rw [(Update.readAs_json table ws cs).decode, Update.ofJson_json_error herror]
    rfl
  conditions_refused := by
    rintro e ⟨c, hc, n, hn, h⟩
    obtain ⟨rfl, herror⟩ := Value.eq_of_ofText_error h
    rw [Conditions.ofText, (Conditions.readAs_json cs).decode,
      Conditions.ofJson_json_error (Nat.zero_le 1) ⟨c, hc, n, hn, herror⟩]
    rfl
  insert_shown hws q :=
    ⟨_, Insert.ofText_json fun w hw => Value.ofInt_of_kept (hws w hw), Insert.render_of_kept hws q⟩
  update_shown hws hcs q :=
    ⟨_, _, Update.ofText_json (fun w hw => Value.ofInt_of_kept (hws w hw))
      fun c hc n hn => Value.ofInt_of_kept ((hcs c hc).2 n hn),
      Update.assignments_of_kept hws _ q, rfl, map_render_of_kept hcs q table⟩
  conditions_shown hcs q :=
    ⟨_, Conditions.ofText_json fun c hc n hn => Value.ofInt_of_kept ((hcs c hc).2 n hn),
      map_render_of_kept hcs q table⟩

/-- **Whole numbers keep their digits** as long as they fit 64 bits, with a sign or without one:
from a JSON text, through the decoder of values and through that of conditions, to the quotes of a
statement. Beyond, they become doubles, and from a bound on, which is less than the greatest double,
they are refused. -/
theorem digits_kept :
    (∀ n : ℤ, WrittenOut n) ∧
      (∀ (m n : ℤ) (v w : Value), Value.Kept m → Value.Kept n →
        Decode.ofText Decode.value (toString m) = .ok v →
        Decode.ofText Decode.value (toString n) = .ok w →
          Quoter.standard.literal v = Quoter.standard.literal w → m = n) ∧
      ∀ table ws cs, InRequests table ws cs := by
  refine ⟨Value.writtenOut, fun m n v w hm hn hv hw h => ?_, NumberCondition.inRequests⟩
  rw [Decode.ofText_value_eq_ok_iff] at hv hw
  rw [Value.literal_of_kept hm hv, Value.literal_of_kept hn hw] at h
  have hclear : Clear "" := by simp [Clear]
  have hdigits : toString m = toString n :=
    (quoteLiteral_append_inj hclear hclear (congrArg (· ++ "") h)).1
  exact Value.toString_inj_of_kept hm hn hdigits

/-- A comparison with a word that is no integer, and one with the least integer. -/
def edges : List NumberCondition := [
  .comparison { field := ⟨"id"⟩, operator := "=" } (2 ^ 64 - 1),
  .comparison { field := ⟨"id"⟩, connective := some .or, operator := "<>" } (-2 ^ 63)]

/-- Where one kind of value ends and the next begins, no digit is lost. -/
theorem digits_kept_edges :
    Decode.ofText Decode.value (toString (2 ^ 63 - 1 : ℤ)) =
        .ok (.integer (Int64.ofInt (2 ^ 63 - 1))) ∧
      Decode.ofText Decode.value (toString (2 ^ 63 : ℤ)) = .ok (.text (toString (2 ^ 63 : ℤ))) ∧
      (∃ x, Decode.ofText Decode.value (toString (2 ^ 64 : ℤ)) = .ok (.real x)) ∧
      (∃ x, Decode.ofText Decode.value (toString (-2 ^ 63 - 1 : ℤ)) = .ok (.real x)) ∧
      ∃ r conditions, Decode.ofText Update.ofJson
          (Update.json .whole ⟨"users"⟩ [(⟨"id"⟩, 2 ^ 63)] edges).compact = .ok r ∧
        r.assignments .standard = ["\x60id\x60 = '9223372036854775808'"] ∧
        r.conditions = .list conditions ∧
          conditions.map (Condition.render .standard ⟨"users"⟩) =
            ["users.\x60id\x60 = '18446744073709551615'",
              "users.\x60id\x60 <> '-9223372036854775808'"] := by
  obtain ⟨hwritten, -, hrequests⟩ := digits_kept
  have hwrites : ∀ w ∈ [(Ident.mk "id", (2 ^ 63 : ℤ))], Value.Kept w.2 := by
    simp [Value.Kept]
  have hedges : ∀ c ∈ edges, c.Bare ∧ ∀ n ∈ c.numbers, Value.Kept n := by
    simp [edges, NumberCondition.Bare, NumberCondition.numbers, Value.Kept]
  obtain ⟨r, conditions, hr, hassignments, hconditions, hrender⟩ :=
    (hrequests ⟨"users"⟩ [(⟨"id"⟩, 2 ^ 63)] edges).update_shown hwrites hedges .standard
  exact ⟨((hwritten _).integer (by decide) (by decide)).1,
    (hwritten _).text (by decide) (by decide), (hwritten _).real (by decide) (by decide +kernel),
    (hwritten _).real (by decide) (by decide +kernel), r, conditions, hr,
    hassignments.trans (by decide +kernel), hconditions, hrender.trans (by decide +kernel)⟩

/-- The greatest double, which is a whole number. -/
def greatestDouble : ℤ := (2 ^ 53 - 1) * 2 ^ 971

/-- It is a double, and yet it is refused when it is written out: its first digits are rounded
before they are multiplied by a power of ten, which is rounded too. -/
theorem greatestDouble_refused :
    Denotes (Float.ofNat greatestDouble.toNat) (greatestDouble.toNat * one) ∧
      (Float.ofNat greatestDouble.toNat).isFinite = true ∧
      Decode.ofText Decode.value (toString greatestDouble) =
        .error (.decode (.flaw .malformed)) := by
  have hlarge : 2 ^ 53 ≤ greatestDouble.toNat := by decide +kernel
  have hdenotes :
      Denotes (Float.ofNat greatestDouble.toNat) (nearest (greatestDouble.toNat * one)) :=
    Numeral.denotes_ofNat hlarge (by decide +kernel)
  have hnearest : nearest (greatestDouble.toNat * one) = greatestDouble.toNat * one := by
    decide +kernel
  refine ⟨hnearest ▸ hdenotes, by decide +kernel, ?_⟩
  rw [Decode.ofText_value, Value.ofInt_huge (by decide +kernel)]
  rfl

end SqlRequest
