import SqlRequest.Proofs.Decode.Whole
import SqlRequest.Proofs.Decode.Written

/-!
Conditions that compare with whole numbers, in JSON and in a statement.

* `Comparison.json`, `Branch.json`, `Fallback.json`: parts of a condition with any JSON value in
  the place of their own. `ofJson_json`: they are decoded if that is. `readFlaw?_json`,
  `skipFlaw?_json`, `readAs_json`: what is wrong with them, and what they are read as.
* `NumberCondition`: a condition on whole numbers. `NumberCondition.ofWhole_json`: what it is
  decoded to. `NumberCondition.render_condition`: it shows the digits of the numbers that are kept.
-/

namespace SqlRequest

/-! ### Conditions with another value -/

/-- A text, or null if there is none. -/
def Json.ofText? (o : Option String) : Json := o.elim .null .text

/-- A comparison with something else for its value, all of its fields written. -/
def Comparison.json (c : Comparison) (queue : Json) : Json := .record [
  ("field", .text c.field.text),
  ("logicalOperator", .ofText? (c.connective.map Connective.sql)),
  ("operator", .text c.operator),
  ("queue", queue),
  ("wildcard", .text c.wildcard.name),
  ("tableOverride", .ofText? (c.table.map Ident.text))]

def Branch.json (b : Branch) (queue : Json) : Json := .record [
  ("field", .text b.field.text),
  ("operator", .ofText? b.operator),
  ("queue", queue),
  ("wildcard", .text b.wildcard.name),
  ("tableOverride", .ofText? (b.table.map Ident.text))]

def Fallback.json (f : Fallback) (test yes no : Json) : Json := .record [
  ("type", .text "conditionalFallback"),
  ("logicalOperator", .ofText? (f.connective.map Connective.sql)),
  ("if", f.test.json test),
  ("then", f.yes.json yes),
  ("else", f.no.json no)]

section Parts

variable {j : Json} {v : Value}

/-- A text or null is what stands for a word or a name that may be absent. -/
lemma Json.written_ofText? {α : Type} (key : String) (spelling : α → String) (o : Option α) :
    (Slot.optional key (fun a j => j = .text (spelling a)) o).written
      (ofText? (o.map spelling)) := by
  cases o <;> rfl

lemma Comparison.ofJson_json (c : Comparison) (h : Decode.value j = .ok v) :
    ofJson (c.json j) = .ok { c with queue := v } :=
  (Decode.struct_record_eq_ok_iff faithful_layout).mpr ⟨nodup_names.filter _,
    fun _ hm hunknown => absurd (List.mem_map_of_mem hm) hunknown,
    fetch_eq_ok_iff.mpr ⟨rfl,
      Connective.ofJson?_of_written (Json.written_ofText? "logicalOperator" _ c.connective), rfl, h,
      Wildcard.ofJson_of_written rfl,
      Ident.optional_of_written (Json.written_ofText? "tableOverride" _ c.table)⟩⟩

lemma Branch.ofJson_json (b : Branch) (h : Decode.value j = .ok v) :
    ofJson (b.json j) = .ok { b with queue := v } := by
  have hoperator : Decode.optional Decode.text (.ofText? b.operator) = .ok b.operator := by
    cases b.operator <;> rfl
  exact (Decode.struct_record_eq_ok_iff faithful_layout).mpr ⟨nodup_names.filter _,
    fun _ hm hunknown => absurd (List.mem_map_of_mem hm) hunknown,
    fetch_eq_ok_iff.mpr ⟨rfl, hoperator, h, Wildcard.ofJson_of_written rfl,
      Ident.optional_of_written (Json.written_ofText? "tableOverride" _ b.table)⟩⟩

lemma Fallback.ofJson_json (f : Fallback) {j' j'' : Json} {v' v'' : Value}
    (h : Decode.value j = .ok v) (h' : Decode.value j' = .ok v')
    (h'' : Decode.value j'' = .ok v'') :
    ofJson (f.json j j' j'') = .ok { f with
      test := { f.test with queue := v }
      yes := { f.yes with queue := v' }
      no := { f.no with queue := v'' } } :=
  (Decode.struct_record_eq_ok_iff faithful_layout).mpr ⟨nodup_names.filter _,
    fun _ hm hunknown => absurd (List.mem_map_of_mem hm) hunknown,
    fetch_eq_ok_iff.mpr ⟨rfl,
      Connective.ofJson?_of_written (Json.written_ofText? "logicalOperator" _ f.connective),
      f.test.ofJson_json h, f.yes.ofJson_json h', f.no.ofJson_json h''⟩⟩

end Parts

section Flaws

variable {room : ℕ} {j j' j'' : Json}

lemma Json.readFlaw?_ofText? (o : Option String) : (ofText? o).readFlaw? room = none := by
  cases o <;> rfl

lemma Json.skipFlaw?_ofText? (o : Option String) : (ofText? o).skipFlaw? = none := by
  cases o <;> rfl

lemma Json.readFlaw?_text (s : String) : (text s).readFlaw? room = none := rfl

lemma Json.skipFlaw?_text (s : String) : (text s).skipFlaw? = none := rfl

lemma Comparison.readFlaw?_json (c : Comparison) :
    (c.json j).readFlaw? (room + 1) = none ↔ j.readFlaw? room = none := by
  rw [json, Json.readFlaw?_record]
  simp [Json.readFlaw?_text, Json.readFlaw?_ofText?]

lemma Branch.readFlaw?_json (b : Branch) :
    (b.json j).readFlaw? (room + 1) = none ↔ j.readFlaw? room = none := by
  rw [json, Json.readFlaw?_record]
  simp [Json.readFlaw?_text, Json.readFlaw?_ofText?]

lemma Fallback.readFlaw?_json (f : Fallback) :
    (f.json j j' j'').readFlaw? (room + 2) = none ↔
      j.readFlaw? room = none ∧ j'.readFlaw? room = none ∧ j''.readFlaw? room = none := by
  rw [json, Json.readFlaw?_record]
  simp [Json.readFlaw?_text, Json.readFlaw?_ofText?, Branch.readFlaw?_json]

/-- Nothing keeps a reader from skipping them. -/
lemma Comparison.skipFlaw?_json (c : Comparison) (h : j.skipFlaw? = none) :
    (c.json j).skipFlaw? = none := by
  rw [json, Json.skipFlaw?_record]
  simpa [Json.skipFlaw?_text, Json.skipFlaw?_ofText?] using h

lemma Branch.skipFlaw?_json (b : Branch) (h : j.skipFlaw? = none) :
    (b.json j).skipFlaw? = none := by
  rw [json, Json.skipFlaw?_record]
  simpa [Json.skipFlaw?_text, Json.skipFlaw?_ofText?] using h

lemma Fallback.skipFlaw?_json (f : Fallback) (h : j.skipFlaw? = none) (h' : j'.skipFlaw? = none)
    (h'' : j''.skipFlaw? = none) : (f.json j j' j'').skipFlaw? = none := by
  rw [json, Json.skipFlaw?_record]
  simp [Json.skipFlaw?_text, Json.skipFlaw?_ofText?, Branch.skipFlaw?_json, h, h', h'']

end Flaws

section Reading

variable {i j i' j' i'' j'' : Json}

lemma Json.readAs_ofText? (o : Option String) : ReadAs (ofText? o).compactChars (ofText? o) := by
  cases o with
  | none => exact readAs_null
  | some s => exact readAs_text s

/-- They are read as what they are with another value, if the value is read as that. -/
lemma Comparison.readAs_json (c : Comparison) (h : Json.ReadAs i.compactChars j) :
    Json.ReadAs (c.json i).compactChars (c.json j) :=
  Json.readAs_record (.cons ⟨rfl, Json.readAs_text _⟩ (.cons ⟨rfl, Json.readAs_ofText? _⟩
    (.cons ⟨rfl, Json.readAs_text _⟩ (.cons ⟨rfl, h⟩ (.cons ⟨rfl, Json.readAs_text _⟩
      (.cons ⟨rfl, Json.readAs_ofText? _⟩ .nil))))))

lemma Branch.readAs_json (b : Branch) (h : Json.ReadAs i.compactChars j) :
    Json.ReadAs (b.json i).compactChars (b.json j) :=
  Json.readAs_record (.cons ⟨rfl, Json.readAs_text _⟩ (.cons ⟨rfl, Json.readAs_ofText? _⟩
    (.cons ⟨rfl, h⟩ (.cons ⟨rfl, Json.readAs_text _⟩ (.cons ⟨rfl, Json.readAs_ofText? _⟩ .nil)))))

lemma Fallback.readAs_json (f : Fallback) (h : Json.ReadAs i.compactChars j)
    (h' : Json.ReadAs i'.compactChars j') (h'' : Json.ReadAs i''.compactChars j'') :
    Json.ReadAs (f.json i i' i'').compactChars (f.json j j' j'') :=
  Json.readAs_record (.cons ⟨rfl, Json.readAs_text _⟩ (.cons ⟨rfl, Json.readAs_ofText? _⟩
    (.cons ⟨rfl, f.test.readAs_json h⟩ (.cons ⟨rfl, f.yes.readAs_json h'⟩
      (.cons ⟨rfl, f.no.readAs_json h''⟩ .nil)))))

end Reading

/-! ### Conditions on whole numbers -/

/-- A condition that compares with whole numbers. -/
inductive NumberCondition where
  | comparison (c : Comparison) (queue : ℤ)
  | fallback (f : Fallback) (test yes no : ℤ)

namespace NumberCondition

/-- The numbers, in the order in which they are written. -/
def numbers : NumberCondition → List ℤ
  | .comparison _ n => [n]
  | .fallback _ test yes no => [test, yes, no]

/-- The condition in JSON, the numbers written in some way. -/
def json (write : ℤ → Json) : NumberCondition → Json
  | .comparison c n => c.json (write n)
  | .fallback f test yes no => f.json (write test) (write yes) (write no)

/-- The condition with values for the numbers. -/
def condition (value : ℤ → Value) : NumberCondition → Condition
  | .comparison c n => .comparison { c with queue := value n }
  | .fallback f test yes no => .fallback { f with
      test := { f.test with queue := value test }
      yes := { f.yes with queue := value yes }
      no := { f.no with queue := value no } }

/-- No percent signs stand around the numbers. A test has none in any case. -/
def Bare : NumberCondition → Prop
  | .comparison c _ => c.wildcard = .none
  | .fallback f _ _ _ => f.yes.wildcard = .none ∧ f.no.wildcard = .none

/-- A column of a branch and the digits of a number in quotes. -/
def branchText (q : Quoter) (ambient : Ident) (b : Branch) (operator : String) (n : ℤ) : String :=
  qualified ambient b.table b.field ++ " " ++ b.operator.getD operator ++ " " ++
    q.quote (toString n)

/-- The predicate with the digits of the numbers in quotes. -/
def text (q : Quoter) (ambient : Ident) : NumberCondition → String
  | .comparison c n =>
    qualified ambient c.table c.field ++ " " ++ c.operator ++ " " ++ q.quote (toString n)
  | .fallback f test yes no =>
    let t := branchText q ambient f.test "IS NOT" test
    "((" ++ t ++ " AND " ++ branchText q ambient f.yes "LIKE" yes ++ ") OR (NOT(" ++ t ++
      ") AND " ++ branchText q ambient f.no "LIKE" no ++ "))"

/-- A whole number as it is read. -/
def readNumber (n : ℤ) : Json := .scalar (.ofInt n)

variable {c : NumberCondition} {value : ℤ → Value} {room : ℕ}

lemma ofWhole_json (h : ∀ n ∈ c.numbers, Value.ofInt n = .ok (value n)) :
    Condition.ofWhole (c.json readNumber) = .ok (c.condition value) := by
  cases c with
  | comparison c n =>
      have hfails : Decode.Fails Fallback.ofJson (c.json (readNumber n)) :=
        Fallback.fails_of_lookup rfl
      exact Condition.ofWhole_of_comparison hfails (c.ofJson_json (h n List.mem_cons_self))
  | fallback f test yes no =>
      simp only [numbers, List.forall_mem_cons] at h
      exact Condition.ofWhole_of_fallback (f.ofJson_json h.1 h.2.1 h.2.2.1)

lemma readFlaw?_number (n : ℤ) :
    (readNumber n).readFlaw? room = none ↔ ∃ v, Value.ofInt n = .ok v := by
  rw [readNumber, Json.readFlaw?]
  constructor
  · intro h
    cases hvalue : Value.ofInt n with
    | ok v => exact ⟨v, rfl⟩
    | error e =>
        rw [(Value.eq_of_ofInt_error hvalue).2] at h
        cases h
  · rintro ⟨v, h⟩
    rw [Value.ofInt] at h
    cases hscalar : Scalar.ofInt n with
    | hugeNumber | brokenText =>
        rw [hscalar] at h
        cases h
    | _ => rfl

lemma readFlaw?_json :
    (c.json readNumber).readFlaw? (room + 2) = none ↔
      ∀ n ∈ c.numbers, ∃ v, Value.ofInt n = .ok v := by
  cases c with
  | comparison c n => simp [json, numbers, Comparison.readFlaw?_json, readFlaw?_number]
  | fallback f test yes no => simp [json, numbers, Fallback.readFlaw?_json, readFlaw?_number]

lemma skipFlaw?_json : (c.json readNumber).skipFlaw? = none := by
  cases c with
  | comparison c n => exact c.skipFlaw?_json rfl
  | fallback f test yes no => exact f.skipFlaw?_json rfl rfl rfl

lemma readAs_json (c : NumberCondition) :
    Json.ReadAs (c.json .whole).compactChars (c.json readNumber) := by
  cases c with
  | comparison c n => exact c.readAs_json (Json.readAs_whole n)
  | fallback f test yes no =>
      exact f.readAs_json (Json.readAs_whole test) (Json.readAs_whole yes) (Json.readAs_whole no)

/-- The predicate of a condition shows the digits of the numbers that are kept. -/
lemma render_condition (hbare : c.Bare)
    (h : ∀ n ∈ c.numbers, Value.Kept n ∧ Value.ofInt n = .ok (value n)) (q : Quoter)
    (ambient : Ident) : (c.condition value).render q ambient = c.text q ambient := by
  cases c with
  | comparison c n =>
      obtain ⟨hkept, hvalue⟩ := h n List.mem_cons_self
      rw [condition, Condition.render, Comparison.render, Quoter.pattern,
        (Value.form_of_kept hkept hvalue).2, if_neg Bool.false_ne_true, hbare,
        Value.expand_of_kept hkept hvalue, text]
  | fallback f test yes no =>
      simp only [numbers, List.forall_mem_cons] at h
      obtain ⟨⟨htest, htest'⟩, ⟨hyes, hyes'⟩, ⟨hno, hno'⟩, -⟩ := h
      simp only [condition, Condition.render, Fallback.render, Branch.renderTest,
        Branch.renderOutcome, hbare.1, hbare.2, Value.literal_of_kept htest htest',
        Value.expand_of_kept hyes hyes', Value.expand_of_kept hno hno', text, branchText]

end NumberCondition

end SqlRequest
