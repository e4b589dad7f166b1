import SqlRequest.Gateway.Scripted
import SqlRequest.Proofs.Engine.Operation
import SqlRequest.Proofs.Row

/-!
Selects of one row: one field against the whole row.

* `Select.traced_run`: a select that is not to debug makes one call, or none if it cannot be
  rendered;
* `Engine.Projected`: what a select of one field gives, for each answer to that call, beside what
  the select of the whole row gives;
* `Engine.get_field_projects`: they make the same call, and the field is the projection of the row.
-/

namespace SqlRequest

variable {σ : Type}

/-! ### One call -/

namespace Select

/-- What becomes of the answer to the one call of a select. -/
def taken (r : Select) : Option Row → Except Error (Outcome (Option Fetched))
  | none => .ok (.executed none)
  | some row => (r.field.of r.table row).map fun found => .executed (some found)

variable {g : Gateway σ} {r : Select}

/-- A select that has no statement fails before its call. -/
lemma traced_run_of_error {e : Error} (h : r.render g.quoter = .error e) (s : σ) :
    Engine.get g.traced r (s, []) = (.error e, (s, [])) :=
  Operation.run_of_prepare_error (o := .get r) (g := g.traced) h (s, [])

/-- Any other select fetches one row with its statement, and then looks at it. -/
lemma traced_run (hdebug : r.debug = false) {sql : String} (h : r.render g.quoter = .ok sql)
    (s : σ) :
    Engine.get g.traced r (s, []) =
      ((g.fetchOne sql s).1 >>= r.taken,
        ((g.fetchOne sql s).2, [.fetchOne sql (g.fetchOne sql s).1])) := by
  have hcall : g.traced.fetchOne sql (s, []) =
      ((g.fetchOne sql s).1, ((g.fetchOne sql s).2, [.fetchOne sql (g.fetchOne sql s).1])) := rfl
  have hrun : Engine.get g.traced r = (Operation.get r).carryOut g.traced sql :=
    Operation.run_of_set (o := .get r) (g := g.traced) h hdebug rfl
  rw [hrun, Operation.carryOut]
  cases hanswer : (g.fetchOne sql s).1 with
  | error e =>
      rw [hanswer] at hcall
      rw [Session.bind_of_error hcall]
      rfl
  | ok fetched =>
      rw [hanswer] at hcall
      rw [Session.bind_of_ok hcall, Operation.pick_eq]
      cases fetched <;> rfl

end Select

/-! ### A field and the whole row -/

namespace Engine

/-- What the selects of the whole row and of one field give, from the events that both have. -/
inductive Projected (q : Quoter) (r : Select) (name : String) :
    List Event → Except Error (Outcome (Option Fetched)) →
      Except Error (Outcome (Option Fetched)) → Prop where
  | unrendered {e : Error} (h : r.render q = .error e) : Projected q r name [] (.error e) (.error e)
  | failed {sql : String} {e : Error} (h : r.render q = .ok sql) :
      Projected q r name [.fetchOne sql (.error e)] (.error e) (.error e)
  | nothing {sql : String} (h : r.render q = .ok sql) :
      Projected q r name [.fetchOne sql (.ok none)] (.ok (.executed none)) (.ok (.executed none))
  | found {sql : String} {row : Row} {i : ℕ} {v : Value} (h : r.render q = .ok sql)
      (hleftmost : row.Leftmost name i v) :
      Projected q r name [.fetchOne sql (.ok (some row))] (.ok (.executed (some (.row row))))
        (.ok (.executed (some (.value v.form))))
  | missing {sql : String} {row : Row} (h : r.render q = .ok sql) (hmissing : name ∉ row.columns) :
      Projected q r name [.fetchOne sql (.ok (some row))] (.ok (.executed (some (.row row))))
        (.error (.validation (.notAColumn name r.table)))

/-- The whole row and one field of it, from the same answer. -/
lemma projected_taken {q : Quoter} {r : Select} {name sql : String} (h : r.render q = .ok sql)
    (answer : Except Error (Option Row)) :
    Projected q r name [.fetchOne sql answer] (answer >>= (r.withField .all).taken)
      (answer >>= (r.withField (.named name)).taken) := by
  cases answer with
  | error e => exact .failed h
  | ok fetched =>
      cases fetched with
      | none => exact .nothing h
      | some row =>
          change Projected q r name _ (.ok (.executed (some (.row row))))
            ((Field.of r.table row (.named name)).map fun found => .executed (some found))
          rw [Field.of]
          cases hget : row.get? name with
          | some v =>
              obtain ⟨i, hleftmost⟩ := Row.get?_eq_some_iff.mp hget
              exact .found h hleftmost
          | none => exact .missing h (Row.get?_eq_none_iff.mp hget)

/-- **The select of a field is the projection of the select of the row**, whatever the gateway
answers. Both make the same single call, or none if there is no statement. They fail together and
find nothing together, and of a row that one of them finds the other one finds the value of the
leftmost column of the name, or refuses, if no column has it. A position that a name has among the
columns of a row is one among its values, for all columns and values that make a row. -/
theorem get_field_projects (g : Gateway σ) (r : Select) (name : String) (hdebug : r.debug = false)
    (hname : name ≠ "*") (s : σ) :
    (∃ whole field s' trace,
      get g (r.withField .all) s = (whole, s') ∧
        get g.traced (r.withField .all) (s, []) = (whole, (s', trace)) ∧
        get g (r.withField (.ofText name)) s = (field, s') ∧
        get g.traced (r.withField (.ofText name)) (s, []) = (field, (s', trace)) ∧
        Projected g.quoter r name trace whole field) ∧
      ∀ columns values row, Row.of columns values = .ok row →
        row.columns = columns ∧ row.values = values ∧
          ∀ column i, columns.idxOf? column = some i →
            ∃ h : i < values.length, row.get? column = some values[i] := by
  have hfield : Field.ofText name = .named name := if_neg hname
  have huntraced (r' : Select) {result : Except Error (Outcome (Option Fetched))} {s' : σ}
      {trace : List Event} (h : get g.traced r' (s, []) = (result, (s', trace))) :
      get g r' s = (result, s') := by
    have htraces := Operation.run_traces g (.get r') (s, [])
    rw [Operation.run, h] at htraces
    exact htraces.symm
  constructor
  · rw [hfield]
    cases h : r.render g.quoter with
    | error e =>
        have hwhole := Select.traced_run_of_error (r := r.withField .all) h s
        have hnamed := Select.traced_run_of_error (r := r.withField (.named name)) h s
        exact ⟨_, _, _, _, huntraced _ hwhole, hwhole, huntraced _ hnamed, hnamed, .unrendered h⟩
    | ok sql =>
        have hwhole := Select.traced_run (r := r.withField .all) hdebug h s
        have hnamed := Select.traced_run (r := r.withField (.named name)) hdebug h s
        exact ⟨_, _, _, _, huntraced _ hwhole, hwhole, huntraced _ hnamed, hnamed,
          projected_taken h _⟩
  · intro columns values row hrow
    obtain ⟨rfl, rfl⟩ := Row.of_eq_ok_iff.mp hrow
    refine ⟨rfl, rfl, fun column i hi => ⟨Row.lt_of_idxOf? hi, ?_⟩⟩
    rw [Row.get?_eq_bind, hi, Option.bind_some, List.getElem?_eq_getElem (Row.lt_of_idxOf? hi)]

/-- Of two columns of a name the left one counts. -/
theorem get_field_projects_doubled :
    let row : Row := ⟨["id", "name", "name"], [.integer 1, .text "a", .text "b"], rfl⟩
    let r := Select.of ⟨"users"⟩
    let script : Script := { fetchOne := [.ok (some row)] }
    let whole : Except Error (Outcome (Option Fetched)) := .ok (.executed (some (.row row)))
    let field : Except Error (Outcome (Option Fetched)) := .ok (.executed (some (.value "a")))
    r.debug = false ∧ "name" ≠ "*" ∧
      (∃ s' trace, get (Script.gateway .standard) (r.withField .all) script = (whole, s') ∧
        get (Script.gateway .standard) (r.withField (.ofText "name")) script = (field, s') ∧
        Projected .standard r "name" trace whole field) ∧
      Row.of row.columns row.values = .ok row ∧ row.columns.idxOf? "name" = some 1 ∧
        ∃ h : 1 < row.values.length, row.get? "name" = some row.values[1] := by
  intro row r script whole field
  obtain ⟨⟨whole', field', s', trace, hwhole, -, hfield, -, hprojected⟩, hlookup⟩ :=
    get_field_projects (Script.gateway .standard) r "name" rfl (by decide) script
  obtain rfl : whole = whole' := congrArg Prod.fst hwhole
  obtain rfl : field = field' := congrArg Prod.fst hfield
  have hrow : Row.of row.columns row.values = .ok row := Row.of_eq_ok_iff.mpr ⟨rfl, rfl⟩
  obtain ⟨-, -, hindex⟩ := hlookup _ _ row hrow
  exact ⟨rfl, by decide, ⟨s', trace, hwhole, hfield, hprojected⟩, hrow, rfl, hindex "name" 1 rfl⟩

end Engine

end SqlRequest
