import SqlRequest.Proofs.Engine.Insert

/-!
The six operations of an engine, under one head.

* `Operation.run`: an operation over a gateway, with the answer of its own kind;
* `Operation.statement`: the statement of an operation, without any check;
* `Operation.prepare`: the statement of an operation that passes the checks that come
  before it is shown or run;
* `Operation.carryOut`: the part of an operation that calls the gateway;
* `Operation.Ran`, `Operation.ran`: every operation prepares its statement and then shows
  it, refuses to run it, or carries it out;
* `Operation.run_traces`: writing down the events of an operation changes nothing.
-/

namespace SqlRequest

/-- Something that an engine does. -/
inductive Operation where
  | get (r : Select)
  | getAll (r : SelectMany)
  | getAllOf (sql : Fragment) (debug : Bool)
  | update (r : Update)
  | insert (r : Insert)
  | delete (r : Delete)

namespace Operation

variable {σ : Type}

/-- What an operation answers when it is run. -/
abbrev Answer : Operation → Type
  | get _ => Option Fetched
  | getAll _ => Option Records
  | getAllOf _ _ => Option Records
  | update _ => Bool
  | insert _ => Option Int64
  | delete _ => Bool

def run (g : Gateway σ) : (o : Operation) → Session σ (Outcome o.Answer)
  | get r => Engine.get g r
  | getAll r => Engine.getAll g r
  | getAllOf sql debug => Engine.getAllOf g sql debug
  | update r => Engine.update g r
  | insert r => Engine.insert g r
  | delete r => Engine.delete g r

/-- Whether the statement is to be shown and not run. -/
def debug : Operation → Bool
  | get r => r.debug
  | getAll r => r.debug
  | getAllOf _ debug => debug
  | update r => r.debug
  | insert r => r.debug
  | delete r => r.debug

/-- The same operation, with its statement shown or run. -/
def withDebug (debug : Bool) : Operation → Operation
  | get r => get { r with debug }
  | getAll r => getAll { r with debug }
  | getAllOf sql _ => getAllOf sql debug
  | update r => update { r with debug }
  | insert r => insert { r with debug }
  | delete r => delete { r with debug }

@[simp] lemma debug_withDebug (debug : Bool) (o : Operation) :
    (o.withDebug debug).debug = debug := by
  cases o <;> rfl

/-! ### The parts of an operation -/

/-- The statement of an operation; one that is written by hand is its own. -/
def statement (q : Quoter) : Operation → Except Error String
  | get r => r.render q
  | getAll r => r.render q
  | getAllOf sql _ => .ok sql.text
  | update r => r.render q
  | insert r => .ok (r.render q)
  | delete r => r.render q

/-- What makes an operation refuse before there is a statement: an insert of no values and
a delete without conditions. -/
def unfit? : Operation → Option Error
  | insert r => if r.values.isEmpty then some (.validation (.noValues r.table)) else none
  | delete r =>
    if r.conditions.isEmpty then some (.validation (.noConditions r.table)) else none
  | _ => none

/-- What makes an operation refuse to run its statement: an update that sets nothing. -/
def unset? (q : Quoter) : Operation → Option Error
  | update r =>
    if (r.assignments q).isEmpty then some (.validation (.nothingToSet r.table)) else none
  | _ => none

/-- The statement of an operation that is fit for one. -/
def prepare (q : Quoter) (o : Operation) : Except Error String :=
  match o.unfit? with
  | some e => .error e
  | none => o.statement q

section Prepare

variable {q : Quoter} {o : Operation}

/-- What is prepared is the statement. -/
lemma statement_of_prepare {sql : String} (h : o.prepare q = .ok sql) :
    o.statement q = .ok sql := by
  rw [prepare] at h
  cases hunfit : o.unfit? with
  | some e => simp [hunfit] at h
  | none => simpa [hunfit] using h

lemma prepare_of_unfit {e : Error} (h : o.unfit? = some e) : o.prepare q = .error e := by
  rw [prepare, h]

end Prepare

/-- What a select of one row makes of the row that was fetched, or of none. -/
def pick (r : Select) (fetched : Option Row) : Session σ (Outcome (Option Fetched)) := do
  match fetched with
  | none => return .executed none
  | some row =>
    let found ← r.field.of r.table row
    return .executed (some found)

/-- To pick needs no call. -/
lemma pick_eq (r : Select) (fetched : Option Row) (s : σ) :
    pick r fetched s = (match fetched with
      | none => .ok (.executed none)
      | some row => (r.field.of r.table row).map fun found => .executed (some found), s) := by
  cases fetched with
  | none => rfl
  | some row =>
      change (do let found ← r.field.of r.table row; return .executed (some found) :
          Session σ (Outcome (Option Fetched))) s =
        ((r.field.of r.table row).map fun found => .executed (some found), s)
      cases r.field.of r.table row <;> rfl

/-- The calls of an operation with its statement, and what becomes of their answers. -/
def carryOut (g : Gateway σ) (sql : String) : (o : Operation) → Session σ (Outcome o.Answer)
  | get r => do
    let fetched ← g.fetchOne sql
    pick r fetched
  | getAll _ | getAllOf _ _ => do
    let rows ← g.fetchAll sql
    return .executed (Records.ofRows rows)
  | update _ | delete _ => do
    let done ← g.execute sql
    return .executed done
  | insert _ => g.transaction (Engine.storing g sql)

/-- Every operation first prepares its statement; then the statement is shown, or it is not
worth running, or it is carried out. -/
lemma run_eq (g : Gateway σ) (o : Operation) :
    o.run g =
      match o.prepare g.quoter with
      | .error e => throw e
      | .ok sql =>
        if o.debug then return .debug sql
        else
          match o.unset? g.quoter with
          | some e => throw e
          | none => o.carryOut g sql := by
  cases o with
  | get r =>
      obtain ⟨table, field, conditions, joins, grouping, debug⟩ := r
      simp only [run, Engine.get, prepare, unfit?, statement]
      cases Select.render g.quoter _ <;> cases debug <;> rfl
  | getAll r =>
      obtain ⟨table, conditions, joins, grouping, orderBy, cols, debug⟩ := r
      simp only [run, Engine.getAll, prepare, unfit?, statement]
      cases SelectMany.render g.quoter _ <;> cases debug <;> rfl
  | getAllOf sql debug => cases debug <;> rfl
  | update r =>
      obtain ⟨table, values, conditions, debug⟩ := r
      simp only [run, Engine.update, prepare, unfit?, statement, unset?]
      cases Update.render g.quoter _ with
      | error e => rfl
      | ok sql => cases debug <;> cases (Update.assignments g.quoter _).isEmpty <;> rfl
  | insert r =>
      obtain ⟨table, values, debug⟩ := r
      simp only [run, Engine.insert, prepare, unfit?, statement]
      cases values.isEmpty <;> cases debug <;> rfl
  | delete r =>
      obtain ⟨table, conditions, debug⟩ := r
      simp only [run, Engine.delete, prepare, unfit?, statement]
      cases conditions.isEmpty with
      | true => rfl
      | false => cases Delete.render g.quoter _ <;> cases debug <;> rfl

section Ways

variable {g : Gateway σ} {o : Operation} {sql : String} {e : Error}

/-- An operation without a statement ends before anything is called. -/
lemma run_of_prepare_error (h : o.prepare g.quoter = .error e) (s : σ) :
    o.run g s = (.error e, s) := by
  rw [run_eq, h]
  rfl

/-- An operation that is to debug shows its statement. -/
lemma run_of_debug (h : o.prepare g.quoter = .ok sql) (hdebug : o.debug = true) (s : σ) :
    o.run g s = (.ok (.debug sql), s) := by
  rw [run_eq, h]
  simp only [hdebug, if_true]
  rfl

/-- An operation whose statement is not worth running ends before anything is called. -/
lemma run_of_unset (h : o.prepare g.quoter = .ok sql) (hdebug : o.debug = false)
    (hunset : o.unset? g.quoter = some e) (s : σ) : o.run g s = (.error e, s) := by
  rw [run_eq, h]
  simp only [hdebug, Bool.false_eq_true, if_false, hunset]
  rfl

/-- Any other operation is carried out. -/
lemma run_of_set (h : o.prepare g.quoter = .ok sql) (hdebug : o.debug = false)
    (hset : o.unset? g.quoter = none) : o.run g = o.carryOut g sql := by
  rw [run_eq, h]
  simp only [hdebug, Bool.false_eq_true, if_false, hset]

/-- The ways in which an operation goes from a state on, each with its result and the state
it leaves. -/
inductive Ran (g : Gateway σ) (o : Operation) (s : σ) :
    Except Error (Outcome o.Answer) × σ → Prop where
  | unprepared {e : Error} (hprepare : o.prepare g.quoter = .error e) : Ran g o s (.error e, s)
  | shown {sql : String} (hprepare : o.prepare g.quoter = .ok sql) (hdebug : o.debug = true) :
      Ran g o s (.ok (.debug sql), s)
  | unset {sql : String} {e : Error} (hprepare : o.prepare g.quoter = .ok sql)
      (hdebug : o.debug = false) (hunset : o.unset? g.quoter = some e) : Ran g o s (.error e, s)
  | carriedOut {sql : String} (hprepare : o.prepare g.quoter = .ok sql)
      (hdebug : o.debug = false) (hset : o.unset? g.quoter = none) :
      Ran g o s (o.carryOut g sql s)

/-- Every operation goes in one of the ways of `Ran`. -/
lemma ran (g : Gateway σ) (o : Operation) (s : σ) : Ran g o s (o.run g s) := by
  cases hprepare : o.prepare g.quoter with
  | error e =>
      rw [run_of_prepare_error hprepare]
      exact .unprepared hprepare
  | ok sql =>
      cases hdebug : o.debug with
      | true =>
          rw [run_of_debug hprepare hdebug]
          exact .shown hprepare hdebug
      | false =>
          cases hunset : o.unset? g.quoter with
          | some e =>
              rw [run_of_unset hprepare hdebug hunset]
              exact .unset hprepare hdebug hunset
          | none =>
              rw [run_of_set hprepare hdebug hunset]
              exact .carriedOut hprepare hdebug hunset

end Ways

/-! ### Events of an operation -/

lemma carryOut_traces (g : Gateway σ) (sql : String) (o : Operation) :
    Traces (o.carryOut g.traced sql) (o.carryOut g sql) := by
  cases o with
  | get r =>
      refine (Traces.of_answered (.fetchOne sql) (g.fetchOne sql)).bind fun fetched p => ?_
      rw [pick_eq, pick_eq]
  | getAll r | getAllOf _ _ =>
      exact (Traces.of_answered (.fetchAll sql) (g.fetchAll sql)).bind fun _ _ => rfl
  | update r | delete r =>
      exact (Traces.of_answered (.execute sql) (g.execute sql)).bind fun _ _ => rfl
  | insert r => exact Traces.transaction g (Engine.storing_traces g sql)

/-- Writing down the events of an operation changes neither what it answers nor what it
does. -/
lemma run_traces (g : Gateway σ) (o : Operation) : Traces (o.run g.traced) (o.run g) := by
  rw [run_eq, run_eq, Gateway.quoter_traced]
  cases o.prepare g.quoter with
  | error e => exact fun _ => rfl
  | ok sql =>
      cases o.debug with
      | true => exact fun _ => rfl
      | false =>
          cases o.unset? g.quoter with
          | some e => exact fun _ => rfl
          | none => exact carryOut_traces g sql o

end Operation

end SqlRequest
