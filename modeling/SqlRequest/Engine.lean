import SqlRequest.Gateway.Transaction
import SqlRequest.Records
import SqlRequest.Request.Change
import SqlRequest.Request.Select

/-!
Running requests. Each request becomes one statement, which a gateway runs; a request
to debug gives its statement instead and leaves the gateway alone. Selects of many
rows are folded into records, inserts run in a transaction of their own, and deletes
without conditions are refused.
-/

namespace SqlRequest

/-- What became of a request: its statement, or the answer to it. -/
inductive Outcome (α : Type) where
  | debug (sql : String)
  | executed (a : α)
  deriving DecidableEq, Repr

namespace Outcome

variable {α : Type}

/-- The answer, if the request was run. -/
def answer? : Outcome α → Option α
  | debug _ => none
  | executed a => some a

/-- The statement, if the request was not run. -/
def sql? : Outcome α → Option String
  | debug sql => some sql
  | executed _ => none

end Outcome

/-- What a select of one row found. -/
inductive Fetched where
  | row (r : Row)
  | value (s : String)
  deriving DecidableEq, Repr

namespace Fetched

/-- The whole row, if it was asked for. -/
def row? : Fetched → Option Row
  | row r => some r
  | value _ => none

/-- The form of the field, if one was asked for. -/
def value? : Fetched → Option String
  | row _ => none
  | value s => some s

end Fetched

/-- What a field of a row is; the whole row has all of them. -/
def Field.of (table : Ident) (r : Row) : Field → Except Error Fetched
  | .all => .ok (.row r)
  | .named name =>
    match r.get? name with
    | some v => .ok (.value v.form)
    | none => .error (.validation (.notAColumn name table))

namespace Engine

variable {σ : Type}

/-- The first row that a request asks for, or a field of it. -/
def get (g : Gateway σ) (r : Select) : Session σ (Outcome (Option Fetched)) := do
  let sql ← r.render g.quoter
  if r.debug then return .debug sql
  match ← g.fetchOne sql with
  | none => return .executed none
  | some row =>
    let fetched ← r.field.of r.table row
    return .executed (some fetched)

/-- The rows of a statement, folded into records. -/
def getAllOf (g : Gateway σ) (sql : Fragment) (debug : Bool) :
    Session σ (Outcome (Option Records)) := do
  if debug then return .debug sql.text
  let rows ← g.fetchAll sql.text
  return .executed (Records.ofRows rows)

/-- All rows that a request asks for, folded into records. -/
def getAll (g : Gateway σ) (r : SelectMany) : Session σ (Outcome (Option Records)) := do
  let sql ← r.render g.quoter
  getAllOf g ⟨sql⟩ r.debug

/-- Changes rows. An update that sets nothing is refused. -/
def update (g : Gateway σ) (r : Update) : Session σ (Outcome Bool) := do
  let sql ← r.render g.quoter
  if r.debug then return .debug sql
  if (r.assignments g.quoter).isEmpty then throw (.validation (.nothingToSet r.table))
  let done ← g.execute sql
  return .executed done

/-- Stores a row and gives its number; nothing, if the database refuses the row. -/
def insert (g : Gateway σ) (r : Insert) : Session σ (Outcome (Option Int64)) := do
  if r.values.isEmpty then throw (.validation (.noValues r.table))
  let sql := r.render g.quoter
  if r.debug then return .debug sql
  g.transaction do
    if ← g.execute sql then
      let id ← g.lastInsertId
      return (.commit, .executed (some id))
    else
      return (.rollback, .executed none)

/-- Removes rows. Without conditions it is refused. -/
def delete (g : Gateway σ) (r : Delete) : Session σ (Outcome Bool) := do
  if r.conditions.isEmpty then throw (.validation (.noConditions r.table))
  let sql ← r.render g.quoter
  if r.debug then return .debug sql
  let done ← g.execute sql
  return .executed done

/-- The clause of some conditions, for statements that are written by hand. -/
def conditionString (g : Gateway σ) (table : Ident) (cs : Conditions) : Except Error String :=
  cs.clause g.quoter table

end Engine

end SqlRequest
