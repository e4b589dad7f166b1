import SqlRequest.Gateway.Basic
import SqlRequest.Gateway.Cursor
import SqlRequest.Notebook.Store

/-!
A connection to a notebook: a database in memory that either is empty or has the table
`notes`, with at most one transaction open at a time. It serves as a gateway.
-/

namespace SqlRequest

/-- A connection to a notebook. -/
structure Notebook where
  /-- Whether the database can be read at all. -/
  readable : Bool := true
  /-- The rows of the table, if there is one. -/
  notes : Option (List Notebook.Note) := none
  /-- What a rollback goes back to, while a transaction is open. -/
  saved : Option (Option (List Notebook.Note)) := none
  /-- The number of the row that was stored last. -/
  lastId : Int64 := 0
  deriving Repr

namespace Notebook

/-- A notebook with an empty table. -/
def withTable : Notebook := { notes := some [] }

/-- Whether a transaction is open. -/
def inTransaction (b : Notebook) : Bool := b.saved.isSome

/-- A statement that can be run on a notebook. -/
def prepare (b : Notebook) (sql : String) : Except Error Statement :=
  match Statement.ofText? sql with
  | none => .error (.prepare sql "malformed statement or unknown name")
  | some .nothing => .ok .nothing
  | some s =>
    if !b.readable then .error (.prepare sql "file is not a database")
    else if s.needsTable ∧ b.notes.isNone then .error (.prepare sql "no such table")
    else .ok s

/-- What a statement gives, and the notebook after it. -/
inductive Ran where
  | rows (c : Cursor)
  | changed (b : Notebook)
  | failed (f : Failure)
  /-- There was no statement to run. -/
  | nothing

/-- Runs a prepared statement. -/
def run (b : Notebook) (s : Statement) : Ran :=
  let notes := b.notes.getD []
  match s with
  | .nothing => .nothing
  | .literals columns rows => .rows { columns, rows }
  | .read columns f descending =>
    .rows {
      columns := columns.map Prod.fst
      rows := select (columns.map Prod.snd) f descending notes }
  | .insert cells =>
    match insert cells notes with
    | .ok (notes, id) => .changed { b with notes := some notes, lastId := Int64.ofInt id }
    | .error e => .failed e
  | .update cells f =>
    match update cells f notes with
    | .ok notes => .changed { b with notes := some notes }
    | .error e => .failed e
  | .delete f => .changed { b with notes := some (delete f notes) }

/-- Runs a statement that should give no rows. A broken constraint is a refusal and no
error. -/
def execute (sql : String) : Session Notebook Bool := do
  let b ← get
  match b.run (← b.prepare sql) with
  | .rows c =>
    if c.rows.isEmpty then return true else throw (.execution "statement gave rows")
  | .changed b =>
    set b
    return true
  | .failed .constraint => return false
  | .failed .mismatch => throw (.execution "datatype mismatch")
  | .nothing => throw (.execution "no statement")

/-- Runs a statement for its rows. One that changes the notes has none, and one that fails
does so before its first row. -/
def query (sql : String) : Session Notebook Cursor := do
  let b ← get
  match b.run (← b.prepare sql) with
  | .rows c => return c
  | .changed b =>
    set b
    return .empty
  | .failed _ => return .failing "statement failed"
  | .nothing => return .failing "no statement"

def begin : Session Notebook Unit := do
  let b ← get
  if b.inTransaction then
    throw (.transaction "begin failed: cannot start a transaction within a transaction")
  set { b with saved := some b.notes }

def commit : Session Notebook Unit := do
  let b ← get
  if !b.inTransaction then
    throw (.transaction "commit failed: cannot commit - no transaction is active")
  set { b with saved := none }

def rollback : Session Notebook Unit := do
  let b ← get
  match b.saved with
  | none => throw (.transaction "rollback failed: cannot rollback - no transaction is active")
  | some notes => set { b with notes, saved := none }

/-- A notebook as a gateway. -/
def gateway : Gateway Notebook where
  quoter := .standard
  execute := execute
  fetchOne sql := do (← query sql).fetchOne
  fetchAll sql := do (← query sql).fetchAll
  begin := begin
  commit := commit
  rollback := rollback
  lastInsertId := fun b => (b.lastId, b)

end Notebook

end SqlRequest
