import SqlRequest.Decode.Request
import SqlRequest.Engine
import SqlRequest.Json.Printer
import SqlRequest.Notebook.Opening
import SqlRequest.Settings.Load

/-!
The command line: one query is run on the database that the settings name, and the
records that it gives are printed. A query is SQL, or a request as a JSON object.
-/

namespace SqlRequest.CommandLine

/-- What the program is asked to do. -/
structure Invocation where
  /-- The name of the file with settings. -/
  base : String
  query : String
  deriving DecidableEq, Repr

/-- How the program is called. -/
def usage : String := "usage: persisql [--config <base>] <sql | select-json>"

/-- The name of the file with settings when no other is given. -/
def defaultBase : String := "persisql"

/-- The arguments from left to right, after a name and a query so far: `--config` with
the name of a file, or a query. Of each the last one counts. -/
def readArgs (base : String) (query : Option String) : List String → Option Invocation
  | [] => query.map fun q => ⟨base, q⟩
  | arg :: args =>
    if arg = "--config" then
      match args with
      | [] => none
      | base :: args => readArgs base query args
    else readArgs base (some arg) args

/-- What arguments ask for. Without a query, or with an option that lacks its name, they
ask for nothing. -/
def Invocation.ofArgs (args : List String) : Option Invocation :=
  readArgs defaultBase none args

/-- Whether a query is a request and no SQL. -/
def isRequest (query : String) : Bool :=
  (Text.dropBlanks query.toList).head? = some '\x7b'

/-- The records that a query gives. -/
def records {σ : Type} (g : Gateway σ) (query : String) :
    Session σ (Outcome (Option Records)) := do
  if isRequest query then
    let r ← Decode.ofText SelectMany.ofJson query
    Engine.getAll g r
  else Engine.getAllOf g ⟨query⟩ false

/-- What is printed of the answer to a query. -/
def shown : Outcome (Option Records) → String
  | .debug sql => sql ++ "\n"
  | .executed none => Json.null.pretty ++ "\n"
  | .executed (some rs) => rs.toJson.pretty ++ "\n"

/-- Runs a query; what it gives is printed. -/
def answer {σ : Type} (g : Gateway σ) (query : String) : Session σ String := do
  let outcome ← records g query
  return shown outcome

/-- How a run of the program ends. -/
inductive Ending where
  /-- The arguments do not say what to do. -/
  | misused
  | failed (e : Error)
  | printed (output : String)
  deriving DecidableEq, Repr

/-- Runs the program. -/
def run (around : Surroundings) (args : List String) : Ending :=
  match Invocation.ofArgs args with
  | none => .misused
  | some i =>
    match ConnectionSettings.load around i.base with
    | .error f => .failed (.config f)
    | .ok s =>
      match Notebook.connect around s with
      | .error f => .failed (.config f)
      | .ok b =>
        match ((answer Notebook.gateway i.query).run b).1 with
        | .error e => .failed e
        | .ok output => .printed output

namespace Ending

/-- The exit code: all failures have one. -/
def code : Ending → UInt32
  | misused | failed _ => 1
  | printed _ => 0

/-- What goes to standard output. -/
def output : Ending → String
  | misused | failed _ => ""
  | printed s => s

/-- What goes to standard error. -/
def complaint : Ending → String
  | misused => usage ++ "\n"
  | failed e => e.message ++ "\n"
  | printed _ => ""

end Ending

end SqlRequest.CommandLine
