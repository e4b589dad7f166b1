import SqlRequest.Notebook.Connection
import SqlRequest.Notebook.Target
import SqlRequest.Settings.Connection
import SqlRequest.Surroundings

/-!
Opening a connection. A database in memory is always there and empty. A file that is
empty, or can be made, is an empty database as well. A file with a text is no database:
it can be opened, and then no statement can be prepared.
-/

namespace SqlRequest.Notebook

/-- The notebook in a file, by what there is in its place and how it is opened. A
directory can be opened like a file as long as it is only read. -/
def inPlace? : Occupant → Mode → Option Notebook
  | .file s, _ => some { readable := s.isEmpty }
  | .directory, .read => some { readable := false }
  | .nothing true, .create => some {}
  | _, _ => none

/-- The notebook that a target names, if it can be opened. -/
def open? (around : Surroundings) : Target → Option Notebook
  | .memory => some {}
  | .file path mode => inPlace? (around.occupant (Location.ofPath path)) mode

/-- The connection that settings ask for. -/
def connect (around : Surroundings) (s : ConnectionSettings) : Except SetupFault Notebook := do
  match ← s.target with
  | .memory => return {}
  | .file name =>
    match (Target.ofName? name).bind (open? around) with
    | some b => return b
    | none => throw (.cannotOpen name)

end SqlRequest.Notebook
