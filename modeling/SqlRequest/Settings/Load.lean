import SqlRequest.Settings.Connection
import SqlRequest.Settings.Json
import SqlRequest.Settings.Variable
import SqlRequest.Surroundings

/-!
Loading settings: first from a file, if there is one, and over it from environment
variables. A file is in TOML or in JSON, as its name says.
-/

namespace SqlRequest

/-- What files with settings are written in. -/
inductive FileFormat where
  | toml
  | json
  deriving DecidableEq, Repr

namespace FileFormat

def all : List FileFormat := [toml, json]

/-- What names of files end in. -/
def ending : FileFormat → String
  | toml => ".toml"
  | json => ".json"

/-- The format that the name of a file tells. A name that is nothing but an ending tells
none. -/
def ofName? (path : String) : Option FileFormat :=
  let name := ((pathParts path).getLast?.getD "").toList
  all.find? fun f => f.ending.toList.isSuffixOf name && name ≠ f.ending.toList

/-- The settings that a text gives, if it is well formed. -/
def read? : FileFormat → String → Option (List (String × Setting))
  | toml, s => Toml.read? s
  | json, s => Setting.ofJsonText? s

end FileFormat

/-- A text without the byte order mark at its start. -/
def withoutMark (s : String) : String :=
  match s.toList with
  | '\ufeff' :: cs => String.ofList cs
  | _ => s

namespace Surroundings

/-- The file with settings that a name stands for: the file of the very name, if there is
one; else the first one whose name has an ending more. -/
def settingsFile? (around : Surroundings) (base : String) :
    Option (String × FileFormat × String) :=
  match around.text? base with
  | some s => (FileFormat.ofName? base).map fun f => (base, f, s)
  | none => (pathStem? base).bind fun stem => FileFormat.all.findSome? fun f =>
      (around.text? (stem ++ f.ending)).map fun s => (stem ++ f.ending, f, s)

/-- The settings of the file that a name stands for; without a file there are none. -/
def fileSettings (around : Surroundings) (base : String) :
    Except SetupFault (List (String × Setting)) :=
  match around.settingsFile? base with
  | none => .ok []
  | some (name, f, s) =>
    match f.read? (withoutMark s) with
    | some entries => .ok entries
    | none => .error (.malformedFile name)

/-- All settings: those of variables over those of the file. -/
def settings (around : Surroundings) (base : String) : Except SetupFault Setting := do
  let entries ← around.fileSettings base
  return ((Setting.table []).layer entries).layer (Variable.settings around.environment)

end Surroundings

/-- The settings of a connection from the file that a name stands for and from the
environment. -/
def ConnectionSettings.load (around : Surroundings) (base : String) :
    Except SetupFault ConnectionSettings := do
  let root ← around.settings base
  ofSetting root

end SqlRequest
