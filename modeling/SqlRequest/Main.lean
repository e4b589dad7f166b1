import SqlRequest.CommandLine
import SqlRequest.Text.Utf8

/-!
The program: it looks around for files and environment variables, runs, and prints.
-/

namespace SqlRequest.Program

/-- The text of a file, if it can be read. -/
def readText? (path : String) : IO (Option String) := do
  try
    let octets ← IO.FS.readBinFile path
    return some (Text.Utf8.read octets.toList)
  catch _ => return none

/-- Whether a file can be made. If it can, it is made. -/
def canMake (path : String) : IO Bool := do
  try
    let _ ← IO.FS.Handle.mk path .append
    return true
  catch _ => return false

/-- What there is in the place of a file that is opened in some way. -/
def occupant (path : String) (mode : Notebook.Mode) : IO Occupant := do
  match ← readText? path with
  | some s => return .file s
  | none => return .nothing (← if mode = .create then canMake path else pure false)

/-- The environment variables. -/
def environment : IO (List (String × String)) := do
  let written ← readText? "/proc/self/environ"
  let entries := Text.parts '\x00' ((written.getD "").toList)
  return entries.filterMap fun e =>
    match e.dropWhile (· ≠ '=') with
    | _ :: value => some (String.ofList (e.takeWhile (· ≠ '=')), String.ofList value)
    | [] => none

/-- The files with settings that arguments may stand for. -/
def settingsFiles (args : List String) : IO (List (String × String)) := do
  match CommandLine.Invocation.ofArgs args with
  | none => return []
  | some i =>
    let longer := (pathStem? i.base).elim [] fun stem =>
      FileFormat.all.map fun f => stem ++ f.ending
    let names := i.base :: longer
    names.filterMapM fun name => do return (← readText? name).map fun s => (name, s)

/-- What there is around, as far as arguments make it matter. -/
def surroundings (args : List String) : IO Surroundings := do
  let files ← settingsFiles args
  let around : Surroundings :=
    ⟨fun name => files.lookup name, ← environment, fun _ => .nothing false⟩
  let base := ((CommandLine.Invocation.ofArgs args).map fun i => i.base).getD ""
  match (ConnectionSettings.load around base).bind ConnectionSettings.target with
  | .ok (.file name) =>
    match Notebook.Target.ofName? name with
    | some (.file path mode) => do
      let there ← occupant (Location.ofPath path).path mode
      return { around with occupant := fun _ => there }
    | _ => return around
  | _ => return around

end SqlRequest.Program

open SqlRequest in
def main (args : List String) : IO UInt32 := do
  let ending := CommandLine.run (← Program.surroundings args) args
  IO.print ending.output
  IO.eprint ending.complaint
  return ending.code
