import SqlRequest.Settings.Basic
import SqlRequest.Text.LowerCase

/-!
Environment variables as a source of settings. A variable counts if its name starts with
`PERSISQL__`, in any letter case. The rest of the name, in small letters, is a key, in
which two underscores stand for a point.
-/

namespace SqlRequest.Variable

/-- What the names of variables that count start with. -/
def mark : List Char := "persisql__".toList

/-- Every two underscores as a point. -/
def pointed : List Char → List Char
  | '_' :: '_' :: cs => '.' :: pointed cs
  | c :: cs => c :: pointed cs
  | [] => []

/-- The key that a variable stands for, if it counts. -/
def key? (name : String) : Option String :=
  let cs := Text.lowerFrom false name.toList
  if mark.isPrefixOf cs then some (String.ofList (pointed (cs.drop mark.length))) else none

/-- The settings that variables give. Their values are texts. -/
def settings (environment : List (String × String)) : List (String × Setting) :=
  environment.filterMap fun v => (key? v.1).map fun key => (key, .text v.2)

end SqlRequest.Variable
