import SqlRequest.Text.Parts

/-!
What a program finds around it: files with texts, environment variables, and places for
files. A `Folder` gives all that for a directory with known files in it.
-/

namespace SqlRequest

/-! ### Paths -/

/-- The parts of a path between its slashes. -/
def pathParts (path : String) : List String :=
  (Text.parts '/' path.toList).map String.ofList

/-- A part of a path that leads nowhere else. -/
def staysInPlace (part : String) : Bool := part = "" || part = "."

/-- Whether a name ends in a point and anything behind it, with something before the
point. -/
def hasEnding (name : String) : Bool := (name.toList.drop 1).contains '.'

/-- What an ending is put after when it is added to a path. The parts at the end that
lead nowhere else are dropped, if the last part then is a name without an ending. After a
name with an ending they stay, and nothing is added to a path that ends with a slash. -/
def pathStem? (path : String) : Option String :=
  match (pathParts path).reverse.dropWhile staysInPlace with
  | [] => none
  | last :: others =>
    if last = ".." then none
    else if !hasEnding last then some ("/".intercalate (last :: others).reverse)
    else if path.endsWith "/" then none
    else some path

/-- Whether a path ends in the name of a file. -/
def namesFile (path : String) : Bool :=
  match (pathParts path).getLast? with
  | some last => !staysInPlace last && last ≠ ".."
  | none => false

/-- The parts of a path that lead somewhere. -/
def steps (path : String) : List String := (pathParts path).filter fun p => !staysInPlace p

/-- A place that a path names without regard to what is there: `..` takes back the step
before it. Only a relative place may begin with `..`. -/
structure Location where
  absolute : Bool
  steps : List String
  deriving DecidableEq, Repr

namespace Location

/-- One more step, given those before it, the last one first. Above the root there is
nothing else. -/
def push (absolute : Bool) (before : List String) (step : String) : List String :=
  if step = ".." then
    match before with
    | [] => if absolute then [] else [step]
    | last :: others => if last = ".." then step :: before else others
  else step :: before

/-- The place that a path names. -/
def ofPath (path : String) : Location :=
  let absolute := path.startsWith "/"
  ⟨absolute, ((SqlRequest.steps path).foldl (push absolute) []).reverse⟩

/-- The shortest path of a place. -/
def path (l : Location) : String :=
  let inside := "/".intercalate l.steps
  if l.absolute then "/" ++ inside else if l.steps.isEmpty then "." else inside

end Location

/-! ### Surroundings -/

/-- What there is in a place. -/
inductive Occupant where
  | directory
  | file (text : String)
  /-- Nothing; `possible` says whether a file can be made there. -/
  | nothing (possible : Bool)
  deriving DecidableEq, Repr

/-- The surroundings of a program. -/
structure Surroundings where
  /-- The text of the file of a name, if there is one. -/
  text? : String → Option String
  /-- Environment variables with their values. -/
  environment : List (String × String)
  /-- What there is in a place. -/
  occupant : Location → Occupant

/-! ### Folders -/

/-- A directory with files in it, for a program that runs there. -/
structure Folder where
  /-- Files by their paths, with their texts. -/
  files : List (String × String)
  /-- Directories outside, by their absolute paths. -/
  outside : List String

namespace Folder

/-- The file of a relative place, if there is one. -/
def file? (f : Folder) (l : Location) : Option String :=
  if l.absolute then none else (f.files.find? fun e => steps e.1 = l.steps).map Prod.snd

/-- Whether there is a directory in a place. -/
def hasDirectory (f : Folder) (l : Location) : Bool :=
  if l.absolute then l.steps.isEmpty || f.outside.any fun d => steps d = l.steps
  else l.steps.all (· = "..") || f.files.any fun e =>
    l.steps.isPrefixOf (steps e.1) && l.steps ≠ steps e.1

/-- The place that steps lead to from a relative one, if every `..` is taken in a
directory of the folder. -/
def follow? (f : Folder) : List String → List String → Option (List String)
  | before, [] => some before
  | before, step :: steps =>
    if step ≠ ".." then f.follow? (before ++ [step]) steps
    else if before.isEmpty || !f.hasDirectory ⟨false, before⟩ then none
    else f.follow? before.dropLast steps

/-- The text of a file. -/
def text? (f : Folder) (path : String) : Option String :=
  if path.startsWith "/" || !namesFile path then none
  else (f.follow? [] (steps path)).bind fun steps => f.file? ⟨false, steps⟩

/-- The greatest number of octets in the name of a file. -/
def longestName : Nat := 255

/-- What there is in a place. A file can be made in every directory. -/
def occupant (f : Folder) (l : Location) : Occupant :=
  match f.file? l with
  | some s => .file s
  | none =>
    if f.hasDirectory l then .directory
    else .nothing <| (l.steps.all fun p => p.utf8ByteSize ≤ longestName) &&
      f.hasDirectory ⟨l.absolute, l.steps.dropLast⟩

/-- The folder and environment variables as surroundings. -/
def surroundings (f : Folder) (environment : List (String × String)) : Surroundings :=
  ⟨f.text?, environment, f.occupant⟩

end Folder

end SqlRequest
