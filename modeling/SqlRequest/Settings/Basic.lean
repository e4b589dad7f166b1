import SqlRequest.Settings.Path
import SqlRequest.Value

/-!
Settings: a tree of named values that comes from several sources. A later source wins
over an earlier one key by key: tables are merged, everything else is replaced.
-/

namespace SqlRequest

/-- A value of a configuration. -/
inductive Setting where
  | null
  | bool (b : Bool)
  | integer (n : Int)
  | real (x : Float)
  | text (s : String)
  | list (items : List Setting)
  | table (entries : List (String × Setting))
  deriving Repr, Inhabited

namespace Setting

/-- A value as a text, if it is one without parts. -/
def text? : Setting → Option String
  | bool b => some (if b then "true" else "false")
  | integer n => some (toString n)
  | real x => some (Value.realForm x)
  | text s => some s
  | null | list _ | table _ => none

/-- The entries of a table; a value of another kind has none. -/
def entries : Setting → List (String × Setting)
  | table es => es
  | _ => []

/-- The items of a list; a value of another kind has none. -/
def items : Setting → List Setting
  | list vs => vs
  | _ => []

def isTable : Setting → Bool
  | table _ => true
  | _ => false

/-- The value of a key in a table. -/
def get? (s : Setting) (key : String) : Option Setting := s.entries.lookup key

/-- Entries with the one for a key changed, or added at the end. -/
def alterEntry (key : String) (f : Option Setting → Setting) :
    List (String × Setting) → List (String × Setting)
  | [] => [(key, f none)]
  | (k, v) :: es => if k = key then (k, f (some v)) :: es else (k, v) :: alterEntry key f es

/-- Items with the one at an index changed. What is missing up to it is filled with
nulls: at the end, or in front of everything for an index that is counted from the end. -/
def alterItem (index : Int) (f : Setting → Setting) (vs : List Setting) : List Setting :=
  if 0 ≤ index then
    (vs ++ List.replicate (index.toNat + 1 - vs.length) null).modify index.toNat f
  else
    let vs := List.replicate (index.natAbs - vs.length) null ++ vs
    vs.modify (vs.length - index.natAbs) f

mutual

/-- A value with another one over it. -/
def merge (under : Setting) : Setting → Setting
  | table es => table (mergeEntries under.entries es)
  | later => later

/-- Entries with other ones over them. -/
def mergeEntries (under : List (String × Setting)) :
    List (String × Setting) → List (String × Setting)
  | [] => under
  | (key, later) :: es =>
    mergeEntries (alterEntry key (fun old => merge (old.getD null) later) under) es

end

/-- A value written to a path. What stands in the way of a table or a list is
replaced. -/
def write : List Step → Setting → Setting → Setting
  | [], later, under => merge under later
  | .entry key :: path, later, under =>
    table (alterEntry key (fun old => write path later (old.getD null)) under.entries)
  | .item index :: path, later, under =>
    list (alterItem index (write path later) under.items)

/-- A source over what the sources before it gave. -/
def layer (under : Setting) (source : List (String × Setting)) : Setting :=
  source.foldl (fun s e => write (pathOf e.1) e.2 s) under

end Setting

end SqlRequest
