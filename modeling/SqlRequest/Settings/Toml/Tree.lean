import SqlRequest.Settings.Basic

/-!
The tables of a TOML text while it is read. No key and no table may be given twice. A
table that only stands on the way to another one may still be given by a header of its
own if it stands there in a header, and not if it stands there in a dotted key.
-/

namespace SqlRequest.Toml

/-- How a table came about. -/
inductive Origin where
  /-- It has a header of its own, or it is the outermost one. -/
  | header
  /-- It stands on the way to a table with a header. -/
  | implicit
  /-- It stands on the way to a key. -/
  | dotted
  deriving DecidableEq, Repr

/-- What a key stands for while a text is read. -/
inductive Node where
  | value (s : Setting)
  | table (origin : Origin) (entries : List (String × Node))
  /-- Tables under one name, the last one first. -/
  | tables (elements : List (List (String × Node)))

abbrev Nodes : Type := List (String × Node)

/-- Entries with the one for a key changed or added, if it can be. -/
def alter (k : String) (f : Option Node → Option Node) : Nodes → Option Nodes
  | [] => (f none).map fun n => [(k, n)]
  | (k', n) :: es =>
    if k' = k then (f (some n)).map fun n => (k', n) :: es
    else (alter k f es).map ((k', n) :: ·)

/-- A new value under a key, in a table that keys may be added to. -/
def define : List String → Setting → Nodes → Option Nodes
  | [], _, _ => none
  | [k], v, es => alter k (fun old => if old.isSome then none else some (.value v)) es
  | k :: k' :: path, v, es => alter k (fun
    | none => (define (k' :: path) v []).map (.table .dotted)
    | some (.table .dotted inner) => (define (k' :: path) v inner).map (.table .dotted)
    | some (.table .implicit inner) =>
      if path.isEmpty then none else (define (k' :: path) v inner).map (.table .implicit)
    | some (.tables (last :: others)) =>
      if path.isEmpty then none
      else (define (k' :: path) v last).map fun last => .tables (last :: others)
    | some _ => none) es

/-- A change to the entries of the table that a header names, which is there. -/
def within (f : Nodes → Option Nodes) : List String → Nodes → Option Nodes
  | [], es => f es
  | k :: path, es => alter k (fun
    | some (.table origin inner) => (within f path inner).map (.table origin)
    | some (.tables (last :: others)) =>
      (within f path last).map fun last => .tables (last :: others)
    | _ => none) es

/-- The tables on the way to the one that a header names, and a change to that one. -/
def reach (f : Option Node → Option Node) : List String → Nodes → Option Nodes
  | [], _ => none
  | [k], es => alter k f es
  | k :: k' :: path, es => alter k (fun
    | none => (reach f (k' :: path) []).map (.table .implicit)
    | some (.table origin inner) => (reach f (k' :: path) inner).map (.table origin)
    | some (.tables (last :: others)) =>
      (reach f (k' :: path) last).map fun last => .tables (last :: others)
    | some _ => none) es

/-- A table with a header of its own. -/
def openTable : List String → Nodes → Option Nodes := reach fun
  | none => some (.table .header [])
  | some (.table .implicit es) => some (.table .header es)
  | some _ => none

/-- One more table under a name that stands for several. -/
def openElement : List String → Nodes → Option Nodes := reach fun
  | none => some (.tables [[]])
  | some (.tables ts) => some (.tables ([] :: ts))
  | some _ => none

mutual

/-- What a node is once the text is read. -/
def Node.setting : Node → Setting
  | .value s => s
  | .table _ es => .table (settings es)
  | .tables ts => .list (tableSettings ts).reverse

/-- The entries of a table once the text is read. -/
def settings : Nodes → List (String × Setting)
  | [] => []
  | (k, n) :: es => (k, n.setting) :: settings es

/-- Several tables once the text is read. -/
def tableSettings : List Nodes → List Setting
  | [] => []
  | es :: ts => .table (settings es) :: tableSettings ts

end

end SqlRequest.Toml
