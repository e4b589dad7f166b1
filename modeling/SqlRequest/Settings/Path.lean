import SqlRequest.Decimal.Basic
import SqlRequest.Integer
import SqlRequest.Text.Parts

/-!
Paths in a tree of settings, as keys of sources give them: `connection.dsn` is the entry
`dsn` of the entry `connection`, and `hosts[0]` is the first item of the entry `hosts`.
-/

namespace SqlRequest.Setting

/-- A step from a setting to a part of it. -/
inductive Step where
  | entry (key : String)
  /-- An item of a list; below zero, items are counted from the end. -/
  | item (index : Int)
  deriving DecidableEq, Repr

namespace Step

/-- A character of a key in a path. -/
def inKey (c : Char) : Bool := c.isAlphanum || c = '_' || c = '-'

def isSpace (c : Char) : Bool := c = ' ' || c = '\t'

/-- The entry of a plain key. -/
def ofKey? (cs : List Char) : Option Step :=
  if !cs.isEmpty && cs.all inKey then some (.entry (String.ofList cs)) else none

/-- The whole number that digits with an optional minus sign denote, if it is an
integer. -/
def readIndex? (cs : List Char) : Option Int :=
  let (negative, digits) := match cs with
    | '-' :: ds => (true, ds)
    | ds => (false, ds)
  let n : Int := Decimal.digitsValue 0 digits
  let n := if negative then -n else n
  if !digits.isEmpty && digits.all Char.isDigit && Integer.fits n then some n else none

/-- The item of an index with the bracket that closes it, the opening one read. Blanks
around the index do not matter. -/
def ofIndex? (cs : List Char) : Option Step :=
  match (cs.dropWhile isSpace).reverse with
  | ']' :: before => (readIndex? (before.dropWhile isSpace).reverse).map item
  | _ => none

/-- The steps of what stands between two points: a plain key, and then indices. -/
def ofPart? (cs : List Char) : Option (List Step) :=
  match Text.parts '[' cs with
  | [] => none
  | key :: indices => do
    let first ← ofKey? key
    let others ← indices.mapM ofIndex?
    return first :: others

end Step

/-- The path that a key of a source stands for. A key that is not written like a path is
an entry as it is. -/
def pathOf (key : String) : List Step :=
  match (Text.parts '.' key.toList).mapM Step.ofPart? with
  | some steps => steps.flatten
  | none => [.entry key]

end SqlRequest.Setting
