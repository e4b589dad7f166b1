import SqlRequest.OrderedMap
import SqlRequest.Row
import SqlRequest.Text.LowerCase

/-!
Folding of rows into records. A join with many partners gives several rows for what
is one record. Rows belong to one record if they have the same value in the key
column. A field of a record starts with the first value of its column; every later
value that is not contained in what has been collected, whatever the case of the
letters, is added after a comma.
-/

namespace SqlRequest

/-- The fields of a record with what has been collected for each. -/
abbrev Record : Type := OrderedMap String String

/-- Records under the string forms of their keys, in the order in which they came up. -/
abbrev Records : Type := OrderedMap String Record

namespace Text

/-- Whether some characters stand one after the other among others. -/
def occursIn (needle : List Char) : List Char → Bool
  | [] => needle.isEmpty
  | c :: cs => needle.isPrefixOf (c :: cs) || occursIn needle cs

/-- Whether a text contains another. -/
def contains (s needle : String) : Bool := occursIn needle.toList s.toList

end Text

/-- The first column with the letters `Id` in its name. -/
def keyColumn? (columns : List String) : Option String :=
  columns.find? fun name => Text.contains name "Id"

/-- Whether a value is already contained in what has been collected, whatever the
case of the letters. -/
def collected (sofar new : String) : Bool := Text.contains (Text.lower sofar) (Text.lower new)

/-- What has been collected for a field, and one more value. -/
def collect (new : String) : Option String → String
  | none => new
  | some sofar => if collected sofar new then sofar else sofar ++ "," ++ new

/-- Where a row belongs: the string form of its first key column. -/
def Row.address (key : Option String) (r : Row) : String :=
  match key with
  | none => ""
  | some k =>
    match r.get? k with
    | none => ""
    | some v => v.form

/-- A record and one more row. -/
def Record.add (record : Record) (r : Row) : Record :=
  r.cells.foldl (fun record c => record.alter c.1 (collect c.2.form)) record

namespace Records

/-- Records and one more row, which goes where it belongs. -/
def add (key : Option String) (records : Records) (r : Row) : Records :=
  records.alter (r.address key) fun record => Record.add (record.getD .empty) r

/-- The records of some rows; none at all, if there are no rows. The first row decides
what the key column is. -/
def ofRows : List Row → Option Records
  | [] => none
  | r :: rs => some ((r :: rs).foldl (add (keyColumn? r.columns)) .empty)

/-- Records as an object of objects. -/
def toJson (records : Records) : Json :=
  .record <| records.entries.map fun e =>
    (e.1, .record (e.2.entries.map fun field => (field.1, .text field.2)))

end Records

end SqlRequest
