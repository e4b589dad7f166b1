import SqlRequest.Error
import SqlRequest.Value

/-!
Rows of a result. Columns and values belong together by position, so a row has as
many of the one as of the other.
-/

namespace SqlRequest

/-- A row of a result, its columns in the order of the select list. -/
structure Row where
  columns : List String
  values : List Value
  lengths : columns.length = values.length
  deriving DecidableEq, Repr

namespace Row

/-- A row of columns and values, if there are as many of both. -/
def of (columns : List String) (values : List Value) : Except Error Row :=
  if h : columns.length = values.length then .ok ⟨columns, values, h⟩
  else .error (.validation (.unevenRow columns.length values.length))

/-- The columns with their values, in order. -/
def cells (r : Row) : List (String × Value) := r.columns.zip r.values

/-- The value of the first column of a name. -/
def get? (r : Row) (column : String) : Option Value := r.cells.lookup column

def size (r : Row) : Nat := r.columns.length

def isEmpty (r : Row) : Bool := r.columns.isEmpty

/-- A row as an object, a member for each column. -/
def toJson (r : Row) : Json := .record (r.cells.map fun c => (c.1, c.2.toJson))

end Row

end SqlRequest
