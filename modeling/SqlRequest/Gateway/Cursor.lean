import SqlRequest.Row

/-!
Collecting the rows of a result. A database hands them out one by one through a
cursor, which may fail on the way; what is not asked for is never reached.
-/

namespace SqlRequest

/-- A result that is read row by row: the cells of each row, and what the database
reports in the place of a further row, if the rows end in a failure. -/
structure Cursor where
  columns : List String
  rows : List (List Cell)
  failure : Option String := none

namespace Cursor

/-- A cursor without rows. -/
def empty : Cursor where
  columns := []
  rows := []

/-- A cursor that fails before its first row. -/
def failing (message : String) : Cursor := { empty with failure := some message }

/-- The value at a position of a row. -/
def valueAt (cells : List Cell) (i : Nat) : Except Error Value :=
  match cells[i]? with
  | some cell => .ok (.ofCell cell)
  | none => .error (.execution ("Invalid column index: " ++ toString i))

/-- A row that is handed out, read column by column. -/
def readRow (columns : List String) (cells : List Cell) : Except Error Row := do
  let values ← (List.range columns.length).mapM (valueAt cells)
  Row.of columns values

/-- The rows collected so far and those from here on, up to the limit. It is looked at after
a row is added, so the next row is taken however low it is. -/
def collectFrom (columns : List String) (failure : Option String) (limit : Option Nat)
    (collected : Array Row) : List (List Cell) → Except Error (Array Row)
  | [] =>
    match failure with
    | none => .ok collected
    | some message => .error (.execution message)
  | cells :: rest => do
    let row ← readRow columns cells
    let collected := collected.push row
    if limit.any (· ≤ collected.size) then return collected
    else collectFrom columns failure limit collected rest

/-- The rows in order, at most as many as the limit says but at least one. -/
def collect (c : Cursor) (limit : Option Nat) : Except Error (List Row) :=
  (collectFrom c.columns c.failure limit #[] c.rows).map Array.toList

/-- All rows. -/
def fetchAll (c : Cursor) : Except Error (List Row) := c.collect none

/-- The first row. -/
def fetchOne (c : Cursor) : Except Error (Option Row) := (c.collect (some 1)).map List.head?

end Cursor

end SqlRequest
