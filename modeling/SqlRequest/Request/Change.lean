import SqlRequest.Condition.Clause
import SqlRequest.OrderedMap

/-!
Requests that change rows: `Update`, `Insert` and `Delete`. What an update or an
insert writes is a payload: names of columns with their values, the last value for
each, in the order in which the names first came up.
-/

namespace SqlRequest

/-- The columns that a request writes, with their values. -/
abbrev Payload : Type := OrderedMap Ident Value

/-- A request to change rows. With `debug` its statement is shown and not run. -/
structure Update where
  table : Ident
  values : Payload := .empty
  conditions : Conditions := .none
  debug : Bool := false
  deriving DecidableEq

/-- A request to add a row. With `debug` its statement is shown and not run. -/
structure Insert where
  table : Ident
  values : Payload := .empty
  debug : Bool := false
  deriving DecidableEq

/-- A request to remove rows. With `debug` its statement is shown and not run. -/
structure Delete where
  table : Ident
  conditions : Conditions
  debug : Bool := false
  deriving DecidableEq, Repr

/-! ### The statement -/

/-- Whether an update writes a value: null is written, the empty text is left out. -/
def Value.assigned (v : Value) : Bool := v.isNull || v.form != ""

/-- A column with the literal it is set to. -/
def assignment (q : Quoter) (column : Ident) (v : Value) : String :=
  column.backticked ++ " = " ++ q.literal v

/-- What an update sets, in the order of its payload. -/
def Update.assignments (q : Quoter) (r : Update) : List String :=
  (r.values.entries.filter fun e => e.2.assigned).map fun e => assignment q e.1 e.2

def Update.render (q : Quoter) (r : Update) : Except Error String := do
  let wherePart ← r.conditions.clause q r.table
  return "UPDATE " ++ r.table.text ++ " SET " ++ ", ".intercalate (r.assignments q) ++
    wherePart ++ ";"

/-- Inserts have no conditions, so there always is a statement. -/
def Insert.render (q : Quoter) (r : Insert) : String :=
  "INSERT INTO " ++ r.table.text ++ " (" ++
    ", ".intercalate (r.values.entries.map fun e => e.1.backticked) ++ ") VALUES (" ++
    ", ".intercalate (r.values.entries.map fun e => q.literal e.2) ++ ");"

def Delete.render (q : Quoter) (r : Delete) : Except Error String := do
  let wherePart ← r.conditions.clause q r.table
  return "DELETE FROM " ++ r.table.text ++ wherePart ++ ";"

/-! ### Building requests -/

namespace Update

/-- An update that sets nothing yet. -/
def of (table : Ident) : Update := { table }

def set (r : Update) (column : Ident) (v : Value) : Update :=
  { r with values := r.values.insert column v }

def withConditions (r : Update) (conditions : Conditions) : Update := { r with conditions }

def debugged (r : Update) : Update := { r with debug := true }

end Update

namespace Insert

/-- An insert of a row without values. -/
def of (table : Ident) : Insert := { table }

def set (r : Insert) (column : Ident) (v : Value) : Insert :=
  { r with values := r.values.insert column v }

def debugged (r : Insert) : Insert := { r with debug := true }

end Insert

namespace Delete

def of (table : Ident) (conditions : Conditions) : Delete := { table, conditions }

def debugged (r : Delete) : Delete := { r with debug := true }

end Delete

end SqlRequest
