import SqlRequest.Condition.Clause
import SqlRequest.Grouping
import SqlRequest.Join

/-!
Requests that read rows: `Select` for one row or one field of it, `SelectMany` for
all of them. Both name a table and may have conditions, joins and a grouping.
-/

namespace SqlRequest

/-- What a select of one row gives: the whole row, or one field of it. -/
inductive Field where
  | all
  | named (name : String)
  deriving DecidableEq, Repr

/-- An asterisk stands for all fields. -/
def Field.ofText (s : String) : Field := if s = "*" then .all else .named s

/-- A request for one row. With `debug` its statement is shown and not run. -/
structure Select where
  table : Ident
  field : Field := .all
  conditions : Conditions := .none
  joins : List Join := []
  grouping : Option Grouping := none
  debug : Bool := false
  deriving DecidableEq, Repr

/-- A request for all rows. With `debug` its statement is shown and not run. -/
structure SelectMany where
  table : Ident
  conditions : Conditions := .none
  joins : List Join := []
  grouping : Option Grouping := none
  orderBy : Option Fragment := none
  /-- Stand in the place of all columns of the table, if there are any. -/
  cols : List Ident := []
  debug : Bool := false
  deriving DecidableEq, Repr

/-! ### The statement -/

/-- What is selected: the columns asked for, or all of the table, and then the columns
that the grouping puts together. -/
def selectList (table : Ident) (cols : List Ident) (grouping : Option Grouping) : String :=
  let base :=
    if cols.isEmpty then table.text ++ ".*" else ", ".intercalate (cols.map Ident.text)
  match grouping with
  | none => base
  | some g => if g.groups.isEmpty then base else base ++ ", " ++ GroupConcat.columns g.groups

/-- The clause that groups the rows. -/
def groupByClause : Option Grouping → String
  | none => ""
  | some g => " GROUP BY " ++ g.identifier.text

/-- The clause that orders the rows; a blank order is none. -/
def orderByClause : Option Fragment → String
  | none => ""
  | some order => if order.blank then "" else " ORDER BY " ++ order.text

def Select.render (q : Quoter) (r : Select) : Except Error String := do
  let wherePart ← r.conditions.clause q r.table
  return "SELECT " ++ selectList r.table [] r.grouping ++ " FROM " ++ r.table.text ++
    Join.clauses r.joins ++ wherePart ++ groupByClause r.grouping ++ ";"

def SelectMany.render (q : Quoter) (r : SelectMany) : Except Error String := do
  let wherePart ← r.conditions.clause q r.table
  return "SELECT " ++ selectList r.table r.cols r.grouping ++ " FROM " ++ r.table.text ++
    Join.clauses r.joins ++ wherePart ++ groupByClause r.grouping ++
    orderByClause r.orderBy ++ ";"

/-! ### Building requests -/

namespace Select

/-- A request for a whole row of a table. -/
def of (table : Ident) : Select := { table }

def withField (r : Select) (field : Field) : Select := { r with field }

def withConditions (r : Select) (conditions : Conditions) : Select := { r with conditions }

def withJoin (r : Select) (join : Join) : Select := { r with joins := r.joins ++ [join] }

def withGrouping (r : Select) (grouping : Grouping) : Select :=
  { r with grouping := some grouping }

def debugged (r : Select) : Select := { r with debug := true }

end Select

namespace SelectMany

/-- A request for all rows of a table. -/
def of (table : Ident) : SelectMany := { table }

def withConditions (r : SelectMany) (conditions : Conditions) : SelectMany :=
  { r with conditions }

def withJoin (r : SelectMany) (join : Join) : SelectMany :=
  { r with joins := r.joins ++ [join] }

def withGrouping (r : SelectMany) (grouping : Grouping) : SelectMany :=
  { r with grouping := some grouping }

def withOrder (r : SelectMany) (order : Fragment) : SelectMany :=
  { r with orderBy := some order }

def withCol (r : SelectMany) (col : Ident) : SelectMany := { r with cols := r.cols ++ [col] }

def debugged (r : SelectMany) : SelectMany := { r with debug := true }

end SelectMany

end SqlRequest
