import SqlRequest.Ident

/-!
Joined tables. A join without a table or without its condition is kept in a request
and adds nothing to the statement.
-/

namespace SqlRequest

/-- A table joined to the left. -/
structure Join where
  table : Option Ident := none
  on : Option Fragment := none
  deriving DecidableEq, Repr

namespace Join

def left (table : Ident) (on : Fragment) : Join := ⟨some table, some on⟩

/-- The clause of one join, with a blank in front. -/
def clause : Join → String
  | ⟨some table, some on⟩ => " LEFT JOIN " ++ table.text ++ " ON " ++ on.text
  | _ => ""

/-- The clauses of all joins, in order. -/
def clauses (joins : List Join) : String := String.join (joins.map clause)

end Join

end SqlRequest
