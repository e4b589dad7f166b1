import SqlRequest.Ident

/-!
Grouped rows: one row for each value of a column, with the distinct values of other
columns put together.
-/

namespace SqlRequest

/-- A column whose distinct values are put together under another name. -/
structure GroupConcat where
  source : Ident
  name : Ident
  deriving DecidableEq, Repr

/-- One row for each value of the identifier. -/
structure Grouping where
  identifier : Ident
  groups : List GroupConcat := []
  deriving DecidableEq, Repr

namespace Grouping

def of (identifier : Ident) : Grouping := { identifier }

/-- One more column put together. -/
def concat (g : Grouping) (source name : Ident) : Grouping :=
  { g with groups := g.groups ++ [⟨source, name⟩] }

end Grouping

/-- The column in a select list. -/
def GroupConcat.column (g : GroupConcat) : String :=
  "GROUP_CONCAT(DISTINCT " ++ g.source.text ++ ") AS " ++ g.name.text

/-- The columns in a select list, between commas. -/
def GroupConcat.columns (groups : List GroupConcat) : String :=
  ", ".intercalate (groups.map column)

end SqlRequest
