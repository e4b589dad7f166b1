import SqlRequest.Text.Blank

/-!
Trusted text of statements. Names of tables and columns, aliases, and fragments
such as an `ON` clause stand in a statement as they are: to make one is to say
that its text is trusted. Values never travel this way.
-/

namespace SqlRequest

/-- The name of a table, a column or an alias, with or without dots. -/
structure Ident where
  text : String
  deriving DecidableEq, Repr, Inhabited

/-- A piece of SQL: a join condition, an order, a predicate, a whole statement. -/
structure Fragment where
  text : String
  deriving DecidableEq, Repr, Inhabited

/-- A fragment with nothing but blanks in it. -/
def Fragment.blank (f : Fragment) : Bool := Text.blank f.text

end SqlRequest
