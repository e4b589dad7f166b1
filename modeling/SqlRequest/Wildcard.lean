import SqlRequest.Value

/-!
Where the percent signs of a `LIKE` pattern stand around a value.
-/

namespace SqlRequest

/-- The sides of a value that match anything. -/
inductive Wildcard where
  | none
  | before
  | after
  | both
  deriving DecidableEq, Repr, Inhabited

namespace Wildcard

/-- A text with the percent signs around it. -/
def surround (w : Wildcard) (s : String) : String :=
  match w with
  | .none => s
  | .before => "%" ++ s
  | .after => s ++ "%"
  | .both => "%" ++ s ++ "%"

/-- The pattern for a value. Null has the empty pattern whatever the sides are. -/
def expand (w : Wildcard) (v : Value) : String :=
  if v.isNull then "" else w.surround v.form

/-- The name of the sides in requests. -/
def name : Wildcard → String
  | .none => "none"
  | .before => "before"
  | .after => "after"
  | .both => "both"

end Wildcard

end SqlRequest
