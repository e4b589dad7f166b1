/-!
Three-valued truth, as it is in SQL: a comparison with null is neither true nor false. The
connectives are those of Kleene's strong logic.
-/

namespace SqlRequest

/-- What a condition on a row comes to. -/
inductive Truth where
  | no
  | unknown
  | yes
  deriving DecidableEq, Repr

namespace Truth

def not : Truth → Truth
  | .no => .yes
  | .unknown => .unknown
  | .yes => .no

/-- The lesser of two, where no is less than unknown and unknown less than yes. -/
def and : Truth → Truth → Truth
  | .no, _ | _, .no => .no
  | .yes, t | t, .yes => t
  | .unknown, .unknown => .unknown

/-- The greater of two. -/
def or : Truth → Truth → Truth
  | .yes, _ | _, .yes => .yes
  | .no, t | t, .no => t
  | .unknown, .unknown => .unknown

end Truth

end SqlRequest
