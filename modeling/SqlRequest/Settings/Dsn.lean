import SqlRequest.Error
import SqlRequest.Text.Blank

/-!
Data source names: a driver, a colon, and what the driver connects to. The only driver
is `sqlite`, which connects to a database in memory or in a file.
-/

namespace SqlRequest

/-- What to connect to. -/
inductive Dsn where
  | memory
  | file (path : String)
  deriving DecidableEq, Repr

namespace Dsn

/-- A character of the name of a driver: an ASCII letter, a digit or an underscore. -/
def inDriver (c : Char) : Bool := c.isAlphanum || c = '_'

/-- The driver and the target of a name. The driver is not empty, and the target is on
one line. -/
def split (cs : List Char) : Option (String × String) :=
  match cs.takeWhile inDriver, cs.dropWhile inDriver with
  | [], _ => none
  | driver, ':' :: target =>
    if '\n' ∈ target then none else some (String.ofList driver, String.ofList target)
  | _, _ => none

/-- What a name stands for. Blanks around it do not matter. -/
def ofText (s : String) : Except SetupFault Dsn :=
  match split (Text.trimChars s.toList) with
  | none => .error (.malformedDsn s)
  | some (driver, target) =>
    if driver ≠ "sqlite" then .error (.unsupportedDriver driver)
    else if target = "" then .error .missingTarget
    else if target = ":memory:" then .ok .memory
    else .ok (.file target)

end Dsn

end SqlRequest
