import SqlRequest.Decimal.Layout
import SqlRequest.Json.Basic
import SqlRequest.Text.Utf8

/-!
Values that travel into a statement and come back out of one, and their string
form, which is all that a statement shows of them.
-/

namespace SqlRequest

/-- A value without parts: in a condition, in a payload, or in a row. -/
inductive Value where
  | null
  | integer (n : Int64)
  | real (x : Float)
  | text (s : String)
  deriving DecidableEq, Repr, Inhabited

/-- A value as a database stores it. The octets of a text need not be UTF-8. -/
inductive Cell where
  | null
  | integer (n : Int64)
  | real (x : Float)
  | text (octets : List UInt8)
  | blob (octets : List UInt8)
  deriving DecidableEq, Repr

namespace Value

/-- The layout of doubles in a string form: of two equally near decimals the greater
one, never an exponent, and no point in a whole number. -/
def realLayout : Decimal.Layout := ⟨.up, fun _ => true, ""⟩

/-- The string form of a double. -/
def realForm (x : Float) : String :=
  if x.isNaN then "NaN"
  else if x.isInf then (if x < 0 then "-inf" else "inf")
  else Decimal.write realLayout x

/-- The string form of a value; null has the empty one. -/
def form : Value → String
  | .null => ""
  | .integer n => toString n
  | .real x => realForm x
  | .text s => s

def isNull : Value → Bool
  | .null => true
  | _ => false

/-- Truth values are the integers 1 and 0. -/
def ofBool (b : Bool) : Value := .integer (if b then 1 else 0)

/-- A value that may be absent. -/
def ofOption : Option Value → Value
  | none => .null
  | some v => v

/-- A value read from a database: octets become text. -/
def ofCell : Cell → Value
  | .null => .null
  | .integer n => .integer n
  | .real x => .real x
  | .text octets | .blob octets => .text (Text.Utf8.read octets)

/-- The value in JSON. Doubles that are no numbers become null. -/
def toJson : Value → Json
  | .null => .null
  | .integer n => .whole n.toInt
  | .real x => if x.isFinite then .scalar (.number (.real x)) else .null
  | .text s => .text s

@[simp] theorem form_null : form .null = "" := rfl

@[simp] theorem form_text (s : String) : form (.text s) = s := rfl

end Value

end SqlRequest
