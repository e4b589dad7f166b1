import SqlRequest.Decimal.Layout
import SqlRequest.Text.Shown

/-!
JSON values as a text gives them, up to the first place where the text goes wrong.

A text is read front to back, and what is wrong in it counts only when a reader
gets there: one who stops earlier never sees it, and one who skips a value
minds less than one who wants it. So a value that could not be finished is a
value too, with the fault in the place where it lies: as a leaf (`Json.fault`),
in the place of a key (`Key.fault`), or in the place of the bracket that should
close an array or an object (`Close.cut`).
-/

namespace SqlRequest

/-- What is wrong with a text: it ended too early, or it went on wrongly. -/
inductive Flaw where
  | ended
  | malformed
  deriving DecidableEq, Repr

/-- A fault within a value or a key: how it looks to a reader who wants the value, to
one who skips it, and to one who wants a name from a fixed list. -/
structure Fault where
  reading : Flaw
  skipping : Flaw
  choosing : Flaw
  deriving DecidableEq, Repr

/-- A fault that looks the same to everyone. -/
def Fault.of (f : Flaw) : Fault := ⟨f, f, f⟩

/-- A fault of a value that is no text. A reader who wants a name sees at its first
character that it is none. -/
def Fault.unquoted (reading skipping : Flaw) : Fault := ⟨reading, skipping, .malformed⟩

/-- A number: a whole one between `-2^63` and `2^64`, or a double. -/
inductive Number where
  | whole (n : Int)
  | real (x : Float)
  deriving DecidableEq, Repr

/-- A value without parts. Two scalars are well written and yet denote nothing: a
number beyond the doubles and a text with half of a surrogate pair. They can be
skipped but not read. -/
inductive Scalar where
  | null
  | bool (b : Bool)
  | number (n : Number)
  | text (s : String)
  | hugeNumber
  | brokenText
  deriving DecidableEq, Repr

/-- What a value turns out to be when something else is expected. -/
inductive Found where
  | null
  | bool (b : Bool)
  | number (n : Number)
  | text (s : String)
  | sequence
  | map
  deriving DecidableEq, Repr

/-- The key of a member. -/
inductive Key where
  | name (s : String)
  /-- A key with half of a surrogate pair in it. -/
  | brokenText
  | fault (f : Fault)
  deriving DecidableEq, Repr

/-- What stands after the last part of an array or an object: the bracket, or
something that is neither the bracket nor a comma. -/
inductive Close where
  | bracket
  | cut (f : Flaw)
  deriving DecidableEq, Repr

/-- A value of a JSON text. Members keep their order, and keys may be repeated. -/
inductive Json where
  | scalar (s : Scalar)
  | array (items : List Json) (close : Close)
  | object (members : List (Key × Json)) (close : Close)
  | fault (f : Fault)
  deriving Repr

namespace Json

def null : Json := .scalar .null

def bool (b : Bool) : Json := .scalar (.bool b)

def whole (n : Int) : Json := .scalar (.number (.whole n))

def text (s : String) : Json := .scalar (.text s)

/-- An array that is complete. -/
def list (items : List Json) : Json := .array items .bracket

/-- An object that is complete. -/
def record (members : List (String × Json)) : Json :=
  .object (members.map fun m => (.name m.1, m.2)) .bracket

/-- The layout of doubles in JSON: a tie goes to the even digit, powers of ten from
-5 to 15 are written with a point, and whole numbers end in `.0`. -/
def realLayout : Decimal.Layout := ⟨.even, fun p => -5 ≤ p && p ≤ 15, ".0"⟩

/-- The text of a double; there is none for infinities and for no number. -/
def realText? (x : Float) : Option String :=
  if x.isFinite then some (Decimal.write realLayout x) else none

end Json

/-- The words for what was found. Only finite doubles are ever found. -/
def Found.describe : Found → String
  | .null => "null"
  | .bool b => "boolean `" ++ (if b then "true" else "false") ++ "`"
  | .number (.whole n) => "integer `" ++ toString n ++ "`"
  | .number (.real x) => "floating point `" ++ Decimal.write Json.realLayout x ++ "`"
  | .text s => "string " ++ Text.shown s
  | .sequence => "sequence"
  | .map => "map"

end SqlRequest
