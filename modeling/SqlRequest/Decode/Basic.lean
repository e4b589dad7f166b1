import SqlRequest.Error
import SqlRequest.Integer
import SqlRequest.Json.Flaws
import SqlRequest.Json.Reader
import SqlRequest.Value

/-!
Decoding of values that need no knowledge of requests: texts, truth values,
optional values, lists, members, names from a fixed list, and the values of payloads.
The parts of a value are decoded in the order of the text, so that the first thing
wrong with it is the one reported.
-/

namespace SqlRequest

/-- A way to decode a JSON value. -/
abbrev Decoder (α : Type) : Type := Json → Except DecodeFault α

namespace Decode

variable {α : Type}

/-- A part that is fine if it has no flaw. -/
def unflawed : Option Flaw → Except DecodeFault Unit
  | none => .ok ()
  | some f => .error (.flaw f)

/-- What a value turns out to be. A scalar is read for that, an array or an object is
not looked into. -/
def found : Decoder Found
  | .scalar .null => .ok .null
  | .scalar (.bool b) => .ok (.bool b)
  | .scalar (.number n) => .ok (.number n)
  | .scalar (.text s) => .ok (.text s)
  | .scalar .hugeNumber | .scalar .brokenText => .error (.flaw .malformed)
  | .array _ _ => .ok .sequence
  | .object _ _ => .ok .map
  | .fault f => .error (.flaw f.reading)

/-- A value that is not the expected one. -/
def mismatch (expected : String) : Decoder α := fun j => do
  let f ← found j
  .error (.wrongType f expected)

def text : Decoder String
  | .scalar (.text s) => .ok s
  | j => mismatch "a string" j

def bool : Decoder Bool
  | .scalar (.bool b) => .ok b
  | j => mismatch "a boolean" j

/-- Null stands for nothing. -/
def optional (d : Decoder α) : Decoder (Option α)
  | .scalar .null => .ok none
  | j => (d j).map some

/-- The items of an array, one after the other. -/
def items (d : Decoder α) : List Json → Except DecodeFault (List α)
  | [] => .ok []
  | j :: js => do
    let a ← d j
    let as ← items d js
    return a :: as

def list (d : Decoder α) : Decoder (List α)
  | .array js close => do
    let as ← items d js
    unflawed close.flaw?
    return as
  | j => mismatch "a sequence" j

/-- The key of a member. -/
def key (k : Key) : Except DecodeFault String := k.read.mapError .flaw

/-- The members of an object, one after the other. -/
def members (d : Decoder α) : List (Key × Json) → Except DecodeFault (List (String × α))
  | [] => .ok []
  | (k, j) :: ms => do
    let name ← key k
    let a ← d j
    let as ← members d ms
    return (name, a) :: as

/-- What a name from a fixed list stands for. -/
def choice (known : List (String × α)) (name : String) : Except DecodeFault α :=
  match known.lookup name with
  | some a => .ok a
  | none => .error (.unknownVariant name (known.map Prod.fst))

def unit : Decoder Unit
  | .scalar .null => .ok ()
  | j => mismatch "unit" j

/-- The end of an object with one member. -/
def onlyMember : List (Key × Json) → Close → Except DecodeFault Unit
  | [], close => unflawed close.flaw?
  | _ :: _, _ => .error (.flaw .malformed)

/-- A name from a fixed list: a text, or an object in which the name is the only key
and has the value null. -/
def variant (known : List (String × α)) : Decoder α
  | .scalar (.text s) => choice known s
  | .object ((k, j) :: ms) close => do
    let name ← key k
    let a ← choice known name
    unit j
    onlyMember ms close
    return a
  | .object [] (.cut f) => .error (.flaw f)
  | .fault f => .error (.flaw f.choosing)
  | _ => .error (.flaw .malformed)

/-- A value of a payload or a condition. A whole number that is too great for an
integer is kept as the text of its digits. -/
def value : Decoder Value
  | .scalar .null => .ok .null
  | .scalar (.bool b) => .ok (.ofBool b)
  | .scalar (.number (.whole n)) =>
    .ok (if Integer.fits n then .integer (Int64.ofInt n) else .text (toString n))
  | .scalar (.number (.real x)) => .ok (.real x)
  | .scalar (.text s) => .ok (.text s)
  | j => mismatch "a string, number, boolean or null" j

/-- A value of a text, which holds nothing else. -/
def document (d : Decoder α) (doc : Document) : Except DecodeFault α := do
  let a ← d doc.root
  if doc.trailing then .error (.flaw .malformed) else return a

/-- A value decoded from a text. -/
def ofText (d : Decoder α) (s : String) : Except Error α :=
  (document d (.ofText s)).mapError .decode

end Decode

end SqlRequest
