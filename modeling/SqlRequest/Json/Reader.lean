import SqlRequest.Json.Token

/-!
Reading the tokens of a text as one value. The arrays and objects that are still
open form a stack; each token either completes a part, opens or closes an array or
an object, or does not fit. At the first token that does not fit, and at the end
of the text, everything open is closed around the fault.
-/

namespace SqlRequest

/-- A text as a value, and whether anything but blanks follows the value. -/
structure Document where
  root : Json
  trailing : Bool
  deriving Repr

namespace Json

/-- An array or an object that is open: the parts before the one that is being
read, the last one first, and the key of that one. -/
inductive Frame where
  | array (before : List Json)
  | object (before : List (Key × Json)) (key : Key)

/-- What may come next. -/
inductive Awaiting where
  /-- A value; `first` says that the array it is for may also end. -/
  | value (first : Bool)
  /-- A key after the given members; `first` says that the object may also end. -/
  | key (before : List (Key × Json)) (first : Bool)
  | colon (before : List (Key × Json)) (key : Key)
  /-- A comma or a bracket after the value. -/
  | after (v : Json)

/-- An open array or object with its last part and what closes it. -/
def Frame.close (f : Frame) (v : Json) (c : Close) : Json :=
  match f with
  | .array before => .array (v :: before).reverse c
  | .object before key => .object ((key, v) :: before).reverse c

/-- Everything open closed around a value that holds a fault. -/
def unwind (stack : List Frame) (v : Json) : Document :=
  ⟨stack.foldl (fun v f => f.close v (.cut .malformed)) v, false⟩

/-- A member whose key is missing, as the last one of an object. -/
def withBadKey (before : List (Key × Json)) (key : Key) (f : Flaw) : Json :=
  .object ((key, .fault (.of f)) :: before).reverse (.cut f)

/-- The value of the tokens that are left, in a state of reading. -/
def read : List Token → Awaiting → List Frame → Document
  | [], .value false, stack => unwind stack (.fault (.of .ended))
  | [], .value true, .array _ :: stack => unwind stack (.array [] (.cut .ended))
  | [], .value true, stack => unwind stack (.fault (.of .ended))
  | [], .key _ true, stack => unwind stack (.object [] (.cut .ended))
  | [], .key before false, stack =>
    unwind stack (withBadKey before (.fault (.of .ended)) .ended)
  | [], .colon before key, stack => unwind stack (withBadKey before key .ended)
  | [], .after v, [] => ⟨v, false⟩
  | [], .after v, f :: stack => unwind stack (f.close v (.cut .ended))
  | .scalar s :: ts, .value _, stack => read ts (.after (.scalar s)) stack
  | .openBracket :: ts, .value _, stack => read ts (.value true) (.array [] :: stack)
  | .openBrace :: ts, .value _, stack => read ts (.key [] true) stack
  | .closeBracket :: ts, .value true, .array _ :: stack => read ts (.after (.array [] .bracket)) stack
  | .fault _ f :: _, .value _, stack => unwind stack (.fault f)
  | _ :: _, .value _, stack => unwind stack (.fault (.of .malformed))
  | .closeBrace :: ts, .key _ true, stack => read ts (.after (.object [] .bracket)) stack
  | .scalar (.text s) :: ts, .key before _, stack => read ts (.colon before (.name s)) stack
  | .scalar .brokenText :: ts, .key before _, stack => read ts (.colon before .brokenText) stack
  | .fault true f :: _, .key before _, stack =>
    unwind stack (withBadKey before (.fault f) .malformed)
  | _ :: _, .key before _, stack =>
    unwind stack (withBadKey before (.fault (.of .malformed)) .malformed)
  | .colon :: ts, .colon before key, stack =>
    read ts (.value false) (.object before key :: stack)
  | _ :: _, .colon before key, stack => unwind stack (withBadKey before key .malformed)
  | _ :: _, .after v, [] => ⟨v, true⟩
  | .comma :: ts, .after v, .array before :: stack =>
    read ts (.value false) (.array (v :: before) :: stack)
  | .comma :: ts, .after v, .object before key :: stack =>
    read ts (.key ((key, v) :: before) false) stack
  | .closeBracket :: ts, .after v, .array before :: stack =>
    read ts (.after (Frame.close (.array before) v .bracket)) stack
  | .closeBrace :: ts, .after v, .object before key :: stack =>
    read ts (.after (Frame.close (.object before key) v .bracket)) stack
  | _ :: _, .after v, f :: stack => unwind stack (f.close v (.cut .malformed))

end Json

/-- The value of a text. -/
def Document.ofText (s : String) : Document :=
  Json.read (Token.list s.toList) (.value false) []

end SqlRequest
