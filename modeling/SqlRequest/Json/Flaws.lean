import SqlRequest.Json.Basic

/-!
The first thing wrong with a value, for one who reads it as a whole and for one who
skips it. A reader stops at scalars that denote nothing and at values nested too
deep; one who skips minds neither.
-/

namespace SqlRequest

/-- The flaw of a scalar that denotes nothing. -/
def Scalar.flaw? : Scalar → Option Flaw
  | .hugeNumber | .brokenText => some .malformed
  | _ => none

/-- The flaw of a closing bracket that is missing. -/
def Close.flaw? : Close → Option Flaw
  | .bracket => none
  | .cut f => some f

/-- What a key is to one who reads it: its text, or a flaw. -/
def Key.read : Key → Except Flaw String
  | .name s => .ok s
  | .brokenText => .error .malformed
  | .fault f => .error f.reading

/-- The flaw of a key to one who skips it. -/
def Key.skipFlaw? : Key → Option Flaw
  | .name _ | .brokenText => none
  | .fault f => some f.skipping

namespace Json

mutual

/-- The first flaw to one who reads a value as a whole, where arrays and objects may
be nested in it up to a number of levels. -/
def readFlaw? : Nat → Json → Option Flaw
  | _, .scalar s => s.flaw?
  | _, .fault f => some f.reading
  | 0, .array _ _ => some .malformed
  | 0, .object _ _ => some .malformed
  | room + 1, .array items close => readFlawItems? room items <|> close.flaw?
  | room + 1, .object members close => readFlawMembers? room members <|> close.flaw?

/-- The first flaw among items. -/
def readFlawItems? : Nat → List Json → Option Flaw
  | _, [] => none
  | room, v :: vs => readFlaw? room v <|> readFlawItems? room vs

/-- The first flaw among members. -/
def readFlawMembers? : Nat → List (Key × Json) → Option Flaw
  | _, [] => none
  | room, (key, v) :: ms =>
    match key.read with
    | .error f => some f
    | .ok _ => readFlaw? room v <|> readFlawMembers? room ms

end

mutual

/-- The first flaw to one who skips a value. -/
def skipFlaw? : Json → Option Flaw
  | .scalar _ => none
  | .fault f => some f.skipping
  | .array items close => skipFlawItems? items <|> close.flaw?
  | .object members close => skipFlawMembers? members <|> close.flaw?

/-- The first flaw among items. -/
def skipFlawItems? : List Json → Option Flaw
  | [] => none
  | v :: vs => skipFlaw? v <|> skipFlawItems? vs

/-- The first flaw among members. -/
def skipFlawMembers? : List (Key × Json) → Option Flaw
  | [] => none
  | (key, v) :: ms => key.skipFlaw? <|> skipFlaw? v <|> skipFlawMembers? ms

end

end Json

end SqlRequest
