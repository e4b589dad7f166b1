import SqlRequest.Json.Basic
import SqlRequest.Text.Hex

/-!
Texts between double quotes in JSON: reading one (`Quoted.read`) and writing one
(`Quoted.write`). Reading stops at the first thing that makes the rest of the
text unusable. Half of a surrogate pair does not: the text can still be skipped.
-/

namespace SqlRequest.Quoted

/-- The flaw of an escape with too few hexadecimal digits: four octets are looked
at, and if so many are left they hold something else. -/
def shortFlaw (cs : List Char) : Flaw :=
  if 4 ≤ (String.ofList cs).utf8ByteSize then .malformed else .ended

/-- The first half of a surrogate pair. -/
def isLeading (n : Nat) : Bool := 0xd800 ≤ n && n ≤ 0xdbff

/-- The second half of a surrogate pair. -/
def isTrailing (n : Nat) : Bool := 0xdc00 ≤ n && n ≤ 0xdfff

/-- The character of a surrogate pair. -/
def pairChar (n m : Nat) : Char := Char.ofNat (0x10000 + (n - 0xd800) * 1024 + (m - 0xdc00))

/-- The character of a short escape. -/
def escaped? : Char → Option Char
  | '"' => some '"'
  | '\\' => some '\\'
  | '/' => some '/'
  | 'b' => some '\x08'
  | 'f' => some '\x0c'
  | 'n' => some '\n'
  | 'r' => some '\r'
  | 't' => some '\t'
  | _ => none

/-- What reading a text gives: its characters and the rest after the closing quote,
or a flaw. The characters are missing if the text denotes none. -/
inductive Reading where
  | closed (chars : Option (List Char)) (rest : List Char)
  | broken (f : Fault)
  deriving DecidableEq, Repr

/-- A character before the ones that are read next. -/
def Reading.push (c : Char) : Reading → Reading
  | .closed chars rest => .closed (chars.map (c :: ·)) rest
  | .broken f => .broken f

/-- Half of a surrogate pair, if there is one, before what is read next. -/
def Reading.spoil (half : Option Nat) (r : Reading) : Reading :=
  match half, r with
  | none, r => r
  | some _, .closed _ rest => .closed none rest
  | some _, .broken f => .broken ⟨.malformed, f.skipping, .malformed⟩

/-- The characters up to the closing quote. The first half of a surrogate pair that
was just read waits for the second half, which has to follow at once; a fault in
the escape that may be the second half lies in that escape. -/
def read : Option Nat → List Char → Reading
  | _, [] => .broken (.of .ended)
  | half, '"' :: cs => (Reading.closed (some []) cs).spoil half
  | half, '\\' :: 'u' :: a :: b :: c :: d :: cs =>
    match Text.hexNumber? 0 [a, b, c, d] with
    | none => .broken (.of .malformed)
    | some n =>
      match half, isTrailing n with
      | some m, true => (read none cs).push (pairChar m n)
      | none, true => (read none cs).spoil (some n)
      | half, false =>
        if isLeading n then (read (some n) cs).spoil half
        else ((read none cs).push (Char.ofNat n)).spoil half
  | _, '\\' :: 'u' :: cs => .broken (.of (shortFlaw cs))
  | _, ['\\'] => .broken (.of .ended)
  | half, '\\' :: c :: cs =>
    match escaped? c with
    | none => (Reading.broken (.of .malformed)).spoil half
    | some c => ((read none cs).push c).spoil half
  | half, c :: cs =>
    if c.toNat < 0x20 then (Reading.broken (.of .malformed)).spoil half
    else ((read none cs).push c).spoil half

/-- What is left to read after a text. -/
def Reading.rest : Reading → List Char
  | .closed _ rest => rest
  | .broken _ => []

@[simp] theorem Reading.rest_closed (chars : Option (List Char)) (rest : List Char) :
    (Reading.closed chars rest).rest = rest := rfl

@[simp] theorem Reading.rest_broken (f : Fault) : (Reading.broken f).rest = [] := rfl

@[simp] theorem Reading.rest_push (c : Char) (r : Reading) : (r.push c).rest = r.rest := by
  cases r <;> rfl

@[simp] theorem Reading.rest_spoil (half : Option Nat) (r : Reading) :
    (r.spoil half).rest = r.rest := by
  cases half <;> cases r <;> rfl

/-- Reading a text leaves a shorter one. -/
theorem read_rest_length (half : Option Nat) (cs : List Char) :
    (read half cs).rest.length ≤ cs.length := by
  fun_induction read half cs <;> simp_all <;> omega

/-- One character of a written text: quotes, backslashes and controls are escaped. -/
def writeChar (c : Char) : List Char :=
  if c = '"' then ['\\', '"']
  else if c = '\\' then ['\\', '\\']
  else if c = '\x08' then ['\\', 'b']
  else if c = '\t' then ['\\', 't']
  else if c = '\n' then ['\\', 'n']
  else if c = '\x0c' then ['\\', 'f']
  else if c = '\r' then ['\\', 'r']
  else if c.toNat < 0x20 then
    ['\\', 'u', '0', '0', Nat.digitChar (c.toNat / 16), Nat.digitChar (c.toNat % 16)]
  else [c]

/-- A text between double quotes. -/
def write (cs : List Char) : List Char := '"' :: cs.flatMap writeChar ++ ['"']

end SqlRequest.Quoted
