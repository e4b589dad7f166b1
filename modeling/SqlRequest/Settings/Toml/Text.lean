import SqlRequest.Text.Hex

/-!
The characters of a TOML text: blanks, comments, line ends, and texts in quotes. Texts
between double quotes have escapes and those between apostrophes have none; both may
stand on one line or, between three quotes, on many.
-/

namespace SqlRequest.Toml

/-- Reads the start of a text, if it can. -/
abbrev Reader (α : Type) : Type := List Char → Option (α × List Char)

/-! ### Blanks, comments and line ends -/

def isSpace (c : Char) : Bool := c = ' ' || c = '\t'

def skipSpace (cs : List Char) : List Char := cs.dropWhile isSpace

/-- A character that may stand in a comment or in a text on one line. -/
def printable (c : Char) : Bool := c = '\t' || (0x20 ≤ c.toNat && c.toNat ≠ 0x7f)

/-- A line end, if one stands first. -/
def lineEnd? : List Char → Option (List Char)
  | '\n' :: cs => some cs
  | '\r' :: '\n' :: cs => some cs
  | _ => none

/-- What follows a comment, if one stands first. It ends before the line end. -/
def skipComment : List Char → List Char
  | '#' :: cs => cs.dropWhile printable
  | cs => cs

/-- The end of a line: blanks, a comment, and a line end or the end of the text. -/
def endLine (cs : List Char) : Option (List Char) :=
  match skipComment (skipSpace cs) with
  | [] => some []
  | cs => lineEnd? cs

/-- What follows blanks, comments and line ends. -/
def skipLines : Nat → List Char → List Char
  | 0, cs => cs
  | fuel + 1, cs =>
    match lineEnd? (skipComment (skipSpace cs)) with
    | some rest => skipLines fuel rest
    | none => skipComment (skipSpace cs)

/-! ### Texts -/

/-- A character by its number in so many hexadecimal digits. -/
def codePoint (digits : Nat) : Reader Char := fun cs => do
  if cs.length < digits then none
  let n ← Text.hexNumber? 0 (cs.take digits)
  if n.isValidChar then return (Char.ofNat n, cs.drop digits) else none

/-- The character of an escape, its backslash read. -/
def escape : Reader Char
  | 'b' :: cs => some ('\x08', cs)
  | 't' :: cs => some ('\t', cs)
  | 'n' :: cs => some ('\n', cs)
  | 'f' :: cs => some ('\x0c', cs)
  | 'r' :: cs => some ('\r', cs)
  | 'e' :: cs => some ('\x1b', cs)
  | '"' :: cs => some ('"', cs)
  | '\\' :: cs => some ('\\', cs)
  | 'x' :: cs => codePoint 2 cs
  | 'u' :: cs => codePoint 4 cs
  | 'U' :: cs => codePoint 8 cs
  | _ => none

/-- A text between double quotes on one line, the opening quote read. -/
def basicText : Nat → Reader (List Char)
  | 0, _ => none
  | _, [] => none
  | _, '"' :: cs => some ([], cs)
  | fuel + 1, '\\' :: cs => do
    let (c, cs) ← escape cs
    let (rest, cs) ← basicText fuel cs
    return (c :: rest, cs)
  | fuel + 1, c :: cs =>
    if printable c then (basicText fuel cs).map fun p => (c :: p.1, p.2) else none

/-- A text between apostrophes on one line, the opening one read. -/
def literalText : Reader (List Char)
  | [] => none
  | '\'' :: cs => some ([], cs)
  | c :: cs => if printable c then (literalText cs).map fun p => (c :: p.1, p.2) else none

/-- The end of a text on many lines, its three closing marks read: up to two more marks
belong to the text. -/
def closeLong (mark : Char) : List Char → List Char × List Char
  | a :: b :: cs =>
    if a = mark then if b = mark then ([mark, mark], cs) else ([mark], b :: cs)
    else ([], a :: b :: cs)
  | [a] => if a = mark then ([mark], []) else ([], [a])
  | [] => ([], [])

/-- What follows a backslash at the end of a line: the next character that is no blank
and no line end. -/
def skipFold : Nat → List Char → List Char
  | 0, cs => cs
  | fuel + 1, cs =>
    match lineEnd? (skipSpace cs) with
    | some rest => skipFold fuel rest
    | none => skipSpace cs

/-- A text on many lines, its three opening marks and a line end after them read. Only
texts between double quotes have escapes. -/
def longText (mark : Char) (escapes : Bool) : Nat → Reader (List Char)
  | 0, _ => none
  | _, [] => none
  | fuel + 1, c :: cs =>
    if c = mark ∧ cs.take 2 = [mark, mark] then some (closeLong mark (cs.drop 2))
    else if c = '\\' ∧ escapes then
      match lineEnd? (skipSpace cs) with
      | some rest => longText mark escapes fuel (skipFold rest.length rest)
      | none => do
        let (e, cs) ← escape cs
        let (rest, cs) ← longText mark escapes fuel cs
        return (e :: rest, cs)
    else match lineEnd? (c :: cs) with
      | some rest => (longText mark escapes fuel rest).map fun p =>
          ((c :: cs).take ((c :: cs).length - rest.length) ++ p.1, p.2)
      | none =>
        if printable c then (longText mark escapes fuel cs).map fun p => (c :: p.1, p.2)
        else none

/-- What follows a line end, if one stands first. -/
def dropLineEnd (cs : List Char) : List Char := (lineEnd? cs).getD cs

/-- A text of any kind. -/
def quoted : Reader (List Char)
  | '"' :: '"' :: '"' :: cs =>
    let cs := dropLineEnd cs
    longText '"' true (cs.length + 1) cs
  | '\'' :: '\'' :: '\'' :: cs =>
    let cs := dropLineEnd cs
    longText '\'' false (cs.length + 1) cs
  | '"' :: cs => basicText (cs.length + 1) cs
  | '\'' :: cs => literalText cs
  | _ => none

end SqlRequest.Toml
