import SqlRequest.Notebook.Statement
import SqlRequest.Truth

/-!
The notes of a notebook and what statements do to them. Notes are kept in the order of
their numbers, which are distinct. A statement that breaks a rule changes nothing.
-/

namespace SqlRequest.Notebook

/-- A row of the table. -/
structure Note where
  id : Int
  body : String
  tag : Option String
  deriving DecidableEq, Repr

/-- Why a statement changes nothing: it would break a constraint, or a number is
needed where none is given. -/
inductive Failure where
  | constraint
  | mismatch
  deriving DecidableEq, Repr

namespace Note

/-- A note as a row of the table. -/
def cell (n : Note) : Column → Cell
  | .noteId => .integer (Int64.ofInt n.id)
  | .body => .text n.body.toUTF8.toList
  | .tag =>
    match n.tag with
    | none => .null
    | some s => .text s.toUTF8.toList

end Note

/-- The whole number that a double is. The least and the greatest integer are left to
numbers that are exact. -/
def wholeOf? (x : Float) : Option Int :=
  let n := x.toInt64
  if n.toFloat == x ∧ Integer.least < n.toInt ∧ n.toInt < Integer.greatest then some n.toInt
  else none

/-- The integer that digits with a sign are. -/
def integerOf? (cs : List Char) : Option Int :=
  let (negative, ds) := Decimal.readSign cs
  let n : Int := Decimal.digitsValue 0 ds
  let n := if negative then -n else n
  if !ds.isEmpty && ds.all Char.isDigit && Integer.fits n then some n else none

/-- The whole number that a text is, blanks around it aside. Written as an integer it is
exact; else it is what the double of the text is. -/
def wholeOfText? (s : String) : Option Int :=
  let trimmed (cs : List Char) := cs.dropWhile Token.isBlank
  let cs := (trimmed (trimmed s.toList).reverse).reverse
  match integerOf? cs with
  | some n => some n
  | none => (Decimal.read cs).bind fun d => wholeOf? d.toFloatPaired

/-- The number that a cell gives a note; nothing, if it gives none. -/
def idOf : Cell → Except Failure (Option Int)
  | .null => .ok none
  | .integer n => .ok (some n.toInt)
  | .real x => numbered (wholeOf? x)
  | .text octets => numbered (wholeOfText? (Text.Utf8.read octets))
  | .blob _ => .error .mismatch
where
  numbered : Option Int → Except Failure (Option Int)
    | some n => .ok (some n)
    | none => .error .mismatch

/-- A cell as a column of texts keeps it. -/
def textOf (c : Cell) : Option String :=
  if c = .null then none else some (Value.ofCell c).form

/-- The number of a note that is given none: one more than the greatest. -/
def nextId (notes : List Note) : Int :=
  match notes.getLast? with
  | none => 1
  | some n => n.id + 1

/-- The notes with one more in its place. -/
def place (n : Note) : List Note → List Note
  | [] => [n]
  | m :: ms => if n.id < m.id then n :: m :: ms else m :: place n ms

/-- The notes with one more, if its number is not taken. -/
def add (n : Note) (notes : List Note) : Except Failure (List Note) :=
  if notes.any fun m => m.id = n.id then .error .constraint else .ok (place n notes)

/-- The first cell that is given for a column. -/
def firstGiven (cells : List (Column × Cell)) (c : Column) : Option Cell := cells.lookup c

/-- The last cell that is given for a column. -/
def lastGiven (cells : List (Column × Cell)) (c : Column) : Option Cell :=
  cells.reverse.lookup c

/-- The notes with a new one, and its number. Of cells for one column the first counts,
and for the number the last. -/
def insert (cells : List (Column × Cell)) (notes : List Note) :
    Except Failure (List Note × Int) := do
  let id? ← idOf ((lastGiven cells .noteId).getD .null)
  let id := id?.getD (nextId notes)
  match textOf ((firstGiven cells .body).getD .null) with
  | none => .error .constraint
  | some body =>
    let tag := textOf ((firstGiven cells .tag).getD .null)
    let notes ← add ⟨id, body, tag⟩ notes
    return (notes, id)

/-- Whether a column of a note equals a literal, neither of them null. Numbers are compared
as numbers, texts as texts. -/
def Note.equals (n : Note) (c : Column) (literal : Cell) : Bool :=
  match c with
  | .noteId =>
    match idOf literal with
    | .ok (some id) => n.id = id
    | _ => false
  | .body => textOf literal = some n.body
  | .tag => textOf literal = n.tag

/-- What a condition comes to for a note. An equation with null is unknown. -/
def Filter.truth (n : Note) : Filter → Truth
  | .equal c literal =>
    if n.cell c = .null ∨ literal = .null then .unknown
    else if n.equals c literal then .yes
    else .no
  | .not f => (f.truth n).not
  | .and f g => (f.truth n).and (g.truth n)
  | .or f g => (f.truth n).or (g.truth n)

/-- Whether a note is among the rows of a filter. -/
def accepts (f : Option Filter) (n : Note) : Bool :=
  match f with
  | none => true
  | some f => f.truth n = .yes

/-- A note with some of its columns written. Of cells for one column the last counts. -/
def change (cells : List (Column × Cell)) (n : Note) : Except Failure Note := do
  let id ← match lastGiven cells .noteId with
    | none => .ok n.id
    | some c =>
      match idOf c with
      | .ok (some id) => .ok id
      | .ok none => .error .mismatch
      | .error e => .error e
  let body ← match lastGiven cells .body with
    | none => .ok n.body
    | some c =>
      match textOf c with
      | some s => .ok s
      | none => .error .constraint
  let tag := match lastGiven cells .tag with
    | none => n.tag
    | some c => textOf c
  return ⟨id, body, tag⟩

/-- The notes with one of them changed. -/
def changeIn (cells : List (Column × Cell)) (notes : List Note) (n : Note) :
    Except Failure (List Note) := do
  let n' ← change cells n
  add n' (notes.filter fun m => m.id ≠ n.id)

/-- The notes with those among the rows of a filter changed, one after the other. -/
def update (cells : List (Column × Cell)) (f : Option Filter) (notes : List Note) :
    Except Failure (List Note) :=
  (notes.filter (accepts f)).foldlM (changeIn cells) notes

/-- The notes that are not among the rows of a filter. -/
def delete (f : Option Filter) (notes : List Note) : List Note :=
  notes.filter fun n => !accepts f n

/-- The rows of a select. -/
def select (columns : List Column) (f : Option Filter) (descending : Bool)
    (notes : List Note) : List (List Cell) :=
  let rows := (notes.filter (accepts f)).map fun n => columns.map n.cell
  if descending then rows.reverse else rows

end SqlRequest.Notebook
