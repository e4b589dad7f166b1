import SqlRequest.Decimal.Paired
import SqlRequest.Integer
import SqlRequest.Notebook.Token

/-!
The statements of a notebook, read from SQL. There are two kinds: selects of literals,
which need no table, and statements about the table `notes`, which has the columns
`noteId`, `body` and `tag`. Keywords and names may be written in any letter case.
-/

namespace SqlRequest.Notebook

/-- A column of the table. -/
inductive Column where
  | noteId
  | body
  | tag
  deriving DecidableEq, Repr

namespace Column

def all : List Column := [noteId, body, tag]

def name : Column → String
  | noteId => "noteId"
  | body => "body"
  | tag => "tag"

end Column

/-- A condition on rows: equations of a column with a literal, and what is put together of
them. -/
inductive Filter where
  | equal (column : Column) (literal : Cell)
  | not (f : Filter)
  | and (f g : Filter)
  | or (f g : Filter)
  deriving DecidableEq, Repr

inductive Statement where
  /-- Nothing but blanks, comments and semicolons. -/
  | nothing
  | literals (columns : List String) (rows : List (List Cell))
  /-- A select from the table: columns with their names in the result. -/
  | read (columns : List (String × Column)) (filter : Option Filter) (descending : Bool)
  | insert (cells : List (Column × Cell))
  | update (cells : List (Column × Cell)) (filter : Option Filter)
  | delete (filter : Option Filter)
  deriving DecidableEq, Repr

/-- Whether a statement is about the table. -/
def Statement.needsTable : Statement → Bool
  | .nothing | .literals _ _ => false
  | _ => true

/-! ### Reading statements -/

/-- Reads the start of some tokens, if it can. -/
abbrev Reader (α : Type) : Type := List Token → Option (α × List Token)

namespace Statement

/-- A name without regard to the case of ASCII letters. -/
def folded (s : String) : String := s.map Char.toLower

/-- Words that cannot be names unless they are in quotes. -/
def keywords : List String :=
  ["add", "all", "alter", "and", "as", "autoincrement", "between", "case", "check", "collate",
    "commit", "constraint", "create", "default", "deferrable", "delete", "distinct", "drop",
    "else", "escape", "except", "exists", "foreign", "from", "group", "having", "in", "index",
    "insert", "intersect", "into", "is", "isnull", "join", "limit", "not", "nothing", "notnull",
    "null", "on", "or", "order", "primary", "references", "returning", "select", "set", "table",
    "then", "to", "transaction", "union", "unique", "update", "using", "values", "when", "where"]

/-- Words that mean something else after an expression, so that they cannot name it
without `AS`. -/
def operators : List String :=
  ["cross", "full", "glob", "indexed", "inner", "left", "like", "match", "natural", "outer",
    "regexp", "right"]

def keyword (k : String) : Reader Unit
  | .word w :: ts => if folded w = k then some ((), ts) else none
  | _ => none

def mark (c : Char) : Reader Unit
  | .mark d :: ts => if d = c then some ((), ts) else none
  | _ => none

/-- A name, in quotes or not. -/
def name : Reader String
  | .word w :: ts => if folded w ∈ keywords then none else some (w, ts)
  | .name s :: ts => some (s, ts)
  | _ => none

/-- Digits without the underscores among them, each of which has to stand between two
digits; `after` says that the text follows a digit. -/
def withoutUnderscores? (isDigit : Char → Bool) (after : Bool) : List Char → Option (List Char)
  | [] => some []
  | c :: cs =>
    if c = '_' then
      if after && (cs.head?.map isDigit).getD false then withoutUnderscores? isDigit false cs
      else none
    else (withoutUnderscores? isDigit (isDigit c) cs).map (c :: ·)

/-- The word of 64 bits that hexadecimal digits denote, as an integer. The least integer
has no opposite. -/
def hexCell (negative : Bool) (digits : List Char) : Option Cell := do
  let digits ← withoutUnderscores? Text.isHexDigit false digits
  let n ← Text.hexNumber? 0 digits
  if Integer.greatestWord < n then none
  else
    let i := Int64.ofNat n
    if !negative then return .integer i
    else if i.toInt = Integer.least then none
    else return .integer (-i)

/-- A decimal number as the database stores it: a whole one if it fits, and else a
double. -/
def decimalCell (negative : Bool) (cs : List Char) : Option Cell := do
  let cs ← withoutUnderscores? Char.isDigit false cs
  let digits : Int := Decimal.digitsValue 0 cs
  let n := if negative then -digits else digits
  if cs.all Char.isDigit ∧ Integer.fits n then return .integer (Int64.ofInt n)
  else
    let d ← Decimal.read cs
    return .real { d with negative }.toFloatPaired

/-- The number that is written with or without a sign. -/
def numberCell (written : String) : Option Cell :=
  let (negative, cs) := Decimal.readSign written.toList
  match cs.dropWhile Token.isSpace with
  | '0' :: 'x' :: ds | '0' :: 'X' :: ds => hexCell negative ds
  | ds => decimalCell negative ds

/-- A literal, and how it is written. -/
def literal : Reader (Cell × String)
  | .number s :: ts => (numberCell s).map fun c => ((c, s), ts)
  | .text s :: ts => some ((.text s.toUTF8.toList, quoteLiteral s), ts)
  | .blob s octets :: ts => some ((.blob octets, s), ts)
  | .word w :: ts => if folded w = "null" then some ((.null, w), ts) else none
  | _ => none

/-- The name that a column of a result is given, if it is given one. -/
def aliasName (ts : List Token) : Option (Option String × List Token) :=
  match keyword "as" ts with
  | some (_, .text s :: ts) => some (some s, ts)
  | some (_, ts) => (name ts).map fun p => (some p.1, p.2)
  | none =>
    match ts with
    | .text s :: ts => some (some s, ts)
    | .word w :: rest =>
      if folded w ∈ keywords ∨ folded w ∈ operators then some (none, ts) else some (some w, rest)
    | .name s :: ts => some (some s, ts)
    | ts => some (none, ts)

/-- A column of a select of literals. -/
def literalColumn : Reader (String × Cell) := fun ts => do
  let ((cell, written), ts) ← literal ts
  let (given, ts) ← aliasName ts
  return ((given.getD written, cell), ts)

/-- One or more of something, with something between; as many as the given number. -/
def listBy {α : Type} (between : Reader Unit) (item : Reader α) : Nat → Reader (List α)
  | 0, _ => none
  | fuel + 1, ts => do
    let (a, ts) ← item ts
    match between ts with
    | none => return ([a], ts)
    | some (_, ts) =>
      let (as, ts) ← listBy between item fuel ts
      return (a :: as, ts)

/-- One or more of something, with commas between. -/
def separated {α : Type} (item : Reader α) : Reader (List α) := fun ts =>
  listBy (mark ',') item ts.length ts

/-- The double of the longest number that octets begin with, blanks before it aside; zero
if they begin with none. -/
def leadingReal (octets : List UInt8) : Float :=
  let cs := (Text.Utf8.read octets).toList.dropWhile Token.isBlank
  let lengths := (List.range (cs.length + 1)).reverse
  (lengths.findSome? fun n => Decimal.read (cs.take n)).elim 0 Decimal.toFloatPaired

/-- Whether a literal in a `WHERE` clause counts as true. -/
def holds : Cell → Bool
  | .null => false
  | .integer n => n != 0
  | .real x => x != 0
  | .text octets | .blob octets => leadingReal octets != 0

/-- One select of literals: its columns, and its row unless it is filtered out. -/
def literalSelect : Reader (List (String × Cell) × Bool) := fun ts => do
  let (_, ts) ← keyword "select" ts
  let (columns, ts) ← separated literalColumn ts
  match keyword "where" ts with
  | none => return ((columns, true), ts)
  | some (_, ts) =>
    let ((cell, _), ts) ← literal ts
    return ((columns, holds cell), ts)

/-- Selects of literals put together, all with as many columns as the first. -/
def literalSelects : Nat → Reader (List (List (String × Cell) × Bool))
  | 0, _ => none
  | fuel + 1, ts => do
    let (first, ts) ← literalSelect ts
    match keyword "union" ts with
    | none => return ([first], ts)
    | some (_, ts) =>
      let (_, ts) ← keyword "all" ts
      let (others, ts) ← literalSelects fuel ts
      if others.all fun o => o.1.length = first.1.length then return (first :: others, ts)
      else none

/-- Selects of literals. The first one names the columns. -/
def literalStatement : Reader Statement := fun ts => do
  let (selects, ts) ← literalSelects ts.length ts
  let columns := match selects with
    | [] => []
    | first :: _ => first.1.map Prod.fst
  let rows := (selects.filter Prod.snd).map fun s => s.1.map Prod.snd
  return (.literals columns rows, ts)

/-- A name that has to be a certain one. -/
def named (expected : String) : Reader Unit := fun ts => do
  let (s, ts) ← name ts
  if folded s = expected then return ((), ts) else none

/-- The name of the table, with or without that of the database in front. -/
def table : Reader Unit := fun ts =>
  match named "main" ts with
  | some (_, .mark '.' :: ts) => named "notes" ts
  | _ => named "notes" ts

/-- The column of a name. The number of a row has three more names. -/
def columnOf? (s : String) : Option Column :=
  if folded s ∈ ["rowid", "oid", "_rowid_"] then some .noteId
  else Column.all.find? fun c => folded c.name = folded s

/-- A column by its name. -/
def plainColumn : Reader Column := fun ts => do
  let (s, ts) ← name ts
  let c ← columnOf? s
  return (c, ts)

/-- A column, with or without the table in front. -/
def column : Reader Column := fun ts =>
  match table ts with
  | some (_, .mark '.' :: ts) => plainColumn ts
  | _ => plainColumn ts

/-- All columns under their own names. -/
def allColumns : List (String × Column) := Column.all.map fun c => (c.name, c)

/-- What is selected: one column, or all of them. -/
def selected : Reader (List (String × Column)) := fun ts =>
  match mark '*' ts with
  | some (_, ts) => some (allColumns, ts)
  | none =>
    match named "notes" ts with
    | some (_, .mark '.' :: .mark '*' :: ts) => some (allColumns, ts)
    | _ => do
      let (c, ts) ← column ts
      let (given, ts) ← aliasName ts
      return ([(given.getD c.name, c)], ts)

/-- An equation of a column with a literal. -/
def equation : Reader Filter := fun ts => do
  let (c, ts) ← column ts
  let (_, ts) ← mark '=' ts
  let ((cell, _), ts) ← literal ts
  return (.equal c cell, ts)

/-- Conditions with a word between, which says how they are put together. -/
def joined (word : String) (join : Filter → Filter → Filter) (item : Reader Filter) :
    Reader Filter := fun ts => do
  let (fs, ts) ← listBy (keyword word) item ts.length ts
  match fs with
  | [] => none
  | f :: fs => return (fs.foldl join f, ts)

/-- Operands between `AND`s, and these between `OR`s. -/
def disjunction (operand : Reader Filter) : Reader Filter :=
  joined "or" .or (joined "and" .and operand)

/-- An equation or a condition in parentheses, with any number of `NOT`s before it; as many
steps inwards as the given number. -/
def operand : Nat → Reader Filter
  | 0, _ => none
  | fuel + 1, ts =>
    match keyword "not" ts with
    | some (_, ts) => (operand fuel ts).map fun p => (.not p.1, p.2)
    | none =>
      match mark '(' ts with
      | none => equation ts
      | some (_, ts) => do
        let (f, ts) ← disjunction (operand fuel) ts
        let (_, ts) ← mark ')' ts
        return (f, ts)

/-- A `WHERE` clause, if there is one. -/
def filter : Reader (Option Filter) := fun ts =>
  match keyword "where" ts with
  | none => some (none, ts)
  | some (_, ts) => do
    let (f, ts) ← disjunction (operand ts.length) ts
    return (some f, ts)

/-- Whether the rows are ordered from the last one to the first. -/
def order : Reader Bool := fun ts =>
  match keyword "order" ts with
  | none => some (false, ts)
  | some (_, ts) => do
    let (_, ts) ← keyword "by" ts
    let (c, ts) ← column ts
    if c ≠ .noteId then none
    else match keyword "desc" ts with
      | some (_, ts) => return (true, ts)
      | none => return (false, ((keyword "asc" ts).map Prod.snd).getD ts)

def readStatement : Reader Statement := fun ts => do
  let (_, ts) ← keyword "select" ts
  let (columns, ts) ← separated selected ts
  let (_, ts) ← keyword "from" ts
  let (_, ts) ← table ts
  let (f, ts) ← filter ts
  let (descending, ts) ← order ts
  return (.read columns.flatten f descending, ts)

def insertStatement : Reader Statement := fun ts => do
  let (_, ts) ← keyword "insert" ts
  let (_, ts) ← keyword "into" ts
  let (_, ts) ← table ts
  let (_, ts) ← mark '(' ts
  let (columns, ts) ← separated plainColumn ts
  let (_, ts) ← mark ')' ts
  let (_, ts) ← keyword "values" ts
  let (_, ts) ← mark '(' ts
  let (cells, ts) ← separated literal ts
  let (_, ts) ← mark ')' ts
  if columns.length = cells.length then
    return (.insert (columns.zip (cells.map Prod.fst)), ts)
  else none

/-- A column and the literal it is set to. -/
def setting : Reader (Column × Cell) := fun ts => do
  let (c, ts) ← plainColumn ts
  let (_, ts) ← mark '=' ts
  let ((cell, _), ts) ← literal ts
  return ((c, cell), ts)

def updateStatement : Reader Statement := fun ts => do
  let (_, ts) ← keyword "update" ts
  let (_, ts) ← table ts
  let (_, ts) ← keyword "set" ts
  let (cells, ts) ← separated setting ts
  let (f, ts) ← filter ts
  return (.update cells f, ts)

def deleteStatement : Reader Statement := fun ts => do
  let (_, ts) ← keyword "delete" ts
  let (_, ts) ← keyword "from" ts
  let (_, ts) ← table ts
  let (f, ts) ← filter ts
  return (.delete f, ts)

/-- What may follow a statement. -/
def isEnd (ts : List Token) : Bool := ts.all fun t => t = .mark ';'

/-- The statement of a text. There is none if the text is malformed, names another
table or an unknown column, or goes on after the statement. Semicolons may stand before
it. -/
def ofText? (s : String) : Option Statement :=
  let ts := (Token.list s).dropWhile (· = .mark ';')
  if ts.isEmpty then some .nothing
  else do
    let (statement, rest) ←
      literalStatement ts <|> readStatement ts <|> insertStatement ts <|> updateStatement ts <|>
        deleteStatement ts
    if isEnd rest then return statement else none

end Statement

end SqlRequest.Notebook
