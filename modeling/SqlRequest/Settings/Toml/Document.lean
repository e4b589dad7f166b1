import SqlRequest.Settings.Toml.Plain
import SqlRequest.Settings.Toml.Tree

/-!
Settings in TOML. A text is a list of lines: keys with values, and headers that say which
table the keys after them belong to. A value may have parts, which are values again.
-/

namespace SqlRequest.Toml

/-! ### Keys -/

/-- One part of a key. -/
def keyPart : Reader String
  | '"' :: cs => (basicText (cs.length + 1) cs).map fun p => (String.ofList p.1, p.2)
  | '\'' :: cs => (literalText cs).map fun p => (String.ofList p.1, p.2)
  | cs =>
    let word := cs.takeWhile Setting.Step.inKey
    if word.isEmpty then none else some (String.ofList word, cs.dropWhile Setting.Step.inKey)

/-- At most as many parts as the given number, with points between them. Blanks around
parts do not matter. -/
def keyParts : Nat → Reader (List String)
  | 0, _ => none
  | room + 1, cs => do
    let (part, rest) ← keyPart (skipSpace cs)
    match skipSpace rest with
    | '.' :: rest => (keyParts room rest).map fun p => (part :: p.1, p.2)
    | rest => return ([part], rest)

/-- The greatest number of parts of a key. -/
def longestKey : Nat := 80

/-- A key. -/
def key : Reader (List String) := keyParts longestKey

/-! ### Values with parts -/

/-- The greatest number of lists and tables in one another. -/
def deepest : Nat := 80

mutual

/-- A value, in which lists and tables may be nested up to a number of levels. -/
def value : Nat → Nat → Reader Setting
  | 0, _, _ => none
  | fuel + 1, room, cs =>
    match cs, room with
    | '[' :: _, 0 | '\x7b' :: _, 0 => none
    | '[' :: rest, room + 1 => (listItems fuel room rest).map fun p => (.list p.1, p.2)
    | '\x7b' :: rest, room + 1 =>
      (inlineTable fuel room [] rest).map fun p => (.table (settings p.1), p.2)
    | '"' :: _, _ | '\'' :: _, _ =>
      (quoted cs).map fun p => (.text (String.ofList p.1), p.2)
    | _, _ => plain cs

/-- The items of a list up to its closing bracket, the opening one or a comma read. -/
def listItems : Nat → Nat → Reader (List Setting)
  | 0, _, _ => none
  | fuel + 1, room, cs =>
    match skipLines cs.length cs with
    | ']' :: rest => some ([], rest)
    | cs => do
      let (v, rest) ← value fuel room cs
      match skipLines rest.length rest with
      | ',' :: rest => (listItems fuel room rest).map fun p => (v :: p.1, p.2)
      | ']' :: rest => return ([v], rest)
      | _ => none

/-- The entries of a table on one line or more up to its closing brace, the opening one
or a comma read. -/
def inlineTable : Nat → Nat → Nodes → Reader Nodes
  | 0, _, _, _ => none
  | fuel + 1, room, es, cs =>
    match skipLines cs.length cs with
    | '\x7d' :: rest => some (es, rest)
    | cs => do
      let (path, rest) ← key cs
      let (_, rest) ← mark '=' rest
      let (v, rest) ← value fuel room (skipSpace rest)
      let es ← define path v es
      match skipLines rest.length rest with
      | ',' :: rest => inlineTable fuel room es rest
      | '\x7d' :: rest => return (es, rest)
      | _ => none

end

/-! ### Documents -/

/-- What has been read: the outermost table, and the path of the table that keys belong
to. -/
structure Progress where
  root : Nodes := []
  current : List String := []

/-- A line that is not blank: a header, or a key with a value. -/
def line (p : Progress) : Reader Progress
  | '[' :: '[' :: cs => do
    let (path, rest) ← key cs
    let (_, rest) ← mark ']' rest
    let (_, rest) ← mark ']' rest
    let root ← openElement path p.root
    return (⟨root, path⟩, rest)
  | '[' :: cs => do
    let (path, rest) ← key cs
    let (_, rest) ← mark ']' rest
    let root ← openTable path p.root
    return (⟨root, path⟩, rest)
  | cs => do
    let (path, rest) ← key cs
    let (_, rest) ← mark '=' rest
    let (v, rest) ← value (rest.length + 1) deepest (skipSpace rest)
    let root ← within (define path v) p.current p.root
    return (⟨root, p.current⟩, rest)

/-- The lines of a text. -/
def lines : Nat → Progress → List Char → Option Progress
  | 0, _, _ => none
  | fuel + 1, p, cs =>
    match endLine cs with
    | some [] => some p
    | some rest => lines fuel p rest
    | none => do
      let (p, rest) ← line p (skipSpace cs)
      let rest ← endLine rest
      lines fuel p rest

/-- The entries of the outermost table of a text; a byte order mark may stand first. -/
def read? (s : String) : Option (List (String × Setting)) :=
  let cs := match s.toList with
    | '\ufeff' :: cs => cs
    | cs => cs
  (lines (cs.length + 1) {} cs).map fun p => settings p.root

end SqlRequest.Toml
