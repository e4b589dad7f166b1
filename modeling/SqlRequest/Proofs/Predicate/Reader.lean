import Mathlib.Data.List.DropRight
import Mathlib.Data.List.SplitBy
import SqlRequest.Notebook.Token
import SqlRequest.Proofs.Predicate.Truth
import SqlRequest.Proofs.Quotation.Scan

/-!
A reader of predicates that knows the precedence of SQL and nothing of how conditions are
written: parentheses first, then `NOT` before a parenthesis, then `AND`, then `OR`.

* `lexemes`: the words of a text, as long as they can be, and its other pieces;
* `Predicate.tokensFrom`: parentheses and connectives; what stands between two of these is
  the text of one comparison, without the blanks around it;
* `Predicate.step`: the reader itself, token by token, with what stands before each open
  parenthesis on a stack;
* `Predicate.ofText`: a text as a predicate, if it is one.
-/

namespace SqlRequest

/-! ### Lexemes -/

namespace Piece

/-- A character that a word may have in it. Quotations are no part of a word. -/
def inWord : Piece → Bool
  | .bare c => Notebook.Token.inName c
  | _ => false

def isSpace : Piece → Bool
  | .bare c => Notebook.Token.isSpace c
  | _ => false

/-- A letter as a capital. -/
def capital : Piece → Piece
  | .bare c => .bare c.toUpper
  | p => p

end Piece

/-- Words as long as they can be, and all other pieces one by one. -/
def lexemes (ps : List Piece) : List (List Piece) := ps.splitBy fun p q => p.inWord && q.inWord

/-- A lexeme is a word, in any letter case. -/
def spells (word : String) (l : List Piece) : Bool := l.map Piece.capital = Piece.bares word

/-! ### Tokens -/

namespace Predicate

inductive Token where
  | opening
  | closing
  | not
  | and
  | or
  /-- All that stands between two others. -/
  | text (s : String)
  deriving DecidableEq, Repr

/-- The token of a lexeme, but for `NOT`, which depends on what follows. Other lexemes
belong to a comparison. -/
def Token.ofLexeme? (l : List Piece) : Option Token :=
  if l = Piece.bares "(" then some .opening
  else if l = Piece.bares ")" then some .closing
  else if spells "AND" l then some .and
  else if spells "OR" l then some .or
  else none

/-- Whether a parenthesis opens after some blanks. -/
def opensNext (ls : List (List Piece)) : Bool :=
  (ls.dropWhile fun l => l.all Piece.isSpace).head? = some (Piece.bares "(")

/-- Characters without the blanks around them. -/
def unspaced (cs : List Char) : List Char :=
  (cs.dropWhile Notebook.Token.isSpace).rdropWhile Notebook.Token.isSpace

/-- The text of a comparison, which is not blank. -/
def Token.ofPending (ps : List Piece) : List Token :=
  let cs := unspaced (ps.flatMap Piece.write)
  if cs = [] then [] else [.text (String.ofList cs)]

/-- The tokens of some lexemes after the pieces of a comparison that has begun. -/
def tokensFrom : List Piece → List (List Piece) → List Token
  | pending, [] => Token.ofPending pending
  | pending, l :: ls =>
    if spells "NOT" l && opensNext ls then Token.ofPending pending ++ .not :: tokensFrom [] ls
    else match Token.ofLexeme? l with
      | some t => Token.ofPending pending ++ t :: tokensFrom [] ls
      | none => tokensFrom (pending ++ l) ls

def tokens (ps : List Piece) : List Token := tokensFrom [] (lexemes ps)

/-! ### Trees -/

/-- What stands before an operand within the same parentheses: the terms between `OR`s that
are complete, the factors between `AND`s of the term that is not, and whether there is a
`NOT` at once before the operand. -/
structure Frame where
  terms : Option Predicate := none
  factors : Option Predicate := none
  negated : Bool := false
  deriving DecidableEq, Repr

/-- The term that an operand completes. -/
def Frame.term (f : Frame) (p : Predicate) : Predicate :=
  joined .and f.factors (if f.negated then .not p else p)

/-- How far a text has been read: up to an operand, or up to what may follow one. What
stands before the parentheses that are open is kept, the innermost first. -/
inductive Reading where
  | operand (frame : Frame) (outer : List Frame)
  | operator (terms : Option Predicate) (term : Predicate) (outer : List Frame)
  deriving DecidableEq, Repr

/-- One token is read. -/
def step : Reading → Token → Option Reading
  | .operand f outer, .text s => some (.operator f.terms (f.term (.atom s)) outer)
  | .operand f outer, .opening => some (.operand {} (f :: outer))
  | .operand f outer, .not =>
    if f.negated then none else some (.operand { f with negated := true } outer)
  | .operator terms term outer, .and => some (.operand ⟨terms, some term, false⟩ outer)
  | .operator terms term outer, .or =>
    some (.operand ⟨some (joined .or terms term), none, false⟩ outer)
  | .operator terms term (f :: outer), .closing =>
    some (.operator f.terms (f.term (joined .or terms term)) outer)
  | _, _ => none

/-- The predicate that has been read, if no parenthesis is open. -/
def Reading.result? : Reading → Option Predicate
  | .operator terms term [] => some (joined .or terms term)
  | _ => none

/-- The predicate of some tokens. -/
def ofTokens (ts : List Token) : Option Predicate := do
  let r ← ts.foldlM step (.operand {} [])
  r.result?

/-- `a OR b AND NOT (c OR d)`. -/
example :
    ofTokens [.text "a", .or, .text "b", .and, .not, .opening, .text "c", .or, .text "d",
      .closing] = some (.or (.atom "a") (.and (.atom "b") (.not (.or (.atom "c") (.atom "d"))))) :=
  rfl

/-- The predicate of a text. -/
def ofText (s : String) : Option Predicate := do
  let ps ← scan s.toList
  ofTokens (tokens ps)

end Predicate

end SqlRequest
