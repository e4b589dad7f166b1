import SqlRequest.Json.Numeral
import SqlRequest.Json.Quoted

/-!
The tokens of a JSON text. Blanks between tokens are dropped. A fault ends the
list: what stands behind it is not looked at.
-/

namespace SqlRequest

/-- A token of a JSON text. -/
inductive Token where
  | openBracket
  | closeBracket
  | openBrace
  | closeBrace
  | comma
  | colon
  | scalar (s : Scalar)
  /-- A scalar that could not be finished, or a character that begins no token;
  `quoted` says that it began with a quote. -/
  | fault (quoted : Bool) (f : Fault)
  deriving DecidableEq, Repr

namespace Token

/-- A blank between tokens. -/
def isSpace (c : Char) : Bool := c = ' ' || c = '\t' || c = '\n' || c = '\r'

/-- What is left after the characters of a word. -/
def dropWord : List Char → List Char → Except Flaw (List Char)
  | [], cs => .ok cs
  | _ :: _, [] => .error .ended
  | w :: ws, c :: cs => if c = w then dropWord ws cs else .error .malformed

/-- A word that stands for a scalar. -/
def ofWord (s : Scalar) (word cs : List Char) : Token × List Char :=
  match dropWord word cs with
  | .ok rest => (.scalar s, rest)
  | .error f => (.fault false (.unquoted f f), [])

/-- A text, its opening quote read. -/
def ofQuoted (cs : List Char) : Token × List Char :=
  match Quoted.read none cs with
  | .closed (some chars) rest => (.scalar (.text (String.ofList chars)), rest)
  | .closed none rest => (.scalar .brokenText, rest)
  | .broken f => (.fault true f, [])

/-- A number, its minus sign read. -/
def ofNumeral (negative : Bool) (cs : List Char) : Token × List Char :=
  match Numeral.read negative cs with
  | .ok (l, rest) => (.scalar l.value, rest)
  | .error f => (.fault false f, [])

/-- The token that begins with the character `c`, and the text after it. -/
def next (c : Char) (cs : List Char) : Token × List Char :=
  match c with
  | '[' => (.openBracket, cs)
  | ']' => (.closeBracket, cs)
  | '\x7b' => (.openBrace, cs)
  | '\x7d' => (.closeBrace, cs)
  | ',' => (.comma, cs)
  | ':' => (.colon, cs)
  | '"' => ofQuoted cs
  | '-' => ofNumeral true cs
  | 'n' => ofWord .null ['u', 'l', 'l'] cs
  | 't' => ofWord (.bool true) ['r', 'u', 'e'] cs
  | 'f' => ofWord (.bool false) ['a', 'l', 's', 'e'] cs
  | c => if c.isDigit then ofNumeral false (c :: cs) else (.fault false (.of .malformed), [])

/-! ### A token takes at least one character -/

theorem dropWord_length {ws cs rest : List Char} (h : dropWord ws cs = .ok rest) :
    rest.length ≤ cs.length := by
  fun_induction dropWord ws cs <;> (simp_all; try omega)

theorem ofWord_length (s : Scalar) (ws cs : List Char) :
    (ofWord s ws cs).2.length ≤ cs.length := by
  unfold ofWord
  split
  · next h => exact dropWord_length h
  · simp

theorem ofQuoted_length (cs : List Char) : (ofQuoted cs).2.length ≤ cs.length := by
  have := Quoted.read_rest_length none cs
  unfold ofQuoted
  split <;> simp_all [Quoted.Reading.rest]

theorem ofNumeral_length (negative : Bool) (cs : List Char) :
    (ofNumeral negative cs).2.length ≤ (cs.dropWhile Char.isDigit).length := by
  unfold ofNumeral
  split
  · next h => exact Numeral.read_length h
  · simp

theorem next_length (c : Char) (cs : List Char) : (next c cs).2.length ≤ cs.length := by
  have hd := Numeral.dropDigits_length cs
  unfold next
  split
  case h_7 => exact ofQuoted_length cs
  case h_8 => exact Nat.le_trans (ofNumeral_length true cs) hd
  case h_9 | h_10 | h_11 => exact ofWord_length _ _ cs
  case h_12 =>
    split
    · next h =>
      refine Nat.le_trans (ofNumeral_length false _) ?_
      rwa [List.dropWhile_cons_of_pos h]
    · simp
  all_goals exact Nat.le_refl _

/-- The tokens of a text, in order. -/
def list : List Char → List Token
  | [] => []
  | c :: cs => if isSpace c then list cs else (next c cs).1 :: list (next c cs).2
termination_by cs => cs.length
decreasing_by
  · simp
  · have := next_length c cs
    simp only [List.length_cons]
    omega

end Token

end SqlRequest
