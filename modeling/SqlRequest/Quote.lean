import SqlRequest.Ident
import SqlRequest.Value

/-!
Quoting. A text is enclosed in a mark, and the mark is doubled inside: that is how
a literal is quoted with apostrophes, and a name with backticks. Every value that
ends up in a statement passes through a `Quoter`.
-/

namespace SqlRequest

/-- Characters between two marks, every mark among them doubled. -/
def encloseChars (mark : Char) (cs : List Char) : List Char :=
  mark :: cs.flatMap (fun c => if c = mark then [mark, mark] else [c]) ++ [mark]

/-- A text between two marks, every mark in it doubled. -/
def enclose (mark : Char) (s : String) : String := String.ofList (encloseChars mark s.toList)

/-- What stands before the mark that closes an enclosed text, the opening mark read,
and what follows that mark. A doubled mark stands for one and closes nothing. There
is nothing to read if no mark closes. -/
def readEnclosed (mark : Char) : List Char → Option (List Char × List Char)
  | [] => none
  | [c] => if c = mark then some ([], []) else none
  | c :: d :: cs =>
    if c = mark then
      if d = mark then (readEnclosed mark cs).map fun p => (mark :: p.1, p.2)
      else some ([], d :: cs)
    else (readEnclosed mark (d :: cs)).map fun p => (c :: p.1, p.2)

/-- Reading an enclosed text leaves a shorter one. -/
theorem readEnclosed_length {mark : Char} {cs : List Char} {p : List Char × List Char}
    (h : readEnclosed mark cs = some p) : p.2.length < cs.length := by
  fun_induction readEnclosed mark cs generalizing p with
  | case1 => simp at h
  | case2 | case5 =>
    simp only [Option.some.injEq] at h
    subst h
    simp
  | case3 => simp at h
  | case4 _ ih | case6 _ _ _ _ ih =>
    obtain ⟨q, hq, rfl⟩ := Option.map_eq_some_iff.1 h
    have := ih hq
    simp only [List.length_cons] at *
    omega

/-- A text as a literal of SQL. -/
def quoteLiteral (s : String) : String := enclose '\'' s

/-- A text as a quoted name. -/
def backtick (s : String) : String := enclose '\x60' s

/-- A name as a quoted one. -/
def Ident.backticked (i : Ident) : String := backtick i.text

/-- How a connection writes a text as a literal. -/
structure Quoter where
  quote : String → String

namespace Quoter

/-- The literals of standard SQL. -/
def standard : Quoter := ⟨quoteLiteral⟩

/-- Literals between double quotes, with a backslash before each backslash and each
double quote. -/
def escaping : Quoter where
  quote s := String.ofList <|
    '"' :: s.toList.flatMap (fun c => if c = '\\' ∨ c = '"' then ['\\', c] else [c]) ++ ['"']

/-- Literals between angle brackets, with nothing escaped. -/
def bracketing : Quoter where
  quote s := "<" ++ s ++ ">"

/-- A value as a literal: the word `NULL`, or the quoted string form. -/
def literal (q : Quoter) : Value → String
  | .null => "NULL"
  | v => q.quote v.form

@[simp] theorem literal_null (q : Quoter) : q.literal .null = "NULL" := rfl

theorem literal_of_ne_null (q : Quoter) {v : Value} (h : v.isNull = false) :
    q.literal v = q.quote v.form := by
  cases v <;> simp_all [literal, Value.isNull]

end Quoter

theorem toList_enclose (mark : Char) (s : String) :
    (enclose mark s).toList = encloseChars mark s.toList := by
  simp [enclose]

end SqlRequest
