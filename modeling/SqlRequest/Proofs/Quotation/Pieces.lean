import Mathlib.Data.List.ReduceOption
import SqlRequest.Proofs.Condition.Chain
import SqlRequest.Proofs.Quotation.Scan
import SqlRequest.Proofs.Request

/-!
The pieces of a statement whose literals are those of standard SQL. If no trusted
text has a mark in it, the statement is read as exactly the pieces that its parts
stand for, whatever the names and the values are.

* `Atom.reads`, `Condition.reads`, `Conditions.reads_clause`: a comparison, a
  predicate, and the `WHERE` clause after a text that has been read.
* `Request.reads`: the whole statement of a request.
-/

namespace SqlRequest

/-! ### Predicates -/

/-- The pieces of a value: the word `NULL`, or a literal. -/
def Piece.ofShown : Option String → List Piece
  | none => bares "NULL"
  | some s => [.literal s]

def Atom.pieces (a : Atom) : List Piece :=
  Piece.bares a.table.text ++ Piece.bares "." ++ [.name a.field.text] ++ Piece.bares " " ++
    Piece.bares a.operator ++ Piece.bares " " ++ Piece.ofShown a.value

/-- The pieces of a predicate. -/
def Condition.pieces (ambient : Ident) : Condition → List Piece
  | .comparison c => (c.atom ambient).pieces
  | .fallback f =>
    Piece.bares "((" ++ (f.test.testAtom ambient).pieces ++ Piece.bares " AND " ++
      (f.yes.outcomeAtom ambient).pieces ++ Piece.bares ") OR (NOT(" ++
      (f.test.testAtom ambient).pieces ++ Piece.bares ") AND " ++
      (f.no.outcomeAtom ambient).pieces ++ Piece.bares "))"

lemma reads_shown (v : Option String) : Reads (Quoter.standard.shown v) (Piece.ofShown v) := by
  cases v with
  | none => exact (Unmarked.opens (by decide)).reads
  | some s => exact reads_quoteLiteral s

/-- An atom is read as its pieces, the field and the value being any text. -/
lemma Atom.reads {a : Atom} (h : Unmarked a.table.text ∧ Unmarked a.operator) :
    Reads (a.render .standard) a.pieces := by
  have hfield : Reads (a.table.text ++ "." ++ a.field.backticked) _ :=
    (h.1.opens.bare (by decide)).append (reads_backtick a.field.text)
  have hoperator := (hfield.bare (t := " ") (by decide) (by decide)).bare h.2
  exact (hoperator.bare (by decide)).append (reads_shown a.value)

/-- A predicate is read as its pieces. -/
lemma Condition.reads {ambient : Ident} {c : Condition} (ha : Unmarked ambient.text)
    (h : ∀ t ∈ c.trusted, Unmarked t) :
    Reads (c.render .standard ambient) (c.pieces ambient) := by
  have hatoms := atoms_of (by decide) (by decide) ha h
  cases c with
  | comparison c =>
      rw [render, Comparison.render_eq]
      exact Atom.reads (hatoms _ (by simp [atoms]))
  | fallback f =>
      have ht := Atom.reads (hatoms (f.test.testAtom ambient) (by simp [atoms]))
      have hy := Atom.reads (hatoms (f.yes.outcomeAtom ambient) (by simp [atoms]))
      have hn := Atom.reads (hatoms (f.no.outcomeAtom ambient) (by simp [atoms]))
      rw [render, Fallback.render_eq]
      have h₁ := (Unmarked.opens (s := "((") (by decide)).append ht
      have h₂ := (h₁.bare (t := " AND ") (by decide) (by decide)).append hy
      have h₃ := (h₂.bare (t := ") OR (NOT(") (by decide) (by decide)).append ht
      have h₄ := (h₃.bare (t := ") AND ") (by decide) (by decide)).append hn
      exact (h₄.bare (by decide) (by decide)).reads

/-! ### The `WHERE` clause -/

/-- The word of a connective; nothing, if there is none. -/
def Connective.word (op : Option Connective) : String := op.elim "" sql

/-- A predicate after its logical operator. -/
def Condition.joined (ambient : Ident) (c : Condition) : List Piece :=
  Piece.bares (" " ++ Connective.word c.connective ++ " ") ++ c.pieces ambient

/-- The pieces of the clause, if there is one. -/
def Conditions.pieces (ambient : Ident) : Conditions → List Piece
  | .raw sql =>
    if sql.text = "" then [] else Piece.bares (" WHERE " ++ ambient.text ++ "." ++ sql.text)
  | .list [] => []
  | .list (c :: cs) =>
    Piece.bares " WHERE " ++ c.pieces ambient ++ cs.flatMap (Condition.joined ambient)

lemma Connective.unmarked_word (op : Option Connective) : Unmarked (word op) := by
  rcases op with _ | _ | _ <;> decide

lemma Unmarked.append {s t : String} (hs : Unmarked s) (ht : Unmarked t) : Unmarked (s ++ t) := by
  intro c hc
  rw [String.toList_append, List.mem_append] at hc
  exact hc.elim (hs c) (ht c)

section Clause

variable {ambient : Ident} {s text : String} {ps : List Piece}

/-- The conditions after the first, behind a text that has been read. The induction
is on the conditions; each predicate is parted from what is before it by the blank in
front of its operator. -/
lemma Conditions.reads_renderFrom (ha : Unmarked ambient.text) :
    ∀ {cs : List Condition} {position : Nat} {s text : String} {ps : List Piece},
      (∀ t ∈ cs.flatMap Condition.trusted, Unmarked t) →
      renderFrom .standard ambient position cs = .ok text → Reads s ps →
        Reads (s ++ text) (ps ++ cs.flatMap (Condition.joined ambient)) := by
  intro cs
  induction cs with
  | nil =>
      intro position s text ps _ hr hs
      obtain rfl : "" = text := by simpa [renderFrom] using hr
      simpa using hs
  | cons c cs ih =>
      intro position s text ps h hr hs
      rw [List.flatMap_cons, List.forall_mem_append] at h
      rw [renderFrom] at hr
      cases hop : c.connective with
      | none => simp [hop] at hr
      | some op =>
          simp only [hop] at hr
          obtain ⟨rest, hrest, htext⟩ := bind_eq_ok.1 hr
          cases htext
          have hsep : Unmarked (" " ++ Connective.word c.connective ++ " ") :=
            Unmarked.append (Unmarked.append (by decide) (Connective.unmarked_word _)) (by decide)
          have hc := (hs.bare hsep (by simp)).append (Condition.reads ha h.1)
          have hall := ih h.2 hrest hc
          simpa [Condition.joined, Connective.word, hop, String.append_assoc] using hall

/-- The clause behind a text that has been read. -/
lemma Conditions.reads_clause {cs : Conditions} (ha : Unmarked ambient.text)
    (h : ∀ t ∈ cs.trusted, Unmarked t) (hr : cs.clause .standard ambient = .ok text)
    (hs : Reads s ps) : Reads (s ++ text) (ps ++ cs.pieces ambient) := by
  match cs with
  | .raw sql =>
      rw [clause, Except.ok.injEq] at hr
      subst hr
      by_cases hsql : sql.text = ""
      · simpa [pieces, hsql] using hs
      · have hsql' : Unmarked sql.text := h _ (by simp [trusted])
        have hw : Unmarked (" WHERE " ++ ambient.text ++ "." ++ sql.text) :=
          (((by decide : Unmarked " WHERE ").append ha).append (by decide)).append hsql'
        rw [if_neg hsql, pieces, if_neg hsql]
        exact (hs.bare hw (by simp)).reads
  | .list [] =>
      obtain rfl : "" = text := by simpa [clause_nil] using hr
      simpa [pieces] using hs
  | .list (c :: cs) =>
      rw [trusted, List.flatMap_cons, List.forall_mem_append] at h
      rw [clause_cons] at hr
      obtain ⟨rest, hrest, htext⟩ := bind_eq_ok.1 hr
      cases htext
      have hc := (hs.bare (t := " WHERE ") (by decide) (by decide)).append
        (Condition.reads ha h.1)
      have hall := reads_renderFrom ha h.2 hrest hc
      simpa [pieces, String.append_assoc] using hall

end Clause

/-! ### What the pieces are -/

@[simp] lemma names_ofShown (v : Option String) : Piece.names (Piece.ofShown v) = [] := by
  cases v with
  | none => exact Piece.names_bares "NULL"
  | some s => rfl

@[simp] lemma literals_ofShown (v : Option String) :
    Piece.literals (Piece.ofShown v) = v.toList := by
  cases v with
  | none => exact Piece.literals_bares "NULL"
  | some s => rfl

@[simp] lemma Atom.names_pieces (a : Atom) : Piece.names a.pieces = [a.field.text] := by
  simp [pieces]

@[simp] lemma Atom.literals_pieces (a : Atom) : Piece.literals a.pieces = a.value.toList := by
  simp [pieces]

lemma reduceOption_cons {α : Type} (o : Option α) (os : List (Option α)) :
    (o :: os).reduceOption = o.toList ++ os.reduceOption := by
  cases o <;> simp

section Content

variable (ambient : Ident)

lemma Condition.names_pieces (c : Condition) : Piece.names (c.pieces ambient) = c.names := by
  cases c with
  | comparison c => simp [pieces, names, Comparison.atom]
  | fallback f => simp [pieces, names, Branch.testAtom, Branch.outcomeAtom, Branch.atom]

lemma Condition.literals_pieces (c : Condition) :
    Piece.literals (c.pieces ambient) = c.shown.reduceOption := by
  cases c with
  | comparison c => simp [pieces, shown, Comparison.atom, reduceOption_cons]
  | fallback f =>
      simp [pieces, shown, Branch.testAtom, Branch.outcomeAtom, Branch.atom, reduceOption_cons]

/-- The names of a clause are the fields of its conditions. -/
lemma Conditions.names_pieces (cs : Conditions) :
    Piece.names (cs.pieces ambient) = cs.names := by
  match cs with
  | .raw sql =>
      rw [pieces]
      split <;> simp [names]
  | .list [] => rfl
  | .list (c :: cs) =>
      simp [pieces, names, Condition.joined, Condition.names_pieces, Piece.names_flatMap]

/-- The literals of a clause are the values of its conditions, the word `NULL` left
out. -/
lemma Conditions.literals_pieces (cs : Conditions) :
    Piece.literals (cs.pieces ambient) = cs.shown.reduceOption := by
  match cs with
  | .raw sql =>
      rw [pieces]
      split <;> simp [shown]
  | .list [] => rfl
  | .list (c :: cs) =>
      simp [pieces, shown, Condition.joined, Condition.literals_pieces, Piece.literals_flatMap,
        List.reduceOption, List.filterMap_flatMap]

end Content

end SqlRequest
