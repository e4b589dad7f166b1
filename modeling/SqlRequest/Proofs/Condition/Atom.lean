import SqlRequest.Condition.Clause
import SqlRequest.Proofs.Fallible

/-!
Conditions through their atoms. Whatever the condition is, each comparison in its
predicate has one form: a column of a table, an operator, and a value, which is the
word `NULL` or a literal.

* `Atom`: what stands in such a comparison, and how it is written.
* `Comparison.render_eq`, `Fallback.render_eq`: the predicate of a condition is made
  of its `Condition.atoms`.
* `Condition.atoms_of`: what holds of all texts that a condition takes as they are
  holds of the table and the operator of each atom.
* `Condition.names` and `Condition.shown`: the fields and the values of a predicate
  in the order in which they stand in it.
-/

namespace SqlRequest

/-- A column compared with a value, ready to be written; no value is the word
`NULL`. -/
structure Atom where
  table : Ident
  field : Ident
  operator : String
  value : Option String
  deriving DecidableEq, Repr

/-- A value as it is written, if not as the word `NULL`. -/
def Quoter.shown (q : Quoter) : Option String → String
  | none => "NULL"
  | some s => q.quote s

def Atom.render (q : Quoter) (a : Atom) : String :=
  a.table.text ++ "." ++ a.field.backticked ++ " " ++ a.operator ++ " " ++ q.shown a.value

/-- The form of a value, if it is not null. -/
def Value.shown (v : Value) : Option String := if v.isNull then none else some v.form

/-- The pattern for a value, if it is not null. -/
def Wildcard.shown (w : Wildcard) (v : Value) : Option String :=
  if v.isNull then Option.none else some (w.expand v)

lemma Quoter.literal_eq (q : Quoter) (v : Value) : q.literal v = q.shown v.shown := by
  cases v <;> rfl

lemma Quoter.pattern_eq (q : Quoter) (w : Wildcard) (v : Value) :
    q.pattern w v = q.shown (w.shown v) := by
  cases v <;> rfl

/-! ### The atoms of a condition -/

def Comparison.atom (ambient : Ident) (c : Comparison) : Atom :=
  ⟨effectiveTable ambient c.table, c.field, c.operator, c.wildcard.shown c.queue⟩

/-- A branch with the operator that it has when it names none, and with the value that
it shows. -/
def Branch.atom (ambient : Ident) (b : Branch) (operator : String) (value : Option String) :
    Atom :=
  ⟨effectiveTable ambient b.table, b.field, b.operator.getD operator, value⟩

/-- A branch as the test of a fallback: the plain value, by `IS NOT` unless the
branch says otherwise. -/
def Branch.testAtom (ambient : Ident) (b : Branch) : Atom :=
  b.atom ambient "IS NOT" b.queue.shown

/-- A branch as an outcome of a fallback: the pattern, which is a literal even for
null, by `LIKE` unless the branch says otherwise. -/
def Branch.outcomeAtom (ambient : Ident) (b : Branch) : Atom :=
  b.atom ambient "LIKE" (some (b.wildcard.expand b.queue))

/-- The atoms of a predicate in the order in which they stand in it. The test of a
fallback stands before each of the two outcomes. -/
def Condition.atoms (ambient : Ident) : Condition → List Atom
  | .comparison c => [c.atom ambient]
  | .fallback f =>
    [f.test.testAtom ambient, f.yes.outcomeAtom ambient,
      f.test.testAtom ambient, f.no.outcomeAtom ambient]

lemma Comparison.render_eq (q : Quoter) (ambient : Ident) (c : Comparison) :
    c.render q ambient = (c.atom ambient).render q := by
  rw [render, Quoter.pattern_eq]
  rfl

lemma Branch.renderTest_eq (q : Quoter) (ambient : Ident) (b : Branch) :
    b.renderTest q ambient = (b.testAtom ambient).render q := by
  rw [renderTest, Quoter.literal_eq]
  rfl

lemma Branch.renderOutcome_eq (q : Quoter) (ambient : Ident) (b : Branch) :
    b.renderOutcome q ambient = (b.outcomeAtom ambient).render q := rfl

lemma Fallback.render_eq (q : Quoter) (ambient : Ident) (f : Fallback) :
    f.render q ambient =
      "((" ++ (f.test.testAtom ambient).render q ++ " AND " ++
        (f.yes.outcomeAtom ambient).render q ++ ") OR (NOT(" ++
        (f.test.testAtom ambient).render q ++ ") AND " ++
        (f.no.outcomeAtom ambient).render q ++ "))" := by
  simp only [render, Branch.renderTest_eq, Branch.renderOutcome_eq]

lemma Atom.render_ne_empty (q : Quoter) (a : Atom) : a.render q ≠ "" := by
  simp [render]

/-- There is more to a predicate than its values, so it is not empty even if literals are. -/
lemma Condition.render_ne_empty (q : Quoter) (ambient : Ident) (c : Condition) :
    c.render q ambient ≠ "" := by
  cases c with
  | comparison c =>
      rw [render, Comparison.render_eq]
      exact Atom.render_ne_empty q _
  | fallback f => simp [render, Fallback.render]

/-! ### Trusted texts -/

/-- The operator and the table of a comparison. -/
def Comparison.trusted (c : Comparison) : List String :=
  c.operator :: (c.table.map Ident.text).toList

/-- The operator and the table of a branch. -/
def Branch.trusted (b : Branch) : List String :=
  b.operator.toList ++ (b.table.map Ident.text).toList

/-- The texts that a predicate takes as they are. -/
def Condition.trusted : Condition → List String
  | .comparison c => c.trusted
  | .fallback f => f.test.trusted ++ f.yes.trusted ++ f.no.trusted

section Trusted

variable {P : String → Prop} {ambient : Ident}

/-- What holds of the ambient table and of the table that a condition names holds of
the one that is written. -/
lemma effectiveTable_of {table : Option Ident} (ha : P ambient.text)
    (ht : ∀ t ∈ table, P t.text) : P (effectiveTable ambient table).text := by
  cases table with
  | none => exact ha
  | some t =>
      rw [effectiveTable]
      split
      · exact ha
      · exact ht t rfl

lemma Comparison.atom_of {c : Comparison} (ha : P ambient.text) (h : ∀ t ∈ c.trusted, P t) :
    P (c.atom ambient).table.text ∧ P (c.atom ambient).operator := by
  refine ⟨effectiveTable_of ha fun t ht => h _ ?_, h _ ?_⟩
  · simp [trusted, Option.mem_def.1 ht]
  · simp [trusted, atom]

lemma Branch.atom_of {b : Branch} {o : String} {v : Option String} (ho : P o)
    (ha : P ambient.text) (h : ∀ t ∈ b.trusted, P t) :
    P (b.atom ambient o v).table.text ∧ P (b.atom ambient o v).operator := by
  refine ⟨effectiveTable_of ha fun t ht => h _ ?_, ?_⟩
  · simp [trusted, Option.mem_def.1 ht]
  · cases hb : b.operator with
    | none => simpa [atom, hb] using ho
    | some o => simpa [atom, hb] using h o (by simp [trusted, hb])

/-- What holds of the default operators, of the ambient table and of the trusted texts
of a condition holds of the table and the operator of each of its atoms. -/
lemma Condition.atoms_of {c : Condition} (htest : P "IS NOT") (hlike : P "LIKE")
    (ha : P ambient.text) (h : ∀ t ∈ c.trusted, P t) :
    ∀ a ∈ c.atoms ambient, P a.table.text ∧ P a.operator := by
  cases c with
  | comparison c =>
      simp only [atoms, List.mem_singleton, forall_eq]
      exact Comparison.atom_of ha h
  | fallback f =>
      simp only [trusted, List.forall_mem_append] at h
      obtain ⟨⟨ht, hy⟩, hn⟩ := h
      have hT := Branch.atom_of (v := f.test.queue.shown) htest ha ht
      simp only [atoms, List.forall_mem_cons]
      exact ⟨hT, Branch.atom_of hlike ha hy, hT, Branch.atom_of hlike ha hn, by simp⟩

end Trusted

/-! ### Fields and values in the order of the predicate -/

namespace Condition

/-- The fields of a predicate. -/
def names : Condition → List String
  | .comparison c => [c.field.text]
  | .fallback f => [f.test.field.text, f.yes.field.text, f.test.field.text, f.no.field.text]

/-- The values of a predicate; none where the word `NULL` stands. An outcome of a
fallback shows the empty pattern for null. -/
def shown : Condition → List (Option String)
  | .comparison c => [c.wildcard.shown c.queue]
  | .fallback f =>
    [f.test.queue.shown, some (f.yes.wildcard.expand f.yes.queue),
      f.test.queue.shown, some (f.no.wildcard.expand f.no.queue)]

end Condition

namespace Conditions

def names : Conditions → List String
  | .raw _ => []
  | .list cs => cs.flatMap Condition.names

def shown : Conditions → List (Option String)
  | .raw _ => []
  | .list cs => cs.flatMap Condition.shown

end Conditions

end SqlRequest
