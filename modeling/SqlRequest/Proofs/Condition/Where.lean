import SqlRequest.Engine
import SqlRequest.Proofs.Condition.Chain
import SqlRequest.Proofs.Request

/-!
The `WHERE` clause of a list of conditions, and the statements that it stands in.

* `Request.render_withConditions`: a statement is the clause of its conditions between two
  texts in which the conditions have no part, and there is no statement exactly if there
  is no clause;
* `Conditions.Chained`: when a list of conditions has a clause, what the clause is, and what
  is reported when there is none;
* `Conditions.clause_list_chained`: all this holds of every list of conditions, whatever the
  table is and however literals are quoted.
-/

namespace SqlRequest

/-! ### Clauses in statements -/

section Frame

variable {clause : Except Error String} {f : String → String} {before after : String}

/-- A text made of a clause, if it is the clause between two others. -/
lemma map_of_frame (h : ∀ sql, f sql = before ++ sql ++ after) :
    (do let sql ← clause; return f sql) = clause.map fun sql => before ++ sql ++ after := by
  cases clause with
  | error e => rfl
  | ok sql => exact congrArg Except.ok (h sql)

end Frame

/-- The statement of a request with conditions is their clause between two texts that are
the same for all conditions. -/
lemma Request.render_withConditions (q : Quoter) {r : Request} (h : r.conditions? ≠ none) :
    ∃ before after, ∀ cs : Conditions,
      (r.withConditions cs).render q =
        (cs.clause q r.table).map fun sql => before ++ sql ++ after := by
  cases r with
  | select r =>
      exact ⟨"SELECT " ++ selectList r.table [] r.grouping ++ " FROM " ++ r.table.text ++
        Join.clauses r.joins, groupByClause r.grouping ++ ";", fun cs => map_of_frame fun sql => by
          simp only [Select.withConditions, String.append_assoc]⟩
  | selectMany r =>
      exact ⟨"SELECT " ++ selectList r.table r.cols r.grouping ++ " FROM " ++ r.table.text ++
        Join.clauses r.joins, groupByClause r.grouping ++ orderByClause r.orderBy ++ ";",
        fun cs => map_of_frame fun sql => by
          simp only [SelectMany.withConditions, String.append_assoc]⟩
  | update r =>
      exact ⟨"UPDATE " ++ r.table.text ++ " SET " ++ ", ".intercalate (r.assignments q), ";",
        fun cs => map_of_frame fun sql => rfl⟩
  | insert r => simp [conditions?] at h
  | delete r => exact ⟨"DELETE FROM " ++ r.table.text, ";", fun cs => map_of_frame fun sql => rfl⟩

/-! ### The law of lists -/

namespace Conditions

/-- What the clause of a list of conditions is: the predicates in order, each after the
first with its own connective in front. -/
structure Chained (q : Quoter) (ambient : Ident) (cs : List Condition) : Prop where
  /-- There is a clause exactly if each condition after the first has a connective. -/
  succeeds_iff :
    (∃ sql, clause q ambient (.list cs) = .ok sql) ↔ ∀ c ∈ cs.tail, c.connective.isSome
  empty : cs = [] → clause q ambient (.list cs) = .ok ""
  /-- The words of the clause are those of the chain, a single blank between them. -/
  text : ∀ sql, clause q ambient (.list cs) = .ok sql → cs ≠ [] →
    sql = " WHERE " ++ " ".intercalate (Condition.chain q ambient cs)
  /-- There is one connective fewer in the chain than there are predicates. -/
  length : ∀ sql, clause q ambient (.list cs) = .ok sql →
    (Condition.chain q ambient cs).length = cs.length + (cs.length - 1)
  /-- The connective of the first condition does not matter. -/
  first : ∀ op c rest, cs = c :: rest →
    clause q ambient (.list (c.withConnective op :: rest)) = clause q ambient (.list cs)
  /-- The error tells the table and the least position without a connective. -/
  error_iff : ∀ e, clause q ambient (.list cs) = .error e ↔
    ∃ i, IsLeast (unjoined cs) i ∧ e = .validation (.missingOperator i ambient)
  /-- A list in two parts has the clauses of both, with the connective of the second part
  in between. -/
  append : ∀ ds sql, cs ≠ [] → ds ≠ [] → clause q ambient (.list (cs ++ ds)) = .ok sql →
    ∃ first op second, clause q ambient (.list cs) = .ok first ∧
      ds.head?.bind Condition.connective = some op ∧
      clause q ambient (.list ds) = .ok (" WHERE " ++ second) ∧
      sql = first ++ " " ++ op.sql ++ " " ++ second

lemma chained (q : Quoter) (ambient : Ident) (cs : List Condition) : Chained q ambient cs where
  succeeds_iff := by
    cases cs with
    | nil => simp [clause_nil]
    | cons c cs => simp [clause_cons_eq_ok_iff]
  empty := by
    rintro rfl
    rfl
  text := by
    intro sql h hne
    obtain ⟨c, cs, rfl⟩ := List.exists_cons_of_ne_nil hne
    exact (clause_cons_eq_ok_iff.mp h).2
  length := by
    intro sql h
    cases cs with
    | nil => rfl
    | cons c cs => exact Condition.length_chain (clause_cons_eq_ok_iff.mp h).1
  first := by
    rintro op c rest rfl
    rw [clause_cons_eq, clause_cons_eq, Condition.chain, Condition.chain,
      Condition.render_withConnective]
  error_iff _ := clause_eq_error_iff
  append _ _ hcs hds h := clause_append hcs hds h

/-- **The clause of a list of conditions**, whatever the table is and however literals are
quoted: the law of `Chained` holds of every list, an engine gives the same clause, and the
statements of selects, updates and deletes have it in them as it is or fail as it does. -/
theorem clause_list_chained (q : Quoter) (ambient : Ident) :
    (∀ cs, Chained q ambient cs) ∧
      (∀ {σ : Type} (g : Gateway σ), g.quoter = q → ∀ cs,
        Engine.conditionString g ambient (.list cs) = clause q ambient (.list cs)) ∧
      ∀ r : Request, r.table = ambient → r.conditions? ≠ Option.none →
        ∃ before after, ∀ cs, (r.withConditions (.list cs)).render q =
          (clause q ambient (.list cs)).map fun sql => before ++ sql ++ after := by
  refine ⟨chained q ambient, ?_, ?_⟩
  · rintro σ g rfl cs
    rfl
  · rintro r rfl hr
    obtain ⟨before, after, hrender⟩ := Request.render_withConditions q hr
    exact ⟨before, after, fun cs => hrender (.list cs)⟩

/-- The first condition needs no connective, and the third is not looked at. -/
example :
    let age : Comparison := .of ⟨"age"⟩ (.integer 7)
    clause .standard ⟨"users"⟩ (.list [.comparison age, .comparison age, .comparison age]) =
      .error (.validation (.missingOperator 2 ⟨"users"⟩)) := by
  rfl

end Conditions

end SqlRequest
