import SqlRequest.Proofs.Condition.Where

/-!
Conditions that are empty, and clauses that are. The one is told from the blanks of a raw
predicate and from the length of a list, the other from the texts.

* `Conditions.clause_eq_empty_iff`: no text and an empty list have an empty clause, and nothing
  else has, however literals are quoted.
* `Conditions.Padded`: a raw predicate of blanks; it counts as empty and is written all the same.
* `Conditions.isEmpty_iff_of_clause`: up to these, conditions are empty exactly if their clause
  is, and exactly if they leave no trace in a statement.
-/

namespace SqlRequest

namespace Conditions

variable {q : Quoter} {ambient : Ident} {cs : Conditions} {sql : String}

/-- A raw predicate with blanks in it and nothing else. -/
def Padded (cs : Conditions) : Prop :=
  ∃ raw : Fragment, cs = .raw raw ∧ raw.text ≠ "" ∧ raw.blank = true

/-- A clause that is not empty has something in it. -/
lemma exists_predicate_of_clause (h : clause q ambient cs = .ok sql) (hne : sql ≠ "") :
    ∃ p, sql = " WHERE " ++ p := by
  cases cs with
  | raw raw =>
      rw [clause, Except.ok.injEq] at h
      split at h
      · exact absurd h.symm hne
      · exact ⟨ambient.text ++ "." ++ raw.text, by rw [← h]; simp only [String.append_assoc]⟩
  | list cs =>
      cases cs with
      | nil => exact absurd (Except.ok.inj h).symm hne
      | cons c cs => exact ⟨_, (clause_cons_eq_ok_iff.mp h).2⟩

/-- The clause is empty for no text and for an empty list. -/
lemma clause_eq_empty_iff (h : clause q ambient cs = .ok sql) :
    sql = "" ↔ cs = .raw ⟨""⟩ ∨ cs = .list [] := by
  constructor
  · rintro rfl
    cases cs with
    | raw raw =>
        rw [clause, Except.ok.injEq] at h
        split at h
        · next hraw => exact .inl (congrArg (fun s => Conditions.raw ⟨s⟩) hraw)
        · simp at h
    | list cs =>
        cases cs with
        | nil => exact .inr rfl
        | cons c cs =>
            obtain ⟨-, hsql⟩ := clause_cons_eq_ok_iff.mp h
            simp at hsql
  · rintro (rfl | rfl)
    · exact (Except.ok.inj h).symm
    · exact (Except.ok.inj h).symm

/-- What counts as empty is no text, an empty list, or padded. -/
lemma isEmpty_iff : cs.isEmpty = true ↔ (cs = .raw ⟨""⟩ ∨ cs = .list []) ∨ cs.Padded := by
  cases cs with
  | raw raw =>
      obtain ⟨text⟩ := raw
      by_cases htext : text = ""
      · subst htext
        simp [isEmpty, Fragment.blank, Text.blank]
      · simp [isEmpty, Padded, htext]
  | list cs => simp [isEmpty, Padded]

end Conditions

namespace Request

/-- A request has the conditions that it has. -/
lemma withConditions_of_conditions? {r : Request} {cs : Conditions} (h : r.conditions? = some cs) :
    r.withConditions cs = r := by
  cases r with
  | insert r => rfl
  | select r | selectMany r | update r | delete r =>
      obtain rfl := Option.some.inj h
      rfl

/-- The statement of a request is that of the same request without conditions exactly if its
clause is empty. -/
lemma render_eq_unconditional_iff {q : Quoter} {r : Request} {cs : Conditions} {sql : String}
    (hr : r.conditions? = some cs) (h : cs.clause q r.table = .ok sql) :
    ∃ text plain, r.render q = .ok text ∧ (r.withConditions .none).render q = .ok plain ∧
      (text = plain ↔ sql = "") := by
  have hsome : r.conditions? ≠ none := by
    rw [hr]
    nofun
  obtain ⟨before, after, hrender⟩ := render_withConditions q hsome
  refine ⟨before ++ sql ++ after, before ++ "" ++ after, ?_, hrender .none, ?_⟩
  · rw [← withConditions_of_conditions? hr, hrender, h]
    rfl
  · constructor
    · intro heq
      simpa using heq
    · rintro rfl
      rfl

end Request

namespace Conditions

variable {q : Quoter} {ambient : Ident} {cs : Conditions} {sql : String}

/-- **What counts as empty leaves no trace**, unless it is padded. Where there is a clause, for
whatever quoter and table, conditions that are not padded are empty exactly if the clause is
the empty text. Padded ones count as empty and have a clause. So the statement of a request is
that of the request without conditions exactly if its conditions are empty and not padded. -/
theorem isEmpty_iff_of_clause (h : clause q ambient cs = .ok sql) :
    (¬cs.Padded → (cs.isEmpty = true ↔ sql = "")) ∧
      (cs.Padded → cs.isEmpty = true ∧ ∃ p, sql = " WHERE " ++ p) ∧
      ∀ r : Request, r.table = ambient → r.conditions? = some cs →
        ∃ text plain, r.render q = .ok text ∧ (r.withConditions .none).render q = .ok plain ∧
          (text = plain ↔ cs.isEmpty = true ∧ ¬cs.Padded) := by
  have hempty := clause_eq_empty_iff h
  have hpadded : cs.Padded → sql ≠ "" := by
    rintro ⟨⟨text⟩, rfl, htext, -⟩ hsql
    rcases hempty.mp hsql with hraw | hlist
    · cases hraw
      exact htext rfl
    · cases hlist
  have hclause : sql = "" ↔ cs.isEmpty = true ∧ ¬cs.Padded := by
    constructor
    · exact fun hsql => ⟨isEmpty_iff.mpr (.inl (hempty.mp hsql)), fun hp => hpadded hp hsql⟩
    · rintro ⟨hcs, hnot⟩
      exact hempty.mpr ((isEmpty_iff.mp hcs).resolve_right hnot)
  refine ⟨fun hnot => ?_, fun hp => ?_, ?_⟩
  · rw [hclause, and_iff_left hnot]
  · exact ⟨isEmpty_iff.mpr (.inr hp), exists_predicate_of_clause h (hpadded hp)⟩
  · rintro r rfl hr
    obtain ⟨text, plain, htext, hplain, hsame⟩ := Request.render_eq_unconditional_iff hr h
    exact ⟨text, plain, htext, hplain, hsame.trans hclause⟩

/-- Two blanks count as no conditions, and they are written. -/
theorem isEmpty_and_clause_blanks :
    (raw ⟨"  "⟩).isEmpty = true ∧
      clause .standard ⟨"users"⟩ (.raw ⟨"  "⟩) = .ok " WHERE users.  " ∧
      (SelectMany.of ⟨"users"⟩).render .standard = .ok "SELECT users.* FROM users;" ∧
      ((SelectMany.of ⟨"users"⟩).withConditions (.raw ⟨"  "⟩)).render .standard =
        .ok "SELECT users.* FROM users WHERE users.  ;" := by
  decide +kernel

/-- A quoter of which nothing is seen leaves enough of a condition for a clause. -/
theorem isEmpty_iff_of_clause_silent :
    let cs : Conditions := .list [.comparison (.of ⟨"name"⟩ (.text "a"))]
    clause ⟨fun _ => ""⟩ ⟨"users"⟩ cs = .ok " WHERE users.`name` LIKE " ∧
      cs.isEmpty = false ∧ ¬cs.Padded ∧ (raw ⟨"  "⟩).Padded ∧ (raw ⟨"  "⟩).isEmpty = true ∧
      ∃ text plain, (Request.selectMany ((SelectMany.of ⟨"users"⟩).withConditions cs)).render
          ⟨fun _ => ""⟩ = .ok text ∧
        ((SelectMany.of ⟨"users"⟩).withConditions .none).render ⟨fun _ => ""⟩ = .ok plain ∧
        text ≠ plain := by
  intro cs
  have hclause : clause ⟨fun _ => ""⟩ ⟨"users"⟩ cs = .ok " WHERE users.`name` LIKE " := by
    decide +kernel
  have hnot : ¬cs.Padded := by simp [cs, Padded]
  have hpadded : (raw ⟨"  "⟩).Padded := ⟨_, rfl, by decide, by decide⟩
  have hblanks : clause ⟨fun _ => ""⟩ ⟨"users"⟩ (.raw ⟨"  "⟩) = .ok " WHERE users.  " := by
    decide +kernel
  obtain ⟨hiff, -, hrequest⟩ := isEmpty_iff_of_clause hclause
  have hempty : cs.isEmpty = false :=
    Bool.eq_false_iff.mpr fun h => absurd ((hiff hnot).mp h) (by decide)
  obtain ⟨text, plain, htext, hplain, hsame⟩ := hrequest
    (.selectMany ((SelectMany.of ⟨"users"⟩).withConditions cs)) rfl rfl
  have hblank := ((isEmpty_iff_of_clause hblanks).2.1 hpadded).1
  refine ⟨hclause, hempty, hnot, hpadded, hblank, text, plain, htext, hplain, fun heq => ?_⟩
  rw [(hsame.mp heq).1] at hempty
  cases hempty

end Conditions

end SqlRequest
