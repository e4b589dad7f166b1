import SqlRequest.Proofs.Condition.Chain
import SqlRequest.Proofs.Decode.Delete
import SqlRequest.Proofs.Engine.Operation

/-!
Deletes never take a whole table.

* `Delete.Narrowed`: the predicates that a delete puts into its statement, a raw text that is
  not blank or the chain of at least one condition;
* `Delete.Unconditional`: the deletes that have no conditions, built or decoded;
* `Engine.delete_narrowed`: whatever a delete hands to its gateway has a predicate in it, and
  a delete without conditions calls nothing and shows nothing.
-/

namespace SqlRequest

namespace Delete

/-- The predicates that a delete may have in its statement. -/
inductive Narrowed (q : Quoter) (r : Delete) : String → Prop where
  /-- Raw text with a character that is not a blank. -/
  | raw {sql : Fragment} (h : r.conditions = .raw sql) {c : Char} (hc : c ∈ sql.text.toList)
      (hblank : Text.isBlank c = false) : Narrowed q r (r.table.text ++ "." ++ sql.text)
  /-- One predicate or more, each after the first with its connective in front. -/
  | list {c : Condition} {cs : List Condition} (h : r.conditions = .list (c :: cs)) :
      Narrowed q r (" ".intercalate (Condition.chain q r.table (c :: cs)))

/-- The deletes without conditions. -/
inductive Unconditional (r : Delete) : Prop where
  | empty (h : r.conditions = .list [])
  | blank {sql : Fragment} (h : r.conditions = .raw sql)
      (hblank : ∀ c ∈ sql.text.toList, Text.isBlank c = true)
  /-- A text that gives no conditions, gives null, a blank text or an empty array. -/
  | decoded {text : String} (h : Decode.ofText ofJson text = .ok r)
      (hall : SelectsAll (Document.ofText text).root)

lemma isEmpty_of_unconditional {r : Delete} (h : r.Unconditional) :
    r.conditions.isEmpty = true := by
  cases h with
  | empty h => rw [h]; rfl
  | blank h hblank =>
      rw [h]
      exact List.all_eq_true.mpr hblank
  | decoded h hall => exact isEmpty_of_selectsAll (Decode.root_of_ofText h) hall

/-- The statement of a delete with conditions has a predicate in it. -/
lemma narrowed_of_render {q : Quoter} {r : Delete} {sql : String}
    (hne : r.conditions.isEmpty = false) (h : r.render q = .ok sql) :
    ∃ p, r.Narrowed q p ∧ sql = "DELETE FROM " ++ r.table.text ++ " WHERE " ++ p ++ ";" := by
  obtain ⟨clause, hclause, hsql⟩ := bind_eq_ok.mp h
  cases hsql
  cases hconditions : r.conditions with
  | raw raw =>
      rw [hconditions] at hne hclause
      obtain ⟨c, hc, hblank⟩ := List.all_eq_false.mp hne
      have hnonempty : raw.text ≠ "" := by
        rintro hempty
        simp [hempty] at hc
      rw [Conditions.clause, if_neg hnonempty] at hclause
      cases hclause
      refine ⟨_, .raw hconditions hc (by simpa using hblank), ?_⟩
      simp only [String.append_assoc]
  | list cs =>
      rw [hconditions] at hne hclause
      cases cs with
      | nil => simp [Conditions.isEmpty] at hne
      | cons c cs =>
          obtain ⟨-, rfl⟩ := Conditions.clause_cons_eq_ok_iff.mp hclause
          refine ⟨_, .list hconditions, ?_⟩
          simp only [String.append_assoc]

end Delete

namespace Engine

variable {σ : Type}

/-- A delete that is carried out runs its statement and calls nothing else. -/
lemma trace_delete (g : Gateway σ) (r : Delete) (sql : String) (s : σ) :
    ∃ answer, ((Operation.delete r).carryOut g.traced sql (s, [])).2.2 =
      [.execute sql answer] := by
  have hlook : ∀ done p, (return .executed done : Session (σ × List Event) (Outcome Bool)) p =
      (.ok (.executed done), p) := fun _ _ => rfl
  obtain ⟨answer, s', hrun⟩ := answered_bind (.execute sql) (g.execute sql) hlook (s, [])
  exact ⟨answer, congrArg (fun p => p.2.2) hrun⟩

/-- The calls of a delete run a statement with a predicate in it. -/
lemma delete_calls (g : Gateway σ) (r : Delete) (s : σ) :
    ∀ event ∈ ((Operation.delete r).run g.traced (s, [])).2.2,
      ∃ p answer, r.Narrowed g.quoter p ∧
        event = .execute ("DELETE FROM " ++ r.table.text ++ " WHERE " ++ p ++ ";") answer := by
  have way := Operation.ran g.traced (.delete r) (s, [])
  generalize (Operation.delete r).run g.traced (s, []) = ended at way ⊢
  cases way with
  | unprepared | shown | unset => simp
  | carriedOut hprepare =>
      have hne : r.conditions.isEmpty = false := by
        by_contra hempty
        rw [Bool.not_eq_false] at hempty
        simp [Operation.prepare_of_unfit (o := .delete r) (if_pos hempty)] at hprepare
      obtain ⟨p, hnarrowed, rfl⟩ :=
        Delete.narrowed_of_render hne (Operation.statement_of_prepare hprepare)
      obtain ⟨answer, htrace⟩ := trace_delete g r _ s
      rw [htrace]
      intro event hevent
      exact ⟨p, answer, hnarrowed, List.mem_singleton.mp hevent⟩

/-- **No delete takes a whole table**, whatever the gateway answers, with debug and without:
a text that is handed over has a predicate in it, and a delete without conditions ends in an
error before anything is called or shown. -/
theorem delete_narrowed (g : Gateway σ) (r : Delete) (s : σ) :
    ∃ result s' trace, delete g r s = (result, s') ∧
      delete g.traced r (s, []) = (result, (s', trace)) ∧
      (∀ event ∈ trace, ∃ p answer, r.Narrowed g.quoter p ∧
        event = .execute ("DELETE FROM " ++ r.table.text ++ " WHERE " ++ p ++ ";") answer) ∧
      (r.Unconditional → result = .error (.validation (.noConditions r.table)) ∧
        trace = [] ∧ s' = s) := by
  refine ⟨_, _, _, (Operation.run_traces g (.delete r) (s, [])).symm, rfl, delete_calls g r s, ?_⟩
  intro h
  have hprepare : (Operation.delete r).prepare g.quoter =
      .error (.validation (.noConditions r.table)) :=
    Operation.prepare_of_unfit (if_pos (Delete.isEmpty_of_unconditional h))
  have hrun : delete g.traced r (s, []) =
      (.error (.validation (.noConditions r.table)), (s, [])) :=
    Operation.run_of_prepare_error (g := g.traced) hprepare (s, [])
  exact ⟨congrArg Prod.fst hrun, congrArg (fun p => p.2.2) hrun, congrArg (fun p => p.2.1) hrun⟩

end Engine

end SqlRequest
