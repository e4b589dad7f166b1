import SqlRequest.Proofs.Condition.Chain

/-!
The tables in front of the columns of a predicate.

* `effectiveTable_eq`: a table that is empty or the word `none` is as good as no table.
* `Condition.withTables`: a condition with other tables, in all the places where it may name one.
  `Condition.render_withTables`: its predicate is the same if each of them stands for the table
  that the old one stood for.
* `Conditions.qualification_stable`: tables that stand for nothing can be left out of a list of
  conditions, and the table of the request can be written instead; then the clause is the same
  for every request.
-/

namespace SqlRequest

/-! ### Tables that stand for themselves -/

/-- A table that stands for itself where a condition names it: it is not empty and not the word
`none`. -/
def Ident.Effective (t : Ident) : Prop := t.text ≠ "" ∧ t.text ≠ "none"

instance (t : Ident) : Decidable t.Effective := inferInstanceAs (Decidable (_ ∧ _))

/-- The table of a condition, unless it stands for nothing. -/
def effective? (table : Option Ident) : Option Ident := table.filter fun t => t.Effective

/-- The table of a condition, or another one if it stands for nothing. -/
def pinned (a : Ident) (table : Option Ident) : Option Ident := some ((effective? table).getD a)

section Tables

variable {ambient a t : Ident}

lemma effectiveTable_of_effective (h : t.Effective) : effectiveTable ambient (some t) = t := by
  rw [effectiveTable, if_neg (not_or.mpr h)]

lemma effectiveTable_of_not_effective (h : ¬ t.Effective) :
    effectiveTable ambient (some t) = ambient := by
  rw [effectiveTable, if_pos]
  by_contra hnot
  exact h (not_or.mp hnot)

lemma effectiveTable_eq (table : Option Ident) :
    effectiveTable ambient table = (effective? table).getD ambient := by
  cases table with
  | none => rfl
  | some t =>
      by_cases h : t.Effective
      · rw [effectiveTable_of_effective h, effective?, Option.filter_some,
          if_pos (by simpa using h)]
        rfl
      · rw [effectiveTable_of_not_effective h, effective?, Option.filter_some,
          if_neg (by simpa using h)]
        rfl

lemma effective?_effective? (table : Option Ident) :
    effective? (effective? table) = effective? table := by
  simp [effective?]

lemma effectiveTable_effective? (table : Option Ident) :
    effectiveTable ambient (effective? table) = effectiveTable ambient table := by
  rw [effectiveTable_eq, effectiveTable_eq, effective?_effective?]

/-- What is pinned does not depend on the table of the request. -/
lemma effectiveTable_pinned (ha : a.Effective) (table : Option Ident) :
    effectiveTable ambient (pinned a table) = effectiveTable a table := by
  have heffective : ((effective? table).getD a).Effective := by
    cases htable : effective? table with
    | none => exact ha
    | some t => simpa using (Option.filter_eq_some_iff.mp htable).2
  rw [pinned, effectiveTable_of_effective heffective, effectiveTable_eq]

end Tables

/-! ### Conditions with other tables -/

def Branch.withTable (f : Option Ident → Option Ident) (b : Branch) : Branch :=
  { b with table := f b.table }

/-- The condition with other tables, in a comparison or in all three branches of a fallback. -/
def Condition.withTables (f : Option Ident → Option Ident) : Condition → Condition
  | .comparison c => .comparison { c with table := f c.table }
  | .fallback d => .fallback { d with
      test := d.test.withTable f, yes := d.yes.withTable f, no := d.no.withTable f }

section Render

variable {f : Option Ident → Option Ident} {a b : Ident}

lemma Branch.atom_withTable (h : ∀ t, effectiveTable b (f t) = effectiveTable a t) (c : Branch)
    (operator : String) (value : Option String) :
    (c.withTable f).atom b operator value = c.atom a operator value := by
  rw [atom, atom, withTable, h]

/-- A predicate is the same if each table stands for what the old one stood for. -/
lemma Condition.render_withTables (h : ∀ t, effectiveTable b (f t) = effectiveTable a t)
    (q : Quoter) (c : Condition) : (c.withTables f).render q b = c.render q a := by
  cases c with
  | comparison c =>
      rw [withTables, render, render, Comparison.render_eq, Comparison.render_eq,
        Comparison.atom, Comparison.atom, h]
  | fallback d =>
      have htest : (d.test.withTable f).testAtom b = d.test.testAtom a :=
        Branch.atom_withTable h d.test _ _
      have hyes : (d.yes.withTable f).outcomeAtom b = d.yes.outcomeAtom a :=
        Branch.atom_withTable h d.yes _ _
      have hno : (d.no.withTable f).outcomeAtom b = d.no.outcomeAtom a :=
        Branch.atom_withTable h d.no _ _
      rw [withTables, render, render, Fallback.render_eq, Fallback.render_eq, htest, hyes, hno]

lemma Condition.connective_withTables (c : Condition) :
    (c.withTables f).connective = c.connective := by
  cases c <;> rfl

lemma Conditions.alike_withTables (h : ∀ t, effectiveTable b (f t) = effectiveTable a t)
    (q : Quoter) (cs : List Condition) :
    List.Forall₂ (Condition.WrittenAlike q b a) (cs.map (Condition.withTables f)) cs := by
  refine List.forall₂_map_left_iff.mpr (List.forall₂_same.mpr fun c _ => ?_)
  exact ⟨c.connective_withTables, c.render_withTables h q⟩

end Render

/-! ### Stability -/

namespace Conditions

/-- **The tables of a clause are stable.** Leaving out every table of a condition that is empty or
the word `none`, in comparisons and in the branches of fallbacks, changes nothing for any request.
Writing the table of the request wherever a condition names none that stands for itself changes
nothing for that request, and the clause is then the same for every other. -/
theorem qualification_stable (q : Quoter) (cs : List Condition) :
    (∀ ambient, clause q ambient (.list (cs.map (Condition.withTables effective?))) =
        clause q ambient (.list cs)) ∧
      ∀ a : Ident, a.Effective →
        clause q a (.list (cs.map (Condition.withTables (pinned a)))) = clause q a (.list cs) ∧
          ∀ b sql, clause q b (.list (cs.map (Condition.withTables (pinned a)))) = .ok sql ↔
            clause q a (.list cs) = .ok sql := by
  refine ⟨fun ambient => ?_, fun a ha => ⟨?_, fun b sql => ?_⟩⟩
  · exact clause_congr (alike_withTables effectiveTable_effective? q cs)
  · exact clause_congr (alike_withTables (effectiveTable_pinned ha) q cs)
  · exact clause_eq_ok_iff_of_alike (alike_withTables (effectiveTable_pinned ha) q cs)

/-- A fallback whose three branches name a table that stands for nothing, one that stands for
itself, and none. -/
def nicknamed : List Condition :=
  [.fallback (.of ((Branch.of ⟨"nickname"⟩).inTable ⟨"none"⟩)
    (((Branch.of ⟨"nickname"⟩).withQueue (.text "x")).inTable ⟨"profiles"⟩)
    ((Branch.of ⟨"name"⟩).withQueue (.text "x")))]

/-- Once it is pinned to the users it filters them, whatever table is asked for. -/
theorem qualification_stable_nicknamed :
    let sql := " WHERE ((users.`nickname` IS NOT NULL AND profiles.`nickname` LIKE 'x') OR " ++
      "(NOT(users.`nickname` IS NOT NULL) AND users.`name` LIKE 'x'))"
    (⟨"users"⟩ : Ident).Effective ∧ clause .standard ⟨"users"⟩ (.list nicknamed) = .ok sql ∧
      ∀ b, clause .standard b
        (.list (nicknamed.map (Condition.withTables (pinned ⟨"users"⟩)))) = .ok sql := by
  have husers : (⟨"users"⟩ : Ident).Effective := by decide
  have hclause : clause .standard ⟨"users"⟩ (.list nicknamed) =
      .ok (" WHERE ((users.`nickname` IS NOT NULL AND profiles.`nickname` LIKE 'x') OR " ++
        "(NOT(users.`nickname` IS NOT NULL) AND users.`name` LIKE 'x'))") := by
    cbv
  have hpinned := (qualification_stable .standard nicknamed).2 ⟨"users"⟩ husers
  exact ⟨husers, hclause, fun b => (hpinned.2 b _).mpr hclause⟩

end Conditions

end SqlRequest
