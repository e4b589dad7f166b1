import Mathlib.Order.Bounds.Basic
import SqlRequest.Proofs.Condition.Atom

/-!
Lists of conditions as chains of words.

* `Condition.chain`: the words of a list, the first predicate and then the connective and
  the predicate of each further condition;
* `Conditions.unjoined`: the positions at which a connective is missing;
* `Conditions.clause_cons_eq_ok_iff`, `Conditions.clause_eq_error_iff`: the clause of a list
  is its chain with blanks in between if no connective is missing, and otherwise there is an
  error that tells the first position where one is;
* `Conditions.clause_append`: the clause of two lists one after the other.
* `Condition.WrittenAlike`: conditions with the same connective and the same predicate.
  `Conditions.clause_congr`, `Conditions.clause_eq_ok_iff_of_alike`: lists of such conditions
  have the same clause.
-/

namespace SqlRequest

namespace Condition

/-- The words that a condition adds to a chain: its connective, if it has one, and its
predicate. -/
def link (q : Quoter) (ambient : Ident) (c : Condition) : List String :=
  (c.connective.map Connective.sql).toList ++ [c.render q ambient]

/-- The words of a list of conditions. The first one's connective is not among them. -/
def chain (q : Quoter) (ambient : Ident) : List Condition → List String
  | [] => []
  | c :: cs => c.render q ambient :: cs.flatMap (link q ambient)

/-- The condition with another connective, or without one. -/
def withConnective (op : Option Connective) : Condition → Condition
  | .comparison c => .comparison { c with connective := op }
  | .fallback f => .fallback { f with connective := op }

/-- The predicate of a condition does not depend on its connective. -/
@[simp] lemma render_withConnective (q : Quoter) (ambient : Ident) (op : Option Connective)
    (c : Condition) : (c.withConnective op).render q ambient = c.render q ambient := by
  cases c <;> rfl

/-- The words of a list in which no connective is missing: as many predicates as there are
conditions, and one connective fewer. -/
lemma length_chain {q : Quoter} {ambient : Ident} {c : Condition} {cs : List Condition}
    (h : ∀ d ∈ cs, d.connective.isSome) :
    (chain q ambient (c :: cs)).length = (c :: cs).length + cs.length := by
  have hlink : ∀ d ∈ cs, (link q ambient d).length = 2 := by
    intro d hd
    obtain ⟨op, hop⟩ := Option.isSome_iff_exists.mp (h d hd)
    simp [link, hop]
  have hsum : (cs.map fun d => (link q ambient d).length).sum = cs.length * 2 := by
    rw [List.map_congr_left hlink, List.map_const', List.sum_replicate, smul_eq_mul]
  rw [chain, List.length_cons, List.length_flatMap, hsum, List.length_cons]
  omega

end Condition

namespace Conditions

variable {q : Quoter} {ambient : Ident} {cs ds : List Condition}

/-- The positions, counted from one, of the conditions after the first that have no
connective. -/
def unjoined (cs : List Condition) : Set Nat :=
  {i | 2 ≤ i ∧ ∃ c, cs[i - 1]? = some c ∧ c.connective = Option.none}

/-! ### Conditions after the first -/

/-- Words between blanks: all but the first stand after a blank. -/
lemma intercalate_blank (w : String) (ws : List String) :
    " ".intercalate (w :: ws) = w ++ String.join (ws.map (" " ++ ·)) := by
  induction ws generalizing w with
  | nil => simp
  | cons v ws ih => simp [ih, String.append_assoc]

/-- What conditions after the first are written as: their words if none of them lacks a
connective, and else an error at the first that does. -/
lemma renderFrom_eq (position : Nat) (cs : List Condition) :
    renderFrom q ambient position cs =
      match cs.findIdx? fun c => c.connective.isNone with
      | Option.none => .ok (String.join ((cs.flatMap (Condition.link q ambient)).map (" " ++ ·)))
      | some i => .error (.validation (.missingOperator (position + i) ambient)) := by
  induction cs generalizing position with
  | nil => rfl
  | cons c cs ih =>
      rw [renderFrom, List.findIdx?_cons]
      cases hc : c.connective with
      | none => rfl
      | some op =>
          rw [ih]
          cases cs.findIdx? fun c => c.connective.isNone with
          | none =>
              simp [Condition.link, hc, bind, Except.bind, pure, Except.pure,
                String.append_assoc]
          | some i => simp [bind, Except.bind, Nat.add_assoc, Nat.add_comm 1]

/-! ### Missing connectives -/

lemma unjoined_nil : unjoined [] = ∅ := by
  simp [unjoined]

/-- A position without a connective lies among the conditions after the first. -/
lemma mem_unjoined_cons {c : Condition} {j : Nat} :
    j ∈ unjoined (c :: cs) ↔
      ∃ i d, j = 2 + i ∧ cs[i]? = some d ∧ d.connective = Option.none := by
  constructor
  · rintro ⟨hj, d, hd, hnone⟩
    obtain ⟨i, rfl⟩ : ∃ i, j = 2 + i := ⟨j - 2, by omega⟩
    rw [show 2 + i - 1 = i + 1 by omega, List.getElem?_cons_succ] at hd
    exact ⟨i, d, rfl, hd, hnone⟩
  · rintro ⟨i, d, rfl, hd, hnone⟩
    refine ⟨by omega, d, ?_, hnone⟩
    rwa [show 2 + i - 1 = i + 1 by omega, List.getElem?_cons_succ]

/-- The search for a missing connective stops at the first position without one. -/
lemma isLeast_unjoined {c : Condition} {i : Nat}
    (h : (cs.findIdx? fun d => d.connective.isNone) = some i) :
    IsLeast (unjoined (c :: cs)) (2 + i) := by
  obtain ⟨hi, hnone, hbefore⟩ := List.findIdx?_eq_some_iff_getElem.mp h
  constructor
  · exact mem_unjoined_cons.mpr
      ⟨i, cs[i], rfl, List.getElem?_eq_getElem hi, by simpa using hnone⟩
  · intro j hj
    obtain ⟨k, d, rfl, hd, hdnone⟩ := mem_unjoined_cons.mp hj
    obtain ⟨hk, rfl⟩ := List.getElem?_eq_some_iff.mp hd
    by_contra hlt
    exact hbefore k (by omega) (by simp [hdnone])

/-- The search finds nothing exactly if every condition has a connective. -/
lemma findIdx?_eq_none_iff_joined :
    (cs.findIdx? fun d => d.connective.isNone) = Option.none ↔
      ∀ d ∈ cs, d.connective.isSome := by
  simp [List.findIdx?_eq_none_iff, Option.isSome_iff_ne_none]

lemma unjoined_eq_empty {c : Condition} (h : ∀ d ∈ cs, d.connective.isSome) :
    unjoined (c :: cs) = ∅ := by
  refine Set.eq_empty_of_forall_notMem fun j hj => ?_
  obtain ⟨i, d, -, hd, hnone⟩ := mem_unjoined_cons.mp hj
  have hsome := h d (List.mem_of_getElem? hd)
  simp [hnone] at hsome

/-! ### The clause of a list -/

lemma clause_nil : clause q ambient (.list []) = .ok "" := rfl

/-- A list that is not empty has something to stand in its clause, even if literals are
empty. -/
lemma clause_cons (c : Condition) (cs : List Condition) :
    clause q ambient (.list (c :: cs)) = do
      let rest ← renderFrom q ambient 2 cs
      return " WHERE " ++ c.render q ambient ++ rest := by
  rw [clause, predicates]
  cases renderFrom q ambient 2 cs with
  | error e => rfl
  | ok rest =>
      have hbound : c.render q ambient ++ rest ≠ "" := by
        simp [c.render_ne_empty q ambient]
      simp [bind, Except.bind, pure, Except.pure, hbound, String.append_assoc]

/-- The clause of a list that is not empty, from the search for a missing connective. -/
lemma clause_cons_eq (c : Condition) (cs : List Condition) :
    clause q ambient (.list (c :: cs)) =
      match cs.findIdx? fun c => c.connective.isNone with
      | Option.none => .ok (" WHERE " ++ " ".intercalate (Condition.chain q ambient (c :: cs)))
      | some i => .error (.validation (.missingOperator (2 + i) ambient)) := by
  rw [clause_cons, renderFrom_eq, Condition.chain, intercalate_blank]
  cases cs.findIdx? fun c => c.connective.isNone with
  | none => simp [bind, Except.bind, pure, Except.pure, String.append_assoc]
  | some i => rfl

/-- Where every condition after the first has a connective, the clause is the chain. -/
lemma clause_of_joined {c : Condition} (h : ∀ d ∈ cs, d.connective.isSome) :
    clause q ambient (.list (c :: cs)) =
      .ok (" WHERE " ++ " ".intercalate (Condition.chain q ambient (c :: cs))) := by
  rw [clause_cons_eq, findIdx?_eq_none_iff_joined.mpr h]

/-- A list has no clause exactly if a connective is missing, and the error tells the
first position where one is. -/
lemma clause_eq_error_iff {e : Error} :
    clause q ambient (.list cs) = .error e ↔
      ∃ i, IsLeast (unjoined cs) i ∧ e = .validation (.missingOperator i ambient) := by
  cases cs with
  | nil => simp [clause_nil, unjoined_nil, IsLeast]
  | cons c cs =>
      rw [clause_cons_eq]
      cases hfind : cs.findIdx? fun d => d.connective.isNone with
      | none => simp [unjoined_eq_empty (findIdx?_eq_none_iff_joined.mp hfind), IsLeast]
      | some i =>
          have hleast : IsLeast (unjoined (c :: cs)) (2 + i) := isLeast_unjoined hfind
          constructor
          · intro h
            exact ⟨2 + i, hleast, (Except.error.inj h).symm⟩
          · rintro ⟨j, hj, rfl⟩
            rw [hj.unique hleast]

/-- A list that is not empty has a clause exactly if each condition after the first has a
connective, and the clause is the chain of the list. -/
lemma clause_cons_eq_ok_iff {c : Condition} {sql : String} :
    clause q ambient (.list (c :: cs)) = .ok sql ↔
      (∀ d ∈ cs, d.connective.isSome) ∧
        sql = " WHERE " ++ " ".intercalate (Condition.chain q ambient (c :: cs)) := by
  constructor
  · intro h
    rw [clause_cons_eq] at h
    cases hfind : cs.findIdx? fun d => d.connective.isNone with
    | none =>
        rw [hfind] at h
        exact ⟨findIdx?_eq_none_iff_joined.mp hfind, (Except.ok.inj h).symm⟩
    | some i => simp [hfind] at h
  · rintro ⟨hall, rfl⟩
    exact clause_of_joined hall

/-- The clause of two lists one after the other has the connective of the second between
the clauses of both. -/
lemma clause_append {sql : String} (hcs : cs ≠ []) (hds : ds ≠ [])
    (h : clause q ambient (.list (cs ++ ds)) = .ok sql) :
    ∃ first op second, clause q ambient (.list cs) = .ok first ∧
      ds.head?.bind Condition.connective = some op ∧
      clause q ambient (.list ds) = .ok (" WHERE " ++ second) ∧
      sql = first ++ " " ++ op.sql ++ " " ++ second := by
  obtain ⟨c, cs, rfl⟩ := List.exists_cons_of_ne_nil hcs
  obtain ⟨d, ds, rfl⟩ := List.exists_cons_of_ne_nil hds
  rw [List.cons_append] at h
  obtain ⟨hall, rfl⟩ := clause_cons_eq_ok_iff.mp h
  rw [List.forall_mem_append, List.forall_mem_cons] at hall
  obtain ⟨hall, hd, halld⟩ := hall
  obtain ⟨op, hop⟩ := Option.isSome_iff_exists.mp hd
  refine ⟨_, op, _, clause_of_joined hall, hop, clause_of_joined halld, ?_⟩
  have hchain : Condition.chain q ambient (c :: (cs ++ d :: ds)) =
      Condition.chain q ambient (c :: cs) ++
        op.sql :: Condition.chain q ambient (d :: ds) := by
    simp [Condition.chain, Condition.link, hop]
  have hne : Condition.chain q ambient (c :: cs) ≠ [] := List.cons_ne_nil _ _
  rw [hchain, String.intercalate_append_of_ne_nil hne (List.cons_ne_nil _ _),
    Condition.chain, Condition.chain, String.intercalate_cons_cons]
  simp only [String.append_assoc]

end Conditions

/-! ### Lists that are written alike -/

/-- Two conditions that are written alike, one for one table and the other for another: they have
the same connective and the same predicate. -/
structure Condition.WrittenAlike (q : Quoter) (a b : Ident) (c d : Condition) : Prop where
  connective : c.connective = d.connective
  render : c.render q a = d.render q b

namespace Conditions

variable {q : Quoter} {a b : Ident} {cs ds : List Condition}

lemma chain_congr (h : List.Forall₂ (Condition.WrittenAlike q a b) cs ds) :
    Condition.chain q a cs = Condition.chain q b ds := by
  have hlinks {cs ds} (h : List.Forall₂ (Condition.WrittenAlike q a b) cs ds) :
      cs.flatMap (Condition.link q a) = ds.flatMap (Condition.link q b) := by
    induction h with
    | nil => rfl
    | cons hd _ ih =>
        rw [List.flatMap_cons, List.flatMap_cons, ih, Condition.link, Condition.link,
          hd.connective, hd.render]
  cases h with
  | nil => rfl
  | cons hd hrest => rw [Condition.chain, Condition.chain, hd.render, hlinks hrest]

lemma joined_congr (h : List.Forall₂ (Condition.WrittenAlike q a b) cs ds) :
    (cs.findIdx? fun c => c.connective.isNone) = ds.findIdx? fun d => d.connective.isNone := by
  induction h with
  | nil => rfl
  | cons hd _ ih => rw [List.findIdx?_cons, List.findIdx?_cons, hd.connective, ih]

/-- Lists that are written alike for a table have the same clause, or fail in the same way. -/
lemma clause_congr (h : List.Forall₂ (Condition.WrittenAlike q a a) cs ds) :
    clause q a (.list cs) = clause q a (.list ds) := by
  have hchain := chain_congr h
  cases h with
  | nil => rfl
  | cons _ hrest => rw [clause_cons_eq, clause_cons_eq, joined_congr hrest, hchain]

/-- Lists that are written alike for two tables have the same clauses. Errors tell the table, so
they may differ. -/
lemma clause_eq_ok_iff_of_alike (h : List.Forall₂ (Condition.WrittenAlike q a b) cs ds)
    {sql : String} : clause q a (.list cs) = .ok sql ↔ clause q b (.list ds) = .ok sql := by
  have hchain := chain_congr h
  cases h with
  | nil => rfl
  | cons _ hrest =>
      rw [clause_cons_eq_ok_iff, clause_cons_eq_ok_iff, hchain, ← findIdx?_eq_none_iff_joined,
        joined_congr hrest, findIdx?_eq_none_iff_joined]

end Conditions

end SqlRequest
