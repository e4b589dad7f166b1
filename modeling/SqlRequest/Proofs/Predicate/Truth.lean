import Mathlib.Tactic
import SqlRequest.Truth

/-!
Predicates in three-valued logic. A predicate is a tree of comparisons, of which nothing is
known but the text, and its truth follows from the truth of these.

* `Truth.all`, `Truth.any`: what becomes of many;
* `Predicate`, `Predicate.truth`: trees and what they come to;
* `Predicate.Part`: the trees that stand within a tree.
-/

namespace SqlRequest

namespace Truth

lemma and_assoc (a b c : Truth) : (a.and b).and c = a.and (b.and c) := by
  cases a <;> cases b <;> cases c <;> rfl

lemma or_assoc (a b c : Truth) : (a.or b).or c = a.or (b.or c) := by
  cases a <;> cases b <;> cases c <;> rfl

@[simp] lemma and_yes (a : Truth) : a.and .yes = a := by
  cases a <;> rfl

@[simp] lemma yes_and (a : Truth) : Truth.yes.and a = a := by
  cases a <;> rfl

@[simp] lemma or_no (a : Truth) : a.or .no = a := by
  cases a <;> rfl

@[simp] lemma no_or (a : Truth) : Truth.no.or a = a := by
  cases a <;> rfl

lemma and_eq_yes_iff {a b : Truth} : a.and b = .yes ↔ a = .yes ∧ b = .yes := by
  cases a <;> cases b <;> decide

lemma or_eq_yes_iff {a b : Truth} : a.or b = .yes ↔ a = .yes ∨ b = .yes := by
  cases a <;> cases b <;> decide

lemma not_eq_yes_iff {a : Truth} : a.not = .yes ↔ a = .no := by
  cases a <;> decide

/-- Whether all of some hold. -/
def all (ts : List Truth) : Truth := ts.foldr and .yes

/-- Whether any of some holds. -/
def any (ts : List Truth) : Truth := ts.foldr or .no

@[simp] lemma all_nil : all [] = .yes := rfl

@[simp] lemma all_cons (t : Truth) (ts : List Truth) : all (t :: ts) = t.and (all ts) := rfl

@[simp] lemma any_nil : any [] = .no := rfl

@[simp] lemma any_cons (t : Truth) (ts : List Truth) : any (t :: ts) = t.or (any ts) := rfl

lemma all_eq_yes_iff {ts : List Truth} : all ts = .yes ↔ ∀ t ∈ ts, t = .yes := by
  induction ts with
  | nil => simp
  | cons t ts ih => rw [all_cons, and_eq_yes_iff, ih, List.forall_mem_cons]

lemma any_eq_yes_iff {ts : List Truth} : any ts = .yes ↔ .yes ∈ ts := by
  induction ts with
  | nil => simp
  | cons t ts ih => rw [any_cons, or_eq_yes_iff, ih, List.mem_cons, eq_comm]

end Truth

/-- A predicate. Its comparisons are texts that are not looked into. -/
inductive Predicate where
  | atom (text : String)
  | not (p : Predicate)
  | and (p q : Predicate)
  | or (p q : Predicate)
  deriving DecidableEq, Repr

namespace Predicate

/-- What a predicate comes to if each of its texts comes to something. -/
def truth (v : String → Truth) : Predicate → Truth
  | .atom text => v text
  | .not p => (p.truth v).not
  | .and p q => (p.truth v).and (q.truth v)
  | .or p q => (p.truth v).or (q.truth v)

/-- A tree stands within another as it is. -/
inductive Part (p : Predicate) : Predicate → Prop
  | refl : Part p p
  | not {q : Predicate} (h : Part p q) : Part p (.not q)
  | andLeft {q r : Predicate} (h : Part p q) : Part p (.and q r)
  | andRight {q r : Predicate} (h : Part p r) : Part p (.and q r)
  | orLeft {q r : Predicate} (h : Part p q) : Part p (.or q r)
  | orRight {q r : Predicate} (h : Part p r) : Part p (.or q r)

/-- What is joined to what stands before it, if anything does. -/
def joined (join : Predicate → Predicate → Predicate) (before : Option Predicate)
    (p : Predicate) : Predicate :=
  before.elim p fun q => join q p

end Predicate

end SqlRequest
