import Mathlib.Tactic
import SqlRequest.Gateway.Basic

/-!
Computations that may fail, taken apart into their steps.

* `bind_eq_ok`, `map_eq_ok`: when two steps in a row succeed, and when a step does of which
  something else is made;
* `Session.bind_of_ok`, `Session.bind_of_error`, `Session.tryCatch_of_ok`,
  `Session.tryCatch_of_error`, `Session.lift_of_eq`: one step of a computation over a
  connection, from the state it is run in.
-/

namespace SqlRequest

/-- Two steps succeed if the first does and the second does with what the first
gives. -/
lemma bind_eq_ok {ε α β : Type} {x : Except ε α} {f : α → Except ε β} {b : β} :
    x >>= f = .ok b ↔ ∃ a, x = .ok a ∧ f a = .ok b := by
  cases x with
  | error e => simp [bind, Except.bind]
  | ok a => simp [bind, Except.bind]

lemma map_eq_ok {ε α β : Type} {x : Except ε α} {f : α → β} {b : β} :
    x.map f = .ok b ↔ ∃ a, x = .ok a ∧ f a = b := by
  cases x <;> simp [Except.map]

namespace Session

variable {σ α β : Type} {act : Session σ α} {s s' : σ}

/-- After a step that succeeds, the next one is run in the state it left. -/
lemma bind_of_ok {f : α → Session σ β} {a : α} (h : act s = (.ok a, s')) :
    (act >>= f : Session σ β) s = f a s' := by
  simp only [bind, ExceptT.bind, ExceptT.mk, StateT.bind, h, ExceptT.bindCont]

/-- A step that fails is the last one. -/
lemma bind_of_error {f : α → Session σ β} {e : Error} (h : act s = (.error e, s')) :
    (act >>= f : Session σ β) s = (.error e, s') := by
  simp only [bind, ExceptT.bind, ExceptT.mk, StateT.bind, h, ExceptT.bindCont]
  rfl

lemma tryCatch_of_ok {f : Error → Session σ α} {a : α} (h : act s = (.ok a, s')) :
    (tryCatch act f : Session σ α) s = (.ok a, s') := by
  simp only [tryCatch, tryCatchThe, MonadExceptOf.tryCatch, ExceptT.tryCatch, ExceptT.mk, bind,
    StateT.bind, h]
  rfl

/-- What is done about an error starts in the state the failed step left. -/
lemma tryCatch_of_error {f : Error → Session σ α} {e : Error} (h : act s = (.error e, s')) :
    (tryCatch act f : Session σ α) s = f e s' := by
  simp only [tryCatch, tryCatchThe, MonadExceptOf.tryCatch, ExceptT.tryCatch, ExceptT.mk, bind,
    StateT.bind, h]

/-- A step that cannot fail does not. -/
lemma lift_of_eq {ask : StateM σ α} {a : α} (h : ask s = (a, s')) :
    (liftM ask : Session σ α) s = (.ok a, s') := by
  change (.ok (ask s).1, (ask s).2) = (Except.ok a, s')
  rw [h]

end Session

end SqlRequest
