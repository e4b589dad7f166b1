import SqlRequest.Gateway.Transaction
import SqlRequest.Proofs.Fallible

/-!
What can become of a transaction.

* `abandon_of_rollback`, `orAbandon_of_ok`, `orAbandon_of_error`: giving a transaction up never
  fails, and what failed before keeps its error;
* `Transacted`: the seven ways in which a transaction goes, each with its result and the
  state it leaves;
* `transacted`: every transaction goes in one of these ways, whatever the gateway answers.
-/

namespace SqlRequest

namespace Gateway

variable {σ α : Type}

/-! ### Giving a transaction up -/

/-- The answer of the rollback is dropped, the state it leaves is not. -/
lemma abandon_of_rollback {g : Gateway σ} {cleanup : Except Error Unit} {s s' : σ}
    (cleaning : g.rollback s = (cleanup, s')) : g.abandon s = (.ok (), s') := by
  cases cleanup with
  | ok => exact Session.tryCatch_of_ok cleaning
  | error e => exact Session.tryCatch_of_error cleaning

lemma orAbandon_of_ok (g : Gateway σ) {act : Session σ α} {a : α} {s s' : σ}
    (h : act s = (.ok a, s')) : g.orAbandon act s = (.ok a, s') :=
  Session.tryCatch_of_ok h

/-- Work that fails is followed by a rollback, whose answer does not count. -/
lemma orAbandon_of_error {g : Gateway σ} {act : Session σ α} {e : Error}
    {cleanup : Except Error Unit} {s s' s'' : σ} (h : act s = (.error e, s'))
    (cleaning : g.rollback s' = (cleanup, s'')) : g.orAbandon act s = (.error e, s'') := by
  rw [orAbandon, Session.tryCatch_of_error h, Session.bind_of_ok (abandon_of_rollback cleaning)]
  rfl

/-! ### The ways of a transaction -/

/-- The ways in which a transaction goes from a state on, each with its result and the
state it leaves. A rollback that cleans up may give any answer. -/
inductive Transacted (g : Gateway σ) (work : Session σ (Finish × α)) (s : σ) :
    Except Error α × σ → Prop where
  | unopened {e : Error} {s₁ : σ} (opening : g.begin s = (.error e, s₁)) :
      Transacted g work s (.error e, s₁)
  | failed {e : Error} {cleanup : Except Error Unit} {s₁ s₂ s₃ : σ}
      (opening : g.begin s = (.ok (), s₁)) (working : work s₁ = (.error e, s₂))
      (cleaning : g.rollback s₂ = (cleanup, s₃)) :
      Transacted g work s (.error e, s₃)
  | committed {a : α} {s₁ s₂ s₃ : σ} (opening : g.begin s = (.ok (), s₁))
      (working : work s₁ = (.ok (.commit, a), s₂)) (closing : g.commit s₂ = (.ok (), s₃)) :
      Transacted g work s (.ok a, s₃)
  | uncommitted {a : α} {e : Error} {cleanup : Except Error Unit} {s₁ s₂ s₃ s₄ : σ}
      (opening : g.begin s = (.ok (), s₁)) (working : work s₁ = (.ok (.commit, a), s₂))
      (closing : g.commit s₂ = (.error e, s₃)) (cleaning : g.rollback s₃ = (cleanup, s₄)) :
      Transacted g work s (.error e, s₄)
  | undone {a : α} {s₁ s₂ s₃ : σ} (opening : g.begin s = (.ok (), s₁))
      (working : work s₁ = (.ok (.rollback, a), s₂)) (closing : g.rollback s₂ = (.ok (), s₃)) :
      Transacted g work s (.ok a, s₃)
  | stuck {a : α} {e : Error} {s₁ s₂ s₃ : σ} (opening : g.begin s = (.ok (), s₁))
      (working : work s₁ = (.ok (.rollback, a), s₂))
      (closing : g.rollback s₂ = (.error e, s₃)) :
      Transacted g work s (.error e, s₃)
  | abandoned {a : α} {cleanup : Except Error Unit} {s₁ s₂ s₃ : σ}
      (opening : g.begin s = (.ok (), s₁)) (working : work s₁ = (.ok (.abandon, a), s₂))
      (cleaning : g.rollback s₂ = (cleanup, s₃)) :
      Transacted g work s (.ok a, s₃)

/-- Once its work is done, only the end of a transaction is left. -/
lemma transaction_of_ok (g : Gateway σ) {work : Session σ (Finish × α)} {how : Finish} {a : α}
    {s s₁ s₂ : σ} (opening : g.begin s = (.ok (), s₁)) (working : work s₁ = (.ok (how, a), s₂)) :
    g.transaction work s = (g.finish how >>= fun _ => pure a : Session σ α) s₂ := by
  rw [transaction, Session.bind_of_ok opening,
    Session.bind_of_ok (g.orAbandon_of_ok working)]

/-- A transaction whose work is done goes the way it is to end. -/
lemma transacted_of_ok (g : Gateway σ) {work : Session σ (Finish × α)} {how : Finish} {a : α}
    {s s₁ s₂ : σ} (opening : g.begin s = (.ok (), s₁)) (working : work s₁ = (.ok (how, a), s₂)) :
    Transacted g work s (g.transaction work s) := by
  rw [g.transaction_of_ok opening working]
  cases how with
  | commit =>
      obtain ⟨closed, s₃, closing⟩ : ∃ closed s₃, g.commit s₂ = (closed, s₃) := ⟨_, _, rfl⟩
      cases closed with
      | ok =>
          rw [finish, Session.bind_of_ok (g.orAbandon_of_ok closing)]
          exact .committed opening working closing
      | error e =>
          obtain ⟨cleanup, s₄, cleaning⟩ : ∃ cleanup s₄, g.rollback s₃ = (cleanup, s₄) :=
            ⟨_, _, rfl⟩
          rw [finish, Session.bind_of_error (orAbandon_of_error closing cleaning)]
          exact .uncommitted opening working closing cleaning
  | rollback =>
      obtain ⟨closed, s₃, closing⟩ : ∃ closed s₃, g.rollback s₂ = (closed, s₃) := ⟨_, _, rfl⟩
      cases closed with
      | ok =>
          rw [finish, Session.bind_of_ok closing]
          exact .undone opening working closing
      | error e =>
          rw [finish, Session.bind_of_error closing]
          exact .stuck opening working closing
  | abandon =>
      obtain ⟨cleanup, s₃, cleaning⟩ : ∃ cleanup s₃, g.rollback s₂ = (cleanup, s₃) :=
        ⟨_, _, rfl⟩
      rw [finish, Session.bind_of_ok (abandon_of_rollback cleaning)]
      exact .abandoned opening working cleaning

/-- **Every transaction goes in one of the ways of `Transacted`**, whatever the gateway
answers. -/
theorem transacted (g : Gateway σ) (work : Session σ (Finish × α)) (s : σ) :
    Transacted g work s (g.transaction work s) := by
  obtain ⟨begun, s₁, opening⟩ : ∃ begun s₁, g.begin s = (begun, s₁) := ⟨_, _, rfl⟩
  cases begun with
  | error e =>
      rw [transaction, Session.bind_of_error opening]
      exact .unopened opening
  | ok =>
      obtain ⟨worked, s₂, working⟩ : ∃ worked s₂, work s₁ = (worked, s₂) := ⟨_, _, rfl⟩
      cases worked with
      | error e =>
          obtain ⟨cleanup, s₃, cleaning⟩ : ∃ cleanup s₃, g.rollback s₂ = (cleanup, s₃) :=
            ⟨_, _, rfl⟩
          rw [transaction, Session.bind_of_ok opening,
            Session.bind_of_error (orAbandon_of_error working cleaning)]
          exact .failed opening working cleaning
      | ok done => exact g.transacted_of_ok opening working

end Gateway

end SqlRequest
