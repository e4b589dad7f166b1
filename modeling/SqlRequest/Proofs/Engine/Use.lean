import SqlRequest.Proofs.Engine.Operation
import SqlRequest.Proofs.Gateway.Ledger

/-!
A connection over many uses, operations of an engine and transactions of one's own, in any
order and with any answers.

* `Use`: one thing that a connection is used for; `Use.after`: the connection after a list
  of them;
* `Use.StoresNothing`: the uses whose result says that they have stored nothing;
* `Use.closed_of_run`: what one use does to a connection with nothing open;
* `Use.nothing_left_open`: after every use of every list nothing is open, what was opened has
  been closed, and a use that stores nothing has not changed the committed data.
-/

namespace SqlRequest

/-- One thing that a connection is used for. -/
inductive Use where
  | operation (o : Operation)
  /-- Statements in a transaction of their own, up to the first that fails. -/
  | batch (statements : List String) (how : Finish)

namespace Use

variable {σ δ : Type}

/-- What a use gives. -/
abbrev Answer : Use → Type
  | operation o => Outcome o.Answer
  | batch _ _ => Unit

def run (g : Gateway σ) : (u : Use) → Session σ u.Answer
  | operation o => o.run g
  | batch statements how => g.batch statements how

/-- The connection after some uses, one after the other. -/
def after (g : Gateway σ) (s : σ) (uses : List Use) : σ :=
  uses.foldl (fun s u => (u.run g s).2) s

/-- What the result of a use says when nothing has been stored: there is no number of an
inserted row, or the commit of a transaction was not asked for or has failed. -/
inductive StoresNothing : (u : Use) → Except Error u.Answer → Prop where
  | insert {r : Insert} {result : Except Error (Outcome (Option Int64))}
      (h : ∀ id, result ≠ .ok (.executed (some id))) :
      StoresNothing (operation (.insert r)) result
  | batch {statements : List String} {how : Finish} {result : Except Error Unit}
      (h : how ≠ .commit ∨ result ≠ .ok ()) : StoresNothing (batch statements how) result

/-! ### Events of uses -/

lemma executeAll_traces (g : Gateway σ) (statements : List String) :
    Traces (g.traced.executeAll statements) (g.executeAll statements) := by
  induction statements with
  | nil => exact Traces.of_pure ()
  | cons sql rest ih => exact (Traces.of_answered (.execute sql) (g.execute sql)).bind fun _ => ih

/-- Writing down the events of a use changes nothing. -/
lemma run_traces (g : Gateway σ) (u : Use) : Traces (u.run g.traced) (u.run g) := by
  cases u with
  | operation o => exact Operation.run_traces g o
  | batch statements how =>
      exact Traces.transaction g ((executeAll_traces g statements).bind fun _ =>
        Traces.of_pure (how, ()))

lemma after_traced (g : Gateway σ) (p : σ × List Event) (uses : List Use) :
    (after g.traced p uses).1 = after g p.1 uses := by
  induction uses generalizing p with
  | nil => rfl
  | cons u uses ih =>
      have hrun := congrArg Prod.snd (run_traces g u p)
      simp only at hrun
      rw [after, List.foldl_cons, ← after, ih, hrun]
      rfl

/-! ### One use -/

section Step

variable {g : Gateway σ} {look : σ → Ledger δ}

/-- The statements of a transaction keep the books. -/
lemma keepsBooks_executeAll (laws : Transactional g look) (statements : List String) :
    KeepsBooks look (g.traced.executeAll statements) := by
  induction statements with
  | nil => exact .of_eq _ fun _ => rfl
  | cons sql rest ih =>
      exact (KeepsBooks.of_worked (fun _ => ⟨rfl, rfl⟩) (laws.execute sql)).bind fun _ => ih

/-- The work of an insert keeps the books. -/
lemma keepsBooks_storing (laws : Transactional g look) (sql : String) :
    KeepsBooks look (Engine.storing g.traced sql) := by
  refine (KeepsBooks.of_worked (fun _ => ⟨rfl, rfl⟩) (laws.execute sql)).bind fun stored => ?_
  cases stored with
  | true =>
      exact (KeepsBooks.of_worked (fun _ => ⟨rfl, rfl⟩) laws.lastInsertId).lift.bind fun _ =>
        .of_eq _ fun _ => rfl
  | false => exact .of_eq _ fun _ => rfl

/-- An operation that is no insert keeps the books. -/
lemma keepsBooks_carryOut (laws : Transactional g look) (sql : String) {o : Operation}
    (ho : ∀ r, o ≠ .insert r) : KeepsBooks look (o.carryOut g.traced sql) := by
  cases o with
  | get r =>
      exact (KeepsBooks.of_worked (fun _ => ⟨rfl, rfl⟩) (laws.fetchOne sql)).bind fun fetched =>
        .of_eq _ (Operation.pick_eq r fetched)
  | getAll r | getAllOf _ _ =>
      exact (KeepsBooks.of_worked (fun _ => ⟨rfl, rfl⟩) (laws.fetchAll sql)).bind fun _ =>
        .of_eq _ fun _ => rfl
  | update r | delete r =>
      exact (KeepsBooks.of_worked (fun _ => ⟨rfl, rfl⟩) (laws.execute sql)).bind fun _ =>
        .of_eq _ fun _ => rfl
  | insert r => exact absurd rfl (ho r)

variable {p : σ × List Event}

/-- The transaction of an insert leaves nothing open, and changes the committed data only if
it gives the number of a row. -/
lemma closed_of_insert (laws : Transactional g look) (hp : Closed look p) (sql : String)
    (r : Insert) :
    Closed look ((Operation.insert r).carryOut g.traced sql p).2 ∧
      (StoresNothing (operation (.insert r)) ((Operation.insert r).carryOut g.traced sql p).1 →
        (look ((Operation.insert r).carryOut g.traced sql p).2.1).committed =
          (look p.1).committed) := by
  obtain ⟨hclosed, hcommitted | ⟨a, p₁, p₂, hwork, hresult⟩⟩ :=
    closed_of_transaction laws (keepsBooks_storing laws sql) hp
  · exact ⟨hclosed, fun _ => hcommitted⟩
  · refine ⟨hclosed, fun hnothing => ?_⟩
    obtain ⟨events, hstoring, -⟩ := Engine.storing_traced hwork
    cases hstoring with
    | stored id =>
        cases hnothing with
        | insert h => exact absurd hresult (h id)

/-- A transaction of one's own leaves nothing open, and changes the committed data only if
its commit succeeds. -/
lemma closed_of_batch (laws : Transactional g look) (hp : Closed look p)
    (statements : List String) (how : Finish) :
    Closed look (g.traced.batch statements how p).2 ∧
      (StoresNothing (batch statements how) (g.traced.batch statements how p).1 →
        (look (g.traced.batch statements how p).2.1).committed = (look p.1).committed) := by
  have hwork : KeepsBooks look
      (do g.traced.executeAll statements; return (how, ()) :
        Session (σ × List Event) (Finish × Unit)) :=
    (keepsBooks_executeAll laws statements).bind fun _ => .of_eq _ fun _ => rfl
  obtain ⟨hclosed, hcommitted | ⟨a, p₁, p₂, hdone, hresult⟩⟩ :=
    closed_of_transaction laws hwork hp
  · exact ⟨hclosed, fun _ => hcommitted⟩
  · refine ⟨hclosed, fun hnothing => ?_⟩
    -- the work gives the end that the batch is to have
    have hhow : how = .commit := by
      obtain ⟨done, p₃, hall⟩ : ∃ done p₃, g.traced.executeAll statements p₁ = (done, p₃) :=
        ⟨_, _, rfl⟩
      cases done with
      | error e =>
          rw [Session.bind_of_error hall] at hdone
          cases hdone
      | ok =>
          rw [Session.bind_of_ok hall] at hdone
          cases hdone
          rfl
    cases hnothing with
    | batch h => exact absurd hresult (h.resolve_left (not_not.mpr hhow))

/-- A use of a connection with nothing open leaves nothing open, and leaves the committed
data as it was if it stores nothing. -/
lemma closed_of_run (laws : Transactional g look) (hp : Closed look p) (u : Use) :
    Closed look (u.run g.traced p).2 ∧
      (u.StoresNothing (u.run g.traced p).1 →
        (look (u.run g.traced p).2.1).committed = (look p.1).committed) := by
  cases u with
  | batch statements how => exact closed_of_batch laws hp statements how
  | operation o =>
      rw [run]
      have way := Operation.ran g.traced o p
      generalize o.run g.traced p = ended at way ⊢
      cases way with
      | unprepared | shown | unset => exact ⟨hp, fun _ => rfl⟩
      | carriedOut =>
          cases o with
          | insert r => exact closed_of_insert laws hp _ r
          | _ =>
              refine ⟨(keepsBooks_carryOut laws _ (by simp)).closed p hp, fun hnothing => ?_⟩
              nomatch hnothing

/-- Uses of a connection with nothing open leave nothing open. -/
lemma closed_after (laws : Transactional g look) (hp : Closed look p) (uses : List Use) :
    Closed look (after g.traced p uses) := by
  induction uses generalizing p with
  | nil => exact hp
  | cons u uses ih => exact ih (closed_of_run laws hp u).1

end Step

/-! ### Every use -/

/-- **Nothing is ever left open**, whatever the gateway answers and whatever a connection is
used for, from a state with nothing open on: after each use no transaction is open and as
many have been closed as were opened, and a use that stores nothing leaves the committed
data as it found it. -/
theorem nothing_left_open {g : Gateway σ} {look : σ → Ledger δ} (laws : Transactional g look)
    {s : σ} (hs : (look s).isOpen = false) (uses : List Use) (u : Use) :
    ∃ result s' trace, u.run g (after g s uses) = (result, s') ∧
      u.run g.traced (after g.traced (s, []) uses) = (result, (s', trace)) ∧
      (look s').isOpen = false ∧ trace.countP Event.opens = trace.countP Event.closes ∧
      (u.StoresNothing result → (look s').committed = (look (after g s uses)).committed) := by
  have hp : Closed look (after g.traced (s, []) uses) := closed_after laws ⟨hs, rfl⟩ uses
  obtain ⟨hclosed, hcommitted⟩ := closed_of_run laws hp u
  have hrun := run_traces g u (after g.traced (s, []) uses)
  rw [after_traced] at hrun hcommitted
  exact ⟨_, _, _, hrun.symm, rfl, hclosed.isOpen, hclosed.balanced, hcommitted⟩

/-- A row whose parent is missing, for a database that tells so at the commit: nothing of it
is left, and the connection is as good as before. -/
theorem nothing_left_open_orphan :
    let kid := (Insert.of ⟨"kids"⟩).set ⟨"parentId"⟩ (.integer 9)
    let lost : Error := .transaction "FOREIGN KEY constraint failed"
    let g := Ledger.keeper .standard
    let s : Ledger (List String) × Script := (⟨["CREATE"], none⟩, { commit := [.error lost] })
    let uses := [batch ["DELETE FROM kids;"] .abandon]
    let u := operation (.insert kid)
    Transactional g Prod.fst ∧ s.1.isOpen = false ∧
      ∃ result s' trace, u.run g (after g s uses) = (result, s') ∧
        u.run g.traced (after g.traced (s, []) uses) = (result, (s', trace)) ∧
        s'.1.isOpen = false ∧ trace.countP Event.opens = 2 ∧ trace.countP Event.closes = 2 ∧
        result = .error lost ∧ s'.1.committed = ["CREATE"] := by
  intro kid lost g s uses u
  obtain ⟨result, s', trace, hrun, htraced, hopen, hbalanced, hcommitted⟩ :=
    nothing_left_open (Ledger.keeper_transactional .standard) (s := s) rfl uses u
  have hresult : result = .error lost := (congrArg Prod.fst hrun).symm
  have htwo : trace.countP Event.opens = 2 :=
    (congrArg (fun p => p.2.2.countP Event.opens) htraced).symm
  refine ⟨Ledger.keeper_transactional .standard, rfl, result, s', trace, hrun, htraced, hopen,
    htwo, hbalanced ▸ htwo, hresult, ?_⟩
  exact hcommitted (.insert fun id => by simp [hresult])

end Use

end SqlRequest
