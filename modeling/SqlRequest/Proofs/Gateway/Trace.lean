import SqlRequest.Proofs.Gateway.Transaction

/-!
Gateways whose calls are written down with their answers.

* `Event`: a call with the answer it got; `Event.error?` is the error among the answers;
* `Gateway.traced`: the same gateway, which also writes its events down in order;
* `Traces`: a computation that, the events forgotten, is another one. Sequences, handlers
  and transactions over a traced gateway all trace those over the gateway itself, so what
  is read off the events of a run holds of the run without them.
-/

namespace SqlRequest

/-- A call of a gateway with the answer it got. -/
inductive Event where
  | execute (sql : String) (answer : Except Error Bool)
  | fetchOne (sql : String) (answer : Except Error (Option Row))
  | fetchAll (sql : String) (answer : Except Error (List Row))
  | begin (answer : Except Error Unit)
  | commit (answer : Except Error Unit)
  | rollback (answer : Except Error Unit)
  | lastInsertId (id : Int64)

namespace Event

/-- The error that was the answer, if it was one. -/
def error? : Event → Option Error
  | execute _ (.error e) => some e
  | fetchOne _ (.error e) => some e
  | fetchAll _ (.error e) => some e
  | begin (.error e) => some e
  | commit (.error e) => some e
  | rollback (.error e) => some e
  | _ => none

def isExecute : Event → Bool
  | execute _ _ => true
  | _ => false

def isCommit : Event → Bool
  | commit _ => true
  | _ => false

def isRollback : Event → Bool
  | rollback _ => true
  | _ => false

end Event

variable {σ α β : Type}

/-! ### Writing events down -/

/-- A call that writes down what it answered. -/
def answered (event : α → Event) (act : StateM σ α) : StateM (σ × List Event) α :=
  fun (s, trace) =>
    let (a, s') := act s
    (a, (s', trace ++ [event a]))

/-- The same gateway, with all its calls and their answers written down in order. -/
def Gateway.traced (g : Gateway σ) : Gateway (σ × List Event) where
  quoter := g.quoter
  execute sql := answered (.execute sql) (g.execute sql)
  fetchOne sql := answered (.fetchOne sql) (g.fetchOne sql)
  fetchAll sql := answered (.fetchAll sql) (g.fetchAll sql)
  begin := answered .begin g.begin
  commit := answered .commit g.commit
  rollback := answered .rollback g.rollback
  lastInsertId := answered .lastInsertId g.lastInsertId

@[simp] lemma Gateway.quoter_traced (g : Gateway σ) : g.traced.quoter = g.quoter := rfl

/-- A call adds one event, with its own answer. -/
lemma trace_answered {event : α → Event} {act : StateM σ α} {a : α} {p p' : σ × List Event}
    (h : answered event act p = (a, p')) : p'.2 = p.2 ++ [event a] := by
  cases h
  rfl

/-- A call does behind its event what it does without. -/
lemma run_of_answered {event : α → Event} {act : StateM σ α} {a : α} {p p' : σ × List Event}
    (h : answered event act p = (a, p')) : act p.1 = (a, p'.1) := by
  cases h
  rfl

/-- A computation that makes one call and then only looks at the answer. -/
lemma answered_bind (event : Except Error α → Event) (call : Session σ α)
    {next : α → Session (σ × List Event) β} {look : α → Except Error β}
    (hnext : ∀ a p, next a p = (look a, p)) (p : σ × List Event) :
    ∃ answer s', (answered event call >>= next : Session (σ × List Event) β) p =
      (answer >>= look, (s', p.2 ++ [event answer])) := by
  obtain ⟨answer, p', hcall⟩ : ∃ answer p', answered event call p = (answer, p') := ⟨_, _, rfl⟩
  refine ⟨answer, p'.1, ?_⟩
  rw [← trace_answered hcall]
  cases answer with
  | ok a =>
      rw [Session.bind_of_ok hcall, hnext]
      rfl
  | error e =>
      rw [Session.bind_of_error hcall]
      rfl

namespace Gateway

variable {g : Gateway σ} {p p' : σ × List Event}

lemma trace_execute {sql : String} {answer : Except Error Bool}
    (h : g.traced.execute sql p = (answer, p')) : p'.2 = p.2 ++ [.execute sql answer] :=
  trace_answered h

lemma trace_begin {answer : Except Error Unit} (h : g.traced.begin p = (answer, p')) :
    p'.2 = p.2 ++ [.begin answer] :=
  trace_answered h

lemma trace_commit {answer : Except Error Unit} (h : g.traced.commit p = (answer, p')) :
    p'.2 = p.2 ++ [.commit answer] :=
  trace_answered h

lemma trace_rollback {answer : Except Error Unit} (h : g.traced.rollback p = (answer, p')) :
    p'.2 = p.2 ++ [.rollback answer] :=
  trace_answered h

lemma trace_lastInsertId {id : Int64} (h : g.traced.lastInsertId p = (id, p')) :
    p'.2 = p.2 ++ [.lastInsertId id] :=
  trace_answered h

end Gateway

/-! ### Forgetting events -/

/-- A computation that gives what another one gives and leaves the connection as that one
does, apart from the events it writes down. -/
def Traces (traced : StateM (σ × List Event) α) (act : StateM σ α) : Prop :=
  ∀ p, ((traced p).1, (traced p).2.1) = act p.1

namespace Traces

lemma of_answered (event : α → Event) (act : StateM σ α) : Traces (answered event act) act :=
  fun _ => rfl

lemma of_pure (a : α) :
    Traces (σ := σ) (pure a : Session (σ × List Event) α) (pure a : Session σ α) :=
  fun _ => rfl

lemma lift {traced : StateM (σ × List Event) α} {act : StateM σ α} (h : Traces traced act) :
    Traces (liftM traced : Session (σ × List Event) α) (liftM act : Session σ α) := by
  intro p
  have hp := (h p).symm
  obtain ⟨a, p', ht⟩ : ∃ a p', traced p = (a, p') := ⟨_, _, rfl⟩
  rw [ht] at hp
  rw [Session.lift_of_eq ht, Session.lift_of_eq hp]

lemma bind {traced : Session (σ × List Event) α} {act : Session σ α}
    {next : α → Session (σ × List Event) β} {next' : α → Session σ β}
    (h : Traces traced act) (hnext : ∀ a, Traces (next a) (next' a)) :
    Traces (traced >>= next : Session (σ × List Event) β) (act >>= next' : Session σ β) := by
  intro p
  have hp := (h p).symm
  obtain ⟨a, p', ht⟩ : ∃ a p', traced p = (a, p') := ⟨_, _, rfl⟩
  rw [ht] at hp
  cases a with
  | ok a =>
      rw [Session.bind_of_ok ht, Session.bind_of_ok hp]
      exact hnext a p'
  | error e => rw [Session.bind_of_error ht, Session.bind_of_error hp]

lemma tryCatch {traced : Session (σ × List Event) α} {act : Session σ α}
    {handler : Error → Session (σ × List Event) α} {handler' : Error → Session σ α}
    (h : Traces traced act) (hhandler : ∀ e, Traces (handler e) (handler' e)) :
    Traces (tryCatch traced handler : Session (σ × List Event) α)
      (tryCatch act handler' : Session σ α) := by
  intro p
  have hp := (h p).symm
  obtain ⟨a, p', ht⟩ : ∃ a p', traced p = (a, p') := ⟨_, _, rfl⟩
  rw [ht] at hp
  cases a with
  | ok a => rw [Session.tryCatch_of_ok ht, Session.tryCatch_of_ok hp]
  | error e =>
      rw [Session.tryCatch_of_error ht, Session.tryCatch_of_error hp]
      exact hhandler e p'

/-! ### Transactions -/

lemma abandon (g : Gateway σ) : Traces g.traced.abandon g.abandon :=
  (of_answered .rollback g.rollback).tryCatch fun _ => of_pure ()

lemma orAbandon (g : Gateway σ) {traced : Session (σ × List Event) α} {act : Session σ α}
    (h : Traces traced act) : Traces (g.traced.orAbandon traced) (g.orAbandon act) :=
  h.tryCatch fun _ => (abandon g).bind fun _ _ => rfl

lemma finish (g : Gateway σ) (how : Finish) : Traces (g.traced.finish how) (g.finish how) := by
  cases how with
  | commit => exact orAbandon g (of_answered .commit g.commit)
  | rollback => exact of_answered .rollback g.rollback
  | abandon => exact abandon g

/-- A transaction over a traced gateway traces the transaction itself. -/
lemma transaction (g : Gateway σ) {traced : Session (σ × List Event) (Finish × α)}
    {work : Session σ (Finish × α)} (h : Traces traced work) :
    Traces (g.traced.transaction traced) (g.transaction work) :=
  (of_answered .begin g.begin).bind fun _ => (orAbandon g h).bind fun done =>
    (finish g done.1).bind fun _ => of_pure done.2

end Traces

end SqlRequest
