import SqlRequest.Engine
import SqlRequest.Gateway.Scripted
import SqlRequest.Proofs.Gateway.Trace

/-!
Inserts and their transactions, whatever the gateway answers.

* `Storing`: what the work of an insert calls and how it wants its transaction to end;
* `InsertRun`: the six runs of an insert, each with its result and all its events;
* `insert_run`: every insert of a row with values is one of these runs;
* `FollowsProtocol`: what a run of an insert may call, in which order, and which of the
  answers decide its result;
* `insert_followsProtocol`: every insert of a row with values follows the protocol.
-/

namespace SqlRequest

namespace Engine

variable {σ : Type}

/-! ### The work of an insert -/

/-- What an insert does within its transaction. -/
def storing (g : Gateway σ) (sql : String) : Session σ (Finish × Outcome (Option Int64)) := do
  if ← g.execute sql then
    let id ← g.lastInsertId
    return (.commit, .executed (some id))
  else
    return (.rollback, .executed none)

/-- An insert that is not to debug, of a row that is not empty, is one transaction. -/
lemma insert_eq_transaction (g : Gateway σ) {r : Insert} (hdebug : r.debug = false)
    (hvalues : r.values.isEmpty = false) :
    insert g r = g.transaction (storing g (r.render g.quoter)) := by
  simp only [insert, hdebug, hvalues, Bool.false_eq_true, if_false]
  rfl

/-- The work of an insert that is refused runs its statement and nothing else. -/
lemma storing_of_refused {g : Gateway σ} {sql : String} {s s' : σ}
    (h : g.execute sql s = (.ok false, s')) :
    storing g sql s = (.ok (.rollback, .executed none), s') := by
  rw [storing, Session.bind_of_ok h]
  rfl

/-- The work of an insert that stores a row goes on to ask for its number. -/
lemma storing_of_stored {g : Gateway σ} {sql : String} {id : Int64} {s s' s'' : σ}
    (h : g.execute sql s = (.ok true, s')) (hid : g.lastInsertId s' = (id, s'')) :
    storing g sql s = (.ok (.commit, .executed (some id)), s'') := by
  rw [storing, Session.bind_of_ok h]
  exact Session.bind_of_ok (Session.lift_of_eq hid)

/-- What the work of an insert gives, with the events of its calls. -/
inductive Storing (sql : String) :
    Except Error (Finish × Outcome (Option Int64)) → List Event → Prop where
  | failed (e : Error) : Storing sql (.error e) [.execute sql (.error e)]
  | refused : Storing sql (.ok (.rollback, .executed none)) [.execute sql (.ok false)]
  | stored (id : Int64) :
      Storing sql (.ok (.commit, .executed (some id)))
        [.execute sql (.ok true), .lastInsertId id]

lemma storing_traced {g : Gateway σ} {sql : String} {p p' : σ × List Event}
    {done : Except Error (Finish × Outcome (Option Int64))}
    (h : storing g.traced sql p = (done, p')) :
    ∃ events, Storing sql done events ∧ p'.2 = p.2 ++ events := by
  obtain ⟨answer, p₁, hexecute⟩ : ∃ answer p₁, g.traced.execute sql p = (answer, p₁) :=
    ⟨_, _, rfl⟩
  have htrace : p₁.2 = p.2 ++ [.execute sql answer] := Gateway.trace_execute hexecute
  cases answer with
  | error e =>
      rw [storing, Session.bind_of_error hexecute] at h
      cases h
      exact ⟨_, .failed e, htrace⟩
  | ok stored =>
      cases stored with
      | false =>
          rw [storing_of_refused hexecute] at h
          cases h
          exact ⟨_, .refused, htrace⟩
      | true =>
          obtain ⟨id, p₂, hid⟩ : ∃ id p₂, g.traced.lastInsertId p₁ = (id, p₂) := ⟨_, _, rfl⟩
          rw [storing_of_stored hexecute hid] at h
          cases h
          refine ⟨_, .stored id, ?_⟩
          rw [Gateway.trace_lastInsertId hid, htrace, List.append_assoc]
          rfl

/-! ### The runs of an insert -/

/-- The six runs of an insert, each with its result and all its events. A cleanup is a
rollback whose answer nobody waits for. -/
inductive InsertRun (sql : String) :
    Except Error (Outcome (Option Int64)) → List Event → Prop where
  | unopened (e : Error) : InsertRun sql (.error e) [.begin (.error e)]
  | failed (e : Error) (cleanup : Except Error Unit) :
      InsertRun sql (.error e)
        [.begin (.ok ()), .execute sql (.error e), .rollback cleanup]
  | refused :
      InsertRun sql (.ok (.executed none))
        [.begin (.ok ()), .execute sql (.ok false), .rollback (.ok ())]
  | stuck (e : Error) :
      InsertRun sql (.error e)
        [.begin (.ok ()), .execute sql (.ok false), .rollback (.error e)]
  | stored (id : Int64) :
      InsertRun sql (.ok (.executed (some id)))
        [.begin (.ok ()), .execute sql (.ok true), .lastInsertId id, .commit (.ok ())]
  | uncommitted (id : Int64) (e : Error) (cleanup : Except Error Unit) :
      InsertRun sql (.error e)
        [.begin (.ok ()), .execute sql (.ok true), .lastInsertId id, .commit (.error e),
          .rollback cleanup]

/-- The events of a transaction that stores a row, from none on. -/
lemma insertRun_of_transacted {g : Gateway σ} {sql : String} {s : σ}
    {ended : Except Error (Outcome (Option Int64)) × σ × List Event}
    (run : g.traced.Transacted (storing g.traced sql) (s, []) ended) :
    InsertRun sql ended.1 ended.2.2 := by
  cases run with
  | unopened opening =>
      rw [Gateway.trace_begin opening]
      exact .unopened _
  | failed opening working cleaning =>
      obtain ⟨events, hstoring, htrace⟩ := storing_traced working
      cases hstoring with
      | failed e =>
          rw [Gateway.trace_rollback cleaning, htrace, Gateway.trace_begin opening]
          exact .failed _ _
  | committed opening working closing =>
      obtain ⟨events, hstoring, htrace⟩ := storing_traced working
      cases hstoring with
      | stored id =>
          rw [Gateway.trace_commit closing, htrace, Gateway.trace_begin opening]
          exact .stored id
  | uncommitted opening working closing cleaning =>
      obtain ⟨events, hstoring, htrace⟩ := storing_traced working
      cases hstoring with
      | stored id =>
          rw [Gateway.trace_rollback cleaning, Gateway.trace_commit closing, htrace,
            Gateway.trace_begin opening]
          exact .uncommitted id _ _
  | undone opening working closing =>
      obtain ⟨events, hstoring, htrace⟩ := storing_traced working
      cases hstoring with
      | refused =>
          rw [Gateway.trace_rollback closing, htrace, Gateway.trace_begin opening]
          exact .refused
  | stuck opening working closing =>
      obtain ⟨events, hstoring, htrace⟩ := storing_traced working
      cases hstoring with
      | refused =>
          rw [Gateway.trace_rollback closing, htrace, Gateway.trace_begin opening]
          exact .stuck _
  | abandoned opening working cleaning =>
      -- the work of an insert never leaves its transaction behind
      obtain ⟨events, hstoring, htrace⟩ := storing_traced working
      nomatch hstoring

/-- Every insert of a row with values is one of the runs of `InsertRun`. -/
lemma insert_run (g : Gateway σ) {r : Insert} (s : σ) (hdebug : r.debug = false)
    (hvalues : r.values.isEmpty = false) :
    InsertRun (r.render g.quoter) (insert g.traced r (s, [])).1
      (insert g.traced r (s, [])).2.2 := by
  rw [insert_eq_transaction g.traced hdebug hvalues]
  exact insertRun_of_transacted (g.traced.transacted _ _)

/-! ### The protocol of an insert -/

/-- What a run of an insert owes its database: which calls it may make, in which order,
and which of the answers decide its result. -/
structure FollowsProtocol (sql : String) (result : Except Error (Outcome (Option Int64)))
    (trace : List Event) : Prop where
  /-- Nothing is called before the transaction is begun. -/
  begins : ∃ answer, trace.head? = some (.begin answer)
  /-- A transaction that cannot be begun is all there is. -/
  only_begin : ∀ e, .begin (.error e) ∈ trace → trace = [.begin (.error e)]
  /-- A row is stored exactly if the three answers that matter are all good. -/
  stored_iff : (∃ id, result = .ok (.executed (some id))) ↔
    .begin (.ok ()) ∈ trace ∧ .execute sql (.ok true) ∈ trace ∧ .commit (.ok ()) ∈ trace
  /-- The number of the row is asked for between the statement and the commit. -/
  number_of_stored : ∀ id, result = .ok (.executed (some id)) →
    [.execute sql (.ok true), .lastInsertId id, .commit (.ok ())] <:+: trace
  /-- Whatever else comes of an open transaction ends with its only rollback. -/
  rollback_last : .begin (.ok ()) ∈ trace → (∀ id, result ≠ .ok (.executed (some id))) →
    ∃ answer, trace.getLast? = some (.rollback answer) ∧ trace.countP Event.isRollback = 1
  /-- What is committed is not rolled back. -/
  no_rollback : .commit (.ok ()) ∈ trace → trace.countP Event.isRollback = 0
  /-- The statement of the request is run, at most once, and no other one. -/
  execute_once : trace.countP Event.isExecute ≤ 1
  execute_sql : ∀ statement answer, .execute statement answer ∈ trace → statement = sql
  commit_once : trace.countP Event.isCommit ≤ 1
  /-- Before a commit the statement has been run, and was not refused. -/
  commit_after : ∀ before answer after, trace = before ++ .commit answer :: after →
    .execute sql (.ok true) ∈ before
  /-- A row is refused if its statement is, and that could be undone. -/
  refused_iff : result = .ok (.executed none) ↔
    .execute sql (.ok false) ∈ trace ∧ .rollback (.ok ()) ∈ trace
  /-- The request has been run, not shown. -/
  not_debug : ∀ statement, result ≠ .ok (.debug statement)
  /-- An error is always the first one that there was. -/
  error_iff : ∀ e, result = .error e ↔ trace.findSome? Event.error? = some e

namespace InsertRun

variable {sql : String} {result : Except Error (Outcome (Option Int64))} {trace : List Event}

lemma stored_iff (run : InsertRun sql result trace) :
    (∃ id, result = .ok (.executed (some id))) ↔
      .begin (.ok ()) ∈ trace ∧ .execute sql (.ok true) ∈ trace ∧ .commit (.ok ()) ∈ trace := by
  cases run <;> simp

lemma number_of_stored (run : InsertRun sql result trace) {id : Int64}
    (hresult : result = .ok (.executed (some id))) :
    [.execute sql (.ok true), .lastInsertId id, .commit (.ok ())] <:+: trace := by
  cases hresult
  cases run with
  | stored => exact ⟨[.begin (.ok ())], [], rfl⟩

/-- The runs that store nothing have their rollback at the end. -/
lemma rollback_last (run : InsertRun sql result trace) (hbegin : .begin (.ok ()) ∈ trace)
    (hresult : ∀ id, result ≠ .ok (.executed (some id))) :
    ∃ answer, trace.getLast? = some (.rollback answer) ∧
      trace.countP Event.isRollback = 1 := by
  cases run with
  | unopened e => simp at hbegin
  | failed e cleanup => exact ⟨cleanup, rfl, rfl⟩
  | refused => exact ⟨.ok (), rfl, rfl⟩
  | stuck e => exact ⟨.error e, rfl, rfl⟩
  | stored id => exact absurd rfl (hresult id)
  | uncommitted id e cleanup => exact ⟨cleanup, rfl, rfl⟩

lemma no_rollback (run : InsertRun sql result trace) (hcommit : .commit (.ok ()) ∈ trace) :
    trace.countP Event.isRollback = 0 := by
  cases run with
  | stored id => rfl
  | _ => simp at hcommit

/-- Only the two runs whose statement stored a row get as far as a commit, their only
one. -/
lemma commit_after (run : InsertRun sql result trace) {before after : List Event}
    {answer : Except Error Unit} (hsplit : trace = before ++ .commit answer :: after) :
    .execute sql (.ok true) ∈ before := by
  -- the events before the commit of a run are all that can stand before a commit
  have only_split : ∀ {id : Int64} {closing : Except Error Unit} (rest : List Event),
      (∀ a, .commit a ∉ rest) →
      [.begin (.ok ()), .execute sql (.ok true), .lastInsertId id] ++ .commit closing :: rest =
        before ++ .commit answer :: after → .execute sql (.ok true) ∈ before := by
    intro _ _ rest hrest h
    obtain ⟨rfl, -, -⟩ :=
      (List.append_cons_inj_of_notMem (by simp) (hrest answer)).mp h
    simp
  have hmem : .commit answer ∈ trace := by simp [hsplit]
  cases run with
  | stored id => exact only_split [] (by simp) hsplit
  | uncommitted id e cleanup => exact only_split [.rollback cleanup] (by simp) hsplit
  | _ => simp at hmem

/-- The result is the first error among the answers, if there is one. -/
lemma first_error (run : InsertRun sql result trace) :
    match result with
    | .error e => trace.findSome? Event.error? = some e
    | .ok _ => trace.findSome? Event.error? = none := by
  cases run <;> rfl

lemma error_iff (run : InsertRun sql result trace) (e : Error) :
    result = .error e ↔ trace.findSome? Event.error? = some e := by
  have hfirst := run.first_error
  cases result with
  | error first => rw [hfirst, Except.error.injEq, Option.some.injEq]
  | ok outcome => simp [hfirst]

/-- Every run of an insert follows the protocol. -/
lemma followsProtocol (run : InsertRun sql result trace) : FollowsProtocol sql result trace where
  begins := by cases run <;> exact ⟨_, rfl⟩
  only_begin := by cases run <;> simp
  stored_iff := run.stored_iff
  number_of_stored _ hresult := run.number_of_stored hresult
  rollback_last := run.rollback_last
  no_rollback := run.no_rollback
  execute_once := by cases run <;> simp [List.countP_cons, Event.isExecute]
  execute_sql := by cases run <;> simp
  commit_once := by cases run <;> simp [List.countP_cons, Event.isCommit]
  commit_after _ _ _ hsplit := run.commit_after hsplit
  refused_iff := by cases run <;> simp
  not_debug := by cases run <;> simp
  error_iff := run.error_iff

end InsertRun

/-! ### Every insert -/

/-- The work of an insert does the same with and without its events. -/
lemma storing_traces (g : Gateway σ) (sql : String) :
    Traces (storing g.traced sql) (storing g sql) := by
  refine (Traces.of_answered (.execute sql) (g.execute sql)).bind fun stored => ?_
  cases stored with
  | true => exact (Traces.of_answered .lastInsertId g.lastInsertId).lift.bind fun _ _ => rfl
  | false => exact fun _ => rfl

/-- **Every insert of a row with values follows the protocol**, whatever the gateway
answers: the run over the traced gateway gives the result of the insert and leaves the
connection as the insert does, and its events follow the protocol. -/
theorem insert_followsProtocol (g : Gateway σ) (r : Insert) (s : σ) (hdebug : r.debug = false)
    (hvalues : r.values.isEmpty = false) :
    ∃ result s' trace, insert g r s = (result, s') ∧
      insert g.traced r (s, []) = (result, (s', trace)) ∧
      FollowsProtocol (r.render g.quoter) result trace := by
  have htraces : Traces (insert g.traced r) (insert g r) := by
    rw [insert_eq_transaction g hdebug hvalues, insert_eq_transaction g.traced hdebug hvalues]
    exact Traces.transaction g (storing_traces g _)
  exact ⟨_, _, _, (htraces (s, [])).symm, rfl, (insert_run g s hdebug hvalues).followsProtocol⟩

/-- A row whose parent is missing, for a database that tells so at the commit and then
cannot roll back either: the error is that of the commit. -/
theorem insert_followsProtocol_orphan :
    let r := (Insert.of ⟨"kids"⟩).set ⟨"parentId"⟩ (.integer 9)
    let lost : Error := .transaction "FOREIGN KEY constraint failed"
    let stuck : Error := .transaction "cannot rollback"
    let script : Script := { commit := [.error lost], rollback := [.error stuck] }
    r.debug = false ∧ r.values.isEmpty = false ∧
      ∃ result s' trace, insert (Script.gateway .standard) r script = (result, s') ∧
        insert (Script.gateway .standard).traced r (script, []) = (result, (s', trace)) ∧
        FollowsProtocol (r.render .standard) result trace ∧ result = .error lost := by
  intro r lost stuck script
  obtain ⟨result, s', trace, hinsert, htraced, hprotocol⟩ :=
    insert_followsProtocol (Script.gateway .standard) r script rfl rfl
  refine ⟨rfl, rfl, result, s', trace, hinsert, htraced, hprotocol, ?_⟩
  exact (congrArg Prod.fst hinsert).symm

end Engine

end SqlRequest
