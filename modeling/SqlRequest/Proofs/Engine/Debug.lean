import SqlRequest.Proofs.Engine.Operation

/-!
What an operation shows and what it hands to its gateway.

* `Operation.Refused`: the operations that never reach the gateway, whatever its answers are;
* `Operation.Handed`: what is handed over when an operation is carried out;
* `Operation.ShowsWhatRuns`: with debug the statement is shown and nothing is called, without
  it that very statement is handed over, once;
* `Operation.rejected_iff`: which errors come before any call, with and without debug;
* `Operation.run_showsWhatRuns`: every operation shows what it would run, and is turned away
  with debug exactly if it is without, but for updates that set nothing.
-/

namespace SqlRequest

/-- The text that a call hands over, if it is one that runs a statement. -/
def Event.sql? : Event → Option String
  | .execute sql _ => some sql
  | .fetchOne sql _ => some sql
  | .fetchAll sql _ => some sql
  | _ => none

namespace Operation

variable {σ : Type}

/-- The operations that are turned away before anything is called. -/
inductive Refused (q : Quoter) : Operation → Prop where
  | unrenderable {o : Operation} (e : Error) (h : o.statement q = .error e) : Refused q o
  | noValues {r : Insert} (h : r.values.isEmpty) : Refused q (insert r)
  | noConditions {r : Delete} (h : r.conditions.isEmpty) : Refused q (delete r)
  | nothingToSet {r : Update} (hdebug : r.debug = false) (h : r.assignments q = []) :
      Refused q (update r)

/-- What there is to say of an operation over a gateway, from its result and its events. -/
structure ShowsWhatRuns (q : Quoter) (o : Operation)
    (result : Except Error (Outcome o.Answer)) (trace : List Event) : Prop where
  /-- With debug nothing is called, and the result is the statement or an error. -/
  debug : o.debug = true → trace = [] ∧
    ((∃ sql, o.statement q = .ok sql ∧ result = .ok (.debug sql)) ∨ ∃ e, result = .error e)
  /-- With debug the statement is shown, unless the operation is refused. -/
  shown : o.debug = true → ¬ o.Refused q →
    ∃ sql, o.statement q = .ok sql ∧ result = .ok (.debug sql)
  not_shown : o.debug = false → ∀ sql, result ≠ .ok (.debug sql)
  /-- No text is handed over but the statement. -/
  handed : ∀ event ∈ trace, ∀ sql, event.sql? = some sql → o.statement q = .ok sql
  /-- Without debug the statement is handed over once, unless the operation is refused or
  its transaction cannot be begun. -/
  handed_once : o.debug = false → ¬ o.Refused q → (∀ e, .begin (.error e) ∉ trace) →
    ∃ sql, o.statement q = .ok sql ∧ trace.filterMap Event.sql? = [sql]
  /-- A transaction that cannot be begun is all there is. -/
  unopened : ∀ e, .begin (.error e) ∈ trace → trace = [.begin (.error e)]
  /-- What is refused ends in an error before anything is called. -/
  refused : o.Refused q → trace = [] ∧ ∃ e, result = .error e
  /-- An update that sets nothing calls nothing, with debug or without. -/
  empty_set : ∀ r, o = update r → r.assignments q = [] → trace = []

/-! ### Handing over -/

/-- What is handed over when an operation is carried out: its statement, once, unless its
transaction cannot be begun. -/
structure Handed {α : Type} (sql : String) (result : Except Error (Outcome α))
    (trace : List Event) : Prop where
  once : (trace.filterMap Event.sql? = [sql] ∧ ∀ e, .begin (.error e) ∉ trace) ∨
    ∃ e, trace = [.begin (.error e)]
  executed : ∀ text, result ≠ .ok (.debug text)

/-- The one event of an operation that consists of a call with a text. -/
lemma handed_singleton {α : Type} {sql : String} {result : Except Error (Outcome α)}
    {event : Event} (hevent : event.sql? = some sql)
    (hresult : ∀ text, result ≠ .ok (.debug text)) : Handed sql result [event] where
  once := by
    refine .inl ⟨by simp [hevent], fun e hmem => ?_⟩
    rw [← List.mem_singleton.mp hmem] at hevent
    simp [Event.sql?] at hevent
  executed := hresult

/-- An operation that makes one call with a text and then only looks at the answer hands
over that text. -/
lemma handed_of_call {α β : Type} {sql : String} (event : Except Error β → Event)
    (hevent : ∀ answer, (event answer).sql? = some sql) (call : Session σ β)
    {next : β → Session (σ × List Event) (Outcome α)} (look : β → Except Error (Outcome α))
    (hnext : ∀ b p, next b p = (look b, p)) (hlook : ∀ b text, look b ≠ .ok (.debug text))
    (s : σ) :
    Handed sql ((answered event call >>= next : Session (σ × List Event) (Outcome α)) (s, [])).1
      ((answered event call >>= next : Session (σ × List Event) (Outcome α)) (s, [])).2.2 := by
  obtain ⟨answer, s', hrun⟩ := answered_bind event call hnext (s, [])
  rw [hrun]
  refine handed_singleton (hevent answer) fun text => ?_
  cases answer with
  | error e => simp [bind, Except.bind]
  | ok b => exact hlook b text

/-- The runs of an insert hand its statement over. -/
lemma handed_of_insertRun {sql : String} {result : Except Error (Outcome (Option Int64))}
    {trace : List Event} (run : Engine.InsertRun sql result trace) : Handed sql result trace := by
  cases run with
  | unopened e => exact ⟨.inr ⟨e, rfl⟩, by simp⟩
  | _ => exact ⟨.inl ⟨rfl, by simp⟩, by simp⟩

/-- An operation that is carried out hands over the statement that it is given. -/
lemma carryOut_handed (g : Gateway σ) (sql : String) (o : Operation) (s : σ) :
    Handed sql (o.carryOut g.traced sql (s, [])).1 (o.carryOut g.traced sql (s, [])).2.2 := by
  cases o with
  | get r =>
      refine handed_of_call (.fetchOne sql) (fun _ => rfl) (g.fetchOne sql) _ (pick_eq r)
        (fun fetched text => ?_) s
      cases fetched with
      | none => simp
      | some row =>
          simp only
          cases r.field.of r.table row <;> simp [Except.map]
  | getAll r | getAllOf _ _ =>
      exact handed_of_call (.fetchAll sql) (fun _ => rfl) (g.fetchAll sql)
        (fun rows => .ok (.executed (Records.ofRows rows))) (fun _ _ => rfl) (by simp) s
  | update r | delete r =>
      exact handed_of_call (.execute sql) (fun _ => rfl) (g.execute sql)
        (fun done => .ok (.executed done)) (fun _ _ => rfl) (by simp) s
  | insert r => exact handed_of_insertRun (Engine.insertRun_of_transacted (g.traced.transacted _ _))

/-! ### Turning operations away -/

section Refused

variable {q : Quoter} {o : Operation}

/-- What an operation is not fit for, or cannot be rendered for, it is refused for. -/
lemma refused_of_prepare_error {e : Error} (h : o.prepare q = .error e) : o.Refused q := by
  cases hunfit : o.unfit? with
  | none => exact .unrenderable e (by simpa [prepare, hunfit] using h)
  | some e' =>
      cases o with
      | insert r => exact .noValues (Option.ite_some_none_eq_some.mp hunfit).1
      | delete r => exact .noConditions (Option.ite_some_none_eq_some.mp hunfit).1
      | _ => simp [unfit?] at hunfit

/-- An operation is refused exactly if it prepares no statement or if what it prepares is
not to be run. -/
lemma refused_iff :
    o.Refused q ↔ (∃ e, o.prepare q = .error e) ∨
      (o.debug = false ∧ ∃ e, o.unset? q = some e) := by
  constructor
  · intro h
    cases h with
    | unrenderable e h =>
        left
        cases hunfit : o.unfit? with
        | none => exact ⟨e, by simpa [prepare, hunfit] using h⟩
        | some e' => exact ⟨e', prepare_of_unfit hunfit⟩
    | noValues h => exact .inl ⟨_, prepare_of_unfit (if_pos h)⟩
    | noConditions h => exact .inl ⟨_, prepare_of_unfit (if_pos h)⟩
    | nothingToSet hdebug h => exact .inr ⟨hdebug, _, if_pos (List.isEmpty_iff.mpr h)⟩
  · rintro (⟨e, h⟩ | ⟨hdebug, e, h⟩)
    · exact refused_of_prepare_error h
    · cases o with
      | update r =>
          exact .nothingToSet hdebug (List.isEmpty_iff.mp (Option.ite_some_none_eq_some.mp h).1)
      | _ => simp [unset?] at h

end Refused

/-! ### The ways of an operation -/

namespace ShowsWhatRuns

variable {q : Quoter} {o : Operation} {sql : String}

lemma of_refused (h : o.Refused q) (e : Error) : ShowsWhatRuns q o (.error e) [] where
  debug _ := ⟨rfl, .inr ⟨e, rfl⟩⟩
  shown _ hnot := absurd h hnot
  not_shown := by simp
  handed := by simp
  handed_once _ hnot := absurd h hnot
  unopened := by simp
  refused _ := ⟨rfl, e, rfl⟩
  empty_set _ _ _ := rfl

lemma of_debug (h : o.prepare q = .ok sql) (hdebug : o.debug = true) :
    ShowsWhatRuns q o (.ok (.debug sql)) [] where
  debug _ := ⟨rfl, .inl ⟨sql, statement_of_prepare h, rfl⟩⟩
  shown _ _ := ⟨sql, statement_of_prepare h, rfl⟩
  not_shown hrun := by simp [hdebug] at hrun
  handed := by simp
  handed_once hrun := by simp [hdebug] at hrun
  unopened := by simp
  refused hrefused := by simp [refused_iff, h, hdebug] at hrefused
  empty_set _ _ _ := rfl

lemma of_handed (h : o.prepare q = .ok sql) (hdebug : o.debug = false) (hset : o.unset? q = none)
    {result : Except Error (Outcome o.Answer)} {trace : List Event}
    (hhanded : Handed sql result trace) : ShowsWhatRuns q o result trace where
  debug hshow := by simp [hdebug] at hshow
  shown hshow := by simp [hdebug] at hshow
  not_shown _ := hhanded.executed
  handed := by
    intro event hmem text htext
    rcases hhanded.once with ⟨honce, -⟩ | ⟨e, rfl⟩
    · have hin : text ∈ trace.filterMap Event.sql? := List.mem_filterMap.mpr ⟨event, hmem, htext⟩
      rw [honce, List.mem_singleton] at hin
      rw [hin]
      exact statement_of_prepare h
    · rw [List.mem_singleton.mp hmem] at htext
      simp [Event.sql?] at htext
  handed_once _ _ hbegun := by
    rcases hhanded.once with ⟨honce, -⟩ | ⟨e, rfl⟩
    · exact ⟨sql, statement_of_prepare h, honce⟩
    · exact absurd (List.mem_singleton_self _) (hbegun e)
  unopened e hmem := by
    rcases hhanded.once with ⟨-, hbegun⟩ | ⟨e', rfl⟩
    · exact absurd hmem (hbegun e)
    · rw [List.mem_singleton.mp hmem]
  refused hrefused := by simp [refused_iff, h, hset] at hrefused
  empty_set := by
    rintro r rfl hempty
    simp [unset?, hempty] at hset

end ShowsWhatRuns

lemma run_shows (g : Gateway σ) (o : Operation) (s : σ) :
    o.ShowsWhatRuns g.quoter (o.run g.traced (s, [])).1 (o.run g.traced (s, [])).2.2 := by
  have way := ran g.traced o (s, [])
  generalize o.run g.traced (s, []) = ended at way ⊢
  cases way with
  | unprepared hprepare => exact .of_refused (refused_of_prepare_error hprepare) _
  | shown hprepare hdebug => exact .of_debug hprepare hdebug
  | unset hprepare hdebug hunset =>
      exact .of_refused (refused_iff.mpr (.inr ⟨hdebug, _, hunset⟩)) _
  | carriedOut hprepare hdebug hset =>
      exact .of_handed hprepare hdebug hset (carryOut_handed g _ o s)

/-! ### Errors before any call -/

lemma prepare_withDebug (q : Quoter) (debug : Bool) (o : Operation) :
    (o.withDebug debug).prepare q = o.prepare q := by
  cases o <;> rfl

lemma unset?_withDebug (q : Quoter) (debug : Bool) (o : Operation) :
    (o.withDebug debug).unset? q = o.unset? q := by
  cases o <;> rfl

/-- The operation ends in an error before anything is called. -/
def Rejected (g : Gateway σ) (s : σ) (o : Operation) (e : Error) : Prop :=
  (o.run g.traced (s, [])).1 = .error e ∧ (o.run g.traced (s, [])).2.2 = []

lemma rejected_iff {g : Gateway σ} {s : σ} {o : Operation} {e : Error} :
    Rejected g s o e ↔ o.prepare g.quoter = .error e ∨
      (∃ sql, o.prepare g.quoter = .ok sql) ∧ o.debug = false ∧ o.unset? g.quoter = some e := by
  have way := ran g.traced o (s, [])
  rw [Rejected]
  generalize o.run g.traced (s, []) = ended at way ⊢
  cases way with
  | unprepared hprepare =>
      rw [Gateway.quoter_traced] at hprepare
      simp [hprepare]
  | shown hprepare hdebug =>
      rw [Gateway.quoter_traced] at hprepare
      simp [hprepare, hdebug]
  | unset hprepare hdebug hunset =>
      rw [Gateway.quoter_traced] at hprepare hunset
      simp [hprepare, hdebug, hunset]
  | @carriedOut sql hprepare hdebug hset =>
      rw [Gateway.quoter_traced] at hprepare hset
      -- whatever is carried out leaves an event behind
      have honce := (carryOut_handed g sql o s).once
      constructor
      · rintro ⟨-, hempty⟩
        simp [hempty] at honce
      · simp [hprepare, hset]

/-- **Every operation shows what it would run**, whatever the gateway answers: with debug it
calls nothing and its result is the statement that it hands over without debug. It is turned
away with debug exactly if it is without, and for the same reason, except that an update
which sets nothing is shown. -/
theorem run_showsWhatRuns (g : Gateway σ) (o : Operation) (s : σ) :
    (∃ result s' trace, o.run g s = (result, s') ∧
      o.run g.traced (s, []) = (result, (s', trace)) ∧
      o.ShowsWhatRuns g.quoter result trace) ∧
    ∀ e, Rejected g s (o.withDebug false) e ↔ Rejected g s (o.withDebug true) e ∨
      ∃ r sql, o = update r ∧ r.render g.quoter = .ok sql ∧ r.assignments g.quoter = [] ∧
        e = .validation (.nothingToSet r.table) := by
  refine ⟨⟨_, _, _, (run_traces g o (s, [])).symm, rfl, run_shows g o s⟩, fun e => ?_⟩
  rw [rejected_iff, rejected_iff, prepare_withDebug, prepare_withDebug, unset?_withDebug]
  simp only [debug_withDebug, Bool.true_eq_false, false_and, and_false, or_false, true_and]
  refine or_congr_right ?_
  constructor
  · rintro ⟨⟨sql, hprepare⟩, hunset⟩
    cases o with
    | update r =>
        obtain ⟨hempty, rfl⟩ := Option.ite_some_none_eq_some.mp hunset
        exact ⟨r, sql, rfl, hprepare, List.isEmpty_iff.mp hempty, rfl⟩
    | _ => simp [unset?] at hunset
  · rintro ⟨r, sql, rfl, hrender, hempty, rfl⟩
    exact ⟨⟨sql, hrender⟩, if_pos (List.isEmpty_iff.mpr hempty)⟩

end Operation

end SqlRequest
