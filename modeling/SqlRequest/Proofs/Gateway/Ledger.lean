import SqlRequest.Gateway.Scripted
import SqlRequest.Proofs.Gateway.Trace

/-!
Gateways to a database that keeps its data in transactions.

* `Ledger`: the data that is committed, and the data that is pending in a transaction;
* `Transactional`: what each call of a gateway does to the ledger behind it, whatever its
  answer is;
* `Closed`, `Opened`: where a connection stands between two calls, with the events so far;
* `KeepsBooks`: work that calls neither begin nor commit nor rollback;
* `closed_of_transaction`: a transaction leaves nothing open, and leaves the committed data
  as it was unless it is committed.
-/

namespace SqlRequest

/-- The data of a database as a connection sees it. A transaction is open exactly if there
is data pending. -/
structure Ledger (δ : Type) where
  committed : δ
  pending : Option δ := none

namespace Ledger

variable {δ : Type}

def isOpen (l : Ledger δ) : Bool := l.pending.isSome

/-- What running a statement may do, whatever the answer to it is: it changes the pending
data if a transaction is open, and the committed data if none is. -/
structure Worked (before after : Ledger δ) : Prop where
  isOpen_eq : after.isOpen = before.isOpen
  committed_eq : before.isOpen = true → after.committed = before.committed

end Ledger

variable {σ δ α β : Type}

/-- What the calls of a gateway do to a ledger. Nothing is asked of the answers, except that
a transaction is only begun if none is open, and that an open one can be rolled back. -/
structure Transactional (g : Gateway σ) (look : σ → Ledger δ) : Prop where
  execute : ∀ sql s, (look s).Worked (look (g.execute sql s).2)
  fetchOne : ∀ sql s, (look s).Worked (look (g.fetchOne sql s).2)
  fetchAll : ∀ sql s, (look s).Worked (look (g.fetchAll sql s).2)
  lastInsertId : ∀ s, (look s).Worked (look (g.lastInsertId s).2)
  begin_ok : ∀ s s', g.begin s = (.ok (), s') → (look s).isOpen = false ∧
    (look s').isOpen = true ∧ (look s').committed = (look s).committed
  begin_error : ∀ s s' e, g.begin s = (.error e, s') → look s' = look s
  /-- A commit that succeeds publishes the pending data. -/
  commit_ok : ∀ s s' data, (look s).pending = some data → g.commit s = (.ok (), s') →
    look s' = ⟨data, none⟩
  /-- A commit that fails leaves its transaction open. -/
  commit_error : ∀ s s' e, (look s).isOpen = true → g.commit s = (.error e, s') →
    (look s').isOpen = true ∧ (look s').committed = (look s).committed
  /-- A rollback discards the pending data. -/
  rollback : ∀ s, (look s).isOpen = true →
    ∃ s', g.rollback s = (.ok (), s') ∧ look s' = ⟨(look s).committed, none⟩

/-! ### A gateway that keeps a ledger -/

namespace Ledger

/-- One more statement, where statements are run. -/
def write (sql : String) : Ledger (List String) → Ledger (List String)
  | ⟨committed, none⟩ => ⟨committed ++ [sql], none⟩
  | ⟨committed, some pending⟩ => ⟨committed, some (pending ++ [sql])⟩

/-- A gateway to a list of statements: those that were run and not undone. The answers are
laid down in a script, but a transaction is begun only if none is open, and one that is open
can be rolled back. -/
def keeper (quoter : Quoter) : Gateway (Ledger (List String) × Script) where
  quoter := quoter
  execute sql := fun (l, script) =>
    match (Script.gateway quoter).execute sql script with
    | (.ok true, script) => (.ok true, (l.write sql, script))
    | (answer, script) => (answer, (l, script))
  fetchOne sql := fun (l, script) =>
    let (answer, script) := (Script.gateway quoter).fetchOne sql script
    (answer, (l, script))
  fetchAll sql := fun (l, script) =>
    let (answer, script) := (Script.gateway quoter).fetchAll sql script
    (answer, (l, script))
  begin := fun (l, script) =>
    match l.pending, (Script.gateway quoter).begin script with
    | some _, (_, script) => (.error (.transaction "a transaction is open"), (l, script))
    | none, (.ok (), script) => (.ok (), (⟨l.committed, some l.committed⟩, script))
    | none, (.error e, script) => (.error e, (l, script))
  commit := fun (l, script) =>
    match l.pending, (Script.gateway quoter).commit script with
    | some pending, (.ok (), script) => (.ok (), (⟨pending, none⟩, script))
    | some _, (.error e, script) => (.error e, (l, script))
    | none, (_, script) => (.error (.transaction "no transaction is open"), (l, script))
  rollback := fun (l, script) =>
    match l.pending with
    | some _ => (.ok (), (⟨l.committed, none⟩, script))
    | none => (.error (.transaction "no transaction is open"), (l, script))
  lastInsertId := fun (l, script) =>
    let (id, script) := (Script.gateway quoter).lastInsertId script
    (id, (l, script))

lemma worked_refl (l : Ledger δ) : l.Worked l := ⟨rfl, fun _ => rfl⟩

lemma worked_write (sql : String) (l : Ledger (List String)) : l.Worked (l.write sql) := by
  obtain ⟨committed, _ | pending⟩ := l
  · exact ⟨rfl, fun h => by simp [isOpen] at h⟩
  · exact ⟨rfl, fun _ => rfl⟩

/-- The gateway does what its laws say, whatever the script is. -/
lemma keeper_transactional (quoter : Quoter) : Transactional (keeper quoter) Prod.fst where
  execute := by
    rintro sql ⟨l, script⟩
    simp only [keeper]
    split
    · exact worked_write sql l
    · exact worked_refl l
  fetchOne _ s := worked_refl s.1
  fetchAll _ s := worked_refl s.1
  lastInsertId s := worked_refl s.1
  begin_ok := by
    rintro ⟨⟨committed, pending⟩, script⟩ s' h
    simp only [keeper] at h
    split at h <;> cases h
    exact ⟨rfl, rfl, rfl⟩
  begin_error := by
    rintro ⟨⟨committed, pending⟩, script⟩ s' e h
    simp only [keeper] at h
    split at h <;> cases h <;> rfl
  commit_ok := by
    rintro ⟨⟨committed, pending⟩, script⟩ s' data rfl h
    simp only [keeper] at h
    split at h
    · next hpending _ =>
        cases hpending
        cases h
        rfl
    · cases h
    · cases h
  commit_error := by
    rintro ⟨⟨committed, pending⟩, script⟩ s' e hopen h
    simp only [keeper] at h
    split at h <;> cases h
    · exact ⟨rfl, rfl⟩
    · simp [isOpen] at hopen
  rollback := by
    rintro ⟨⟨committed, _ | pending⟩, script⟩ hopen
    · simp [isOpen] at hopen
    · exact ⟨_, rfl, rfl⟩

end Ledger

/-! ### Events that open and close a transaction -/

namespace Event

/-- A begin that succeeded. -/
def opens : Event → Bool
  | begin (.ok _) => true
  | _ => false

/-- A commit or a rollback that succeeded. -/
def closes : Event → Bool
  | commit (.ok _) => true
  | rollback (.ok _) => true
  | _ => false

end Event

/-- Nothing is open, and all that was opened has been closed. -/
structure Closed (look : σ → Ledger δ) (p : σ × List Event) : Prop where
  isOpen : (look p.1).isOpen = false
  balanced : p.2.countP Event.opens = p.2.countP Event.closes

/-- A transaction is open over the given committed data, the only one that was opened and
has not been closed. -/
structure Opened (look : σ → Ledger δ) (data : δ) (p : σ × List Event) : Prop where
  isOpen : (look p.1).isOpen = true
  committed : (look p.1).committed = data
  balanced : p.2.countP Event.opens = p.2.countP Event.closes + 1

section Calls

variable {g : Gateway σ} {look : σ → Ledger δ} {data : δ} {p p' : σ × List Event} {e : Error}

/-- A begin that succeeds opens a transaction over the data that is committed. -/
lemma Closed.begin_ok (laws : Transactional g look) (hp : Closed look p)
    (h : g.traced.begin p = (.ok (), p')) : Opened look (look p.1).committed p' := by
  obtain ⟨-, hopen, hcommitted⟩ := laws.begin_ok _ _ (run_of_answered h)
  refine ⟨hopen, hcommitted, ?_⟩
  simp [Gateway.trace_begin h, Event.opens, Event.closes, hp.balanced]

/-- A begin that fails changes nothing. -/
lemma Closed.begin_error (laws : Transactional g look) (hp : Closed look p)
    (h : g.traced.begin p = (.error e, p')) :
    Closed look p' ∧ (look p'.1).committed = (look p.1).committed := by
  have hlook := laws.begin_error _ _ _ (run_of_answered h)
  refine ⟨⟨hlook ▸ hp.isOpen, ?_⟩, by rw [hlook]⟩
  simp [Gateway.trace_begin h, Event.opens, Event.closes, hp.balanced]

/-- A commit that succeeds closes the transaction. -/
lemma Opened.commit_ok (laws : Transactional g look) (hp : Opened look data p)
    (h : g.traced.commit p = (.ok (), p')) : Closed look p' := by
  obtain ⟨pending, hpending⟩ := Option.isSome_iff_exists.mp hp.isOpen
  have hlook := laws.commit_ok _ _ pending hpending (run_of_answered h)
  refine ⟨by rw [hlook]; rfl, ?_⟩
  simp [Gateway.trace_commit h, Event.opens, Event.closes, hp.balanced]

/-- A commit that fails leaves the transaction open. -/
lemma Opened.commit_error (laws : Transactional g look) (hp : Opened look data p)
    (h : g.traced.commit p = (.error e, p')) : Opened look data p' := by
  obtain ⟨hopen, hcommitted⟩ := laws.commit_error _ _ _ hp.isOpen (run_of_answered h)
  refine ⟨hopen, hcommitted.trans hp.committed, ?_⟩
  simp [Gateway.trace_commit h, Event.opens, Event.closes, hp.balanced]

/-- A rollback closes the transaction over the data that it was opened over. -/
lemma Opened.rollback (laws : Transactional g look) (hp : Opened look data p)
    {answer : Except Error Unit} (h : g.traced.rollback p = (answer, p')) :
    Closed look p' ∧ (look p'.1).committed = data := by
  obtain ⟨s', hrollback, hlook⟩ := laws.rollback p.1 hp.isOpen
  have hrun : g.rollback p.1 = (answer, p'.1) := run_of_answered h
  obtain ⟨rfl, rfl⟩ := Prod.mk.inj (hrun.symm.trans hrollback)
  refine ⟨⟨by rw [hlook]; rfl, ?_⟩, by rw [hlook]; exact hp.committed⟩
  simp [Gateway.trace_rollback h, Event.opens, Event.closes, hp.balanced]

end Calls

/-! ### Work -/

/-- Work that calls neither begin nor commit nor rollback: where nothing is open it opens
nothing, and within a transaction it leaves the committed data alone. -/
structure KeepsBooks (look : σ → Ledger δ) (act : StateM (σ × List Event) α) : Prop where
  closed : ∀ p, Closed look p → Closed look (act p).2
  opened : ∀ p data, Opened look data p → Opened look data (act p).2

namespace KeepsBooks

variable {look : σ → Ledger δ}

/-- A call that neither opens nor closes anything keeps the books. -/
lemma of_worked {event : α → Event} {act : StateM σ α}
    (hevent : ∀ a, (event a).opens = false ∧ (event a).closes = false)
    (h : ∀ s, (look s).Worked (look (act s).2)) : KeepsBooks look (answered event act) := by
  have htrace : ∀ p, (answered event act p).2.2 = p.2 ++ [event (answered event act p).1] :=
    fun p => trace_answered rfl
  constructor
  · intro p hp
    refine ⟨(h p.1).isOpen_eq.trans hp.isOpen, ?_⟩
    simp [htrace, hevent, hp.balanced]
  · intro p data hp
    refine ⟨(h p.1).isOpen_eq.trans hp.isOpen,
      ((h p.1).committed_eq hp.isOpen).trans hp.committed, ?_⟩
    simp [htrace, hevent, hp.balanced]

/-- To end without a call keeps the books. -/
lemma of_eq {act : Session (σ × List Event) α} (result : Except Error α)
    (h : ∀ p, act p = (result, p)) : KeepsBooks look act := by
  constructor
  · intro p hp
    rwa [h]
  · intro p data hp
    rwa [h]

lemma lift {act : StateM (σ × List Event) α} (h : KeepsBooks look act) :
    KeepsBooks look (liftM act : Session (σ × List Event) α) where
  closed p hp := h.closed p hp
  opened p data hp := h.opened p data hp

/-- The state after two steps in a row is that after the first or after both. -/
lemma bind {act : Session (σ × List Event) α} {next : α → Session (σ × List Event) β}
    (h : KeepsBooks look act) (hnext : ∀ a, KeepsBooks look (next a)) :
    KeepsBooks look (act >>= next : Session (σ × List Event) β) := by
  have hstep : ∀ (P : σ × List Event → Prop) (p : σ × List Event), P (act p).2 →
      (∀ a, P (next a (act p).2).2) →
      P ((act >>= next : Session (σ × List Event) β) p).2 := by
    intro P p hact hnext
    obtain ⟨a, p', hp⟩ : ∃ a p', act p = (a, p') := ⟨_, _, rfl⟩
    rw [hp] at hact hnext
    cases a with
    | ok a =>
        rw [Session.bind_of_ok hp]
        exact hnext a
    | error e =>
        rw [Session.bind_of_error hp]
        exact hact
  constructor
  · intro p hp
    have hact := h.closed p hp
    exact hstep _ p hact fun a => (hnext a).closed _ hact
  · intro p data hp
    have hact := h.opened p data hp
    exact hstep _ p hact fun a => (hnext a).opened _ data hact

end KeepsBooks

/-! ### Transactions -/

/-- A transaction over work that keeps the books leaves nothing open. The committed data is
as it was, unless the work asked for a commit and the transaction succeeded. -/
lemma closed_of_transaction {g : Gateway σ} {look : σ → Ledger δ} (laws : Transactional g look)
    {work : Session (σ × List Event) (Finish × α)} (hwork : KeepsBooks look work)
    {p : σ × List Event} (hp : Closed look p) :
    Closed look (g.traced.transaction work p).2 ∧
      ((look (g.traced.transaction work p).2.1).committed = (look p.1).committed ∨
        ∃ a p₁ p₂, work p₁ = (.ok (.commit, a), p₂) ∧
          (g.traced.transaction work p).1 = .ok a) := by
  have hopened : ∀ {p₁ p₂ worked}, g.traced.begin p = (.ok (), p₁) → work p₁ = (worked, p₂) →
      Opened look (look p.1).committed p₂ := by
    intro p₁ p₂ worked opening working
    have h := hwork.opened p₁ _ (hp.begin_ok laws opening)
    rwa [working] at h
  have run := g.traced.transacted work p
  generalize g.traced.transaction work p = ended at run ⊢
  cases run with
  | unopened opening =>
      obtain ⟨hclosed, hcommitted⟩ := hp.begin_error laws opening
      exact ⟨hclosed, .inl hcommitted⟩
  | committed opening working closing =>
      exact ⟨(hopened opening working).commit_ok laws closing, .inr ⟨_, _, _, working, rfl⟩⟩
  | uncommitted opening working closing cleaning =>
      obtain ⟨hclosed, hcommitted⟩ :=
        ((hopened opening working).commit_error laws closing).rollback laws cleaning
      exact ⟨hclosed, .inl hcommitted⟩
  | failed opening working ending | undone opening working ending
  | stuck opening working ending | abandoned opening working ending =>
      obtain ⟨hclosed, hcommitted⟩ := (hopened opening working).rollback laws ending
      exact ⟨hclosed, .inl hcommitted⟩

end SqlRequest
