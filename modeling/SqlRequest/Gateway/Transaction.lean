import SqlRequest.Gateway.Basic

/-!
Transactions with an end. Whatever is done within one, it is committed or rolled back
when the work is over. A transaction that is given up is rolled back; so is one whose
commit fails, and one whose work ends in an error. If that rollback fails too, the
first error is the one that counts.
-/

namespace SqlRequest

/-- How a transaction is to end. -/
inductive Finish where
  | commit
  | rollback
  /-- The transaction is left behind. -/
  | abandon
  deriving DecidableEq, Repr

namespace Gateway

variable {σ α : Type}

/-- A rollback that may fail. -/
def abandon (g : Gateway σ) : Session σ Unit := tryCatch g.rollback fun _ => pure ()

/-- Work that gives the open transaction up if it fails. -/
def orAbandon (g : Gateway σ) (act : Session σ α) : Session σ α :=
  tryCatch act fun e => do
    g.abandon
    throw e

/-- The end of an open transaction. -/
def finish (g : Gateway σ) : Finish → Session σ Unit
  | .commit => g.orAbandon g.commit
  | .rollback => g.rollback
  | .abandon => g.abandon

/-- Work within a transaction of its own. The work says how the transaction ends. -/
def transaction (g : Gateway σ) (work : Session σ (Finish × α)) : Session σ α := do
  g.begin
  let (how, a) ← g.orAbandon work
  g.finish how
  return a

/-- Statements run one after the other. -/
def executeAll (g : Gateway σ) : List String → Session σ Unit
  | [] => pure ()
  | sql :: rest => do
    let _ ← g.execute sql
    g.executeAll rest

/-- Statements run within one transaction. -/
def batch (g : Gateway σ) (statements : List String) (how : Finish) : Session σ Unit :=
  g.transaction do
    g.executeAll statements
    return (how, ())

end Gateway

end SqlRequest
