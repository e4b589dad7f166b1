import SqlRequest.Quote
import SqlRequest.Row

/-!
What requests need of a database. A gateway is one connection: it runs statements,
fetches rows, quotes literals and drives a transaction. The state of whatever is
behind it is a type of its own, and every call may change it, whether the call
succeeds or fails.
-/

namespace SqlRequest

/-- A computation over a connection with a state, which may fail. -/
abbrev Session (σ α : Type) : Type := ExceptT Error (StateM σ) α

/-- One connection to a database. -/
structure Gateway (σ : Type) where
  quoter : Quoter
  /-- Runs a statement that gives no rows. The answer is false when the database
  refuses the change because of a constraint. -/
  execute : String → Session σ Bool
  fetchOne : String → Session σ (Option Row)
  fetchAll : String → Session σ (List Row)
  begin : Session σ Unit
  commit : Session σ Unit
  rollback : Session σ Unit
  /-- The number of the row that was stored last. -/
  lastInsertId : StateM σ Int64

/-- A call of a gateway; quoting is none. -/
inductive Call where
  | execute (sql : String)
  | fetchOne (sql : String)
  | fetchAll (sql : String)
  | begin
  | commit
  | rollback
  | lastInsertId
  deriving DecidableEq, Repr

namespace Gateway

variable {σ α : Type}

/-- A computation that first writes down a call. -/
def noted (c : Call) (act : StateM σ α) : StateM (σ × List Call) α := fun (s, calls) =>
  let (a, s) := act s
  (a, (s, calls ++ [c]))

/-- The same gateway, with all its calls written down in order. -/
def logged (g : Gateway σ) : Gateway (σ × List Call) where
  quoter := g.quoter
  execute sql := noted (.execute sql) (g.execute sql)
  fetchOne sql := noted (.fetchOne sql) (g.fetchOne sql)
  fetchAll sql := noted (.fetchAll sql) (g.fetchAll sql)
  begin := noted .begin g.begin
  commit := noted .commit g.commit
  rollback := noted .rollback g.rollback
  lastInsertId := noted .lastInsertId g.lastInsertId

/-- The same gateway with another way to quote. -/
def withQuoter (g : Gateway σ) (quoter : Quoter) : Gateway σ := { g with quoter }

end Gateway

end SqlRequest
