import SqlRequest.Gateway.Basic

/-!
A gateway that answers from a script: each call takes the next answer that is laid
down for it. When there is none left, statements succeed, nothing is found, and the
last row stored has the number zero.
-/

namespace SqlRequest

/-- The answers laid down for each call, in the order in which they are given. -/
structure Script where
  execute : List (Except Error Bool) := []
  fetchOne : List (Except Error (Option Row)) := []
  fetchAll : List (Except Error (List Row)) := []
  begin : List (Except Error Unit) := []
  commit : List (Except Error Unit) := []
  rollback : List (Except Error Unit) := []
  lastInsertId : List Int64 := []

namespace Script

variable {α : Type}

/-- The next answer, or the one for when there is none. -/
def next (answers : List α) (otherwise : α) : α := answers.head?.getD otherwise

/-- A gateway over a script. -/
def gateway (quoter : Quoter) : Gateway Script where
  quoter := quoter
  execute _ := fun s => (next s.execute (.ok true), { s with execute := s.execute.tail })
  fetchOne _ := fun s => (next s.fetchOne (.ok none), { s with fetchOne := s.fetchOne.tail })
  fetchAll _ := fun s => (next s.fetchAll (.ok []), { s with fetchAll := s.fetchAll.tail })
  begin := fun s => (next s.begin (.ok ()), { s with begin := s.begin.tail })
  commit := fun s => (next s.commit (.ok ()), { s with commit := s.commit.tail })
  rollback := fun s => (next s.rollback (.ok ()), { s with rollback := s.rollback.tail })
  lastInsertId := fun s =>
    (next s.lastInsertId 0, { s with lastInsertId := s.lastInsertId.tail })

end Script

end SqlRequest
