import SqlRequest.Proofs.Condition.Atom
import SqlRequest.Request.Change
import SqlRequest.Request.Select

/-!
Requests of any kind, and what there is in their statements: the trusted texts, which
stand in a statement as they are, the names between backticks, and the values.
-/

namespace SqlRequest

/-- A request that becomes a statement. -/
inductive Request where
  | select (r : Select)
  | selectMany (r : SelectMany)
  | update (r : Update)
  | insert (r : Insert)
  | delete (r : Delete)

/-- The statement of a request. -/
def Request.render (q : Quoter) : Request → Except Error String
  | .select r => r.render q
  | .selectMany r => r.render q
  | .update r => r.render q
  | .insert r => .ok (r.render q)
  | .delete r => r.render q

namespace Request

/-- The table that a request is about. -/
def table : Request → Ident
  | .select r => r.table
  | .selectMany r => r.table
  | .update r => r.table
  | .insert r => r.table
  | .delete r => r.table

/-- The conditions of a request. An insert can have none. -/
def conditions? : Request → Option Conditions
  | .select r => some r.conditions
  | .selectMany r => some r.conditions
  | .update r => some r.conditions
  | .insert _ => none
  | .delete r => some r.conditions

/-- The request with other conditions. -/
def withConditions (cs : Conditions) : Request → Request
  | .select r => .select (r.withConditions cs)
  | .selectMany r => .selectMany (r.withConditions cs)
  | .update r => .update (r.withConditions cs)
  | .insert r => .insert r
  | .delete r => .delete { r with conditions := cs }

end Request

/-! ### Trusted texts -/

def Conditions.trusted : Conditions → List String
  | .raw sql => [sql.text]
  | .list cs => cs.flatMap Condition.trusted

/-- The table and the condition of a join. -/
def Join.trusted (j : Join) : List String :=
  (j.table.map Ident.text).toList ++ (j.on.map Fragment.text).toList

/-- The identifier of a grouping, its columns and their new names. -/
def Grouping.trusted (g : Grouping) : List String :=
  g.identifier.text :: g.groups.flatMap fun c => [c.source.text, c.name.text]

/-- All the texts that a statement takes as they are. -/
def Request.trusted : Request → List String
  | .select r =>
    r.table.text :: (r.conditions.trusted ++ r.joins.flatMap Join.trusted ++
      r.grouping.toList.flatMap Grouping.trusted)
  | .selectMany r =>
    r.table.text :: (r.conditions.trusted ++ r.joins.flatMap Join.trusted ++
      r.grouping.toList.flatMap Grouping.trusted ++ (r.orderBy.map Fragment.text).toList ++
      r.cols.map Ident.text)
  | .update r => r.table.text :: r.conditions.trusted
  | .insert r => [r.table.text]
  | .delete r => r.table.text :: r.conditions.trusted

/-! ### Names and values -/

/-- What an update writes: its payload without the empty texts. -/
def Update.written (r : Update) : List (Ident × Value) :=
  r.values.entries.filter fun e => e.2.assigned

/-- The names that a statement quotes: the columns of the payload, then the fields of
the conditions. -/
def Request.names : Request → List String
  | .select r => r.conditions.names
  | .selectMany r => r.conditions.names
  | .update r => r.written.map (fun e => e.1.text) ++ r.conditions.names
  | .insert r => r.values.entries.map fun e => e.1.text
  | .delete r => r.conditions.names

/-- The values that a statement shows: those of the payload, then those of the
conditions. None is the word `NULL`. -/
def Request.shown : Request → List (Option String)
  | .select r => r.conditions.shown
  | .selectMany r => r.conditions.shown
  | .update r => r.written.map (fun e => e.2.shown) ++ r.conditions.shown
  | .insert r => r.values.entries.map fun e => e.2.shown
  | .delete r => r.conditions.shown

end SqlRequest
