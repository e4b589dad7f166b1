import SqlRequest.Condition.Basic

/-!
Conditions as SQL: the predicate of a single one (`Condition.render`) and the
`WHERE` clause of all of them (`Conditions.clause`). In a list every condition after
the first needs a logical operator of its own; the first one's is never written.
-/

namespace SqlRequest

/-- The table of a column: the one that the condition names, unless that is empty
or the word `none`, and else the one of the request. -/
def effectiveTable (ambient : Ident) : Option Ident → Ident
  | none => ambient
  | some t => if t.text = "" ∨ t.text = "none" then ambient else t

/-- A column with its table in front. -/
def qualified (ambient : Ident) (table : Option Ident) (field : Ident) : String :=
  (effectiveTable ambient table).text ++ "." ++ field.backticked

/-- The value side of a comparison: the word `NULL`, or the quoted pattern. -/
def Quoter.pattern (q : Quoter) (w : Wildcard) (v : Value) : String :=
  if v.isNull then "NULL" else q.quote (w.expand v)

def Comparison.render (q : Quoter) (ambient : Ident) (c : Comparison) : String :=
  qualified ambient c.table c.field ++ " " ++ c.operator ++ " " ++ q.pattern c.wildcard c.queue

namespace Branch

/-- A branch as a test compares with the plain value, by `IS NOT` unless the branch
says otherwise. -/
def renderTest (q : Quoter) (ambient : Ident) (b : Branch) : String :=
  qualified ambient b.table b.field ++ " " ++ b.operator.getD "IS NOT" ++ " " ++
    q.literal b.queue

/-- A branch as an outcome compares with the pattern, which is quoted even if it is
that of null, by `LIKE` unless the branch says otherwise. -/
def renderOutcome (q : Quoter) (ambient : Ident) (b : Branch) : String :=
  qualified ambient b.table b.field ++ " " ++ b.operator.getD "LIKE" ++ " " ++
    q.quote (b.wildcard.expand b.queue)

end Branch

/-- Test and one outcome, or not the test and the other outcome. -/
def Fallback.render (q : Quoter) (ambient : Ident) (f : Fallback) : String :=
  let test := f.test.renderTest q ambient
  "((" ++ test ++ " AND " ++ f.yes.renderOutcome q ambient ++ ") OR (NOT(" ++ test ++
    ") AND " ++ f.no.renderOutcome q ambient ++ "))"

/-- The predicate of a condition, without a logical operator. -/
def Condition.render (q : Quoter) (ambient : Ident) : Condition → String
  | .comparison c => c.render q ambient
  | .fallback f => f.render q ambient

namespace Conditions

/-- The conditions from a position on, each after its logical operator. -/
def renderFrom (q : Quoter) (ambient : Ident) : Nat → List Condition → Except Error String
  | _, [] => .ok ""
  | position, c :: cs =>
    match c.connective with
    | Option.none => .error (.validation (.missingOperator position ambient))
    | some op => do
      let rest ← renderFrom q ambient (position + 1) cs
      return " " ++ op.sql ++ " " ++ c.render q ambient ++ rest

/-- The conditions of a list, each after the first with its logical operator in front. -/
def predicates (q : Quoter) (ambient : Ident) : List Condition → Except Error String
  | [] => .ok ""
  | c :: cs => do
    let rest ← renderFrom q ambient 2 cs
    return c.render q ambient ++ rest

/-- The `WHERE` clause with a blank in front; nothing if there is nothing to stand in it. A
raw predicate follows the table and a point. -/
def clause (q : Quoter) (ambient : Ident) : Conditions → Except Error String
  | .raw sql => .ok (if sql.text = "" then "" else " WHERE " ++ ambient.text ++ "." ++ sql.text)
  | .list cs => do
    let bound ← predicates q ambient cs
    return if bound = "" then "" else " WHERE " ++ bound

end Conditions

end SqlRequest
