import SqlRequest.Error
import SqlRequest.Quote
import SqlRequest.Wildcard

/-!
Conditions of a request. A condition is a comparison of a column with a value, or a
fallback: a test that decides between two comparisons. In a list each condition
carries the logical operator that joins it to the ones before it. Instead of a list
a request may give a predicate as raw text.
-/

namespace SqlRequest

/-- What joins a condition to the ones before it. -/
inductive Connective where
  | and
  | or
  deriving DecidableEq, Repr

namespace Connective

/-- The word in a statement. -/
def sql : Connective → String
  | .and => "AND"
  | .or => "OR"

/-- A word without the blanks around it, in ASCII capitals. -/
def capitals (s : String) : String := (Text.trim s).map Char.toUpper

/-- The connective that a word names, in any letter case. -/
def ofWord (s : String) : Except Refusal Connective :=
  if capitals s = "AND" then .ok .and
  else if capitals s = "OR" then .ok .or
  else .error (.unknownOperator (capitals s))

end Connective

/-- A column compared with a value. -/
structure Comparison where
  field : Ident
  connective : Option Connective := none
  operator : String := "LIKE"
  /-- Null is written as the word `NULL`. -/
  queue : Value := .null
  wildcard : Wildcard := .none
  /-- The table of the column, if it is not the one of the request. -/
  table : Option Ident := none
  deriving DecidableEq, Repr

/-- A comparison within a fallback. What the operator is when none is given depends
on the place. -/
structure Branch where
  field : Ident
  operator : Option String := none
  queue : Value := .null
  /-- Has no effect in the test of a fallback. -/
  wildcard : Wildcard := .none
  table : Option Ident := none
  deriving DecidableEq, Repr

/-- Where the test holds, `yes` filters, and where its negation does, `no`. Nothing passes where
the test is unknown. -/
structure Fallback where
  connective : Option Connective := none
  test : Branch
  yes : Branch
  no : Branch
  deriving DecidableEq, Repr

inductive Condition where
  | comparison (c : Comparison)
  | fallback (f : Fallback)
  deriving DecidableEq, Repr

/-- All the conditions of a request. -/
inductive Conditions where
  | raw (sql : Fragment)
  | list (cs : List Condition)
  deriving DecidableEq, Repr

/-! ### Building conditions -/

namespace Comparison

/-- A column compared with a value by `LIKE`. -/
def of (field : Ident) (queue : Value) : Comparison := { field, queue }

def withOperator (c : Comparison) (operator : String) : Comparison := { c with operator }

def withWildcard (c : Comparison) (wildcard : Wildcard) : Comparison := { c with wildcard }

def inTable (c : Comparison) (table : Ident) : Comparison := { c with table := some table }

def joinedBy (c : Comparison) (op : Connective) : Comparison := { c with connective := some op }

end Comparison

namespace Branch

/-- A column compared with null. -/
def of (field : Ident) : Branch := { field }

def withQueue (b : Branch) (queue : Value) : Branch := { b with queue }

def withOperator (b : Branch) (operator : String) : Branch :=
  { b with operator := some operator }

def withWildcard (b : Branch) (wildcard : Wildcard) : Branch := { b with wildcard }

def inTable (b : Branch) (table : Ident) : Branch := { b with table := some table }

end Branch

namespace Fallback

def of (test yes no : Branch) : Fallback := { test, yes, no }

def joinedBy (f : Fallback) (op : Connective) : Fallback := { f with connective := some op }

end Fallback

/-- What joins a condition to the ones before it. -/
def Condition.connective : Condition → Option Connective
  | .comparison c => c.connective
  | .fallback f => f.connective

namespace Conditions

/-- No conditions at all. -/
def none : Conditions := .list []

instance : Inhabited Conditions := ⟨none⟩

/-- Conditions that select everything: an empty list, or raw text that is blank. -/
def isEmpty : Conditions → Bool
  | .raw sql => sql.blank
  | .list cs => cs.isEmpty

end Conditions

end SqlRequest
