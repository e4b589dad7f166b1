import SqlRequest.Condition.Basic
import SqlRequest.Decode.Layout
import SqlRequest.Grouping
import SqlRequest.Join

/-!
Decoding of conditions, joins and groupings. A condition is read as a whole first, and
then taken for a fallback if it is one, and else for a comparison.
-/

namespace SqlRequest

open Decode

def Ident.ofJson : Decoder Ident := fun j => (Decode.text j).map Ident.mk

def Fragment.ofJson : Decoder Fragment := fun j => (Decode.text j).map Fragment.mk

def Wildcard.ofJson : Decoder Wildcard :=
  variant ([.none, .before, .after, .both].map fun w => (w.name, w))

namespace Connective

/-- The connective that a word names; a blank word names none. -/
def ofWord? (s : String) : Except Refusal (Option Connective) :=
  if Text.blank s then .ok none else (ofWord s).map some

def ofJson? : Decoder (Option Connective) := fun j => do
  match ← Decode.optional text j with
  | none => return none
  | some s => (ofWord? s).mapError .refused

end Connective

def Comparison.layout : Layout Comparison :=
  Comparison.mk
    <$> .required "field" Ident.ofJson
    <*> .optional "logicalOperator" Connective.ofJson? none
    <*> .optional "operator" text "LIKE"
    <*> .optional "queue" value .null
    <*> .optional "wildcard" Wildcard.ofJson .none
    <*> .optional "tableOverride" (Decode.optional Ident.ofJson) none

def Comparison.ofJson : Decoder Comparison := struct "SimpleCondition" layout

def Branch.layout : Layout Branch :=
  Branch.mk
    <$> .required "field" Ident.ofJson
    <*> .optional "operator" (Decode.optional text) none
    <*> .optional "queue" value .null
    <*> .optional "wildcard" Wildcard.ofJson .none
    <*> .optional "tableOverride" (Decode.optional Ident.ofJson) none

def Branch.ofJson : Decoder Branch := struct "FallbackBranch" layout

/-- The word that marks a fallback. -/
def Fallback.tag : Decoder Unit := variant [("conditionalFallback", ())]

def Fallback.layout : Layout Fallback :=
  (fun (_ : Unit) connective test yes no => { connective, test, yes, no })
    <$> .required "type" tag
    <*> .optional "logicalOperator" Connective.ofJson? none
    <*> .required "if" Branch.ofJson
    <*> .required "then" Branch.ofJson
    <*> .required "else" Branch.ofJson

def Fallback.ofJson : Decoder Fallback := struct "ConditionalFallback" layout

/-- How deep arrays and objects may be nested in a text. -/
def deepest : Nat := 127

/-- A value that is free of flaws as a whole, at a depth of nesting. -/
def Decode.unflawedAt (depth : Nat) : Decoder Unit :=
  fun j => unflawed (j.readFlaw? (deepest - depth))

/-- A condition that has been read: a fallback, or else a comparison. -/
def Condition.ofWhole : Decoder Condition := fun j =>
  match Fallback.ofJson j with
  | .ok f => .ok (.fallback f)
  | .error _ =>
    match Comparison.ofJson j with
    | .ok c => .ok (.comparison c)
    | .error _ => .error (.noVariant "Condition")

/-- A condition at a depth of nesting. -/
def Condition.ofJson (depth : Nat) : Decoder Condition := fun j => do
  unflawedAt depth j
  ofWhole j

/-- Conditions that have been read: a raw predicate, or a list. -/
def Conditions.ofWhole : Decoder Conditions
  | .scalar (.text s) => .ok (.raw ⟨s⟩)
  | .array js _ =>
    match items Condition.ofWhole js with
    | .ok cs => .ok (.list cs)
    | .error _ => .error (.noVariant "ConditionsRepr")
  | _ => .error (.noVariant "ConditionsRepr")

/-- The conditions of a request at a depth of nesting. Null stands for none. -/
def Conditions.ofJson (depth : Nat) : Decoder Conditions
  | .scalar .null => .ok .none
  | j => do
    unflawedAt depth j
    ofWhole j

/-- Conditions from a text of their own. -/
def Conditions.ofText (s : String) : Except Error Conditions := Decode.ofText (ofJson 0) s

def Join.layout : Layout Join :=
  Join.mk
    <$> .optional "table" (Decode.optional Ident.ofJson) none
    <*> .optional "on" (Decode.optional Fragment.ofJson) none

def Join.ofJson : Decoder Join := struct "Join" layout

def GroupConcat.layout : Layout GroupConcat :=
  GroupConcat.mk
    <$> .required "for" Ident.ofJson
    <*> .required "as" Ident.ofJson

def GroupConcat.ofJson : Decoder GroupConcat := struct "GroupConcat" layout

def Grouping.layout : Layout Grouping :=
  Grouping.mk
    <$> .required "identifier" Ident.ofJson
    <*> .optional "groups" (list GroupConcat.ofJson) []

def Grouping.ofJson : Decoder Grouping := struct "Grouping" layout

end SqlRequest
