import SqlRequest.Decode.Clause
import SqlRequest.Request.Change
import SqlRequest.Request.Select

/-!
Decoding of requests. A request is the outermost value of its text, so its conditions
stand one level deep.
-/

namespace SqlRequest

open Decode

def Field.ofJson : Decoder Field := fun j => (text j).map Field.ofText

/-- The values that a request writes. -/
def Payload.ofJson : Decoder Payload
  | .object ms close => do
    let writes ← members value ms
    unflawed close.flaw?
    return .ofList (writes.map fun w => (⟨w.1⟩, w.2))
  | j => mismatch "a map" j

def Select.layout : Layout Select :=
  Select.mk
    <$> .required "table" Ident.ofJson
    <*> .optional "field" Field.ofJson .all
    <*> .optional "conditions" (Conditions.ofJson 1) .none
    <*> .optional "joins" (list Join.ofJson) []
    <*> .optional "grouping" (Decode.optional Grouping.ofJson) none
    <*> .optional "debug" bool false

def Select.ofJson : Decoder Select := struct "Select" layout

def SelectMany.layout : Layout SelectMany :=
  SelectMany.mk
    <$> .required "table" Ident.ofJson
    <*> .optional "conditions" (Conditions.ofJson 1) .none
    <*> .optional "joins" (list Join.ofJson) []
    <*> .optional "grouping" (Decode.optional Grouping.ofJson) none
    <*> .optional "orderBy" (Decode.optional Fragment.ofJson) none
    <*> .optional "cols" (list Ident.ofJson) []
    <*> .optional "debug" bool false

def SelectMany.ofJson : Decoder SelectMany := struct "SelectMany" layout

def Update.layout : Layout Update :=
  Update.mk
    <$> .required "table" Ident.ofJson
    <*> .required "values" Payload.ofJson
    <*> .optional "conditions" (Conditions.ofJson 1) .none
    <*> .optional "debug" bool false

def Update.ofJson : Decoder Update := struct "Update" layout

def Insert.layout : Layout Insert :=
  Insert.mk
    <$> .required "table" Ident.ofJson
    <*> .required "values" Payload.ofJson
    <*> .optional "debug" bool false

def Insert.ofJson : Decoder Insert := struct "Insert" layout

/-- An array has to give the conditions of a delete. An object need not, and then
there are none. -/
def Delete.layout : Layout Delete :=
  Delete.mk
    <$> .required "table" Ident.ofJson
    <*> .named "conditions" (Conditions.ofJson 1) .none
    <*> .optional "debug" bool false

def Delete.ofJson : Decoder Delete := struct "Delete" layout

end SqlRequest
