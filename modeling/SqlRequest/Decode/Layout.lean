import SqlRequest.Decode.Basic

/-!
Structures in JSON. A structure is written as an object with its fields under their
names, in any order, or as an array of its fields in the order of declaration.
Members of an object that are no fields are skipped, a field given twice is refused,
and an array with too many elements is malformed.

A `Layout` lists the fields of a structure and says how its value is made of them.
Decoding has two steps. First the parts are checked in the order of the text, so that
the first thing wrong is the one reported. Then the fields are looked up, and those
that are missing are reported in the order of declaration.
-/

namespace SqlRequest

variable {α β : Type}

/-- A field of a structure, and what it is when it is not given. -/
structure FieldSpec (α : Type) where
  name : String
  decode : Decoder α
  /-- The value when an object has no member of the name. -/
  ifMissing : Option α
  /-- The value when an array ends before the field. -/
  ifShort : Option α

namespace FieldSpec

/-- A field that has to be given. -/
def required (name : String) (decode : Decoder α) : FieldSpec α := ⟨name, decode, none, none⟩

/-- A field that may be left out. -/
def optional (name : String) (decode : Decoder α) (absent : α) : FieldSpec α :=
  ⟨name, decode, some absent, some absent⟩

/-- A field that an object may leave out and an array may not. -/
def named (name : String) (decode : Decoder α) (absent : α) : FieldSpec α :=
  ⟨name, decode, some absent, none⟩

end FieldSpec

/-- The name of a field and what is asked of its value. -/
structure FieldCheck where
  name : String
  check : Json → Except DecodeFault Unit

/-- What a structure is given as: how to look up a field, whether the fields stand in
an array, and what to report when one is missing. -/
structure Parts where
  get : String → Option Json
  inArray : Bool
  missing : String → DecodeFault

/-- The value of a field. -/
def FieldSpec.fetch (p : Parts) (f : FieldSpec α) : Except DecodeFault α :=
  match p.get f.name with
  | some j => f.decode j
  | none =>
    match if p.inArray then f.ifShort else f.ifMissing with
    | some a => .ok a
    | none => .error (p.missing f.name)

/-- The fields of a structure, in the order of declaration, and how its value is made
of their values. -/
structure Layout (α : Type) where
  fields : List FieldCheck
  fetch : Parts → Except DecodeFault α

namespace Layout

/-- A structure with one field. -/
def field (f : FieldSpec α) : Layout α :=
  ⟨[⟨f.name, fun j => (f.decode j).map fun _ => ()⟩], fun p => f.fetch p⟩

/-- The fields of one layout before those of another. -/
instance : Applicative Layout where
  pure a := ⟨[], fun _ => .ok a⟩
  seq f x := ⟨f.fields ++ (x ()).fields, fun p => do
    let g ← f.fetch p
    let a ← (x ()).fetch p
    return g a⟩

def required (name : String) (decode : Decoder α) : Layout α := field (.required name decode)

def optional (name : String) (decode : Decoder α) (absent : α) : Layout α :=
  field (.optional name decode absent)

def named (name : String) (decode : Decoder α) (absent : α) : Layout α :=
  field (.named name decode absent)

end Layout

namespace Decode

/-- The members of an object in order: a field must be there once and must decode, and
anything else must be fit to be skipped. -/
def checkMembers (fields : List FieldCheck) :
    List String → List (Key × Json) → Except DecodeFault Unit
  | _, [] => .ok ()
  | seen, (k, j) :: ms => do
    let name ← key k
    match fields.find? fun f => f.name = name with
    | none => do
      unflawed j.skipFlaw?
      checkMembers fields seen ms
    | some f =>
      if name ∈ seen then .error (.repeatedField name)
      else do
        f.check j
        checkMembers fields (name :: seen) ms

/-- The elements of an array in order, one for each field. -/
def checkItems : List FieldCheck → List Json → Close → Except DecodeFault Unit
  | _, [], close => unflawed close.flaw?
  | [], _ :: _, _ => .error (.flaw .malformed)
  | f :: fields, j :: js, close => do
    f.check j
    checkItems fields js close

/-- The fields that an object gives. -/
def partsOfMembers (ms : List (Key × Json)) : Parts where
  get name := (ms.find? fun m => m.1 = .name name).map Prod.snd
  inArray := false
  missing := .missingField

/-- The fields that an array gives. -/
def partsOfItems (struct : String) (fields : List FieldCheck) (js : List Json) : Parts where
  get name := ((fields.map FieldCheck.name).zip js).lookup name
  inArray := true
  missing name := .tooShort ((fields.map FieldCheck.name).idxOf name) struct fields.length

/-- A structure of the given name. -/
def struct (name : String) (l : Layout α) : Decoder α
  | .object ms close => do
    checkMembers l.fields [] ms
    unflawed close.flaw?
    l.fetch (partsOfMembers ms)
  | .array js close => do
    checkItems l.fields js close
    l.fetch (partsOfItems name l.fields js)
  | j => mismatch ("struct " ++ name) j

end Decode

end SqlRequest
