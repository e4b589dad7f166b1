import SqlRequest.Decode.Basic
import SqlRequest.Proofs.Decode.Layout
import SqlRequest.Proofs.OrderedMap

/-!
What a JSON value says to one who has read all of it, and what is read off it then.

* `Content`, `Content.json`: the contents, and the JSON value that says just that;
  `exists_content`: a value without a flaw is that of a content.
* `Content.text?`, `Content.optional`, `Content.variant?`, `Content.given?`: how parts are
  read off a content. None of them stops early and none of them reports anything.
* `Content.Agrees`: a decoder gives for the value of each content what is read off it.
  `Agrees.struct`: so it does for a structure if it does for the fields.
-/

namespace SqlRequest

variable {α β : Type}

/-- What a JSON value says to one who has read all of it. -/
inductive Content where
  | null
  | bool (b : Bool)
  | number (n : Number)
  | text (s : String)
  | list (items : List Content)
  | record (members : List (String × Content))

namespace Content

/-! ### Values of contents -/

mutual

/-- The JSON value that says just that. -/
def json : Content → Json
  | .null => .null
  | .bool b => .bool b
  | .number n => .scalar (.number n)
  | .text s => .text s
  | .list cs => .list (jsonItems cs)
  | .record ms => .record (jsonMembers ms)

/-- The items of an array. -/
def jsonItems : List Content → List Json
  | [] => []
  | c :: cs => c.json :: jsonItems cs

/-- The members of an object. -/
def jsonMembers : List (String × Content) → List (String × Json)
  | [] => []
  | (name, c) :: ms => (name, c.json) :: jsonMembers ms

end

lemma jsonItems_eq (cs : List Content) : jsonItems cs = cs.map json := by
  induction cs with
  | nil => rfl
  | cons c cs ih => rw [jsonItems, ih, List.map_cons]

lemma jsonMembers_eq (ms : List (String × Content)) :
    jsonMembers ms = ms.map fun m => (m.1, m.2.json) := by
  induction ms with
  | nil => rfl
  | cons m ms ih => rw [jsonMembers, ih, List.map_cons]

lemma json_list (cs : List Content) : (list cs).json = .list (cs.map json) := by
  rw [json, jsonItems_eq]

lemma json_record (ms : List (String × Content)) :
    (record ms).json = .record (ms.map fun m => (m.1, m.2.json)) := by
  rw [json, jsonMembers_eq]

/-- A property holds of every content once it is inherited from the parts. -/
@[elab_as_elim]
theorem ind {P : Content → Prop} (null : P .null) (bool : ∀ b, P (.bool b))
    (number : ∀ n, P (.number n)) (text : ∀ s, P (.text s))
    (list : ∀ cs, (∀ c ∈ cs, P c) → P (.list cs))
    (record : ∀ ms, (∀ m ∈ ms, P m.2) → P (.record ms)) (c : Content) : P c :=
  @Content.rec P (fun cs => ∀ c ∈ cs, P c) (fun ms => ∀ m ∈ ms, P m.2) (fun m => P m.2)
    null bool number text (fun cs ih => list cs ih) (fun ms ih => record ms ih)
    (fun _ hc => absurd hc List.not_mem_nil)
    (fun _ _ hc hcs => List.forall_mem_cons.mpr ⟨hc, hcs⟩)
    (fun _ hm => absurd hm List.not_mem_nil)
    (fun _ _ hm hms => List.forall_mem_cons.mpr ⟨hm, hms⟩)
    (fun _ _ hc => hc) c

/-- The value of a content can be skipped. -/
lemma skipFlaw?_json (c : Content) : c.json.skipFlaw? = none := by
  induction c using ind with
  | null | bool b | number n | text s => rfl
  | list cs ih =>
      rw [json_list, Json.skipFlaw?_list]
      exact List.forall_mem_map.mpr ih
  | record ms ih =>
      rw [json_record, Json.skipFlaw?_record]
      exact List.forall_mem_map.mpr ih

/-- A value that is read without a flaw is that of a content. The induction is on the value;
each array and each object takes one level of the room. -/
theorem exists_content {room : Nat} {j : Json} (h : j.readFlaw? room = none) :
    ∃ c : Content, c.json = j := by
  induction j using Json.ind generalizing room with
  | fault f => cases h
  | scalar s =>
      cases s with
      | null => exact ⟨.null, rfl⟩
      | bool b => exact ⟨.bool b, rfl⟩
      | number n => exact ⟨.number n, rfl⟩
      | text s => exact ⟨.text s, rfl⟩
      | hugeNumber | brokenText => cases h
  | array js close ih =>
      obtain _ | room := room
      · cases h
      obtain ⟨hjs, rfl⟩ := Json.readFlaw?_array.mp h
      obtain ⟨cs, rfl⟩ : js ∈ Set.range (List.map json) := by
        rw [Set.range_list_map]
        exact fun j hj => ih j hj (hjs j hj)
      exact ⟨.list cs, json_list cs⟩
  | object ms close ih =>
      obtain _ | room := room
      · cases h
      obtain ⟨hms, rfl⟩ := Json.readFlaw?_object.mp h
      obtain ⟨ns, rfl⟩ := Json.exists_names fun m hm => (hms m hm).1
      rw [List.forall_mem_map] at ih hms
      obtain ⟨ms, rfl⟩ : ns ∈ Set.range (List.map fun m : String × Content => (m.1, m.2.json)) := by
        rw [Set.range_list_map]
        rintro ⟨name, j⟩ hn
        obtain ⟨c, rfl⟩ := ih _ hn (hms _ hn).2
        exact ⟨(name, c), rfl⟩
      exact ⟨.record ms, json_record ms⟩

/-- What is read without a flaw can be skipped. -/
lemma skipFlaw?_of_readFlaw? {room : Nat} {j : Json} (h : j.readFlaw? room = none) :
    j.skipFlaw? = none := by
  obtain ⟨c, rfl⟩ := exists_content h
  exact skipFlaw?_json c

/-! ### Reading parts -/

def text? : Content → Option String
  | .text s => some s
  | _ => none

/-- Null stands for nothing. -/
def optional (read : Content → Option α) : Content → Option (Option α)
  | .null => some none
  | c => (read c).map some

/-- A name from a fixed list, alone or as the only key of a record with null. -/
def variant? (known : List (String × α)) : Content → Option α
  | .text s => known.lookup s
  | .record [(s, .null)] => known.lookup s
  | _ => none

/-- What is given under each name. -/
abbrev Given : Type := String → Option Content

/-- What a structure with fields of the names is given: by a record under the names, none of
which may come twice, and by a list in the order of the names. -/
def given? (names : List String) : Content → Option Given
  | .record ms =>
    if ((ms.map Prod.fst).filter fun name => name ∈ names).Nodup then
      some fun name => ms.lookup name
    else none
  | .list cs =>
    if cs.length ≤ names.length then some fun name => (names.zip cs).lookup name else none
  | _ => none

namespace Given

/-- A field that has to be given. -/
def required (given : Given) (name : String) (read : Content → Option α) : Option α :=
  (given name).bind read

/-- A field that may be left out. -/
def optional (given : Given) (name : String) (read : Content → Option α) (absent : α) :
    Option α :=
  match given name with
  | some c => read c
  | none => some absent

end Given

lemma bind_ite_eq_some_iff {p : Prop} [Decidable p] {b : β} {f : β → Option α} {a : α} :
    (if p then some b else none).bind f = some a ↔ p ∧ f b = some a := by
  split <;> simp [*]

/-! ### Agreement with the decoders -/

/-- A decoder gives for the value of each content what is read off the content. -/
def Agrees (d : Decoder α) (read : Content → Option α) : Prop :=
  ∀ c : Content, (d c.json).toOption = read c

lemma toOption_map {ε : Type} (f : α → β) (x : Except ε α) :
    (x.map f).toOption = x.toOption.map f := by
  cases x <;> rfl

lemma toOption_eq_some_iff {ε : Type} {x : Except ε α} {a : α} :
    x.toOption = some a ↔ x = .ok a := by
  cases x <;> simp [Except.toOption]

lemma toOption_bind {ε : Type} (x : Except ε α) (f : α → Except ε β) :
    (x >>= f).toOption = x.toOption.bind fun a => (f a).toOption := by
  cases x <;> rfl

lemma Agrees.map {d : Decoder α} {read : Content → Option α} (h : Agrees d read) (f : α → β) :
    Agrees (fun j => (d j).map f) fun c => (read c).map f := by
  intro c
  rw [toOption_map, h c]

lemma agrees_text : Agrees Decode.text text? := by
  intro c
  cases c <;> rfl

lemma Agrees.optional {d : Decoder α} {read : Content → Option α} (h : Agrees d read) :
    Agrees (Decode.optional d) (Content.optional read) := by
  intro c
  have hsome : ((d c.json).map some).toOption = (read c).map some := by
    rw [toOption_map, h c]
  cases c with
  | null => rfl
  | _ => exact hsome

lemma toOption_choice (known : List (String × α)) (s : String) :
    (Decode.choice known s).toOption = known.lookup s := by
  unfold Decode.choice
  cases known.lookup s <;> rfl

lemma agrees_variant (known : List (String × α)) :
    Agrees (Decode.variant known) (variant? known) := by
  intro c
  cases c with
  | null | bool b | number n | list cs => rfl
  | text s => exact toOption_choice known s
  | record ms =>
      match ms with
      | [] => rfl
      | (s, c) :: ms =>
          rw [json_record]
          change (Decode.choice known s >>= fun a => Decode.unit c.json >>= fun _ =>
            Decode.onlyMember _ .bracket >>= fun _ => pure a).toOption = _
          simp only [toOption_bind, toOption_choice]
          match c, ms with
          | .null, [] => exact Option.bind_fun_some _
          | .null, _ :: _ | .bool _, _ | .number _, _ | .text _, _ | .list _, _ | .record _, _ =>
              exact Option.bind_fun_none _

end Content

/-! ### Agreement of layouts -/

namespace Layout

open Content

/-- A layout fetches of the values of contents what is read off the contents. -/
def Reads (l : Layout α) (read : Given → Option α) : Prop :=
  ∀ (p : Parts) (given : Given), (∀ name ∈ l.names, p.get name = (given name).map json) →
    (l.fetch p).toOption = read given

lemma reads_required {d : Decoder α} {read : Content → Option α} (h : Agrees d read)
    (name : String) : (Layout.required name d).Reads fun given => given.required name read := by
  intro p given hgiven
  have hname : p.get name = (given name).map json := hgiven name List.mem_cons_self
  change (FieldSpec.fetch p (.required name d)).toOption = (given name).bind read
  rw [FieldSpec.fetch, FieldSpec.required, hname]
  cases given name with
  | none => cases p.inArray <;> rfl
  | some c => exact h c

lemma reads_optional {d : Decoder α} {read : Content → Option α} (h : Agrees d read)
    (name : String) (absent : α) :
    (Layout.optional name d absent).Reads fun given => given.optional name read absent := by
  intro p given hgiven
  have hname : p.get name = (given name).map json := hgiven name List.mem_cons_self
  change (FieldSpec.fetch p (.optional name d absent)).toOption = given.optional name read absent
  rw [FieldSpec.fetch, FieldSpec.optional, hname, Given.optional]
  cases given name with
  | none => cases p.inArray <;> rfl
  | some c => exact h c

lemma Reads.seq {f : Layout (α → β)} {x : Layout α} {readf : Given → Option (α → β)}
    {readx : Given → Option α} (hf : f.Reads readf) (hx : x.Reads readx) :
    (f <*> x).Reads fun given => (readf given).bind fun g => (readx given).map g := by
  intro p given hgiven
  have hfetch : (f <*> x : Layout β).fetch p = (f.fetch p >>= fun g => (x.fetch p).map g) := rfl
  have hnames : (f <*> x : Layout β).names = f.names ++ x.names := List.map_append
  rw [hnames] at hgiven
  rw [hfetch, toOption_bind, hf p given fun name h => hgiven name (List.mem_append_left _ h)]
  simp only [toOption_map, hx p given fun name h => hgiven name (List.mem_append_right _ h)]

lemma Reads.map {x : Layout α} {read : Given → Option α} (g : α → β) (hx : x.Reads read) :
    (g <$> x).Reads fun given => (read given).map g := by
  intro p given hgiven
  have hfetch : (g <$> x : Layout β).fetch p = (x.fetch p).map g := rfl
  rw [hfetch, toOption_map, hx p given hgiven]

end Layout

namespace Content

/-- **A structure agrees** with what is read off a content, whatever the order in which the
decoder meets its parts. -/
theorem agrees_struct {l : Layout α} (hl : l.Faithful) (hnames : l.names.Nodup)
    {read : Given → Option α} (hread : l.Reads read) (structName : String) :
    Agrees (Decode.struct structName l) fun c => (c.given? l.names).bind read := by
  intro c
  cases c with
  | null | bool b | number n | text s => rfl
  | list cs =>
      have hfetch : (l.fetch (Decode.partsOfItems structName l.fields (cs.map json))).toOption =
          read fun name => (l.names.zip cs).lookup name := by
        refine hread _ _ fun name _ => ?_
        change (l.names.zip (cs.map json)).lookup name = _
        rw [List.zip_map_right]
        exact OrderedMap.lookup_map json _ name
      have hlength : l.fields.length = l.names.length := (List.length_map _).symm
      rw [json_list]
      ext a
      rw [toOption_eq_some_iff, Decode.struct_list_eq_ok_iff hl hnames, ← toOption_eq_some_iff,
        hfetch, List.length_map, hlength]
      exact bind_ite_eq_some_iff.symm
  | record ms =>
      have hfetch : (l.fetch (Decode.partsOfMembers ((ms.map fun m => (m.1, m.2.json)).map
          fun m => (.name m.1, m.2)))).toOption = read fun name => ms.lookup name := by
        refine hread _ _ fun name _ => ?_
        rw [Decode.get_partsOfMembers, OrderedMap.lookup_map]
      have hkeys : (ms.map fun m => (m.1, m.2.json)).map Prod.fst = ms.map Prod.fst := by
        rw [List.map_map]
        rfl
      have hskip : ∀ m ∈ ms.map fun m => (m.1, m.2.json),
          m.1 ∉ l.names → m.2.skipFlaw? = none :=
        List.forall_mem_map.mpr fun m _ _ => skipFlaw?_json m.2
      rw [json_record]
      ext a
      rw [toOption_eq_some_iff, Decode.struct_record_eq_ok_iff hl, ← toOption_eq_some_iff, hfetch,
        hkeys, and_iff_right hskip]
      exact bind_ite_eq_some_iff.symm

end Content

end SqlRequest
