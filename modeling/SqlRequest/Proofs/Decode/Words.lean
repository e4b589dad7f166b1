import Mathlib
import SqlRequest.Proofs.Condition.Where
import SqlRequest.Proofs.Decode.Slot
import SqlRequest.Proofs.Decode.Untagged
import SqlRequest.Proofs.Text.Trim

/-!
The words between conditions, from a JSON text to a clause.

* `Connective.Spells`: a word that names a connective, in any letters. `Connective.Meant`: what
  a word stands for that may be absent or blank.
* `Entry`: an object that is a comparison up to its word. `Entry.Decoded`: what it is decoded
  to; `Entry.ofWhole_eq_ok_iff` for one of them, `Conditions.ofJson_entries_eq_ok_iff` for a list.
* `Entry.Spoken`: what the clause of a list is in the words of its objects.
* `Conditions.ofText_entries`: a text of such objects is decoded unless one of the words says
  something that is no connective, and the clause has the words in capitals.
-/

namespace SqlRequest

/-! ### Words that name a connective -/

/-- Capitals of ASCII have their small letters 32 places behind them. -/
lemma toNat_toLower {c : Char} (hc : 65 ≤ c.toNat ∧ c.toNat ≤ 90) :
    c.toLower.toNat = c.toNat + 32 := by
  have hrange : c.val ≥ 'A'.val ∧ c.val ≤ 'Z'.val := by
    simpa [UInt32.le_iff_toNat_le] using hc
  rw [Char.toLower, dif_pos hrange]
  change (c.val + 32).toNat = c.toNat + 32
  rw [UInt32.toNat_add]
  simp
  omega

lemma toNat_toUpper (c : Char) :
    c.toUpper.toNat = if 97 ≤ c.toNat ∧ c.toNat ≤ 122 then c.toNat - 32 else c.toNat := by
  have hrange : ('a'.val ≤ c.val ∧ c.val ≤ 'z'.val) ↔ 97 ≤ c.toNat ∧ c.toNat ≤ 122 := by
    simp [UInt32.le_iff_toNat_le]
  rw [Char.toUpper]
  split
  · next h =>
    have hc := hrange.mp h
    rw [if_pos hc]
    change (c.val + ('A'.val - 'a'.val)).toNat = c.toNat - 32
    rw [UInt32.toNat_add]
    simp
    omega
  · next h => rw [if_neg (mt hrange.mpr h)]

/-- Only a capital and its small letter become the capital. -/
lemma toUpper_eq_iff {c d : Char} (hd : d.isUpper = true) :
    c.toUpper = d ↔ c = d ∨ c = d.toLower := by
  have hrange : 65 ≤ d.toNat ∧ d.toNat ≤ 90 := by
    simpa [Char.isUpper, UInt32.le_iff_toNat_le] using hd
  simp only [← Char.toNat_inj, toNat_toLower hrange, toNat_toUpper]
  split <;> omega

namespace Connective

/-- A word that names a connective: with the blanks around it gone, each of its letters is that
of the connective, as a capital or as a small letter of ASCII. -/
def Spells (s : String) (op : Connective) : Prop :=
  List.Forall₂ (fun c d => c = d ∨ c = d.toLower) (Text.trim s).toList op.sql.toList

variable {s : String} {op : Connective}

lemma capitals_eq_iff : capitals s = op.sql ↔ Spells s op := by
  have hupper : ∀ d ∈ op.sql.toList, d.isUpper = true := by cases op <;> simp [sql]
  rw [capitals, ← String.toList_inj, String.toList_map, ← List.forall₂_eq_eq_eq,
    List.forall₂_map_left_iff, Spells]
  -- both go through the letters of the connective, all of which are capitals
  constructor
  · intro h
    refine List.forall₂_iff_zip.mpr ⟨h.length_eq, fun hmem => ?_⟩
    exact (toUpper_eq_iff (hupper _ (List.of_mem_zip hmem).2)).mp (List.forall₂_zip h hmem)
  · intro h
    refine List.forall₂_iff_zip.mpr ⟨h.length_eq, fun hmem => ?_⟩
    exact (toUpper_eq_iff (hupper _ (List.of_mem_zip hmem).2)).mpr (List.forall₂_zip h hmem)

lemma ofWord_eq_ok_iff : ofWord s = .ok op ↔ Spells s op := by
  rw [← capitals_eq_iff, ofWord]
  by_cases hand : capitals s = "AND"
  · rw [if_pos hand, hand]
    cases op <;> simp [sql]
  · rw [if_neg hand]
    by_cases hor : capitals s = "OR"
    · rw [if_pos hor, hor]
      cases op <;> simp [sql]
    · rw [if_neg hor]
      cases op <;> simp [sql, hand, hor]

/-- A blank word names nothing. -/
lemma Spells.not_blank (h : Spells s op) : Text.blank s = false := by
  refine Bool.eq_false_iff.mpr fun hblank => ?_
  have hlength := h.length_eq
  rw [Text.trim_of_blank hblank] at hlength
  cases op <;> cases hlength

/-- What a word stands for that may be absent: nothing if it is, or if it is blank, and else the
connective that it names. -/
inductive Meant : Option String → Option Connective → Prop where
  | absent : Meant none none
  | blank {s : String} (h : Text.blank s = true) : Meant (some s) none
  | named {s : String} {op : Connective} (h : Spells s op) : Meant (some s) (some op)

lemma ofWord?_eq_ok_iff {o : Option Connective} : ofWord? s = .ok o ↔ Meant (some s) o := by
  rw [ofWord?]
  by_cases hblank : Text.blank s = true
  · rw [if_pos hblank]
    constructor
    · intro h
      obtain rfl := Except.ok.inj h
      exact .blank hblank
    · intro h
      cases h with
      | blank _ => rfl
      | named h => exact absurd hblank (by simp [h.not_blank])
  · rw [if_neg hblank]
    constructor
    · intro h
      obtain ⟨op, hword, rfl⟩ := map_eq_ok.mp h
      exact .named (ofWord_eq_ok_iff.mp hword)
    · intro h
      cases h with
      | blank h => exact absurd h hblank
      | named h =>
          rw [ofWord_eq_ok_iff.mpr h]
          rfl

/-- A word stands for something or for nothing unless it says what is no connective. -/
lemma exists_meant_iff {word : Option String} :
    (∃ o, Meant word o) ↔ ∀ s ∈ word, Text.blank s = false → ∃ op, Spells s op := by
  constructor
  · rintro ⟨o, ho⟩ s hs hblank
    obtain rfl := Option.mem_def.mp hs
    cases ho with
    | blank h => exact absurd h (by simp [hblank])
    | named h => exact ⟨_, h⟩
  · intro h
    cases word with
    | none => exact ⟨none, .absent⟩
    | some s =>
        cases hblank : Text.blank s with
        | true => exact ⟨none, .blank hblank⟩
        | false =>
            obtain ⟨op, hop⟩ := h s rfl hblank
            exact ⟨some op, .named hop⟩

/-- How a word may be given in an object: under its key, once, as a text; or not at all, or as
null. -/
inductive Given : Option String → List (String × Json) → Prop where
  | absent : Given none []
  | null : Given none [("logicalOperator", .null)]
  | text (s : String) : Given (some s) [("logicalOperator", .text s)]

/-- However a word is given, it has no flaw, and it is given once. -/
lemma Given.readFlaw? {word : Option String} {ms : List (String × Json)} (h : Given word ms)
    {room : Nat} : ∀ m ∈ ms, m.2.readFlaw? room = none := by
  cases h with
  | absent => simp
  | null => simp [Json.readFlaw?, Json.null, Scalar.flaw?]
  | text s => simp [Json.readFlaw?, Json.text, Scalar.flaw?]

lemma Given.nodup {word : Option String} {ms : List (String × Json)} (h : Given word ms) :
    (ms.map Prod.fst).Nodup := by
  cases h <;> simp

/-- The field of an object that gives a word is what the word stands for. -/
lemma Given.fetch_eq_ok_iff {word : Option String} {ms : List (String × Json)}
    {o : Option Connective} (h : Given word (ms.filter fun m => m.1 = "logicalOperator")) :
    (FieldSpec.optional "logicalOperator" ofJson? none).fetch
        (Decode.partsOfMembers (ms.map fun m => (.name m.1, m.2))) = .ok o ↔ Meant word o := by
  have hlookup : (ms.filter fun m => m.1 = "logicalOperator").lookup "logicalOperator" =
      ms.lookup "logicalOperator" :=
    Decode.lookup_filter (p := fun name => name = "logicalOperator") (by simp) ms
  have hnone : Meant none o ↔ (.ok none : Except DecodeFault (Option Connective)) = .ok o := by
    constructor
    · rintro ⟨⟩
      rfl
    · intro ho
      obtain rfl := Except.ok.inj ho
      exact .absent
  rw [FieldSpec.fetch, FieldSpec.optional, Decode.get_partsOfMembers, ← hlookup]
  generalize ms.filter _ = given at h ⊢
  cases h with
  | absent => exact hnone.symm
  | null => exact hnone.symm
  | text s =>
      rw [← ofWord?_eq_ok_iff]
      change (ofWord? s).mapError DecodeFault.refused = .ok o ↔ _
      cases ofWord? s <;> simp [Except.mapError]

end Connective

/-! ### Objects that are comparisons up to their words -/

/-- A comparison in a list of conditions as an object without a tag: its word is given in any of
the ways there are, and without it the object is decoded to a comparison. -/
structure Entry where
  members : List (String × Json)
  word : Option String
  bare : Comparison
  untagged : "type" ∉ members.map Prod.fst
  given : Connective.Given word (members.filter fun m => m.1 = "logicalOperator")
  decoded : Condition.ofJson 1 (.record (members.filter fun m => m.1 ≠ "logicalOperator")) =
    .ok (.comparison bare)

namespace Entry

def json (e : Entry) : Json := .record e.members

variable (e : Entry)

/-- A member is the word or one of the others. -/
lemma mem_given_or_others {m : String × Json} (hm : m ∈ e.members) :
    m ∈ (e.members.filter fun m => m.1 = "logicalOperator") ∨
      m ∈ (e.members.filter fun m => m.1 ≠ "logicalOperator") := by
  by_cases h : m.1 = "logicalOperator"
  · exact .inl (List.mem_filter.mpr ⟨hm, by simpa using h⟩)
  · exact .inr (List.mem_filter.mpr ⟨hm, by simpa using h⟩)

lemma others_ofJson :
    Comparison.ofJson (.record (e.members.filter fun m => m.1 ≠ "logicalOperator")) =
      .ok e.bare := by
  obtain ⟨-, hwhole⟩ := Condition.ofJson_eq_ok_iff.mp e.decoded
  rcases Condition.of_ofWhole hwhole with ⟨f, hf, -⟩ | ⟨c, hc, -, hofJson⟩
  · cases hf
  · obtain rfl := Condition.comparison.inj hc
    exact hofJson

/-- A word is no flaw of an object. -/
lemma readFlaw? : e.json.readFlaw? (deepest - 1) = none := by
  obtain ⟨hothers, -⟩ := Condition.ofJson_eq_ok_iff.mp e.decoded
  refine Json.readFlaw?_record.mpr fun m hm => ?_
  rcases e.mem_given_or_others hm with hgiven | hother
  · exact e.given.readFlaw? m hgiven
  · exact Json.readFlaw?_record.mp hothers m hother

/-- No field is given twice: the word is not, and the others are not. -/
lemma nodup_fields :
    ((e.members.map Prod.fst).filter fun name => name ∈ Comparison.layout.names).Nodup := by
  obtain ⟨hothers, -⟩ :=
    (Decode.struct_record_eq_ok_iff Comparison.faithful_layout).mp e.others_ofJson
  have hperm := ((List.filter_append_perm (fun m : String × Json => m.1 = "logicalOperator")
    e.members).map Prod.fst).filter fun name => name ∈ Comparison.layout.names
  rw [List.map_append, List.filter_append] at hperm
  refine hperm.nodup_iff.mp (List.nodup_append.mpr ⟨?_, ?_, ?_⟩)
  · exact e.given.nodup.filter _
  · simpa using hothers
  · rintro name hgiven other hother rfl
    obtain ⟨m, hm, hname⟩ := List.mem_map.mp (List.mem_of_mem_filter hgiven)
    obtain ⟨m', hm', hname'⟩ := List.mem_map.mp (List.mem_of_mem_filter hother)
    simp only [List.mem_filter, decide_eq_true_eq, Bool.not_eq_true'] at hm hm'
    simp [← hname', ← hm.2, hname] at hm'

/-- A field that is not the word is fetched from the object as from the object without it. -/
lemma fetch_others {α : Type} {f : FieldSpec α} (hname : f.name ≠ "logicalOperator") :
    f.fetch (Decode.partsOfMembers (e.members.map fun m => (.name m.1, m.2))) =
      f.fetch (Decode.partsOfMembers ((e.members.filter fun m => m.1 ≠ "logicalOperator").map
        fun m => (.name m.1, m.2))) := by
  have hlookup := Decode.lookup_filter (p := fun name => name ≠ "logicalOperator")
    (by simpa using hname) e.members
  rw [FieldSpec.fetch, FieldSpec.fetch, Decode.get_partsOfMembers, Decode.get_partsOfMembers,
    hlookup]
  rfl

/-- What an object is decoded to: its comparison, after what its word stands for. -/
inductive Decoded : Condition → Prop where
  | comparison {o : Option Connective} (h : Connective.Meant e.word o) :
    Decoded (.comparison { e.bare with connective := o })

lemma ofJson_eq_ok_iff {c : Comparison} :
    Comparison.ofJson e.json = .ok c ↔
      ∃ o, Connective.Meant e.word o ∧ c = { e.bare with connective := o } := by
  obtain ⟨-, hskip, hothers⟩ :=
    (Decode.struct_record_eq_ok_iff Comparison.faithful_layout).mp e.others_ofJson
  obtain ⟨hfield, -, hoperator, hqueue, hwildcard, htable⟩ := Comparison.fetch_eq_ok_iff.mp hothers
  have hfetch : Comparison.layout.fetch
      (Decode.partsOfMembers (e.members.map fun m => (.name m.1, m.2))) = .ok c ↔
        ∃ o, Connective.Meant e.word o ∧ c = { e.bare with connective := o } := by
    rw [Comparison.fetch_eq_ok_iff, e.given.fetch_eq_ok_iff, e.fetch_others (by decide),
      e.fetch_others (by decide), e.fetch_others (by decide), e.fetch_others (by decide),
      e.fetch_others (by decide), hfield, hoperator, hqueue, hwildcard, htable]
    constructor
    · rintro ⟨hfield, hword, hoperator, hqueue, hwildcard, htable⟩
      refine ⟨c.connective, hword, ?_⟩
      change c = ⟨e.bare.field, c.connective, e.bare.operator, e.bare.queue, e.bare.wildcard,
        e.bare.table⟩
      rw [Except.ok.inj hfield, Except.ok.inj hoperator, Except.ok.inj hqueue,
        Except.ok.inj hwildcard, Except.ok.inj htable]
    · rintro ⟨o, hword, rfl⟩
      exact ⟨rfl, hword, rfl, rfl, rfl, rfl⟩
  rw [← hfetch, Comparison.ofJson, json, Decode.struct_record_eq_ok_iff Comparison.faithful_layout]
  constructor
  · rintro ⟨-, -, h⟩
    exact h
  · intro h
    refine ⟨e.nodup_fields, fun m hm hunknown => ?_, h⟩
    have hname : m.1 ≠ "logicalOperator" := by
      intro hname
      exact hunknown (hname ▸ by decide)
    exact hskip m (List.mem_filter.mpr ⟨hm, by simpa using hname⟩) hunknown

lemma ofWhole_eq_ok_iff {d : Condition} : Condition.ofWhole e.json = .ok d ↔ e.Decoded d := by
  have hfallback : Decode.Fails Fallback.ofJson e.json :=
    Fallback.fails_of_lookup (Decode.lookup_eq_none_iff.mpr e.untagged)
  constructor
  · intro h
    rcases Condition.of_ofWhole h with ⟨f, rfl, hf⟩ | ⟨c, rfl, -, hc⟩
    · exact absurd hf (Decode.fails_iff.mp hfallback f)
    · obtain ⟨o, hword, rfl⟩ := e.ofJson_eq_ok_iff.mp hc
      exact .comparison hword
  · rintro ⟨hword⟩
    exact Condition.ofWhole_of_comparison hfallback (e.ofJson_eq_ok_iff.mpr ⟨_, hword, rfl⟩)

/-! ### Words between conditions -/

/-- An object whose word names nothing. -/
def silent (e : Entry) : Bool := e.word.all Text.blank

/-- The words that an object adds to a clause: its own in capitals, and its predicate. -/
def link (q : Quoter) (ambient : Ident) (e : Entry) : List String :=
  [Connective.capitals (e.word.getD ""), e.bare.render q ambient]

/-- The words of a clause: the first predicate, and then the word and the predicate of each
further object. -/
def chain (q : Quoter) (ambient : Ident) : List Entry → List String
  | [] => []
  | e :: es => e.bare.render q ambient :: es.flatMap (link q ambient)

variable {e} {q : Quoter} {ambient : Ident} {d : Condition}

namespace Decoded

lemma connective_eq_none_iff (h : e.Decoded d) : d.connective = none ↔ e.silent = true := by
  obtain ⟨hword⟩ := h
  rw [silent, Condition.connective]
  generalize e.word = word at hword
  cases hword with
  | absent => simp
  | blank hblank => simp [hblank]
  | named hspells => simp [hspells.not_blank]

lemma render_eq (h : e.Decoded d) : d.render q ambient = e.bare.render q ambient := by
  obtain ⟨-⟩ := h
  rfl

/-- A connective is written as the word that named it, in capitals. -/
lemma link_eq (h : e.Decoded d) (hword : e.silent = false) :
    d.link q ambient = e.link q ambient := by
  have hnone := mt h.connective_eq_none_iff.mp (by simp [hword])
  rw [Condition.link, h.render_eq, link]
  obtain ⟨hmeant⟩ := h
  rw [Condition.connective] at hnone ⊢
  generalize e.word = word at hmeant
  cases hmeant with
  | absent => exact absurd rfl hnone
  | blank => exact absurd rfl hnone
  | named hspells =>
      rw [Option.getD_some, Connective.capitals_eq_iff.mpr hspells]
      rfl

end Decoded

section Lists

variable {es : List Entry} {ds : List Condition}

lemma forall_connective_iff (h : List.Forall₂ Decoded es ds) :
    (∀ d ∈ ds, d.connective.isSome) ↔ ∀ e ∈ es, e.silent = false := by
  induction h with
  | nil => simp
  | cons hd _ ih =>
      rw [List.forall_mem_cons, List.forall_mem_cons, ih, Option.isSome_iff_ne_none,
        Ne, hd.connective_eq_none_iff, Bool.not_eq_true]

lemma flatMap_link (h : List.Forall₂ Decoded es ds) (hwords : ∀ e ∈ es, e.silent = false) :
    ds.flatMap (Condition.link q ambient) = es.flatMap (link q ambient) := by
  induction h with
  | nil => rfl
  | cons hd _ ih =>
      rw [List.forall_mem_cons] at hwords
      rw [List.flatMap_cons, List.flatMap_cons, hd.link_eq hwords.1, ih hwords.2]

/-- The positions, counted from one, of the objects after the first whose words name nothing. -/
def unjoined (es : List Entry) : Set Nat :=
  {i | 2 ≤ i ∧ ∃ e, es[i - 1]? = some e ∧ e.silent = true}

lemma unjoined_eq (h : List.Forall₂ Decoded es ds) : Conditions.unjoined ds = unjoined es := by
  have hget (i : Nat) : (∃ d, ds[i]? = some d ∧ d.connective = none) ↔
      ∃ e, es[i]? = some e ∧ e.silent = true := by
    induction h generalizing i with
    | nil => simp
    | cons hd _ ih =>
        cases i with
        | zero => simp [hd.connective_eq_none_iff]
        | succ i => simpa using ih i
  ext i
  exact and_congr_right fun _ => hget (i - 1)

end Lists

/-- What the clause of conditions is in the words of the objects that they were given as: the
predicates in order, and before each after the first the word of its object in capitals. -/
structure Spoken (q : Quoter) (ambient : Ident) (es : List Entry) (cs : Conditions) : Prop where
  /-- There is a clause exactly if each word after the first names something. -/
  succeeds_iff :
    (∃ sql, cs.clause q ambient = .ok sql) ↔ ∀ e ∈ es.tail, e.silent = false
  /-- The error tells the table and the least position after the first of a word that names
  nothing. -/
  error_iff : ∀ err, cs.clause q ambient = .error err ↔
    ∃ i, IsLeast (unjoined es) i ∧ err = .validation (.missingOperator i ambient)
  empty : es = [] → cs.clause q ambient = .ok ""
  text : ∀ sql, cs.clause q ambient = .ok sql → es ≠ [] →
    sql = " WHERE " ++ " ".intercalate (chain q ambient es)

lemma spoken {es : List Entry} {ds : List Condition} (h : List.Forall₂ Decoded es ds) :
    Spoken q ambient es (.list ds) where
  succeeds_iff := by
    rw [(Conditions.chained q ambient ds).succeeds_iff]
    cases h with
    | nil => simp
    | cons _ hrest => exact forall_connective_iff hrest
  error_iff err := by rw [Conditions.clause_eq_error_iff, unjoined_eq h]
  empty := by
    rintro rfl
    cases h
    rfl
  text := by
    intro sql hsql hne
    cases h with
    | nil => exact absurd rfl hne
    | cons hd hrest =>
        obtain ⟨hall, rfl⟩ := Conditions.clause_cons_eq_ok_iff.mp hsql
        rw [Condition.chain, chain, hd.render_eq,
          flatMap_link hrest ((forall_connective_iff hrest).mp hall)]

end Entry

namespace Conditions

variable {es : List Entry}

lemma readFlaw?_entries (es : List Entry) :
    (Json.list (es.map Entry.json)).readFlaw? (deepest - 0) = Option.none := by
  refine Json.readFlaw?_array.mpr ⟨fun j hj => ?_, rfl⟩
  obtain ⟨e, -, rfl⟩ := List.mem_map.mp hj
  exact e.readFlaw?

/-- A list of such objects is decoded to the conditions that they are. -/
lemma ofJson_entries_eq_ok_iff {cs : Conditions} :
    ofJson 0 (.list (es.map Entry.json)) = .ok cs ↔
      ∃ ds, cs = .list ds ∧ List.Forall₂ Entry.Decoded es ds := by
  rw [ofJson_list_eq_ok_iff, and_iff_right (readFlaw?_entries es)]
  simp only [List.forall₂_map_left_iff, Entry.ofWhole_eq_ok_iff]

/-- They are such conditions exactly if no word says what is no connective. -/
lemma exists_ofJson_entries_iff :
    (∃ cs, ofJson 0 (.list (es.map Entry.json)) = .ok cs) ↔
      ∀ e ∈ es, ∀ w ∈ e.word, Text.blank w = false → ∃ op, Connective.Spells w op := by
  have hlist : (∃ cs, ofJson 0 (.list (es.map Entry.json)) = .ok cs) ↔
      ∃ ds, List.Forall₂ Entry.Decoded es ds := by
    constructor
    · rintro ⟨cs, h⟩
      obtain ⟨ds, -, hds⟩ := ofJson_entries_eq_ok_iff.mp h
      exact ⟨ds, hds⟩
    · rintro ⟨ds, hds⟩
      exact ⟨_, ofJson_entries_eq_ok_iff.mpr ⟨ds, rfl, hds⟩⟩
  rw [hlist, exists_forall₂_iff]
  refine forall₂_congr fun e _ => ?_
  rw [← Connective.exists_meant_iff]
  constructor
  · rintro ⟨_, ⟨hword⟩⟩
    exact ⟨_, hword⟩
  · rintro ⟨o, hword⟩
    exact ⟨_, .comparison hword⟩

/-- **The words between conditions, from a JSON text to a clause.** A text that is an array of
comparisons is decoded exactly if each word that is not blank, the first one included, names a
connective, and otherwise the whole of it is refused. The conditions it is decoded to have a
clause exactly if no word after the first is absent or blank, and then the clause has those
words in capitals, in order. -/
theorem ofText_entries {s : String} (h : Document.ofText s = ⟨.list (es.map Entry.json), false⟩) :
    ((∃ cs, ofText s = .ok cs) ↔
        ∀ e ∈ es, ∀ w ∈ e.word, Text.blank w = false → ∃ op, Connective.Spells w op) ∧
      (∀ err, ofText s = .error err → err = .decode (.noVariant "ConditionsRepr")) ∧
      ∀ cs, ofText s = .ok cs → ∀ q ambient, Entry.Spoken q ambient es cs := by
  have hdecode : ofText s = (ofJson 0 (.list (es.map Entry.json))).mapError Error.decode := by
    rw [ofText, Decode.ofText, h, Decode.document]
    cases ofJson 0 (.list (es.map Entry.json)) <;> rfl
  rw [← exists_ofJson_entries_iff, hdecode]
  cases hjson : ofJson 0 (.list (es.map Entry.json)) with
  | error fault =>
      obtain ⟨rfl, -⟩ := ((taken (readFlaw?_entries es)).neither fault).mp hjson
      exact ⟨by simp [Except.mapError], fun err herr => (Except.error.inj herr).symm, nofun⟩
  | ok cs =>
      obtain ⟨ds, rfl, hds⟩ := ofJson_entries_eq_ok_iff.mp hjson
      refine ⟨by simp [Except.mapError], nofun, ?_⟩
      intro cs' hcs'
      obtain rfl := Except.ok.inj hcs'
      exact fun q ambient => Entry.spoken hds

/-- A text with a word that is null and one among blanks, in letters of both cases. -/
def oddlyWorded : String :=
  "[\x7b\"field\":\"name\",\"queue\":\"a\",\"logicalOperator\":null\x7d," ++
    "\x7b\"logicalOperator\":\"\\u2003oR\\n\",\"field\":\"age\",\"queue\":7\x7d]"

/-- The objects in that text. -/
def oddlyWordedEntries : List Entry :=
  [{ members := [("field", .text "name"), ("queue", .text "a"), ("logicalOperator", .null)]
     word := Option.none
     bare := .of ⟨"name"⟩ (.text "a")
     untagged := by decide
     given := .null
     decoded := rfl },
   { members := [("logicalOperator", .text "\u2003oR\n"), ("field", .text "age"),
       ("queue", .whole 7)]
     word := some "\u2003oR\n"
     bare := .of ⟨"age"⟩ (.integer 7)
     untagged := by decide
     given := .text _
     decoded := rfl }]

/-- The text is decoded, and the second word is in the clause in capitals. -/
theorem ofText_entries_oddlyWorded :
    Document.ofText oddlyWorded = ⟨.list (oddlyWordedEntries.map Entry.json), false⟩ ∧
      (∃ cs, ofText oddlyWorded = .ok cs) ∧
      ∀ cs, ofText oddlyWorded = .ok cs → cs.clause .standard ⟨"users"⟩ =
        .ok " WHERE users.`name` LIKE 'a' OR users.`age` LIKE '7'" := by
  have htext :
      Document.ofText oddlyWorded = ⟨.list (oddlyWordedEntries.map Entry.json), false⟩ := by
    cbv
  have hor : Connective.Spells "\u2003oR\n" .or := Connective.capitals_eq_iff.mp (by cbv)
  obtain ⟨hdecoded, -, hspoken⟩ := ofText_entries htext
  refine ⟨htext, hdecoded.mpr ?_, fun cs hcs => ?_⟩
  · simp only [oddlyWordedEntries, List.forall_mem_cons, Option.mem_def]
    refine ⟨?_, ?_, ?_⟩
    · rintro w ⟨⟩
    · rintro w ⟨⟩ -
      exact ⟨.or, hor⟩
    · rintro e ⟨⟩
  · have hclause := hspoken cs hcs .standard ⟨"users"⟩
    obtain ⟨sql, hsql⟩ := hclause.succeeds_iff.mpr (by decide)
    rw [hsql, hclause.text sql hsql (by simp [oddlyWordedEntries])]
    cbv

end Conditions

end SqlRequest
