import SqlRequest.Proofs.Settings.Layers
import SqlRequest.Settings.Variable

/-!
Which settings variables write to.

* `Setting.IsWord`: keys of letters and digits. `Setting.pathOf_eq_entries_iff`: the entries under
  such keys, one in the other, are written to under the keys with points between them, and under no
  other name.
* `Variable.pointed_eq_iff`: two words with a point between them can be written in two ways.
* `Variable.Names`: the names of the variables of a key in a table. `key?_eq_iff`: these variables
  stand for it, and no others do. `key?_eq_none_iff`: a variable whose name does not start with
  the whole mark counts for nothing.
* `Variable.textAt?_layer`, `Variable.tableAt_layer`: of all variables the last one that bears on
  some keys decides on their text, and on whether there is a table.
-/

namespace SqlRequest

lemma Text.parts_eq_splitOn (separator : Char) (cs : List Char) :
    Text.parts separator cs = cs.splitOn separator := by
  induction cs with
  | nil => rfl
  | cons c cs ih =>
      rw [Text.parts, ih, List.splitOn, List.splitOn, List.splitOnP_cons_eq_if_modifyHead]
      by_cases hc : c = separator
      · simp [hc]
      · simp only [hc, if_false, beq_iff_eq]
        cases h : cs.splitOnP (· == separator) with
        | nil => exact absurd h (List.splitOnP_ne_nil _ _)
        | cons part others => rfl

namespace Setting

/-- Keys of letters and digits alone. -/
def IsWord (key : String) : Prop := key ≠ "" ∧ ∀ c ∈ key.toList, c.isAlphanum = true

instance (key : String) : Decidable (IsWord key) :=
  @instDecidableAnd _ _ inferInstance (List.decidableBAll _ key.toList)

lemma IsWord.not_mem {key : String} (h : IsWord key) {c : Char} (hc : c.isAlphanum = false) :
    c ∉ key.toList := fun hmem => by simp [h.2 c hmem] at hc

lemma IsWord.ne_of_mem {key : String} (h : IsWord key) : ∀ c ∈ key.toList, c ≠ '.' ∧ c ≠ '_' := by
  intro c hc
  exact ⟨fun hpoint => h.not_mem (c := '.') rfl (hpoint ▸ hc),
    fun hline => h.not_mem (c := '_') rfl (hline ▸ hc)⟩

namespace Step

lemma ofIndex?_eq_some {cs : List Char} {step : Step} (h : ofIndex? cs = some step) :
    ∃ index, step = .item index := by
  rw [ofIndex?] at h
  split at h
  · obtain ⟨index, -, rfl⟩ := Option.map_eq_some_iff.mp h
    exact ⟨index, rfl⟩
  · cases h

/-- Indices lead to items, one each. -/
lemma ofIndices?_eq_some {indices : List (List Char)} {steps : List Step}
    (h : indices.mapM ofIndex? = some steps) :
    (indices = [] ∧ steps = []) ∨ ∃ index rest, steps = .item index :: rest := by
  cases indices with
  | nil => exact .inl ⟨rfl, (Option.some.inj h).symm⟩
  | cons cs indices =>
      rw [List.mapM_cons] at h
      obtain ⟨step, hstep, h⟩ := Option.bind_eq_some_iff.mp h
      obtain ⟨rest, -, h⟩ := Option.bind_eq_some_iff.mp h
      obtain ⟨index, rfl⟩ := ofIndex?_eq_some hstep
      exact .inr ⟨index, rest, (Option.some.inj h).symm⟩

/-- A part leads to an entry; it is nothing but the key of it, or there are items behind. -/
lemma ofPart?_eq_some {cs : List Char} {steps : List Step} (h : ofPart? cs = some steps) :
    ∃ key, (cs = key.toList ∧ steps = [.entry key]) ∨
      ∃ index rest, steps = .entry key :: .item index :: rest := by
  rw [ofPart?] at h
  split at h
  · cases h
  · next key indices hparts =>
    obtain ⟨first, hfirst, h⟩ := Option.bind_eq_some_iff.mp h
    obtain ⟨others, hothers, h⟩ := Option.bind_eq_some_iff.mp h
    obtain rfl := Option.some.inj h
    rw [ofKey?, Option.ite_none_right_eq_some] at hfirst
    obtain rfl := Option.some.inj hfirst.2
    refine ⟨.ofList key, ?_⟩
    obtain ⟨rfl, rfl⟩ | ⟨index, rest, rfl⟩ := ofIndices?_eq_some hothers
    · have hcs := Text.intercalate_parts '[' cs
      rw [hparts, List.intercalate_singleton] at hcs
      exact .inl ⟨by rw [String.toList_ofList, hcs], rfl⟩
    · exact .inr ⟨index, rest, rfl⟩

lemma ofPart?_of_isWord {key : String} (h : IsWord key) :
    ofPart? key.toList = some [.entry key] := by
  have hbracket : Text.parts '[' key.toList = [key.toList] := by
    have hmem : ∀ cs ∈ [key.toList], '[' ∉ cs := by simpa using h.not_mem rfl
    have hsplit := List.splitOn_intercalate '[' hmem (by simp)
    rwa [List.intercalate_singleton, ← Text.parts_eq_splitOn] at hsplit
  have hkey : ∀ c ∈ key.toList, inKey c = true := fun c hc => by simp [inKey, h.2 c hc]
  have hne : key.toList.isEmpty = false := by simpa using h.1
  rw [ofPart?, hbracket]
  simp [ofKey?, hne, List.all_eq_true.mpr hkey]

end Step

/-- Parts that lead to entries are the keys of these. -/
lemma parts_of_entries {parts : List (List Char)} {steps : List (List Step)} {keys : List String}
    (h : parts.mapM Step.ofPart? = some steps) (hkeys : steps.flatten = keys.map .entry) :
    parts = keys.map String.toList := by
  induction parts generalizing steps keys with
  | nil =>
      obtain rfl := Option.some.inj h
      obtain rfl : keys = [] := by simpa using hkeys.symm
      rfl
  | cons part parts ih =>
      rw [List.mapM_cons] at h
      obtain ⟨first, hfirst, h⟩ := Option.bind_eq_some_iff.mp h
      obtain ⟨others, hothers, h⟩ := Option.bind_eq_some_iff.mp h
      obtain rfl := Option.some.inj h
      cases keys with
      | nil =>
          obtain ⟨key, ⟨-, rfl⟩ | ⟨index, rest, rfl⟩⟩ := Step.ofPart?_eq_some hfirst <;>
            simp at hkeys
      | cons key' keys =>
          obtain ⟨key, ⟨rfl, rfl⟩ | ⟨index, rest, rfl⟩⟩ := Step.ofPart?_eq_some hfirst
          · obtain ⟨hkey, hrest⟩ : key = key' ∧ others.flatten = keys.map .entry := by
              simpa using hkeys
            rw [List.map_cons, ih hothers hrest, hkey]
          · cases keys <;> simp at hkeys

lemma mapM_ofPart?_of_isWord {keys : List String} (h : ∀ key ∈ keys, IsWord key) :
    (keys.map String.toList).mapM Step.ofPart? = some (keys.map fun key => [.entry key]) := by
  induction keys with
  | nil => rfl
  | cons key keys ih =>
      rw [List.map_cons, List.mapM_cons, Step.ofPart?_of_isWord (h key List.mem_cons_self),
        ih fun k hk => h k (List.mem_cons_of_mem _ hk)]
      rfl

/-- The entries under words have one name. -/
lemma pathOf_eq_entries_iff {keys : List String} (hne : keys ≠ []) (h : ∀ key ∈ keys, IsWord key)
    (name : String) : pathOf name = keys.map .entry ↔ name = ".".intercalate keys := by
  constructor
  · intro hpath
    rw [← String.toList_inj, String.toList_intercalate]
    rw [pathOf] at hpath
    split at hpath
    · next steps hsteps =>
      have hparts := Text.intercalate_parts '.' name.toList
      rw [parts_of_entries hsteps hpath] at hparts
      exact hparts.symm
    · obtain ⟨rfl⟩ : keys = [name] := by
        cases keys with
        | nil => simp at hpath
        | cons key keys => simpa [eq_comm] using hpath
      simp
  · rintro rfl
    have hparts : Text.parts '.' (".".intercalate keys).toList = keys.map String.toList := by
      rw [String.toList_intercalate, Text.parts_eq_splitOn]
      refine List.splitOn_intercalate '.' ?_ (by simpa using hne)
      simpa using fun key hkey => (h key hkey).not_mem rfl
    rw [pathOf, hparts, mapM_ofPart?_of_isWord h]
    exact (List.flatMap_def ..).symm.trans List.map_eq_flatMap.symm

end Setting

namespace Variable

open Setting (IsWord)

/-! ### Names of variables -/

variable {cs ds es : List Char}

lemma pointed_eq_nil_iff : pointed ds = [] ↔ ds = [] := by
  rw [pointed.eq_def]
  split <;> simp

lemma pointed_eq_cons_iff {c : Char} (hpoint : c ≠ '.') (hline : c ≠ '_') :
    pointed ds = c :: es ↔ ∃ rest, ds = c :: rest ∧ pointed rest = es := by
  rw [pointed.eq_def]
  split
  · simp [hpoint.symm, hline.symm]
  · simp
  · simp

/-- A point is written as one or as two underscores. -/
lemma pointed_eq_point_iff :
    pointed ds = '.' :: es ↔
      ∃ rest, (ds = '_' :: '_' :: rest ∨ ds = '.' :: rest) ∧ pointed rest = es := by
  rw [pointed.eq_def]
  split
  · simp
  · next c rest hc =>
    rw [List.cons_eq_cons]
    constructor
    · rintro ⟨rfl, rfl⟩
      exact ⟨rest, .inr rfl, rfl⟩
    · rintro ⟨rest', h | h, rfl⟩ <;> obtain ⟨rfl, rfl⟩ := List.cons_eq_cons.mp h
      · exact (hc rest' rfl rfl).elim
      · exact ⟨rfl, rfl⟩
  · simp

lemma pointed_eq_append_iff (h : ∀ c ∈ cs, c ≠ '.' ∧ c ≠ '_') :
    pointed ds = cs ++ es ↔ ∃ rest, ds = cs ++ rest ∧ pointed rest = es := by
  induction cs generalizing ds with
  | nil => simp
  | cons c cs ih =>
      obtain ⟨⟨hpoint, hline⟩, h⟩ := List.forall_mem_cons.mp h
      simp only [List.cons_append, pointed_eq_cons_iff hpoint hline, ih h]
      constructor
      · rintro ⟨_, rfl, rest, rfl, hrest⟩
        exact ⟨rest, rfl, hrest⟩
      · rintro ⟨rest, rfl, hrest⟩
        exact ⟨_, rfl, rest, rfl, hrest⟩

variable {table key name : String}

/-- Two words with a point between them can be written in two ways. -/
lemma pointed_eq_iff (htable : IsWord table) (hkey : IsWord key) :
    pointed ds = (table ++ "." ++ key).toList ↔
      ds = (table ++ "__" ++ key).toList ∨ ds = (table ++ "." ++ key).toList := by
  have hword (ds : List Char) : pointed ds = key.toList ↔ ds = key.toList := by
    have h : pointed ds = key.toList ++ [] ↔ _ := pointed_eq_append_iff hkey.ne_of_mem
    simpa [pointed_eq_nil_iff] using h
  have hpoint : (table ++ "." ++ key).toList = table.toList ++ '.' :: key.toList := by simp
  have hlines : (table ++ "__" ++ key).toList = table.toList ++ '_' :: '_' :: key.toList := by simp
  rw [hpoint, hlines, pointed_eq_append_iff htable.ne_of_mem]
  simp only [pointed_eq_point_iff, hword]
  constructor
  · rintro ⟨_, rfl, rest, rfl | rfl, rfl⟩
    · exact .inl rfl
    · exact .inr rfl
  · rintro (rfl | rfl)
    · exact ⟨_, rfl, _, .inl rfl, rfl⟩
    · exact ⟨_, rfl, _, .inr rfl, rfl⟩

/-- The names of the variables of a key in a table, in any letter case. -/
def Names (table key name : String) : Prop :=
  Text.lower name = "persisql__" ++ (table ++ "__" ++ key) ∨
    Text.lower name = "persisql__" ++ (table ++ "." ++ key)

instance (table key name : String) : Decidable (Names table key name) :=
  inferInstanceAs (Decidable (_ ∨ _))

lemma key?_eq_some_iff {k : String} :
    key? name = some k ↔ ∃ ds, (Text.lower name).toList = mark ++ ds ∧ pointed ds = k.toList := by
  rw [key?, Option.ite_none_right_eq_some, Text.lower, String.toList_ofList,
    List.isPrefixOf_iff_prefix]
  constructor
  · rintro ⟨⟨ds, hds⟩, hk⟩
    rw [← hds, List.drop_left] at hk
    exact ⟨ds, hds.symm, by rw [← Option.some.inj hk, String.toList_ofList]⟩
  · rintro ⟨ds, hds, hk⟩
    rw [hds, List.drop_left, hk, String.ofList_toList]
    exact ⟨⟨ds, rfl⟩, rfl⟩

/-- A variable whose name does not start with the whole mark counts for nothing. -/
lemma key?_eq_none_iff : key? name = none ↔ ¬mark <+: (Text.lower name).toList := by
  simp [key?, Text.lower, List.isPrefixOf_iff_prefix]

/-- The variables of a key stand for it, and no others do. -/
lemma key?_eq_iff (htable : IsWord table) (hkey : IsWord key) :
    key? name = some (table ++ "." ++ key) ↔ Names table key name := by
  have hmark : mark = "persisql__".toList := rfl
  have hname (rest : String) :
      (Text.lower name).toList = mark ++ rest.toList ↔ Text.lower name = "persisql__" ++ rest := by
    rw [hmark, ← String.toList_append, String.toList_inj]
  simp only [key?_eq_some_iff, pointed_eq_iff htable hkey, Names, ← hname]
  constructor
  · rintro ⟨_, h, rfl | rfl⟩
    · exact .inl h
    · exact .inr h
  · rintro (h | h)
    · exact ⟨_, h, .inl rfl⟩
    · exact ⟨_, h, .inr rfl⟩

/-! ### What variables tell -/

/-- What a variable tells of the text under some keys, if it bears on it. -/
def toldText? (keys : List String) (v : String × String) : Option (Option String) :=
  (key? v.1).bind fun key => Setting.toldText? keys (Setting.pathOf key) v.2

/-- What a variable tells of the table under some keys, if it bears on it. -/
def toldTable? (keys : List String) (v : String × String) : Option Bool :=
  (key? v.1).bind fun key => Setting.toldTable? keys (Setting.pathOf key)

/-- The text under some keys: what the last variable tells that bears on it, else what there is
below. -/
def textOver? (keys : List String) (env : List (String × String)) (below : Setting) :
    Option String :=
  (env.filterMap (toldText? keys)).getLast?.getD (below.textAt? keys)

/-- Whether a table is under some keys: what the last variable tells that bears on it, else what
there is below. -/
def tableOver (keys : List String) (env : List (String × String)) (below : Setting) : Bool :=
  (env.filterMap (toldTable? keys)).getLast?.getD (below.tableAt keys)

variable {env : List (String × String)} {below : Setting} {keys : List String}
  {v : String × String}

lemma layer_settings (env : List (String × String)) (s : Setting) :
    s.layer (settings env) = env.foldl (fun s v =>
      (key? v.1).elim s fun key => Setting.write (Setting.pathOf key) (.text v.2) s) s := by
  rw [Setting.layer, settings, List.foldl_filterMap]
  congr 1
  funext s v
  cases key? v.1 <;> rfl

lemma textAt?_layer : (below.layer (settings env)).textAt? keys = textOver? keys env below := by
  rw [layer_settings]
  refine Setting.foldl_told (fun s v => ?_) env below
  rw [toldText?]
  cases key? v.1 with
  | none => rfl
  | some key => exact Setting.textAt?_write keys _ v.2 s

lemma tableAt_layer : (below.layer (settings env)).tableAt keys = tableOver keys env below := by
  rw [layer_settings]
  refine Setting.foldl_told (fun s v => ?_) env below
  rw [toldTable?]
  cases key? v.1 with
  | none => rfl
  | some key => exact Setting.tableAt_write keys _ v.2 s

/-- A variable that does not bear on a text can as well be left out. -/
lemma textOver?_remove (h : toldText? keys v = none) (before after : List (String × String)) :
    textOver? keys (before ++ v :: after) below = textOver? keys (before ++ after) below := by
  rw [textOver?, textOver?, List.filterMap_append, List.filterMap_append,
    List.filterMap_cons_none h]

/-! ### The variables of a key -/

lemma pathOf_point (htable : IsWord table) (hkey : IsWord key) :
    Setting.pathOf (table ++ "." ++ key) = [.entry table, .entry key] := by
  have hne : [table, key] ≠ [] := by simp
  have hwords : ∀ k ∈ [table, key], IsWord k := by simp [htable, hkey]
  exact (Setting.pathOf_eq_entries_iff hne hwords (table ++ "." ++ key)).mpr rfl

/-- The variable of a key tells its value. -/
lemma toldText?_of_names (htable : IsWord table) (hkey : IsWord key) (h : Names table key v.1) :
    toldText? [table, key] v = some (some v.2) := by
  rw [toldText?, (key?_eq_iff htable hkey).mpr h, Option.bind_some, pathOf_point htable hkey]
  simp [Setting.toldText?, Setting.Step.apart]

/-- No other variable tells a text. -/
lemma toldText?_eq_text_iff (htable : IsWord table) (hkey : IsWord key) {s : String} :
    toldText? [table, key] v = some (some s) ↔ Names table key v.1 ∧ v.2 = s := by
  constructor
  · intro h
    obtain ⟨k, hk, h⟩ := Option.bind_eq_some_iff.mp h
    rw [Setting.toldText?, Option.ite_none_left_eq_some] at h
    obtain ⟨hpath, hs⟩ := Option.ite_none_right_eq_some.mp (Option.some.inj h.2)
    obtain rfl : k = table ++ "." ++ key :=
      (Setting.pathOf_eq_entries_iff (by simp) (by simp [htable, hkey]) k).mp hpath
    exact ⟨(key?_eq_iff htable hkey).mp hk, Option.some.inj hs⟩
  · rintro ⟨h, rfl⟩
    exact toldText?_of_names htable hkey h

/-- A text comes from a variable of the key or from below, whatever other variables there are. -/
lemma exists_of_textOver? (htable : IsWord table) (hkey : IsWord key) {s : String}
    (h : textOver? [table, key] env below = some s) :
    (∃ v ∈ env, Names table key v.1 ∧ v.2 = s) ∨ below.textAt? [table, key] = some s := by
  rw [textOver?] at h
  cases hlast : (env.filterMap (toldText? [table, key])).getLast? with
  | none => exact .inr (by simpa [hlast] using h)
  | some told =>
      obtain rfl : told = some s := by simpa [hlast] using h
      obtain ⟨v, hv, htold⟩ := List.mem_filterMap.mp (List.mem_of_getLast? hlast)
      exact .inl ⟨v, hv, (toldText?_eq_text_iff htable hkey).mp htold⟩

/-- The variable of another key does not bear on it. -/
lemma toldText?_of_names_other {key' : String} (htable : IsWord table) (hkey' : IsWord key')
    (hne : key' ≠ key) (h : Names table key' v.1) : toldText? [table, key] v = none := by
  rw [toldText?, (key?_eq_iff htable hkey').mpr h, Option.bind_some, pathOf_point htable hkey']
  simp [Setting.toldText?, Setting.Step.apart, hne.symm]

/-- The value of the variable of a key, the last one if there are several. -/
def own? (table key : String) (env : List (String × String)) : Option String :=
  (env.filter fun v => Names table key v.1).getLast?.map Prod.snd

/-- No variable but that of the key bears on the key. -/
def Undisturbed (table key : String) (env : List (String × String)) : Prop :=
  ∀ v ∈ env, Names table key v.1 ∨ toldText? [table, key] v = none

instance (table key : String) (env : List (String × String)) :
    Decidable (Undisturbed table key env) :=
  List.decidableBAll _ env

/-- A key that no other variable bears on has the value of its variable, else the one below. -/
lemma textOver?_of_undisturbed (htable : IsWord table) (hkey : IsWord key)
    (h : Undisturbed table key env) :
    textOver? [table, key] env below = (own? table key env).or (below.textAt? [table, key]) := by
  have htold : env.filterMap (toldText? [table, key]) =
      (env.filter fun v => Names table key v.1).map fun v => some v.2 := by
    rw [← List.filterMap_eq_map, List.filterMap_filter]
    refine List.filterMap_congr fun v hv => ?_
    by_cases hnames : Names table key v.1
    · simp [hnames, toldText?_of_names htable hkey hnames]
    · simp [hnames, (h v hv).resolve_left hnames]
  rw [textOver?, htold, List.getLast?_map, own?]
  cases (env.filter fun v => Names table key v.1).getLast? <;> rfl

end Variable

end SqlRequest
