import Mathlib
import SqlRequest.Proofs.Fallible
import SqlRequest.Proofs.Settings.Variables
import SqlRequest.Settings.Load

/-!
What connection settings are loaded from a file and from variables.

* `Loaded`: what there is for each key decides what is loaded; of keys without a text the first one
  is reported. `loaded_ofSetting`: so it is with a tree of settings.
* `given?`, `connected`, `docs`: what there is in the two layers, the last variable that bears on it
  before the file. `load_eq_iff`: these decide what is loaded.
* `load_remove`: a variable that does not count can as well be left out.
  `key?_eq_none_of_documented`: with one underscore after the first word it does not.
* `Layered`, `load_layered`: each key has the value of its variable, and without one that of the
  file.
-/

namespace SqlRequest

/-! ### From settings to a connection -/

namespace ConnectionSettings

/-- The keys of a connection, in the order in which they are asked for. -/
def keys : List String := ["dsn", "username", "password"]

/-- What is loaded, or which fault is reported, by the texts that are given for the keys. -/
inductive Loaded (given? : String → Option String) (connected : Bool) (docs : String) :
    Except SetupFault ConnectionSettings → Prop where
  | complete {dsn username password : String} (hdsn : given? "dsn" = some dsn)
      (husername : given? "username" = some username)
      (hpassword : given? "password" = some password) :
      Loaded given? connected docs (.ok ⟨dsn, username, password⟩)
  | missingConnection (h : connected = false) (hkeys : ∀ key ∈ keys, given? key = none) :
      Loaded given? connected docs (.error (.missingConnection docs))
  /-- The key is the first one without a text. -/
  | missingKey {key : String} (h : connected = true)
      (hkey : keys.find? (fun k => (given? k).isNone) = some key) :
      Loaded given? connected docs (.error (.missingKey key docs))

/-- The texts leave no choice. -/
lemma Loaded.unique {given? : String → Option String} {connected : Bool} {docs : String}
    {r r' : Except SetupFault ConnectionSettings}
    (h : Loaded given? connected docs r) (h' : Loaded given? connected docs r') : r = r' := by
  cases h with
  | complete hdsn husername hpassword =>
      cases h' with
      | complete hdsn' husername' hpassword' =>
          obtain rfl := Option.some.inj (hdsn.symm.trans hdsn')
          obtain rfl := Option.some.inj (husername.symm.trans husername')
          obtain rfl := Option.some.inj (hpassword.symm.trans hpassword')
          rfl
      | missingConnection _ hkeys => simp [keys, hdsn] at hkeys
      | missingKey _ hkey => simp [keys, hdsn, husername, hpassword] at hkey
  | missingConnection h hkeys =>
      cases h' with
      | complete hdsn' => simp [keys, hdsn'] at hkeys
      | missingConnection => rfl
      | missingKey h' => simp [h] at h'
  | missingKey h hkey =>
      cases h' with
      | complete hdsn husername hpassword => simp [keys, hdsn, husername, hpassword] at hkey
      | missingConnection h' => simp [h] at h'
      | missingKey _ hkey' => rw [Option.some.inj (hkey.symm.trans hkey')]

lemma require_eq (docs : String) (connection : Setting) (key : String) :
    require docs connection key =
      ((connection.get? key).bind Setting.text?).elim (.error (.missingKey key docs)) .ok := by
  rw [require]
  cases (connection.get? key).bind Setting.text? <;> rfl

/-- The connection of a tree of settings is that of the texts in it. -/
lemma loaded_ofSetting (root : Setting) :
    Loaded (fun key => root.textAt? ["connection", key]) (root.tableAt ["connection"])
      ((root.textAt? ["docs"]).getD defaultDocs) (ofSetting root) := by
  have htext (key : String) : root.textAt? ["connection", key] =
      (root.get? "connection").bind fun s => (s.get? key).bind Setting.text? := by
    simp [Setting.textAt?, Setting.at?, Option.bind_assoc]
  have hdocs : root.textAt? ["docs"] = (root.get? "docs").bind Setting.text? := by
    simp [Setting.textAt?, Setting.at?]
  have htable : root.tableAt ["connection"] = (root.get? "connection").any Setting.isTable := by
    simp [Setting.tableAt, Setting.at?]
  rw [ofSetting, hdocs]
  split
  · next es hes =>
    simp only [htable, htext, hes, Option.bind_some, require_eq]
    cases hdsn : ((Setting.table es).get? "dsn").bind Setting.text? with
    | none => exact .missingKey rfl (by simp [keys, hdsn])
    | some dsn =>
        cases husername : ((Setting.table es).get? "username").bind Setting.text? with
        | none => exact .missingKey rfl (by simp [keys, hdsn, husername])
        | some username =>
            cases hpassword : ((Setting.table es).get? "password").bind Setting.text? with
            | none => exact .missingKey rfl (by simp [keys, hdsn, husername, hpassword])
            | some password => exact .complete hdsn husername hpassword
  · next hno =>
    -- What stands there instead has no entries.
    rw [htable]
    simp only [htext]
    cases hconnection : root.get? "connection" with
    | none => exact .missingConnection rfl fun key _ => rfl
    | some s =>
        cases s with
        | table es => exact absurd hconnection (hno es)
        | _ => exact .missingConnection rfl fun key _ => rfl

/-! ### Two layers -/

/-- The text of a key: what the last variable tells that bears on it, else what the file gives. -/
def given? (env : List (String × String)) (file : Setting) (key : String) : Option String :=
  Variable.textOver? ["connection", key] env file

/-- Whether there is a table for the keys. -/
def connected (env : List (String × String)) (file : Setting) : Bool :=
  Variable.tableOver ["connection"] env file

/-- The documentation that messages refer to. -/
def docs (env : List (String × String)) (file : Setting) : String :=
  (Variable.textOver? ["docs"] env file).getD defaultDocs

variable {around : Surroundings} {base : String} {entries : List (String × Setting)}
  {before after : List (String × String)} {name value : String}

lemma load_eq_iff (h : around.fileSettings base = .ok entries)
    {r : Except SetupFault ConnectionSettings} :
    load around base = r ↔
      Loaded (given? around.environment ((Setting.table []).layer entries))
        (connected around.environment ((Setting.table []).layer entries))
        (docs around.environment ((Setting.table []).layer entries)) r := by
  have hload : load around base = ofSetting
      (((Setting.table []).layer entries).layer (Variable.settings around.environment)) := by
    rw [load, Surroundings.settings, h]
    rfl
  have hloaded := loaded_ofSetting
    (((Setting.table []).layer entries).layer (Variable.settings around.environment))
  simp only [Variable.textAt?_layer, Variable.tableAt_layer] at hloaded
  rw [← hload] at hloaded
  exact ⟨fun hr => hr ▸ hloaded, hloaded.unique⟩

/-- A variable that does not count can as well be left out. -/
lemma load_remove (h : Variable.key? name = none)
    (henv : around.environment = before ++ (name, value) :: after) :
    load around base = load { around with environment := before ++ after } base := by
  have hsettings : Variable.settings around.environment = Variable.settings (before ++ after) := by
    simp [henv, Variable.settings, h]
  unfold load Surroundings.settings
  rw [hsettings]
  rfl

/-- A variable with one underscore after the first word does not count. -/
lemma key?_eq_none_of_documented {rest : String}
    (h : Text.lower name = "persisql_connection__" ++ rest) : Variable.key? name = none := by
  rw [Variable.key?_eq_none_iff, h, String.toList_append]
  intro hmark
  have hprefix : Variable.mark <+: "persisql_connection__".toList :=
    List.prefix_of_prefix_length_le hmark (List.prefix_append _ _) (by decide)
  exact absurd hprefix (by decide)

/-- What there is to say of loading settings, where `file` is what the file gives; without a file it
gives nothing. -/
structure Layered (around : Surroundings) (base : String) (file : Setting) : Prop where
  /-- In every environment the texts of the keys decide, each for itself. -/
  loaded : ∀ r, load around base = r ↔
    Loaded (given? around.environment file) (connected around.environment file)
      (docs around.environment file) r
  /-- The variable of a key comes before the file. -/
  own : ∀ key ∈ keys, Variable.Undisturbed "connection" key around.environment →
    given? around.environment file key =
      (Variable.own? "connection" key around.environment).or (file.textAt? ["connection", key])
  /-- Whatever variables there are, a text comes from that of the key or from the file. -/
  source : ∀ key ∈ keys, ∀ s, given? around.environment file key = some s →
    (∃ v ∈ around.environment, Variable.Names "connection" key v.1 ∧ v.2 = s) ∨
      file.textAt? ["connection", key] = some s
  /-- The variables of the other keys do not matter. -/
  independent : ∀ key ∈ keys, ∀ key' ∈ keys, key' ≠ key → ∀ before v after,
    Variable.Names "connection" key' v.1 →
      given? (before ++ v :: after) file key = given? (before ++ after) file key
  /-- The documented variables do not matter at all. -/
  documented : ∀ key name value before after,
    Text.lower name = "persisql_connection__" ++ key →
      around.environment = before ++ (name, value) :: after →
        load around base = load { around with environment := before ++ after } base

lemma isWord_of_mem_keys : ∀ key ∈ keys, Setting.IsWord key := by decide

/-- **Variables come before the file, key by key.** The last variable that bears on a key decides on
it, and without one the file; what is loaded, or which fault is reported, follows from these texts
alone. The variables that count have two underscores after the first word: with the documented
names, which have one, nothing is overridden. -/
theorem load_layered (h : around.fileSettings base = .ok entries) :
    Layered around base ((Setting.table []).layer entries) where
  loaded _ := load_eq_iff h
  own key hkey hund :=
    Variable.textOver?_of_undisturbed (by decide) (isWord_of_mem_keys key hkey) hund
  source key hkey _ :=
    Variable.exists_of_textOver? (by decide) (isWord_of_mem_keys key hkey)
  independent key _ key' hkey' hne before v after hnames :=
    Variable.textOver?_remove (Variable.toldText?_of_names_other (by decide)
      (isWord_of_mem_keys key' hkey') hne hnames) before after
  documented _ _ _ _ _ hname := load_remove (key?_eq_none_of_documented hname)

/-! ### A folder with a file -/

/-- A folder with a file that gives all keys. -/
def configured : Folder where
  files := [("persisql.toml",
    "[connection]\ndsn = \"sqlite:a\"\nusername = \"b\"\npassword = \"c\"\n")]
  outside := []

/-- What the file gives. -/
def configuredEntries : List (String × Setting) :=
  [("connection", .table [("dsn", .text "sqlite:a"), ("username", .text "b"),
    ("password", .text "c")])]

lemma fileSettings_configured (env : List (String × String)) :
    (configured.surroundings env).fileSettings "persisql" = .ok configuredEntries := by
  cbv

/-- One key is overridden. The others are as in the file, since the documented name does not
count. -/
theorem load_layered_configured :
    let env := [("PERSISQL_CONNECTION__USERNAME", "d"), ("PERSISQL__CONNECTION__DSN", "sqlite:e")]
    let around := configured.surroundings env
    around.fileSettings "persisql" = .ok configuredEntries ∧
      Variable.Undisturbed "connection" "dsn" env ∧
      given? env ((Setting.table []).layer configuredEntries) "dsn" = some "sqlite:e" ∧
      load around "persisql" = .ok ⟨"sqlite:e", "b", "c"⟩ := by
  intro env around
  have hfile : around.fileSettings "persisql" = .ok configuredEntries := fileSettings_configured env
  have hund : Variable.Undisturbed "connection" "dsn" env := by decide
  have hdsn := ((load_layered hfile).own "dsn" (by decide) hund).trans
    (by decide : _ = some "sqlite:e")
  exact ⟨hfile, hund, hdsn,
    ((load_layered hfile).loaded _).mpr (.complete hdsn (by decide) (by decide))⟩

/-- The documented variable is set, and the text of the file is loaded all the same. -/
theorem load_disregards_documented :
    let around := configured.surroundings [("PERSISQL_CONNECTION__DSN", "sqlite:e")]
    load around "persisql" = .ok ⟨"sqlite:a", "b", "c"⟩ ∧
      load around "persisql" ≠ .ok ⟨"sqlite:e", "b", "c"⟩ := by
  intro around
  have hload : load around "persisql" = .ok ⟨"sqlite:a", "b", "c"⟩ :=
    (load_eq_iff (fileSettings_configured _)).mpr
      (.complete (by decide) (by decide) (by decide))
  exact ⟨hload, by rw [hload]; decide⟩

end ConnectionSettings

end SqlRequest
