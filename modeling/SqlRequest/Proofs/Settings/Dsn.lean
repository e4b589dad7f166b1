import SqlRequest.Proofs.Text.Trim
import SqlRequest.Settings.Dsn

/-!
The names of data sources, as a grammar.

* `Dsn.Named`: a driver, a colon and a target on one line. `Dsn.split_eq_some_iff`: a name is split
  exactly so, and in one way only, since no driver has a colon in it.
* `Dsn.StandsFor`: what names stand for, case by case. `Dsn.ofText_eq_iff`: that is what they are
  read as.
* `Dsn.ofText_grammar`: the texts that are read, with the error of each one that is not. A path on
  one line without a blank at its end is read back as it is.
-/

namespace SqlRequest.Dsn

/-! ### Drivers and targets -/

/-- A character that a driver may have in its name. -/
def DriverLetter (c : Char) : Prop :=
  ('A' ≤ c ∧ c ≤ 'Z') ∨ ('a' ≤ c ∧ c ≤ 'z') ∨ ('0' ≤ c ∧ c ≤ '9') ∨ c = '_'

instance : DecidablePred DriverLetter := fun _ => inferInstanceAs (Decidable (_ ∨ _))

/-- The name of a driver: letters and digits of ASCII and underscores, at least one. -/
def Driver (name : String) : Prop := name ≠ "" ∧ ∀ c ∈ name.toList, DriverLetter c

instance (name : String) : Decidable (Driver name) :=
  @instDecidableAnd _ _ inferInstance (List.decidableBAll _ name.toList)

/-- A text without a line feed. -/
def OneLine (s : String) : Prop := '\n' ∉ s.toList

instance (s : String) : Decidable (OneLine s) := inferInstanceAs (Decidable (¬ _))

/-- A text that does not end with a blank. -/
def UnpaddedEnd (s : String) : Prop := ∀ c ∈ s.toList.getLast?, Text.isBlank c = false

instance (s : String) : Decidable (UnpaddedEnd s) :=
  Option.decidableForallMem s.toList.getLast?

/-- A driver, a colon and a target. -/
structure Named (t driver target : String) : Prop where
  isDriver : Driver driver
  oneLine : OneLine target
  eq : t = driver ++ ":" ++ target

lemma inDriver_iff {c : Char} : inDriver c = true ↔ DriverLetter c := by
  have hupper : c.isUpper = true ↔ 'A' ≤ c ∧ c ≤ 'Z' := decide_eq_true_iff
  have hlower : c.isLower = true ↔ 'a' ≤ c ∧ c ≤ 'z' :=
    Bool.and_eq_true_iff.trans (and_congr decide_eq_true_iff decide_eq_true_iff)
  have hdigit : c.isDigit = true ↔ '0' ≤ c ∧ c ≤ '9' :=
    Bool.and_eq_true_iff.trans (and_congr decide_eq_true_iff decide_eq_true_iff)
  have halnum : c.isAlphanum = true ↔ (c.isUpper = true ∨ c.isLower = true) ∨ c.isDigit = true :=
    Bool.or_eq_true_iff.trans (or_congr_left Bool.or_eq_true_iff)
  rw [inDriver, Bool.or_eq_true_iff, halnum, hupper, hlower, hdigit, decide_eq_true_iff,
    DriverLetter, or_assoc, or_assoc]

lemma driver_iff {cs : List Char} :
    Driver (.ofList cs) ↔ cs ≠ [] ∧ ∀ c ∈ cs, inDriver c = true := by
  simp only [Driver, String.toList_ofList, inDriver_iff, ne_eq, String.ofList_eq_empty_iff]

lemma toList_named (driver target : String) :
    (driver ++ ":" ++ target).toList = driver.toList ++ ':' :: target.toList := by
  simp

/-- A colon ends the driver, since it is no part of one. -/
lemma split_driver {driver : List Char} (hne : driver ≠ []) (h : ∀ c ∈ driver, inDriver c = true)
    (target : List Char) :
    split (driver ++ ':' :: target) =
      if '\n' ∈ target then none else some (.ofList driver, .ofList target) := by
  have hcolon : ¬ inDriver ':' = true := by decide
  rw [split, List.takeWhile_append_of_pos h, List.dropWhile_append_of_pos h,
    List.takeWhile_cons_of_neg hcolon, List.dropWhile_cons_of_neg hcolon, List.append_nil]
  cases driver with
  | nil => exact absurd rfl hne
  | cons c cs => rfl

lemma split_eq_some_iff {t driver target : String} :
    split t.toList = some (driver, target) ↔ Named t driver target := by
  constructor
  · intro h
    have hdriver := List.all_eq_true.mp (List.all_takeWhile (p := inDriver) (l := t.toList))
    have hparts := List.takeWhile_append_dropWhile (p := inDriver) (l := t.toList)
    rw [split] at h
    split at h
    · cases h
    · next target' hrest hne =>
      rw [hrest] at hparts
      split at h
      · cases h
      · next hline =>
        obtain ⟨rfl, rfl⟩ := Prod.mk.inj (Option.some.inj h)
        refine ⟨driver_iff.mpr ⟨hne, hdriver⟩, by rwa [OneLine, String.toList_ofList], ?_⟩
        rw [← String.toList_inj, toList_named, String.toList_ofList, String.toList_ofList, hparts]
    · cases h
  · rintro ⟨hdriver, hline, rfl⟩
    rw [← driver.ofList_toList, driver_iff] at hdriver
    rw [toList_named, split_driver hdriver.1 hdriver.2, if_neg hline, String.ofList_toList,
      String.ofList_toList]

/-! ### What names stand for -/

/-- What a text stands for without the blanks around it. -/
inductive StandsFor (d : String) : Except SetupFault Dsn → Prop where
  | memory (h : Named (Text.trim d) "sqlite" ":memory:") : StandsFor d (.ok .memory)
  | file {path : String} (h : Named (Text.trim d) "sqlite" path) (hne : path ≠ "")
      (hmemory : path ≠ ":memory:") : StandsFor d (.ok (.file path))
  | missingTarget (h : Named (Text.trim d) "sqlite" "") : StandsFor d (.error .missingTarget)
  | unsupportedDriver {driver target : String} (h : Named (Text.trim d) driver target)
      (hdriver : driver ≠ "sqlite") : StandsFor d (.error (.unsupportedDriver driver))
  | malformed (h : ∀ driver target, ¬ Named (Text.trim d) driver target) :
      StandsFor d (.error (.malformedDsn d))

variable {d driver target : String} {r : Except SetupFault Dsn}

lemma ofText_of_named (h : Named (Text.trim d) driver target) :
    ofText d =
      if driver ≠ "sqlite" then .error (.unsupportedDriver driver)
      else if target = "" then .error .missingTarget
      else if target = ":memory:" then .ok .memory
      else .ok (.file target) := by
  rw [← split_eq_some_iff, Text.trim, String.toList_ofList] at h
  rw [ofText, h]

lemma ofText_of_not_named (h : ∀ driver target, ¬ Named (Text.trim d) driver target) :
    ofText d = .error (.malformedDsn d) := by
  have hsplit : split (Text.trimChars d.toList) = none := by
    refine Option.eq_none_iff_forall_ne_some.mpr fun ⟨driver, target⟩ hsome => ?_
    rw [← String.toList_ofList (l := Text.trimChars d.toList)] at hsome
    exact h driver target (split_eq_some_iff.mp hsome)
  rw [ofText, hsplit]

lemma standsFor_ofText (d : String) : StandsFor d (ofText d) := by
  by_cases hnamed : ∃ driver target, Named (Text.trim d) driver target
  · obtain ⟨driver, target, h⟩ := hnamed
    rw [ofText_of_named h]
    split_ifs with hdriver htarget hmemory
    · exact .unsupportedDriver h hdriver
    all_goals obtain rfl := not_not.mp hdriver
    · subst htarget
      exact .missingTarget h
    · subst hmemory
      exact .memory h
    · exact .file h htarget hmemory
  · simp only [not_exists] at hnamed
    rw [ofText_of_not_named hnamed]
    exact .malformed hnamed

/-- A text is read as what it stands for. -/
lemma ofText_eq_iff : ofText d = r ↔ StandsFor d r := by
  constructor
  · rintro rfl
    exact standsFor_ofText d
  · intro h
    cases h with
    | memory h => exact ofText_of_named h
    | file h hne hmemory => rw [ofText_of_named h, if_neg (by simp), if_neg hne, if_neg hmemory]
    | missingTarget h => exact ofText_of_named h
    | unsupportedDriver h hdriver => rw [ofText_of_named h, if_pos hdriver]
    | malformed h => exact ofText_of_not_named h

/-! ### The grammar -/

/-- The names of files: a path on one line that is not the name of the memory. -/
def OfFile (t path : String) : Prop :=
  t = "sqlite:" ++ path ∧ path ≠ "" ∧ path ≠ ":memory:" ∧ OneLine path

/-- The names that another driver could read. -/
def OfOther (t driver : String) : Prop :=
  Driver driver ∧ driver ≠ "sqlite" ∧ ∃ target, OneLine target ∧ t = driver ++ ":" ++ target

/-- What there is to say of a text that is read as a name, where `t` is what is left of it without
the blanks at its ends. -/
structure Grammar (d t : String) : Prop where
  trimmed : Text.Trimmed d t
  memory : ofText d = .ok .memory ↔ t = "sqlite::memory:"
  file : ∀ path, ofText d = .ok (.file path) ↔ OfFile t path
  missingTarget : ofText d = .error .missingTarget ↔ t = "sqlite:"
  unsupportedDriver : ∀ driver, ofText d = .error (.unsupportedDriver driver) ↔ OfOther t driver
  malformed : ofText d = .error (.malformedDsn d) ↔ t ≠ "sqlite::memory:" ∧
    (∀ path, ¬ OfFile t path) ∧ t ≠ "sqlite:" ∧ ∀ driver, ¬ OfOther t driver
  /-- There is no other outcome, so what is not read is one of three errors. -/
  outcome : ofText d = .ok .memory ∨ (∃ path, ofText d = .ok (.file path)) ∨
    ofText d = .error .missingTarget ∨ (∃ driver, ofText d = .error (.unsupportedDriver driver)) ∨
    ofText d = .error (.malformedDsn d)
  /-- The message quotes the text with the blanks around it. -/
  message : (Error.config (.malformedDsn d)).message =
    "Config error: " ++ ("malformed dsn '" ++ d ++ "', expected 'driver:target'")

lemma driver_sqlite : Driver "sqlite" := by decide

lemma named_sqlite_iff {t path : String} :
    Named t "sqlite" path ↔ t = "sqlite:" ++ path ∧ OneLine path :=
  ⟨fun h => ⟨h.eq, h.oneLine⟩, fun h => ⟨driver_sqlite, h.2, h.1⟩⟩

lemma standsFor_memory_iff : StandsFor d (.ok .memory) ↔ Text.trim d = "sqlite::memory:" := by
  have hline : OneLine ":memory:" := by decide
  constructor
  · intro h
    cases h with
    | memory h => exact h.eq
  · exact fun h => .memory (named_sqlite_iff.mpr ⟨h, hline⟩)

lemma standsFor_file_iff {path : String} :
    StandsFor d (.ok (.file path)) ↔ OfFile (Text.trim d) path := by
  constructor
  · intro h
    cases h with
    | file h hne hmemory => exact ⟨h.eq, hne, hmemory, h.oneLine⟩
  · rintro ⟨ht, hne, hmemory, hline⟩
    exact .file (named_sqlite_iff.mpr ⟨ht, hline⟩) hne hmemory

lemma standsFor_missingTarget_iff :
    StandsFor d (.error .missingTarget) ↔ Text.trim d = "sqlite:" := by
  have hline : OneLine "" := by decide
  constructor
  · intro h
    cases h with
    | missingTarget h => exact h.eq
  · exact fun h => .missingTarget (named_sqlite_iff.mpr ⟨h, hline⟩)

lemma standsFor_unsupportedDriver_iff :
    StandsFor d (.error (.unsupportedDriver driver)) ↔ OfOther (Text.trim d) driver := by
  constructor
  · intro h
    cases h with
    | unsupportedDriver h hne => exact ⟨h.isDriver, hne, _, h.oneLine, h.eq⟩
  · rintro ⟨hdriver, hne, target, hline, ht⟩
    exact .unsupportedDriver ⟨hdriver, hline, ht⟩ hne

lemma grammar (d : String) : Grammar d (Text.trim d) := by
  have hmemory : ofText d = .ok .memory ↔ Text.trim d = "sqlite::memory:" :=
    ofText_eq_iff.trans standsFor_memory_iff
  have hfile (path : String) : ofText d = .ok (.file path) ↔ OfFile (Text.trim d) path :=
    ofText_eq_iff.trans standsFor_file_iff
  have hmissing : ofText d = .error .missingTarget ↔ Text.trim d = "sqlite:" :=
    ofText_eq_iff.trans standsFor_missingTarget_iff
  have hother (driver : String) :
      ofText d = .error (.unsupportedDriver driver) ↔ OfOther (Text.trim d) driver :=
    ofText_eq_iff.trans standsFor_unsupportedDriver_iff
  have houtcome : ofText d = .ok .memory ∨ (∃ path, ofText d = .ok (.file path)) ∨
      ofText d = .error .missingTarget ∨ (∃ driver, ofText d = .error (.unsupportedDriver driver)) ∨
      ofText d = .error (.malformedDsn d) := by
    have h := standsFor_ofText d
    generalize ofText d = r at h ⊢
    cases h <;> simp
  refine ⟨Text.trim_eq_iff.mp rfl, hmemory, hfile, hmissing, hother, ?_, houtcome, rfl⟩
  simp only [ne_eq, ← hmemory, ← hmissing, ← hfile, ← hother]
  constructor
  · intro h
    simp [h]
  · rintro ⟨hm, hf, ht, ho⟩
    simpa [hm, hf, ht, ho] using houtcome

/-- **Names of data sources are read by their grammar.** The blanks around a text do not count;
what is left stands for the memory, for a file, for something that another driver could read, or
for nothing, and the four are told apart by the letters alone. So every path on one line comes
back as it is, colons and blanks at its start included, if it does not end with a blank. -/
theorem ofText_grammar :
    (∀ d, Grammar d (Text.trim d)) ∧
      ∀ path, path ≠ "" → path ≠ ":memory:" → OneLine path → UnpaddedEnd path →
          ofText ("sqlite:" ++ path) = .ok (.file path) := by
  refine ⟨grammar, fun path hne hmemory hline hlast => ?_⟩
  have hchars : ("sqlite:" ++ path).toList = "sqlite:".toList ++ path.toList :=
    String.toList_append
  have hunpadded : Text.Unpadded ("sqlite:" ++ path).toList := by
    refine ⟨fun c hc => ?_, fun c hc => ?_⟩
    · rw [hchars] at hc
      cases hc
      decide
    · have hpath : path.toList ≠ [] := by simpa using hne
      rw [hchars, List.getLast?_append_of_ne_nil _ hpath] at hc
      exact hlast c hc
  rw [(grammar _).file, Text.trim_of_unpadded hunpadded]
  exact ⟨rfl, hne, hmemory, hline⟩

/-- A path with a blank and a colon in it. -/
theorem ofText_grammar_drive :
    OneLine " c:/my notes.db" ∧ UnpaddedEnd " c:/my notes.db" ∧
      ofText ("sqlite:" ++ " c:/my notes.db") = .ok (.file " c:/my notes.db") ∧
      ofText " sqlite::memory:\n" = .ok .memory ∧
      ofText " 9p_2:a:b " = .error (.unsupportedDriver "9p_2") := by
  obtain ⟨hgrammar, hpath⟩ := ofText_grammar
  have hline : OneLine " c:/my notes.db" := by decide
  have hlast : UnpaddedEnd " c:/my notes.db" := by decide
  refine ⟨hline, hlast, hpath _ (by decide) (by decide) hline hlast,
    (hgrammar _).memory.mpr (by decide +kernel), ((hgrammar _).unsupportedDriver _).mpr ?_⟩
  exact ⟨by decide, by decide, "a:b", by decide, by decide +kernel⟩

end SqlRequest.Dsn
