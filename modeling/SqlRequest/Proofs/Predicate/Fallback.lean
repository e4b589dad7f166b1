import SqlRequest.Notebook.Store
import SqlRequest.Proofs.Predicate.Clause

/-!
Fallbacks in clauses, for every quoter and every operator. The comparisons are texts that are
not looked into, and the rest of a clause is written by the precedence of SQL.

* `Predicate.Written`: a text writes a predicate. `Condition.intercalate_chain`: a clause is
  its runs of conditions between `OR`s, and a run its conditions between `AND`s.
* `Fallback.Passes`: what a fallback comes to, which wants the test to be yes or no.
  `Fallback.Chooses`: what an if with an otherwise comes to, where an unknown test counts as no.
* `Filters`: which rows a clause selects. `filters_of_clause`: no others than are chosen,
  and all of them where no test that is unknown stands before a comparison that holds.
* `tagged_loses_untagged`: such a test, and a note that is chosen and not selected.
-/

namespace SqlRequest

open Predicate

/-! ### Texts that write predicates -/

namespace Predicate

/-- The parts of a predicate, by how closely they are held together. -/
inductive Level where
  /-- A comparison, something in parentheses, or `NOT` before something in parentheses. -/
  | factor
  /-- Factors between `AND`s. -/
  | term
  /-- Terms between `OR`s. -/
  | whole

/-- A text writes a predicate, the comparisons being certain texts. -/
inductive Written (IsComparison : String → Prop) : Level → Predicate → String → Prop
  | comparison {s : String} (h : IsComparison s) : Written IsComparison .factor (.atom s) s
  | parens {p : Predicate} {s : String} (h : Written IsComparison .whole p s) :
      Written IsComparison .factor p ("(" ++ s ++ ")")
  | not {p : Predicate} {s : String} (h : Written IsComparison .whole p s) :
      Written IsComparison .factor (.not p) ("NOT(" ++ s ++ ")")
  | factor {p : Predicate} {s : String} (h : Written IsComparison .factor p s) :
      Written IsComparison .term p s
  | and {p q : Predicate} {s t : String} (hp : Written IsComparison .term p s)
      (hq : Written IsComparison .factor q t) :
      Written IsComparison .term (.and p q) (s ++ " AND " ++ t)
  | term {p : Predicate} {s : String} (h : Written IsComparison .term p s) :
      Written IsComparison .whole p s
  | or {p q : Predicate} {s t : String} (hp : Written IsComparison .whole p s)
      (hq : Written IsComparison .term q t) :
      Written IsComparison .whole (.or p q) (s ++ " OR " ++ t)

/-- Some predicates joined from the left. There is one at least wherever this is used. -/
def joinAll (join : Predicate → Predicate → Predicate) : List Predicate → Predicate
  | [] => .atom ""
  | p :: ps => ps.foldl join p

lemma intercalate_join (between s t : String) (ts : List String) :
    between.intercalate (s :: t :: ts) = between.intercalate ((s ++ between ++ t) :: ts) := by
  cases ts with
  | nil => rfl
  | cons u ts => simp only [String.intercalate_cons_cons, String.append_assoc]

/-- What holds of two texts with a word between holds of many. -/
lemma written_joinAll {join : Predicate → Predicate → Predicate} {between : String}
    {P Q : Predicate → String → Prop} (hone : ∀ p s, Q p s → P p s)
    (hjoin : ∀ p s q t, P p s → Q q t → P (join p q) (s ++ between ++ t))
    {ps : List Predicate} {ss : List String} (h : List.Forall₂ Q ps ss) (hne : ps ≠ []) :
    P (joinAll join ps) (between.intercalate ss) := by
  cases h with
  | nil => exact absurd rfl hne
  | @cons p s ps ss hp hps =>
      have hfirst : P p s := hone p s hp
      clear hp hne
      change P (ps.foldl join p) _
      induction hps generalizing p s with
      | nil => rwa [String.intercalate_singleton]
      | cons hq _ ih =>
          rw [List.foldl_cons, intercalate_join]
          exact ih (hjoin _ _ _ _ hfirst hq)

section Truth

variable (v : String → Truth) {ps : List Predicate}

lemma truth_joinAll_and (hne : ps ≠ []) :
    (joinAll .and ps).truth v = Truth.all (ps.map (truth v)) := by
  obtain ⟨p, ps, rfl⟩ := List.exists_cons_of_ne_nil hne
  change (ps.foldl .and p).truth v = _
  clear hne
  induction ps generalizing p with
  | nil => exact (Truth.and_yes _).symm
  | cons q ps ih =>
      rw [List.foldl_cons, ih]
      exact Truth.and_assoc _ _ _

lemma truth_joinAll_or (hne : ps ≠ []) :
    (joinAll .or ps).truth v = Truth.any (ps.map (truth v)) := by
  obtain ⟨p, ps, rfl⟩ := List.exists_cons_of_ne_nil hne
  change (ps.foldl .or p).truth v = _
  clear hne
  induction ps generalizing p with
  | nil => exact (Truth.or_no _).symm
  | cons q ps ih =>
      rw [List.foldl_cons, ih]
      exact Truth.or_assoc _ _ _

end Truth

end Predicate

/-! ### Conditions as operands -/

/-- The predicate of a fallback. -/
def Fallback.operand (q : Quoter) (ambient : Ident) (f : Fallback) : Predicate :=
  let test := Predicate.atom (f.test.renderTest q ambient)
  .or (.and test (.atom (f.yes.renderOutcome q ambient)))
    (.and (.not test) (.atom (f.no.renderOutcome q ambient)))

/-- The marks of a fallback, taken apart: parentheses around both branches and around each, and
around the test after the `NOT`. -/
lemma Fallback.render_eq_factors (q : Quoter) (ambient : Ident) (f : Fallback) :
    f.render q ambient =
      "(" ++ ("(" ++ (f.test.renderTest q ambient ++ " AND " ++ f.yes.renderOutcome q ambient) ++
        ")" ++ " OR " ++ ("(" ++ ("NOT(" ++ f.test.renderTest q ambient ++ ")" ++ " AND " ++
          f.no.renderOutcome q ambient) ++ ")")) ++ ")" := by
  have hopen : "((" = "(" ++ "(" := by decide
  have helse : ") OR (NOT(" = ")" ++ (" OR " ++ ("(" ++ "NOT(")) := by decide
  have hafter : ") AND " = ")" ++ " AND " := by decide
  have hclose : "))" = ")" ++ ")" := by decide
  rw [render, hopen, helse, hafter, hclose]
  simp only [String.append_assoc]

namespace Condition

variable (q : Quoter) (ambient : Ident)

/-- The predicate of a condition. -/
def operand : Condition → Predicate
  | .comparison c => .atom (c.render q ambient)
  | .fallback f => f.operand q ambient

/-- The comparisons of a condition. -/
def comparisons : Condition → List String
  | .comparison c => [c.render q ambient]
  | .fallback f =>
    [f.test.renderTest q ambient, f.yes.renderOutcome q ambient, f.no.renderOutcome q ambient]

/-- A comparison of one of some conditions. -/
def IsComparison (cs : List Condition) (s : String) : Prop :=
  ∃ c ∈ cs, s ∈ c.comparisons q ambient

/-- A text writes a predicate whose comparisons are those of some conditions. -/
abbrev Writes (cs : List Condition) : Level → Predicate → String → Prop :=
  Predicate.Written (IsComparison q ambient cs)

variable {q ambient} {cs : List Condition}

/-- A condition is written as one factor: a fallback stands in parentheses, and so does each
of its two branches. -/
lemma written_render {c : Condition} (hc : c ∈ cs) :
    Writes q ambient cs .factor (c.operand q ambient) (c.render q ambient) := by
  have hcomparison {s : String} (hs : s ∈ c.comparisons q ambient) :
      Writes q ambient cs .factor (.atom s) s := .comparison ⟨c, hc, hs⟩
  cases c with
  | comparison c => exact hcomparison List.mem_cons_self
  | fallback f =>
      have htest := hcomparison (s := f.test.renderTest q ambient) (by simp [comparisons])
      have hyes := hcomparison (s := f.yes.renderOutcome q ambient) (by simp [comparisons])
      have hno := hcomparison (s := f.no.renderOutcome q ambient) (by simp [comparisons])
      have hthen := Predicate.Written.parens (.term (.and (.factor htest) hyes))
      have helse := Predicate.Written.parens
        (.term (.and (.factor (.not (.term (.factor htest)))) hno))
      have hboth := Predicate.Written.parens (.or (.term (.factor hthen)) (.factor helse))
      change Writes q ambient cs .factor _ (f.render q ambient)
      rw [Fallback.render_eq_factors]
      exact hboth

/-! ### Clauses as runs -/

lemma mem_of_mem_runs {run : List Condition} (hrun : run ∈ runs cs) {c : Condition}
    (hc : c ∈ run) : c ∈ cs := by
  have hflatten : (runs cs).flatten = cs := List.flatten_splitBy _ cs
  rw [← hflatten]
  exact List.mem_flatten_of_mem hrun hc

lemma ne_nil_of_mem_runs {run : List Condition} (hrun : run ∈ runs cs) : run ≠ [] :=
  List.ne_nil_of_mem_splitBy hrun

lemma runs_ne_nil (hcs : cs ≠ []) : runs cs ≠ [] := List.splitBy_ne_nil.mpr hcs

/-- A clause goes on with the connective of the second condition. -/
lemma intercalate_chain_cons {c d : Condition} {op : Connective} (hop : d.connective = some op) :
    " ".intercalate (chain q ambient (c :: d :: cs)) =
      c.render q ambient ++ (" " ++ op.sql ++ " ") ++
        " ".intercalate (chain q ambient (d :: cs)) := by
  have hwords : chain q ambient (c :: d :: cs) =
      c.render q ambient :: op.sql :: chain q ambient (d :: cs) := by
    simp [chain, link, hop]
  rw [hwords, chain, String.intercalate_cons_cons, String.intercalate_cons_cons]
  simp only [String.append_assoc]

/-- A clause is its runs between `OR`s, and each run its conditions between `AND`s. The
induction is on the conditions after the first one, whose run either goes on or ends. -/
lemma intercalate_chain {c : Condition} (hcs : ∀ d ∈ cs, d.connective.isSome) :
    " ".intercalate (chain q ambient (c :: cs)) =
      " OR ".intercalate ((runs (c :: cs)).map fun run =>
        " AND ".intercalate (run.map (render q ambient))) := by
  induction cs generalizing c with
  | nil => rfl
  | cons d cs ih =>
      rw [List.forall_mem_cons] at hcs
      obtain ⟨op, hop⟩ := Option.isSome_iff_exists.mp hcs.1
      have hne : runs (d :: cs) ≠ [] := runs_ne_nil (List.cons_ne_nil d cs)
      rw [intercalate_chain_cons hop, ih hcs.2]
      cases op with
      | and =>
          obtain ⟨run, rest, hruns⟩ := List.exists_cons_of_ne_nil hne
          have hrun : run ≠ [] := ne_nil_of_mem_runs (hruns ▸ List.mem_cons_self)
          have hand : " AND ".intercalate ((c :: run).map (render q ambient)) =
              c.render q ambient ++ " AND " ++ " AND ".intercalate (run.map (render q ambient)) :=
            String.intercalate_cons_of_ne_nil (by simpa using hrun)
          rw [runs_cons_of_and hop hruns, hruns, List.map_cons, List.map_cons, hand]
          cases rest with
          | nil => rfl
          | cons other rest =>
              simp only [List.map_cons, String.intercalate_cons_cons, String.append_assoc]
              rfl
      | or =>
          rw [runs_cons_of_ne cs (by simp [hop]), List.map_cons,
            String.intercalate_cons_of_ne_nil (by simpa using hne)]
          rfl

/-- The predicate of a run. -/
def term (q : Quoter) (ambient : Ident) (run : List Condition) : Predicate :=
  joinAll .and (run.map (operand q ambient))

/-- The predicate of a list of conditions. -/
def whole (q : Quoter) (ambient : Ident) (cs : List Condition) : Predicate :=
  joinAll .or ((runs cs).map (term q ambient))

lemma written_term {run : List Condition} (hne : run ≠ []) (hrun : ∀ c ∈ run, c ∈ cs) :
    Writes q ambient cs .term (term q ambient run)
      (" AND ".intercalate (run.map (render q ambient))) := by
  have hfactors : List.Forall₂ (Writes q ambient cs .factor)
      (run.map (operand q ambient)) (run.map (render q ambient)) := by
    rw [List.forall₂_map_left_iff, List.forall₂_map_right_iff, List.forall₂_same]
    exact fun c hc => written_render (hrun c hc)
  exact written_joinAll (fun _ _ => .factor) (fun _ _ _ _ => .and) hfactors (by simpa using hne)

/-- A clause writes the predicate of its conditions. -/
lemma written_whole {c : Condition} (hcs : ∀ d ∈ cs, d.connective.isSome) :
    Writes q ambient (c :: cs) .whole (whole q ambient (c :: cs))
      (" ".intercalate (chain q ambient (c :: cs))) := by
  have hterms : List.Forall₂ (Writes q ambient (c :: cs) .term)
      ((runs (c :: cs)).map (term q ambient)) ((runs (c :: cs)).map fun run =>
        " AND ".intercalate (run.map (render q ambient))) := by
    rw [List.forall₂_map_left_iff, List.forall₂_map_right_iff, List.forall₂_same]
    exact fun run hrun => written_term (ne_nil_of_mem_runs hrun) fun _ => mem_of_mem_runs hrun
  rw [intercalate_chain hcs]
  exact written_joinAll (fun _ _ => .term) (fun _ _ _ _ => .or) hterms
    (by simpa using runs_ne_nil (List.cons_ne_nil c cs))

lemma truth_whole (hne : cs ≠ []) (v : String → Truth) :
    (whole q ambient cs).truth v =
      Truth.any ((runs cs).map fun run =>
        Truth.all (run.map fun c => (c.operand q ambient).truth v)) := by
  have hterm : ∀ run ∈ runs cs, (term q ambient run).truth v =
      Truth.all (run.map fun c => (c.operand q ambient).truth v) := by
    intro run hrun
    rw [term, truth_joinAll_and v (by simpa using ne_nil_of_mem_runs hrun), List.map_map]
    rfl
  rw [whole, truth_joinAll_or v (by simpa using runs_ne_nil hne), List.map_map]
  exact congrArg Truth.any (List.map_congr_left hterm)

end Condition

/-! ### Which rows are selected -/

section Rows

variable (q : Quoter) (ambient : Ident) (v : String → Truth)

/-- A fallback as an if with an otherwise: where the test holds one comparison filters, and
everywhere else the other one. -/
def Fallback.Chooses (f : Fallback) : Prop :=
  v (f.test.renderTest q ambient) = .yes ∧ v (f.yes.renderOutcome q ambient) = .yes ∨
    v (f.test.renderTest q ambient) ≠ .yes ∧ v (f.no.renderOutcome q ambient) = .yes

/-- What a fallback comes to: one comparison where the test holds, and the other one where
the negation of the test does. -/
def Fallback.Passes (f : Fallback) : Prop :=
  v (f.test.renderTest q ambient) = .yes ∧ v (f.yes.renderOutcome q ambient) = .yes ∨
    v (f.test.renderTest q ambient) = .no ∧ v (f.no.renderOutcome q ambient) = .yes

/-- The test is unknown, and the comparison for everywhere else holds. -/
def Fallback.Loses (f : Fallback) : Prop :=
  v (f.test.renderTest q ambient) = .unknown ∧ v (f.no.renderOutcome q ambient) = .yes

def Condition.Chooses : Condition → Prop
  | .comparison c => v (c.render q ambient) = .yes
  | .fallback f => f.Chooses q ambient v

def Condition.Passes : Condition → Prop
  | .comparison c => v (c.render q ambient) = .yes
  | .fallback f => f.Passes q ambient v

variable {q ambient v}

lemma Fallback.truth_operand_eq_yes_iff {f : Fallback} :
    (f.operand q ambient).truth v = .yes ↔ f.Passes q ambient v := by
  simp only [operand, Predicate.truth, Truth.or_eq_yes_iff, Truth.and_eq_yes_iff,
    Truth.not_eq_yes_iff]
  rfl

lemma Condition.truth_operand_eq_yes_iff {c : Condition} :
    (c.operand q ambient).truth v = .yes ↔ c.Passes q ambient v := by
  cases c with
  | comparison c => rfl
  | fallback f => exact Fallback.truth_operand_eq_yes_iff

lemma Fallback.chooses_iff {f : Fallback} :
    f.Chooses q ambient v ↔ f.Passes q ambient v ∨ f.Loses q ambient v := by
  rw [Chooses, Passes, Loses]
  cases v (f.test.renderTest q ambient) <;> simp

lemma Condition.Passes.chooses {c : Condition} (h : c.Passes q ambient v) :
    c.Chooses q ambient v := by
  cases c with
  | comparison c => exact h
  | fallback f => exact Fallback.chooses_iff.mpr (.inl h)

/-- Where nothing is lost, a condition that is chosen passes. -/
lemma Condition.Chooses.passes {c : Condition} (h : c.Chooses q ambient v)
    (hlost : ∀ f, c = .fallback f → ¬ f.Loses q ambient v) : c.Passes q ambient v := by
  cases c with
  | comparison c => exact h
  | fallback f => exact (Fallback.chooses_iff.mp h).resolve_right (hlost f rfl)

/-- A list of conditions comes to yes where all conditions of a run pass. -/
lemma Condition.truth_whole_eq_yes_iff {cs : List Condition} (hne : cs ≠ []) :
    (whole q ambient cs).truth v = .yes ↔ ∃ run ∈ runs cs, ∀ c ∈ run, c.Passes q ambient v := by
  rw [truth_whole hne, Truth.any_eq_yes_iff, List.mem_map]
  refine exists_congr fun run => and_congr_right fun _ => ?_
  rw [Truth.all_eq_yes_iff, List.forall_mem_map]
  exact forall₂_congr fun _ _ => truth_operand_eq_yes_iff

end Rows

/-- What a clause of conditions selects, whatever the comparisons come to for a row. -/
structure Filters (q : Quoter) (ambient : Ident) (cs : List Condition) (text : String) :
    Prop where
  /-- The text writes the predicate of the conditions. -/
  written : Condition.Writes q ambient cs .whole (Condition.whole q ambient cs) text
  /-- Each fallback is written as a factor of its own. -/
  fallback_written : ∀ f, .fallback f ∈ cs →
    Condition.Writes q ambient cs .factor (f.operand q ambient) (f.render q ambient)
  /-- A fallback holds where it passes, and nowhere else. -/
  fallback_yes : ∀ f v, .fallback f ∈ cs →
    ((f.operand q ambient).truth v = .yes ↔ f.Passes q ambient v)
  /-- Of what it chooses, exactly the rows with an unknown test are lost. -/
  fallback_chooses : ∀ f v, .fallback f ∈ cs →
    (f.Chooses q ambient v ↔ f.Passes q ambient v ∨ f.Loses q ambient v)
  /-- The rows that are selected: all conditions of a run pass. -/
  yes_iff : ∀ v, (Condition.whole q ambient cs).truth v = .yes ↔
    ∃ run ∈ Condition.runs cs, ∀ c ∈ run, c.Passes q ambient v
  /-- No row is selected that is not chosen. -/
  sound : ∀ v, (Condition.whole q ambient cs).truth v = .yes →
    ∃ run ∈ Condition.runs cs, ∀ c ∈ run, c.Chooses q ambient v
  /-- Every row is selected that is chosen, if no fallback loses it. -/
  complete : ∀ v, (∀ f, .fallback f ∈ cs → ¬ f.Loses q ambient v) →
    (∃ run ∈ Condition.runs cs, ∀ c ∈ run, c.Chooses q ambient v) →
      (Condition.whole q ambient cs).truth v = .yes
  /-- A reader of the text comes to the same, if tables and operators are plain. -/
  read : q = .standard → (∀ t ∈ ambient.text :: cs.flatMap Condition.trusted, Plain t) →
    ∃ p, Predicate.ofText text = some p ∧
      ∀ v, p.truth v = (Condition.whole q ambient cs).truth (v ∘ bare)

/-- The reader knows a comparison without the blanks around it. -/
lemma Condition.truth_operand_bare (ambient : Ident) (v : String → Truth) (c : Condition) :
    (c.operand .standard ambient).truth (v ∘ bare) = c.truth ambient v := by
  cases c <;> rfl

/-- **A fallback filters by one comparison where its test is yes and by the other one where
its test is no**, in every list of conditions that has a clause, for every quoter and whatever
the operators are. So a clause selects no row but those that an if with an otherwise would, and all
of these but the ones that a fallback loses, for which its test is unknown. -/
theorem filters_of_clause {q : Quoter} {ambient : Ident} {cs : List Condition} {text : String}
    (hr : Conditions.clause q ambient (.list cs) = .ok (" WHERE " ++ text)) :
    Filters q ambient cs text := by
  cases cs with
  | nil =>
      have hempty : "" = " WHERE " ++ text := Except.ok.inj hr
      simp at hempty
  | cons c cs =>
      obtain ⟨hcs, htext⟩ := Conditions.clause_cons_eq_ok_iff.mp hr
      have hne : c :: cs ≠ [] := List.cons_ne_nil c cs
      have hchain : text = " ".intercalate (Condition.chain q ambient (c :: cs)) := by
        simpa using htext
      exact {
        written := hchain ▸ Condition.written_whole hcs
        fallback_written := fun f hf => Condition.written_render hf
        fallback_yes := fun f v _ => Fallback.truth_operand_eq_yes_iff
        fallback_chooses := fun f v _ => Fallback.chooses_iff
        yes_iff := fun v => Condition.truth_whole_eq_yes_iff hne
        sound := fun v hv => by
          obtain ⟨run, hrun, hpasses⟩ := (Condition.truth_whole_eq_yes_iff hne).mp hv
          exact ⟨run, hrun, fun d hd => (hpasses d hd).chooses⟩
        complete := fun v hlost ⟨run, hrun, hchooses⟩ => by
          refine (Condition.truth_whole_eq_yes_iff hne).mpr ⟨run, hrun, fun d hd => ?_⟩
          refine (hchooses d hd).passes fun f hf => hlost f ?_
          exact hf ▸ Condition.mem_of_mem_runs hrun hd
        read := fun hq hplain => by
          subst hq
          refine ⟨_, Condition.ofText_clause hplain hr, fun v => ?_⟩
          rw [Condition.truth_tree hcs, Condition.truth_whole hne]
          simp only [Condition.truth_operand_bare]
          rfl }

/-- Notes with the tag `vip` and the body `y`, and of the others those with the body `x`. -/
def tagged : Fallback :=
  .of ((Branch.of ⟨"tag"⟩).withOperator "=" |>.withQueue (.text "vip"))
    ((Branch.of ⟨"body"⟩).withOperator "=" |>.withQueue (.text "y"))
    ((Branch.of ⟨"body"⟩).withOperator "=" |>.withQueue (.text "x"))

/-- Two comparisons and a fallback between them, which goes with the second one. -/
theorem filters_of_clause_tagged :
    let cs : List Condition := [.comparison (.of ⟨"noteId"⟩ (.text "1")),
      .fallback (tagged.joinedBy .or), .comparison { field := ⟨"body"⟩, connective := some .and }]
    ∃ text, Conditions.clause .standard ⟨"notes"⟩ (.list cs) = .ok (" WHERE " ++ text) ∧
      (Condition.runs cs).map List.length = [1, 2] ∧ Filters .standard ⟨"notes"⟩ cs text := by
  intro cs
  have hr : Conditions.clause .standard ⟨"notes"⟩ (.list cs) = .ok (" WHERE " ++
      ("notes.\x60noteId\x60 LIKE '1' OR " ++
        "((notes.\x60tag\x60 = 'vip' AND notes.\x60body\x60 = 'y') OR " ++
        "(NOT(notes.\x60tag\x60 = 'vip') AND notes.\x60body\x60 = 'x')) AND " ++
        "notes.\x60body\x60 LIKE NULL")) := by
    decide +kernel
  exact ⟨_, hr, by decide, filters_of_clause hr⟩

/-- What a text comes to for a note, as the condition of a select. -/
def Notebook.Note.truthOf (n : Note) (condition : String) : Truth :=
  match Statement.ofText? ("SELECT * FROM notes WHERE " ++ condition) with
  | some (.read _ (some f) _) => f.truth n
  | _ => .unknown

/-- A note without a tag is chosen, and it is not selected: whether its tag is `vip` is unknown,
and so is the negation of that. -/
theorem tagged_loses_untagged :
    let untagged : Notebook.Note := ⟨1, "x", none⟩
    ∃ text,
      Conditions.clause .standard ⟨"notes"⟩ (.list [.fallback tagged]) = .ok (" WHERE " ++ text) ∧
      tagged.Chooses .standard ⟨"notes"⟩ untagged.truthOf ∧ untagged.truthOf text = .unknown := by
  intro untagged
  have hr : Conditions.clause .standard ⟨"notes"⟩ (.list [.fallback tagged]) = .ok (" WHERE " ++
      ("((notes.\x60tag\x60 = 'vip' AND notes.\x60body\x60 = 'y') OR " ++
        "(NOT(notes.\x60tag\x60 = 'vip') AND notes.\x60body\x60 = 'x'))")) := by
    decide +kernel
  have htest : untagged.truthOf (tagged.test.renderTest .standard ⟨"notes"⟩) ≠ .yes := by
    decide +kernel
  have hbody : untagged.truthOf (tagged.no.renderOutcome .standard ⟨"notes"⟩) = .yes := by
    decide +kernel
  exact ⟨_, hr, .inr ⟨htest, hbody⟩, by decide +kernel⟩

end SqlRequest
