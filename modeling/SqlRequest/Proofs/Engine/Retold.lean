import SqlRequest.Engine
import SqlRequest.Proofs.Condition.Chain
import SqlRequest.Proofs.Request

/-!
What statements and records show of a value: whether it is null, and its string form.

* `Value.Retold`: a value with the text of its string form in its place. `Comparison.Retold`,
  `Branch.Retold`, `Condition.Retold`, `Conditions.Retold`, `Payload.Retold`, `Request.Retold`:
  any number of values so replaced.
* `Conditions.Retold.clause_eq`, `Request.Retold.assignments_eq`: clauses and assignments are the
  same.
* `Row.spelling`: what of a row is folded. `Row.spelled`: a row with nothing but texts.
* `told_by_form`: requests say and do the same when their values are replaced, and so do rows when
  they are folded.
-/

namespace SqlRequest

/-! ### Values told by their string forms -/

/-- A value that is the same, or the text of a string form in its place. Null stays null. -/
inductive Value.Retold : Value → Value → Prop where
  | same (v : Value) : Retold v v
  | text {v : Value} (h : v.isNull = false) : Retold v (.text v.form)

namespace Value.Retold

variable {v w : Value}

lemma isNull_eq (h : v.Retold w) : v.isNull = w.isNull := by
  cases h with
  | same => rfl
  | text h => exact h

lemma form_eq (h : v.Retold w) : v.form = w.form := by
  cases h with
  | same => rfl
  | text => rfl

lemma shown_eq (h : v.Retold w) : v.shown = w.shown := by
  rw [shown, shown, h.isNull_eq, h.form_eq]

lemma literal_eq (h : v.Retold w) (q : Quoter) : q.literal v = q.literal w := by
  rw [Quoter.literal_eq, Quoter.literal_eq, h.shown_eq]

lemma expand_eq (h : v.Retold w) (wild : Wildcard) : wild.expand v = wild.expand w := by
  rw [Wildcard.expand, Wildcard.expand, h.isNull_eq, h.form_eq]

lemma pattern_eq (h : v.Retold w) (q : Quoter) (wild : Wildcard) :
    q.pattern wild v = q.pattern wild w := by
  rw [Quoter.pattern, Quoter.pattern, h.isNull_eq, h.expand_eq]

lemma assigned_eq (h : v.Retold w) : v.assigned = w.assigned := by
  rw [assigned, assigned, h.isNull_eq, h.form_eq]

end Value.Retold

/-! ### Conditions -/

inductive Comparison.Retold : Comparison → Comparison → Prop where
  | queue {c : Comparison} {v : Value} (h : c.queue.Retold v) : Retold c { c with queue := v }

inductive Branch.Retold : Branch → Branch → Prop where
  | queue {b : Branch} {v : Value} (h : b.queue.Retold v) : Retold b { b with queue := v }

inductive Condition.Retold : Condition → Condition → Prop where
  | comparison {c d : Comparison} (h : c.Retold d) : Retold (.comparison c) (.comparison d)
  | fallback {f : Fallback} {test yes no : Branch} (htest : f.test.Retold test)
      (hyes : f.yes.Retold yes) (hno : f.no.Retold no) :
      Retold (.fallback f) (.fallback { f with test, yes, no })

/-- There are no values in a raw predicate. -/
inductive Conditions.Retold : Conditions → Conditions → Prop where
  | raw (sql : Fragment) : Retold (.raw sql) (.raw sql)
  | list {cs ds : List Condition} (h : List.Forall₂ Condition.Retold cs ds) :
      Retold (.list cs) (.list ds)

section Clause

variable {q : Quoter} {ambient : Ident}

lemma Branch.Retold.renderTest_eq {b c : Branch} (h : b.Retold c) :
    b.renderTest q ambient = c.renderTest q ambient := by
  obtain ⟨hqueue⟩ := h
  rw [renderTest, renderTest, hqueue.literal_eq]

lemma Branch.Retold.renderOutcome_eq {b c : Branch} (h : b.Retold c) :
    b.renderOutcome q ambient = c.renderOutcome q ambient := by
  obtain ⟨hqueue⟩ := h
  rw [renderOutcome, renderOutcome, hqueue.expand_eq]

lemma Condition.Retold.writtenAlike {c d : Condition} (h : c.Retold d) :
    WrittenAlike q ambient ambient c d := by
  cases h with
  | comparison h =>
      obtain ⟨hqueue⟩ := h
      refine ⟨rfl, ?_⟩
      rw [render, render, Comparison.render, Comparison.render, hqueue.pattern_eq]
  | fallback htest hyes hno =>
      refine ⟨rfl, ?_⟩
      rw [render, render, Fallback.render, Fallback.render, htest.renderTest_eq,
        hyes.renderOutcome_eq, hno.renderOutcome_eq]

lemma Conditions.Retold.clause_eq {cs ds : Conditions} (h : cs.Retold ds) :
    cs.clause q ambient = ds.clause q ambient := by
  cases h with
  | raw => rfl
  | list h => exact clause_congr (h.imp fun _ _ hcondition => hcondition.writtenAlike)

lemma Conditions.Retold.isEmpty_eq {cs ds : Conditions} (h : cs.Retold ds) :
    cs.isEmpty = ds.isEmpty := by
  cases h with
  | raw => rfl
  | list h => cases h <;> rfl

end Clause

/-! ### Payloads -/

/-- The same column with a value that is retold. -/
def Payload.EntryRetold (e e' : Ident × Value) : Prop := e.1 = e'.1 ∧ e.2.Retold e'.2

/-- The same columns with values that are retold. -/
def Payload.Retold (p p' : Payload) : Prop :=
  List.Forall₂ EntryRetold p.entries p'.entries

namespace Payload

variable {es es' : List (Ident × Value)} {p p' : Payload}

/-- Whatever depends on the column and on what the value shows is the same. -/
lemma map_eq_of_retold {α : Type} {f : Ident × Value → α} (h : List.Forall₂ EntryRetold es es')
    (hf : ∀ i v w, v.Retold w → f (i, v) = f (i, w)) : es.map f = es'.map f := by
  induction h with
  | nil => rfl
  | @cons e e' _ _ he _ ih =>
      obtain ⟨i, v⟩ := e
      obtain ⟨_, w⟩ := e'
      obtain ⟨rfl, hvalue⟩ := he
      rw [List.map_cons, List.map_cons, hf _ _ _ hvalue, ih]

lemma Retold.isEmpty_eq (h : Retold p p') : p.isEmpty = p'.isEmpty := by
  rw [OrderedMap.isEmpty, OrderedMap.isEmpty, Bool.eq_iff_iff, List.isEmpty_iff_length_eq_zero,
    List.isEmpty_iff_length_eq_zero, List.Forall₂.length_eq h]

/-- What an update writes is retold: the same values are left out. -/
lemma Retold.written (h : Retold p p') :
    List.Forall₂ EntryRetold (p.entries.filter fun e => e.2.assigned)
      (p'.entries.filter fun e => e.2.assigned) := by
  refine List.rel_filter (fun e e' he => ?_) h
  change e.2.assigned = true ↔ e'.2.assigned = true
  rw [he.2.assigned_eq]

end Payload

/-! ### Requests -/

/-- A request with any number of its values retold, in its payload and in its conditions. -/
inductive Request.Retold : Request → Request → Prop where
  | select {r : Select} {cs : Conditions} (h : r.conditions.Retold cs) :
      Retold (.select r) (.select { r with conditions := cs })
  | selectMany {r : SelectMany} {cs : Conditions} (h : r.conditions.Retold cs) :
      Retold (.selectMany r) (.selectMany { r with conditions := cs })
  | update {r : Update} {p : Payload} {cs : Conditions} (hvalues : Payload.Retold r.values p)
      (h : r.conditions.Retold cs) :
      Retold (.update r) (.update { r with values := p, conditions := cs })
  | insert {r : Insert} {p : Payload} (hvalues : Payload.Retold r.values p) :
      Retold (.insert r) (.insert { r with values := p })
  | delete {r : Delete} {cs : Conditions} (h : r.conditions.Retold cs) :
      Retold (.delete r) (.delete { r with conditions := cs })

/-- Two requests of one kind for which an engine does the same: the answer, the calls and the
state they leave are those of the other, whatever state they start in. -/
def Request.DoneAlike {σ : Type} (g : Gateway σ) : Request → Request → Prop
  | .select r, .select r' => Engine.get g r = Engine.get g r'
  | .selectMany r, .selectMany r' => Engine.getAll g r = Engine.getAll g r'
  | .update r, .update r' => Engine.update g r = Engine.update g r'
  | .insert r, .insert r' => Engine.insert g r = Engine.insert g r'
  | .delete r, .delete r' => Engine.delete g r = Engine.delete g r'
  | _, _ => False

/-- The assignments of a request. Only updates have any. -/
def Request.assignments (q : Quoter) : Request → List String
  | .update r => r.assignments q
  | _ => []

namespace Request

variable {r r' : Request}

lemma Retold.assignments_eq (h : r.Retold r') (q : Quoter) :
    r.assignments q = r'.assignments q := by
  cases h with
  | select | selectMany | insert | delete => rfl
  | update hvalues =>
      refine Payload.map_eq_of_retold hvalues.written fun i v w hvalue => ?_
      rw [assignment, assignment, hvalue.literal_eq]

lemma Retold.render_eq (h : r.Retold r') (q : Quoter) : r.render q = r'.render q := by
  have hassignments := h.assignments_eq q
  cases h with
  | select h =>
      rw [render, render, Select.render, Select.render, h.clause_eq]
  | selectMany h =>
      rw [render, render, SelectMany.render, SelectMany.render, h.clause_eq]
  | update _ h =>
      rw [assignments, assignments] at hassignments
      rw [render, render, Update.render, Update.render, h.clause_eq, hassignments]
  | @insert r p hvalues =>
      have hcolumns : r.values.entries.map (fun e => e.1.backticked) =
          p.entries.map fun e => e.1.backticked :=
        Payload.map_eq_of_retold hvalues fun _ _ _ _ => rfl
      have hliterals : r.values.entries.map (fun e => q.literal e.2) =
          p.entries.map fun e => q.literal e.2 :=
        Payload.map_eq_of_retold hvalues fun _ _ _ hvalue => hvalue.literal_eq q
      rw [render, render]
      delta Insert.render
      rw [hcolumns, hliterals]
  | delete h =>
      rw [render, render, Delete.render, Delete.render, h.clause_eq]

lemma Retold.doneAlike {σ : Type} (h : r.Retold r') (g : Gateway σ) : r.DoneAlike g r' := by
  have hrender := h.render_eq g.quoter
  have hassignments := h.assignments_eq g.quoter
  cases h with
  | select h =>
      rw [render, render] at hrender
      rw [DoneAlike, Engine.get, Engine.get, hrender]
  | selectMany h =>
      rw [render, render] at hrender
      rw [DoneAlike, Engine.getAll, Engine.getAll, hrender]
  | update _ h =>
      rw [render, render] at hrender
      rw [assignments, assignments] at hassignments
      rw [DoneAlike, Engine.update, Engine.update, hrender, hassignments]
  | insert hvalues =>
      rw [render, render, Except.ok.injEq] at hrender
      rw [DoneAlike, Engine.insert, Engine.insert, hrender, hvalues.isEmpty_eq]
  | delete h =>
      rw [render, render] at hrender
      rw [DoneAlike, Engine.delete, Engine.delete, hrender, h.isEmpty_eq]

end Request

/-! ### Rows -/

/-- What of a row is folded: the columns with the string forms of their values. -/
def Row.spelling (r : Row) : List (String × String) := r.cells.map fun c => (c.1, c.2.form)

/-- A row with the text of its string form in the place of every value; that of null is empty. -/
def Row.spelled (r : Row) : Row where
  columns := r.columns
  values := r.values.map fun v => .text v.form
  lengths := by rw [List.length_map, r.lengths]

lemma Row.spelling_spelled (r : Row) : r.spelled.spelling = r.spelling := by
  rw [spelling, cells, spelled, List.zip_map_right, List.map_map]
  rfl

lemma Row.address_eq_lookup (key : Option String) (r : Row) :
    r.address key = (key.bind fun k => r.spelling.lookup k).getD "" := by
  have hlookup (k : String) (cells : List (String × Value)) :
      (cells.map fun c => (c.1, c.2.form)).lookup k = (cells.lookup k).map Value.form := by
    induction cells with
    | nil => rfl
    | cons c cells ih =>
        rw [List.map_cons, List.lookup_cons, List.lookup_cons, ih]
        cases k == c.1 <;> rfl
  cases key with
  | none => rfl
  | some k =>
      rw [address, get?, Option.bind_some, spelling, hlookup]
      cases r.cells.lookup k <;> rfl

/-- Where a row goes and what it adds is told by its spelling. -/
lemma Records.add_congr {r r' : Row} (h : r.spelling = r'.spelling) (key : Option String)
    (records : Records) : add key records r = add key records r' := by
  have hrecord (record : Record) : Record.add record r = Record.add record r' := by
    have hcells (row : Row) : Record.add record row =
        row.spelling.foldl (fun record c => record.alter c.1 (collect c.2)) record := by
      rw [Row.spelling, List.foldl_map]
      rfl
    rw [hcells, hcells, h]
  rw [add, add, Row.address_eq_lookup, Row.address_eq_lookup, h]
  simp only [hrecord]

lemma Records.ofRows_spelled (rows : List Row) : ofRows (rows.map Row.spelled) = ofRows rows := by
  cases rows with
  | nil => rfl
  | cons r rs =>
      have hadd (key : Option String) :
          (fun records row => add key records (Row.spelled row)) = add key := by
        funext records row
        exact add_congr row.spelling_spelled key records
      rw [List.map_cons, ofRows, ofRows, ← List.map_cons, List.foldl_map, hadd]
      rfl

/-! ### Requests and rows -/

/-- **Of a value nothing counts but whether it is null and its string form.** When any number of
values of a request, in its payload or its conditions, become the texts of their string forms, the
statement is the same for every quoter, or fails in the same way, and so are the assignments of an
update; and on every connection an engine answers the same and makes the same calls. Rows are
folded alike when every value becomes the text of its string form. -/
theorem told_by_form :
    (∀ r r' : Request, r.Retold r' →
      (∀ q, r.render q = r'.render q) ∧ (∀ q, r.assignments q = r'.assignments q) ∧
        ∀ {σ : Type} (g : Gateway σ), r.DoneAlike g r') ∧
      ∀ rows : List Row, Records.ofRows (rows.map Row.spelled) = Records.ofRows rows :=
  ⟨fun _ _ h => ⟨h.render_eq, h.assignments_eq, fun g => h.doneAlike g⟩, Records.ofRows_spelled⟩

/-- An update with numbers in its payload and in both places of a fallback. -/
def numbered : Update where
  table := ⟨"users"⟩
  values := .ofList [(⟨"age"⟩, .integer 41), (⟨"nick"⟩, .null)]
  conditions := .list [.fallback (.of ((Branch.of ⟨"age"⟩).withQueue (.integer 40))
    (((Branch.of ⟨"height"⟩).withQueue (.real 1.5)).withWildcard .after) (.of ⟨"name"⟩))]

/-- The same update with texts for numbers. -/
def numberedInTexts : Update where
  table := ⟨"users"⟩
  values := .ofList [(⟨"age"⟩, .text "41"), (⟨"nick"⟩, .null)]
  conditions := .list [.fallback (.of ((Branch.of ⟨"age"⟩).withQueue (.text "40"))
    (((Branch.of ⟨"height"⟩).withQueue (.text "1.5")).withWildcard .after) (.of ⟨"name"⟩))]

/-- Both updates have the same statement. -/
theorem told_by_form_numbered :
    Request.Retold (.update numbered) (.update numberedInTexts) ∧
      numberedInTexts.render .standard = .ok ("UPDATE users SET `age` = '41', `nick` = NULL " ++
        "WHERE ((users.`age` IS NOT '40' AND users.`height` LIKE '1.5%') OR " ++
        "(NOT(users.`age` IS NOT '40') AND users.`name` LIKE ''));") ∧
      numbered.render .standard = numberedInTexts.render .standard := by
  have hage : Value.Retold (.integer 41) (.text "41") :=
    (by decide +kernel : Value.form (.integer 41) = "41") ▸ .text rfl
  have htest : Value.Retold (.integer 40) (.text "40") :=
    (by decide +kernel : Value.form (.integer 40) = "40") ▸ .text rfl
  have hheight : Value.Retold (.real 1.5) (.text "1.5") :=
    (by decide +kernel : Value.form (.real 1.5) = "1.5") ▸ .text rfl
  have hvalues : Payload.Retold numbered.values numberedInTexts.values :=
    .cons ⟨rfl, hage⟩ (.cons ⟨rfl, .same .null⟩ .nil)
  have hconditions : numbered.conditions.Retold numberedInTexts.conditions :=
    .list (.cons (.fallback (.queue htest) (.queue hheight) (.queue (.same .null))) .nil)
  have hretold : Request.Retold (.update numbered) (.update numberedInTexts) :=
    .update hvalues hconditions
  exact ⟨hretold, by cbv, (told_by_form.1 _ _ hretold).1 .standard⟩

end SqlRequest
