import Mathlib.Tactic
import SqlRequest.Request.Select

/-!
Requests that are built by calls, in any order and number.

* `argsOf`: the arguments of the calls of one method, in order. `foldl_perform`: a run of calls
  comes to a normal form of these, if each call does.
* `Chained`: the laws of a builder. The arguments of each method decide on the request, so calls of
  different methods commute, and to debug changes no statement.
* `Select.chained`, `SelectMany.chained`: the normal forms of the two selects.
* `Join.clauses_complete`: joins that are not complete leave no trace.
* `chains_normal`: all of this, and the two selects have one statement where both can have it.
-/

namespace SqlRequest

/-! ### Runs of calls -/

section Calls

variable {M ρ : Type} [DecidableEq M] {Arg : M → Type}

/-- The arguments of the calls of one method, in order. -/
def argsOf (m : M) (calls : List (Σ m, Arg m)) : List (Arg m) :=
  calls.filterMap fun c => if h : c.1 = m then some (h ▸ c.2) else none

variable {m n : M} {calls : List (Σ m, Arg m)}

lemma argsOf_cons_self (a : Arg m) : argsOf m (⟨m, a⟩ :: calls) = a :: argsOf m calls := by
  simp [argsOf]

lemma argsOf_cons_of_ne (h : n ≠ m) (a : Arg n) : argsOf m (⟨n, a⟩ :: calls) = argsOf m calls := by
  simp [argsOf, h]

lemma argsOf_append (m : M) (calls calls' : List (Σ m, Arg m)) :
    argsOf m (calls ++ calls') = argsOf m calls ++ argsOf m calls' :=
  List.filterMap_append

/-- One more call adds its argument to those of its method, and to no others. -/
lemma argsOf_concat (calls : List (Σ m, Arg m)) (n : M) (a : Arg n) :
    (fun m => argsOf m (calls ++ [⟨n, a⟩])) =
      Function.update (fun m => argsOf m calls) n (argsOf n calls ++ [a]) := by
  funext m
  rw [argsOf_append]
  by_cases h : n = m
  · subst h
    rw [argsOf_cons_self, Function.update_self]
    rfl
  · rw [argsOf_cons_of_ne h, Function.update_of_ne (Ne.symm h)]
    exact List.append_nil _

/-- Of two calls next to each other a method sees one at most, if they are of different methods. -/
lemma argsOf_swap (k : M) {c d : Σ m, Arg m} (h : c.1 ≠ d.1) (before after : List (Σ m, Arg m)) :
    argsOf k (before ++ c :: d :: after) = argsOf k (before ++ d :: c :: after) := by
  obtain ⟨m, a⟩ := c
  obtain ⟨n, b⟩ := d
  rw [argsOf_append, argsOf_append]
  by_cases hm : m = k
  · subst hm
    rw [argsOf_cons_self, argsOf_cons_of_ne (Ne.symm h), argsOf_cons_of_ne (Ne.symm h),
      argsOf_cons_self]
  · by_cases hn : n = k
    · subst hn
      rw [argsOf_cons_of_ne hm, argsOf_cons_self, argsOf_cons_self, argsOf_cons_of_ne hm]
    · rw [argsOf_cons_of_ne hm, argsOf_cons_of_ne hn, argsOf_cons_of_ne hn, argsOf_cons_of_ne hm]

variable {perform : ρ → (Σ m, Arg m) → ρ} {normal : (∀ m, List (Arg m)) → ρ} {fresh : ρ}

/-- Calls come to a normal form, if no calls do, and if one more call does. -/
lemma foldl_perform (hfresh : normal (fun _ => []) = fresh)
    (hcall : ∀ args m a,
      normal (Function.update args m (args m ++ [a])) = perform (normal args) ⟨m, a⟩)
    (calls : List (Σ m, Arg m)) :
    calls.foldl perform fresh = normal fun m => argsOf m calls := by
  induction calls using List.reverseRecOn with
  | nil => exact hfresh.symm
  | append_singleton calls c ih =>
      rw [List.foldl_append, ih, argsOf_concat, hcall]
      rfl

end Calls

/-! ### Builders -/

/-- The laws of a builder with its methods: what calls come to from a fresh request on. -/
structure Chained {M ρ : Type} [DecidableEq M] {Arg : M → Type}
    (perform : ρ → (Σ m, Arg m) → ρ) (fresh : ρ) (normal : (∀ m, List (Arg m)) → ρ)
    (render : Quoter → ρ → Except Error String) (debug : Σ m, Arg m) : Prop where
  /-- The arguments of each method, in order, are all that decides on the request. -/
  normal : ∀ calls, calls.foldl perform fresh = normal fun m => argsOf m calls
  /-- So calls of different methods commute, -/
  swapped : ∀ before c d after, c.1 ≠ d.1 →
    (before ++ c :: d :: after).foldl perform fresh =
      (before ++ d :: c :: after).foldl perform fresh
  /-- and they can be put into any order that keeps the order of each method. -/
  interleaved : ∀ calls calls', (∀ m, argsOf m calls = argsOf m calls') →
    calls.foldl perform fresh = calls'.foldl perform fresh
  /-- A call to debug, wherever it stands, does not change the statement. -/
  debugged : ∀ before after q,
    render q ((before ++ debug :: after).foldl perform fresh) =
      render q ((before ++ after).foldl perform fresh)

/-- All laws follow from the normal form, if debugging does not show in the statement of one. -/
lemma Chained.of_normal {M ρ : Type} [DecidableEq M] {Arg : M → Type}
    {perform : ρ → (Σ m, Arg m) → ρ} {fresh : ρ} {normal : (∀ m, List (Arg m)) → ρ}
    {render : Quoter → ρ → Except Error String} {debug : Σ m, Arg m}
    (hnormal : ∀ calls, calls.foldl perform fresh = normal fun m => argsOf m calls)
    (hdebug : ∀ args args', (∀ m, m ≠ debug.1 → args m = args' m) →
      ∀ q, render q (normal args) = render q (normal args')) :
    Chained perform fresh normal render debug where
  normal := hnormal
  swapped before c d after h := by
    rw [hnormal, hnormal]
    exact congrArg normal (funext fun m => argsOf_swap m h before after)
  interleaved calls calls' h := by
    rw [hnormal, hnormal]
    exact congrArg normal (funext h)
  debugged before after q := by
    rw [hnormal, hnormal]
    refine hdebug _ _ (fun m hm => ?_) q
    rw [argsOf_append, argsOf_append, argsOf_cons_of_ne (Ne.symm hm)]

/-! ### Selects of one row -/

namespace Select

/-- The methods of the builder. -/
inductive Method where
  | field
  | conditions
  | join
  | grouping
  | debug
  deriving DecidableEq

/-- What a method is called with. -/
abbrev Method.Arg : Method → Type
  | field => Field
  | conditions => Conditions
  | join => Join
  | grouping => Grouping
  | debug => Unit

def perform (r : Select) : (Σ m : Method, m.Arg) → Select
  | ⟨.field, field⟩ => r.withField field
  | ⟨.conditions, conditions⟩ => r.withConditions conditions
  | ⟨.join, join⟩ => r.withJoin join
  | ⟨.grouping, grouping⟩ => r.withGrouping grouping
  | ⟨.debug, _⟩ => r.debugged

/-- The last field, the last conditions, the last grouping, and all joins in order. -/
def normal (table : Ident) (args : ∀ m : Method, List m.Arg) : Select where
  table := table
  field := (args .field).getLast?.getD .all
  conditions := (args .conditions).getLast?.getD .none
  joins := args .join
  grouping := (args .grouping).getLast?
  debug := !(args .debug).isEmpty

/-- One more call makes one more argument. -/
lemma normal_update (table : Ident) (args : ∀ m : Method, List m.Arg) (m : Method) (a : m.Arg) :
    normal table (Function.update args m (args m ++ [a])) =
      (normal table args).perform ⟨m, a⟩ := by
  cases m <;> simp [normal, perform, withField, withConditions, withJoin, withGrouping, debugged]

/-- The statement of a select says nothing of its field and of debugging. -/
lemma render_congr {q : Quoter} {r r' : Select} (htable : r.table = r'.table)
    (hconditions : r.conditions = r'.conditions) (hjoins : r.joins = r'.joins)
    (hgrouping : r.grouping = r'.grouping) : r.render q = r'.render q := by
  rw [render, render, htable, hconditions, hjoins, hgrouping]

lemma chained (table : Ident) :
    Chained perform (of table) (normal table) render ⟨.debug, ()⟩ := by
  refine .of_normal (foldl_perform rfl (normal_update table)) fun args args' h q => ?_
  exact render_congr rfl (by simp [normal, h]) (by simp [normal, h]) (by simp [normal, h])

end Select

/-! ### Selects of many rows -/

namespace SelectMany

/-- The methods of the builder. -/
inductive Method where
  | conditions
  | join
  | grouping
  | order
  | col
  | debug
  deriving DecidableEq

/-- What a method is called with. -/
abbrev Method.Arg : Method → Type
  | conditions => Conditions
  | join => Join
  | grouping => Grouping
  | order => Fragment
  | col => Ident
  | debug => Unit

def perform (r : SelectMany) : (Σ m : Method, m.Arg) → SelectMany
  | ⟨.conditions, conditions⟩ => r.withConditions conditions
  | ⟨.join, join⟩ => r.withJoin join
  | ⟨.grouping, grouping⟩ => r.withGrouping grouping
  | ⟨.order, order⟩ => r.withOrder order
  | ⟨.col, col⟩ => r.withCol col
  | ⟨.debug, _⟩ => r.debugged

/-- The last conditions, the last grouping, the last order, and all joins and columns in order. -/
def normal (table : Ident) (args : ∀ m : Method, List m.Arg) : SelectMany where
  table := table
  conditions := (args .conditions).getLast?.getD .none
  joins := args .join
  grouping := (args .grouping).getLast?
  orderBy := (args .order).getLast?
  cols := args .col
  debug := !(args .debug).isEmpty

lemma normal_update (table : Ident) (args : ∀ m : Method, List m.Arg) (m : Method) (a : m.Arg) :
    normal table (Function.update args m (args m ++ [a])) =
      (normal table args).perform ⟨m, a⟩ := by
  cases m <;>
    simp [normal, perform, withConditions, withJoin, withGrouping, withOrder, withCol, debugged]

/-- The statement of a select says nothing of debugging. -/
lemma render_congr {q : Quoter} {r r' : SelectMany} (htable : r.table = r'.table)
    (hconditions : r.conditions = r'.conditions) (hjoins : r.joins = r'.joins)
    (hgrouping : r.grouping = r'.grouping) (horder : r.orderBy = r'.orderBy)
    (hcols : r.cols = r'.cols) : r.render q = r'.render q := by
  rw [render, render, htable, hconditions, hjoins, hgrouping, horder, hcols]

lemma chained (table : Ident) :
    Chained perform (of table) (normal table) render ⟨.debug, ()⟩ := by
  refine .of_normal (foldl_perform rfl (normal_update table)) fun args args' h q => ?_
  exact render_congr rfl (by simp [normal, h]) (by simp [normal, h]) (by simp [normal, h])
    (by simp [normal, h]) (by simp [normal, h])

end SelectMany

/-! ### One statement for two requests -/

/-- A join with a table and a condition, such as a builder makes. -/
def Join.complete (j : Join) : Bool := j.table.isSome && j.on.isSome

lemma Join.clause_of_not_complete {j : Join} (h : j.complete = false) : j.clause = "" := by
  obtain ⟨table, on⟩ := j
  cases table with
  | none => rfl
  | some table =>
      cases on with
      | none => rfl
      | some on => cases h

/-- Joins that are not complete leave no trace, wherever they stand. -/
lemma Join.clauses_complete (js : List Join) : clauses (js.filter complete) = clauses js := by
  induction js with
  | nil => rfl
  | cons j js ih =>
      rw [clauses, clauses] at ih ⊢
      cases h : j.complete with
      | true => simp [h, ih]
      | false => simp [h, ih, clause_of_not_complete h]

lemma Select.render_complete (q : Quoter) (r : Select) :
    ({ r with joins := r.joins.filter Join.complete } : Select).render q = r.render q := by
  rw [render, render, Join.clauses_complete]

lemma SelectMany.render_complete (q : Quoter) (r : SelectMany) :
    ({ r with joins := r.joins.filter Join.complete } : SelectMany).render q = r.render q := by
  rw [render, render, Join.clauses_complete]

/-- A select of many rows that asks for neither columns nor an order. -/
structure SelectMany.Plain (r : SelectMany) : Prop where
  cols : r.cols = []
  orderBy : ∀ order ∈ r.orderBy, order.blank = true

lemma SelectMany.orderByClause_of_plain {r : SelectMany} (h : r.Plain) :
    orderByClause r.orderBy = "" := by
  cases horder : r.orderBy with
  | none => rfl
  | some order => exact if_pos (h.orderBy order horder)

/-- The two selects of the same parts have one statement, or fail with one error. -/
lemma SelectMany.render_of_plain {q : Quoter} {r : SelectMany} {r' : Select} (h : r.Plain)
    (htable : r.table = r'.table) (hconditions : r.conditions = r'.conditions)
    (hjoins : r.joins = r'.joins) (hgrouping : r.grouping = r'.grouping) :
    r.render q = r'.render q := by
  rw [render, Select.render, orderByClause_of_plain h, h.cols, htable, hconditions, hjoins,
    hgrouping]
  simp only [String.append_empty]

/-- **Chains of builder calls have a normal form.** From a fresh select on, whatever is called how
often and in which order, the last call of each method that replaces and all calls of each method
that adds, in order, decide on the request. So calls of different methods commute, and debugging is
not seen in a statement, nor are joins without a table or a condition, which no builder makes. A
select of many rows that asks for neither columns nor an order has the statement of the select of
one row with the same parts, or the same error. -/
theorem chains_normal :
    (∀ table, Chained Select.perform (.of table) (Select.normal table) Select.render
      ⟨.debug, ()⟩) ∧
    (∀ table, Chained SelectMany.perform (.of table) (SelectMany.normal table) SelectMany.render
      ⟨.debug, ()⟩) ∧
    (∀ q (r : Select),
      ({ r with joins := r.joins.filter Join.complete } : Select).render q = r.render q) ∧
    (∀ q (r : SelectMany),
      ({ r with joins := r.joins.filter Join.complete } : SelectMany).render q = r.render q) ∧
    (∀ table on, (Join.left table on).complete = true) ∧
    ∀ q (r : SelectMany) (r' : Select), r.Plain → r.table = r'.table →
      r.conditions = r'.conditions → r.joins = r'.joins → r.grouping = r'.grouping →
        r.render q = r'.render q :=
  ⟨Select.chained, SelectMany.chained, Select.render_complete, SelectMany.render_complete,
    fun _ _ => rfl, fun _ _ _ => SelectMany.render_of_plain⟩

/-- Calls in two orders, an order of blanks, and a join that comes from a text. -/
theorem chains_normal_users :
    let roles := Join.left ⟨"roles"⟩ ⟨"roles.id = users.role_id"⟩
    let many : List (Σ m : SelectMany.Method, m.Arg) :=
      [⟨.order, ⟨" "⟩⟩, ⟨.join, roles⟩, ⟨.conditions, .none⟩, ⟨.debug, ()⟩,
        ⟨.conditions, .raw ⟨"id = 7"⟩⟩]
    let r := many.foldl SelectMany.perform (.of ⟨"users"⟩)
    let r' := (Select.of ⟨"users"⟩).perform ⟨.join, roles⟩ |>.perform ⟨.conditions, .raw ⟨"id = 7"⟩⟩
    r.Plain ∧ r.render .standard = r'.render .standard ∧
      r' = ((Select.of ⟨"users"⟩).perform ⟨.conditions, .raw ⟨"id = 7"⟩⟩).perform ⟨.join, roles⟩ ∧
      ({ r with joins := ⟨none, some ⟨"x = y"⟩⟩ :: r.joins } : SelectMany).render .standard =
        .ok ("SELECT users.* FROM users LEFT JOIN roles ON roles.id = users.role_id" ++
          " WHERE users.id = 7;") := by
  intro roles many r r'
  obtain ⟨hselect, -, -, hjoins, -, hplain⟩ := chains_normal
  have hblank : r.Plain := ⟨rfl, by rintro order ⟨⟩; decide⟩
  have hsame : r.render .standard = r'.render .standard := hplain _ r r' hblank rfl rfl rfl rfl
  refine ⟨hblank, hsame, ?_, ?_⟩
  · exact (hselect ⟨"users"⟩).swapped [] ⟨.join, roles⟩ ⟨.conditions, .raw ⟨"id = 7"⟩⟩ []
      (by decide)
  · rw [← hjoins]
    decide +kernel

end SqlRequest
