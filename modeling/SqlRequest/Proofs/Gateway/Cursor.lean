import SqlRequest.Gateway.Cursor
import SqlRequest.Proofs.Row

/-!
Cursors, and what is fetched through them.

* `Cursor.mapM_valueAt_of_le`, `Cursor.mapM_valueAt_of_lt`: a row is read as its first cells, one
  for each column, or fails at the first column without a cell;
* `Cursor.collect_ne_uneven`: so the lengths of columns and values never disagree;
* `Cursor.collect_some`: to collect up to a limit is to collect all of the cursor that ends there;
* `Cursor.Fetched`, `Cursor.fetched_of_rectangular`: all rows are fetched in order or not at all,
  and the first row is fetched whatever becomes of the others.
-/

namespace SqlRequest.Cursor

variable {columns : List String} {failure : Option String} {limit : Option ℕ}
  {collected : Array Row} {cells : List Cell} {rest : List (List Cell)} {row : Row}
  {rows : List Row} {c : Cursor} {e : Error} {n : ℕ}

/-! ### One row -/

lemma valueAt_of_lt (h : n < cells.length) : valueAt cells n = .ok (.ofCell cells[n]) := by
  rw [valueAt, List.getElem?_eq_getElem h]

lemma valueAt_of_le (h : cells.length ≤ n) :
    valueAt cells n = .error (.execution ("Invalid column index: " ++ toString n)) := by
  rw [valueAt, List.getElem?_eq_none h]

/-- Positions are read from the left, so it is the last one that an induction takes off. -/
lemma mapM_valueAt_succ (cells : List Cell) (n : ℕ) :
    (List.range (n + 1)).mapM (valueAt cells) = (do
      let values ← (List.range n).mapM (valueAt cells)
      let value ← valueAt cells n
      return values ++ [value]) := by
  rw [List.range_succ, List.mapM_append]
  simp only [List.mapM_cons, List.mapM_nil, bind_assoc, pure_bind]

/-- As many values as there are columns, while the cells last. -/
lemma mapM_valueAt_of_le (h : n ≤ cells.length) :
    (List.range n).mapM (valueAt cells) = .ok ((cells.take n).map .ofCell) := by
  induction n with
  | zero => rfl
  | succ n ih =>
      rw [mapM_valueAt_succ, ih (by omega), valueAt_of_lt h, List.take_succ_eq_append_getElem h,
        List.map_append]
      rfl

/-- The first column without a cell is the one that is reported. -/
lemma mapM_valueAt_of_lt (h : cells.length < n) :
    (List.range n).mapM (valueAt cells) =
      .error (.execution ("Invalid column index: " ++ toString cells.length)) := by
  induction n with
  | zero => omega
  | succ n ih =>
      rw [mapM_valueAt_succ]
      obtain hn | rfl : cells.length < n ∨ n = cells.length := by omega
      · rw [ih hn]
        rfl
      · rw [mapM_valueAt_of_le le_rfl, valueAt_of_le le_rfl]
        rfl

lemma readRow_of_le (h : columns.length ≤ cells.length) :
    readRow columns cells = Row.of columns ((cells.take columns.length).map .ofCell) := by
  rw [readRow, mapM_valueAt_of_le h]
  rfl

lemma readRow_of_lt (h : cells.length < columns.length) :
    readRow columns cells =
      .error (.execution ("Invalid column index: " ++ toString cells.length)) := by
  rw [readRow, mapM_valueAt_of_lt h]
  rfl

/-- A row with one cell for each column is read as it is. -/
lemma readRow_eq_ok (hcolumns : row.columns = columns)
    (hvalues : row.values = cells.map .ofCell) : readRow columns cells = .ok row := by
  have hlength : columns.length = cells.length := by
    rw [← hcolumns, row.lengths, hvalues, List.length_map]
  rw [readRow_of_le hlength.le, hlength, List.take_length]
  exact Row.of_eq_ok_iff.mpr ⟨hcolumns, hvalues⟩

/-- However many cells there are, there are as many values as columns. -/
lemma readRow_ne_uneven (columns : List String) (cells : List Cell) (m n : ℕ) :
    readRow columns cells ≠ .error (.validation (.unevenRow m n)) := by
  obtain h | h := Nat.lt_or_ge cells.length columns.length
  · simp [readRow_of_lt h]
  · have hlength : columns.length = ((cells.take columns.length).map Value.ofCell).length := by
      rw [List.length_map, List.length_take_of_le h]
    rw [readRow_of_le h, Row.of, dif_pos hlength]
    simp

/-! ### One turn of the loop -/

lemma collectFrom_cons_of_ok (h : readRow columns cells = .ok row) :
    collectFrom columns failure limit collected (cells :: rest) =
      if limit.any (· ≤ collected.size + 1) then .ok (collected.push row)
      else collectFrom columns failure limit (collected.push row) rest := by
  rw [collectFrom, h, ← Array.size_push]
  rfl

lemma collectFrom_cons_of_error (h : readRow columns cells = .error e) :
    collectFrom columns failure limit collected (cells :: rest) = .error e := by
  rw [collectFrom, h]
  rfl

/-- No run of the loop ends at the lengths of columns and values. -/
lemma collectFrom_ne_uneven (columns : List String) (failure : Option String)
    (limit : Option ℕ) (collected : Array Row) (rest : List (List Cell)) (m n : ℕ) :
    collectFrom columns failure limit collected rest ≠
      .error (.validation (.unevenRow m n)) := by
  induction rest generalizing collected with
  | nil => cases failure <;> nofun
  | cons cells rest ih =>
      cases hrow : readRow columns cells with
      | error e =>
          rw [collectFrom_cons_of_error hrow]
          intro heq
          obtain rfl := Except.error.inj heq
          exact readRow_ne_uneven columns cells m n hrow
      | ok row =>
          rw [collectFrom_cons_of_ok hrow]
          split
          · nofun
          · exact ih _

/-- However a cursor is read, columns and values pair up. -/
lemma collect_ne_uneven (c : Cursor) (limit : Option ℕ) (m n : ℕ) :
    c.collect limit ≠ .error (.validation (.unevenRow m n)) := by
  have hloop := collectFrom_ne_uneven c.columns c.failure limit #[] c.rows m n
  rw [collect]
  cases hrun : collectFrom c.columns c.failure limit #[] c.rows with
  | ok collected => nofun
  | error e =>
      intro heq
      obtain rfl := Except.error.inj heq
      exact hloop hrun

/-! ### All rows -/

/-- The rows that a cursor hands out: each has its columns, and the values of one row of
cells. -/
def Yields (c : Cursor) (rows : List Row) : Prop :=
  List.Forall₂ (fun cells (row : Row) => row.columns = c.columns ∧ row.values = cells.map .ofCell)
    c.rows rows

/-- Without a limit the loop ends where the cursor does. -/
lemma collectFrom_none
    (h : List.Forall₂ (fun cells row => readRow columns cells = .ok row) rest rows) :
    collectFrom columns failure none collected rest =
      failure.elim (.ok (collected ++ rows)) fun message => .error (.execution message) := by
  induction h generalizing collected with
  | nil => cases failure <;> simp [collectFrom]
  | cons hrow _ ih =>
      rw [collectFrom_cons_of_ok hrow]
      simp [ih]

lemma Yields.fetchAll_eq (h : c.Yields rows) :
    c.fetchAll = c.failure.elim (.ok rows) fun message => .error (.execution message) := by
  have hread : List.Forall₂ (fun cells row => readRow c.columns cells = .ok row) c.rows rows :=
    List.Forall₂.imp (fun _ _ hrow => readRow_eq_ok hrow.1 hrow.2) h
  rw [fetchAll, collect, collectFrom_none hread]
  cases c.failure <;> simp [Except.map]

/-! ### Rows up to a limit -/

/-- The cursor that ends after so many rows, if there are so many. -/
def cut (c : Cursor) (n : ℕ) : Cursor :=
  if n ≤ c.rows.length then { c with rows := c.rows.take n, failure := none } else c

/-- With a limit the loop does what it does without, on as many rows as the limit leaves or on all
of them if they are too few. -/
lemma collectFrom_some (hlimit : collected.size < max 1 n) (rest : List (List Cell)) :
    collectFrom columns failure (some n) collected rest =
      if max 1 n - collected.size ≤ rest.length then
        collectFrom columns none none collected (rest.take (max 1 n - collected.size))
      else collectFrom columns failure none collected rest := by
  induction rest generalizing collected with
  | nil =>
      rw [if_neg (by simp only [List.length_nil]; omega)]
      rfl
  | cons cells rest ih =>
      obtain ⟨left, hleft⟩ : ∃ left, max 1 n - collected.size = left + 1 :=
        ⟨max 1 n - collected.size - 1, by omega⟩
      rw [hleft, List.take_succ_cons]
      cases hrow : readRow columns cells with
      | error e => simp only [collectFrom_cons_of_error hrow, ite_self]
      | ok row =>
          simp only [collectFrom_cons_of_ok hrow]
          -- Either this row is the last that the limit leaves, or the next turn starts below it.
          by_cases hreached : n ≤ collected.size + 1
          · obtain rfl : left = 0 := by omega
            simp [hreached, collectFrom]
          · have hsize : (collected.push row).size < max 1 n := by
              rw [Array.size_push]
              omega
            have hnext : max 1 n - (collected.push row).size = left := by
              rw [Array.size_push]
              omega
            rw [if_neg (by simpa using hreached), ih hsize, hnext]
            simp

/-- To collect up to a limit is to collect all of the cursor that ends there. -/
lemma collect_some (c : Cursor) (n : ℕ) : c.collect (some n) = (c.cut (max 1 n)).fetchAll := by
  rw [collect, collectFrom_some (by simp), fetchAll, collect, cut]
  simp only [List.size_toArray, List.length_nil, Nat.sub_zero]
  split <;> rfl

lemma Yields.cut (h : c.Yields rows) (hn : n ≤ rows.length) :
    (c.cut n).failure = none ∧ (c.cut n).Yields (rows.take n) := by
  rw [Cursor.cut, if_pos (hn.trans_eq (List.Forall₂.length_eq h).symm)]
  exact ⟨rfl, List.forall₂_take n h⟩

/-- As many rows as the limit says, if there are so many; else the cursor is read to its end. -/
lemma Yields.collect_some (h : c.Yields rows) (n : ℕ) :
    c.collect (some n) =
      if max 1 n ≤ rows.length then .ok (rows.take (max 1 n)) else c.fetchAll := by
  rw [Cursor.collect_some]
  split
  · next hn =>
      obtain ⟨hfailure, hcut⟩ := h.cut hn
      rw [hcut.fetchAll_eq, hfailure]
      rfl
  · next hn => rw [Cursor.cut, if_neg (by rwa [List.Forall₂.length_eq h])]

/-! ### The first row -/

/-- The first row is fetched, whatever becomes of the others. -/
lemma Yields.fetchOne_cons (h : c.Yields (row :: rows)) : c.fetchOne = .ok (some row) := by
  rw [fetchOne, h.collect_some, if_pos (by simp)]
  rfl

/-- Without a row the cursor is read to its end. -/
lemma Yields.fetchOne_nil (h : c.Yields []) :
    c.fetchOne = c.failure.elim (.ok none) fun message => .error (.execution message) := by
  rw [fetchOne, h.collect_some, if_neg (by simp), h.fetchAll_eq]
  cases c.failure <;> rfl

lemma Yields.fetchOne_eq_error_iff (h : c.Yields rows) : c.fetchOne = .error e ↔
    rows = [] ∧ ∃ message, c.failure = some message ∧ e = .execution message := by
  cases rows with
  | nil =>
      rw [h.fetchOne_nil]
      cases c.failure <;> simp [eq_comm]
  | cons row rows => simp [h.fetchOne_cons]

lemma Yields.fetchOne_of_fetchAll {fetched : List Row} (h : c.Yields rows)
    (hall : c.fetchAll = .ok fetched) : c.fetchOne = .ok fetched.head? := by
  rw [h.fetchAll_eq] at hall
  cases hfailure : c.failure with
  | some message =>
      rw [hfailure] at hall
      cases hall
  | none =>
      rw [hfailure] at hall
      obtain rfl := Except.ok.inj hall
      cases rows with
      | nil => rw [h.fetchOne_nil, hfailure, Option.elim_none, List.head?_nil]
      | cons row rows => rw [h.fetchOne_cons, List.head?_cons]

/-! ### Fetching -/

/-- A cursor hands out one cell for each column. -/
def Rectangular (c : Cursor) : Prop := ∀ cells ∈ c.rows, cells.length = c.columns.length

instance (c : Cursor) : Decidable c.Rectangular :=
  inferInstanceAs (Decidable (∀ cells ∈ c.rows, cells.length = c.columns.length))

lemma Rectangular.exists_yields (h : c.Rectangular) : ∃ rows, c.Yields rows := by
  obtain ⟨columns, table, failure⟩ := c
  induction table with
  | nil => exact ⟨[], .nil⟩
  | cons cells table ih =>
      obtain ⟨rows, hrows⟩ := ih fun cells hcells => h cells (List.mem_cons_of_mem _ hcells)
      have hlength : columns.length = (cells.map Value.ofCell).length := by
        rw [List.length_map]
        exact (h cells List.mem_cons_self).symm
      exact ⟨⟨columns, cells.map .ofCell, hlength⟩ :: rows, .cons ⟨rfl, rfl⟩ hrows⟩

/-- What is fetched through a cursor that hands out the given rows. -/
structure Fetched (c : Cursor) (rows : List Row) : Prop where
  all : c.failure = none → c.fetchAll = .ok rows
  all_failed : ∀ message, c.failure = some message → c.fetchAll = .error (.execution message)
  /-- The first row, whether or not the cursor fails after it. -/
  first : ∀ row, rows.head? = some row → c.fetchOne = .ok (some row)
  nothing : rows = [] → c.failure = none → c.fetchOne = .ok none
  error_iff : ∀ e, c.fetchOne = .error e ↔
    rows = [] ∧ ∃ message, c.failure = some message ∧ e = .execution message
  head : ∀ fetched, c.fetchAll = .ok fetched → c.fetchOne = .ok fetched.head?
  /-- As many rows as a limit says, if there are so many, and else all or the failure. -/
  limited : ∀ n, c.collect (some n) =
    if max 1 n ≤ rows.length then .ok (rows.take (max 1 n)) else c.fetchAll
  paired : ∀ limit m n, c.collect limit ≠ .error (.validation (.unevenRow m n))

/-- **A cursor with one cell for each column gives all its rows in order or the failure at their
end, and its first row unless it fails before that.** Where all rows are fetched, the one row is
the first of them. -/
theorem fetched_of_rectangular (c : Cursor) (h : c.Rectangular) :
    ∃ rows, c.Yields rows ∧ c.Fetched rows := by
  obtain ⟨rows, hrows⟩ := h.exists_yields
  refine ⟨rows, hrows, ?_⟩
  constructor
  case all =>
    intro hfailure
    rw [hrows.fetchAll_eq, hfailure, Option.elim_none]
  case all_failed =>
    intro message hfailure
    rw [hrows.fetchAll_eq, hfailure, Option.elim_some]
  case first =>
    intro row hrow
    obtain ⟨rest, rfl⟩ := List.head?_eq_some_iff.mp hrow
    exact hrows.fetchOne_cons
  case nothing =>
    rintro rfl hfailure
    rw [hrows.fetchOne_nil, hfailure, Option.elim_none]
  case error_iff => exact fun e => hrows.fetchOne_eq_error_iff
  case head => exact fun fetched => hrows.fetchOne_of_fetchAll
  case limited => exact hrows.collect_some
  case paired => exact c.collect_ne_uneven

/-- A cursor that fails after its second row. -/
def interrupted : Cursor where
  columns := ["noteId", "rating"]
  rows := [[.integer 1, .null], [.integer 2, .integer 7]]
  failure := some "disk I/O error"

/-- One row is fetched, all rows are not. -/
theorem fetched_of_rectangular_interrupted :
    interrupted.Rectangular ∧ (∃ rows, interrupted.Yields rows ∧ interrupted.Fetched rows) ∧
      interrupted.fetchOne = .ok (some ⟨["noteId", "rating"], [.integer 1, .null], rfl⟩) ∧
      interrupted.fetchAll = .error (.execution "disk I/O error") := by
  have h : interrupted.Rectangular := by decide
  exact ⟨h, fetched_of_rectangular interrupted h, rfl, rfl⟩

end SqlRequest.Cursor
