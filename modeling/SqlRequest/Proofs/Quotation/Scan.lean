import Mathlib.Tactic
import SqlRequest.Quote

/-!
Statements as a reader sees them who knows two quotations and nothing else of SQL:
text between apostrophes, a literal, and text between backticks, a name. A closing
mark that is doubled stands for itself.

* `scan` takes a text apart into pieces: single characters outside quotations,
  names, and literals. It fails if the text ends within a quotation.
* `write_of_scan`: the pieces are the whole text, nothing is skipped.
* `readEnclosed_body`: the quotation of a text ends at its own closing mark, if what
  follows does not begin with that mark.
* `Opens` and `Reads`: a text is read as some pieces, whatever comes after it, or
  whatever comes after it that does not begin with a mark. `Opens.append`,
  `Opens.bare` and `Reads.bare` say how readings are put together.
-/

namespace SqlRequest

/-! ### The reader -/

/-- A part of a text: a character outside quotations, or a whole quotation. -/
inductive Piece where
  | bare (c : Char)
  | name (s : String)
  | literal (s : String)
  deriving DecidableEq, Repr

/-- Whether a character opens a quotation. -/
def isMark (c : Char) : Bool := c = '\'' || c = '\x60'

namespace Piece

/-- What is read between two marks: a literal between apostrophes, else a name. -/
def quoted (mark : Char) (cs : List Char) : Piece :=
  if mark = '\'' then .literal (String.ofList cs) else .name (String.ofList cs)

/-- The characters of a text outside quotations. -/
def bares (s : String) : List Piece := s.toList.map .bare

/-- The names among some pieces, in order. -/
def names (ps : List Piece) : List String :=
  ps.filterMap fun | .name s => some s | _ => none

/-- The literals among some pieces, in order. -/
def literals (ps : List Piece) : List String :=
  ps.filterMap fun | .literal s => some s | _ => none

section Content

variable (ps qs : List Piece) (s : String)

@[simp] lemma names_nil : names [] = [] := rfl

@[simp] lemma literals_nil : literals [] = [] := rfl

@[simp] lemma names_cons_name : names (.name s :: ps) = s :: names ps := rfl

@[simp] lemma names_cons_literal : names (.literal s :: ps) = names ps := rfl

@[simp] lemma literals_cons_name : literals (.name s :: ps) = literals ps := rfl

@[simp] lemma literals_cons_literal : literals (.literal s :: ps) = s :: literals ps := rfl

@[simp] lemma names_append : names (ps ++ qs) = names ps ++ names qs :=
  List.filterMap_append

@[simp] lemma literals_append : literals (ps ++ qs) = literals ps ++ literals qs :=
  List.filterMap_append

lemma names_flatMap {α : Type} (xs : List α) (f : α → List Piece) :
    names (xs.flatMap f) = xs.flatMap fun x => names (f x) :=
  List.filterMap_flatMap

lemma literals_flatMap {α : Type} (xs : List α) (f : α → List Piece) :
    literals (xs.flatMap f) = xs.flatMap fun x => literals (f x) :=
  List.filterMap_flatMap

@[simp] lemma names_bares : names (bares s) = [] := by
  simp [names, bares]

@[simp] lemma literals_bares : literals (bares s) = [] := by
  simp [literals, bares]

@[simp] lemma bare_mem_bares {c : Char} : .bare c ∈ bares s ↔ c ∈ s.toList := by
  simp [bares]

end Content

lemma bares_append (s t : String) : bares (s ++ t) = bares s ++ bares t := by
  simp [bares]

/-- A piece as it is written. -/
def write : Piece → List Char
  | .bare c => [c]
  | .name s => encloseChars '\x60' s.toList
  | .literal s => encloseChars '\'' s.toList

end Piece

/-- The pieces of a text; none, if it ends within a quotation. -/
def scan : List Char → Option (List Piece)
  | [] => some []
  | c :: cs =>
    if isMark c then
      match _h : readEnclosed c cs with
      | none => none
      | some (inside, rest) => (scan rest).map (Piece.quoted c inside :: ·)
    else (scan cs).map (.bare c :: ·)
termination_by cs => cs.length
decreasing_by
  · have := readEnclosed_length ‹_›
    simp only [List.length_cons] at *
    omega
  · simp

@[simp] lemma scan_nil : scan [] = some [] := by rw [scan]

lemma scan_of_not_mark {c : Char} (h : isMark c = false) (cs : List Char) :
    scan (c :: cs) = (scan cs).map (.bare c :: ·) := by
  rw [scan]
  simp [h]

lemma scan_of_mark {c : Char} (h : isMark c = true) {cs inside rest : List Char}
    (hr : readEnclosed c cs = some (inside, rest)) :
    scan (c :: cs) = (scan rest).map (Piece.quoted c inside :: ·) := by
  rw [scan, if_pos h]
  split
  · simp_all
  · simp_all

/-! ### Quotations end where they should -/

/-- The inside of a quotation as it is written. -/
abbrev doubled (mark : Char) (cs : List Char) : List Char :=
  cs.flatMap fun c => if c = mark then [mark, mark] else [c]

/-- A quotation is read up to its own closing mark. -/
lemma readEnclosed_body {mark : Char} {rest : List Char} (h : rest.head? ≠ some mark)
    (cs : List Char) :
    readEnclosed mark (doubled mark cs ++ mark :: rest) = some (cs, rest) := by
  induction cs with
  | nil =>
      cases rest with
      | nil => simp [readEnclosed]
      | cons d rest =>
          have hd : d ≠ mark := by simpa using h
          simp [readEnclosed, hd]
  | cons c cs ih =>
      by_cases hc : c = mark
      · subst hc
        simp [readEnclosed, ih]
      · -- the inside is never empty here, so the reader sees two characters at once
        obtain ⟨d, ds, hds⟩ : ∃ d ds, doubled mark cs ++ mark :: rest = d :: ds :=
          List.exists_cons_of_ne_nil (by simp)
        have hcs : doubled mark (c :: cs) ++ mark :: rest = c :: d :: ds := by
          simp [hc, ← hds]
        rw [hcs, readEnclosed, if_neg hc, ← hds, ih]
        rfl

/-- Reading a quotation and writing it again gives the same text. -/
lemma doubled_of_readEnclosed {mark : Char} {cs inside rest : List Char}
    (h : readEnclosed mark cs = some (inside, rest)) :
    cs = doubled mark inside ++ mark :: rest := by
  fun_induction readEnclosed mark cs generalizing inside rest with
  | case1 => simp at h
  | case2 =>
      simp only [Option.some.injEq, Prod.mk.injEq] at h
      obtain ⟨rfl, rfl⟩ := h
      rfl
  | case3 => simp at h
  | case4 cs ih =>
      obtain ⟨⟨t, r⟩, ht, hp⟩ := Option.map_eq_some_iff.1 h
      obtain ⟨rfl, rfl⟩ := Prod.mk.inj hp
      simp [ih ht]
  | case5 =>
      simp only [Option.some.injEq, Prod.mk.injEq] at h
      obtain ⟨rfl, rfl⟩ := h
      rfl
  | case6 c d cs hc ih =>
      obtain ⟨⟨t, r⟩, ht, hp⟩ := Option.map_eq_some_iff.1 h
      obtain ⟨rfl, rfl⟩ := Prod.mk.inj hp
      simp [hc, ih ht]

lemma write_quoted {mark : Char} (h : isMark mark = true) (cs : List Char) :
    (Piece.quoted mark cs).write = encloseChars mark cs := by
  by_cases hm : mark = '\''
  · simp [Piece.quoted, Piece.write, hm]
  · have : mark = '\x60' := by simpa [isMark, hm] using h
    simp [Piece.quoted, Piece.write, this]

/-- **The pieces are the whole text**: written one after the other they give it
back. -/
theorem write_of_scan {cs : List Char} {ps : List Piece} (h : scan cs = some ps) :
    ps.flatMap Piece.write = cs := by
  fun_induction scan cs generalizing ps with
  | case1 =>
      cases h
      rfl
  | case2 => simp at h
  | case3 c cs hm inside rest hr ih =>
      obtain ⟨qs, hqs, rfl⟩ := Option.map_eq_some_iff.1 h
      rw [List.flatMap_cons, ih hqs, write_quoted hm, doubled_of_readEnclosed hr]
      simp [encloseChars]
  | case4 c cs hm ih =>
      obtain ⟨qs, hqs, rfl⟩ := Option.map_eq_some_iff.1 h
      rw [List.flatMap_cons, ih hqs]
      rfl

/-! ### Putting readings together -/

/-- A text without a mark: it opens no quotation, and closes none. -/
def Unmarked (s : String) : Prop := ∀ c ∈ s.toList, isMark c = false

instance (s : String) : Decidable (Unmarked s) := List.decidableBAll _ s.toList

/-- A text is read as some pieces before any text that does not begin with a mark. -/
def Reads (s : String) (ps : List Piece) : Prop :=
  ∀ rest : List Char, (∀ c ∈ rest.head?, isMark c = false) →
    scan (s.toList ++ rest) = (scan rest).map (ps ++ ·)

/-- A text is read as some pieces before any text whatsoever: its end is outside
quotations, also if a mark follows. -/
def Opens (s : String) (ps : List Piece) : Prop :=
  ∀ rest : List Char, scan (s.toList ++ rest) = (scan rest).map (ps ++ ·)

variable {s t : String} {ps qs : List Piece}

lemma Opens.reads (h : Opens s ps) : Reads s ps := fun rest _ => h rest

/-- A text that is read to its end is scanned. -/
lemma Reads.scan_eq (h : Reads s ps) : scan s.toList = some ps := by
  simpa using h [] (by simp)

/-- Two readings, one after the other. The first must be over before the second
begins, which it is if its end is outside quotations. -/
lemma Opens.append (hs : Opens s ps) (ht : Reads t qs) : Reads (s ++ t) (ps ++ qs) := by
  intro rest hrest
  rw [String.toList_append, List.append_assoc, hs, ht rest hrest, Option.map_map]
  simp [Function.comp_def]

lemma Opens.trans (hs : Opens s ps) (ht : Opens t qs) : Opens (s ++ t) (ps ++ qs) := by
  intro rest
  rw [String.toList_append, List.append_assoc, hs, ht rest, Option.map_map]
  simp [Function.comp_def]

lemma opens_empty : Opens "" [] := by
  intro rest
  simp

/-- Characters that are no marks are read one by one. -/
lemma scan_append_of_not_mark {cs : List Char} (h : ∀ c ∈ cs, isMark c = false)
    (rest : List Char) : scan (cs ++ rest) = (scan rest).map (cs.map Piece.bare ++ ·) := by
  induction cs with
  | nil => simp
  | cons c cs ih =>
      rw [List.cons_append, scan_of_not_mark (h c (by simp)),
        ih fun d hd => h d (List.mem_cons_of_mem c hd), Option.map_map]
      simp [Function.comp_def]

lemma Unmarked.opens (h : Unmarked s) : Opens s (Piece.bares s) :=
  fun rest => scan_append_of_not_mark h rest

lemma Opens.bare (hs : Opens s ps) (ht : Unmarked t) : Opens (s ++ t) (ps ++ Piece.bares t) :=
  hs.trans ht.opens

/-- A text without marks parts a quotation from what comes after. It must not be
empty: two quotations with nothing between them would be one. -/
lemma Reads.bare (hs : Reads s ps) (ht : Unmarked t) (hne : t ≠ "") :
    Opens (s ++ t) (ps ++ Piece.bares t) := by
  intro rest
  have hhead : ∀ c ∈ (t.toList ++ rest).head?, isMark c = false := by
    intro c hc
    obtain ⟨d, ds, hds⟩ := List.exists_cons_of_ne_nil (by simpa using hne : t.toList ≠ [])
    rw [hds] at hc
    obtain rfl : d = c := by simpa using hc
    exact ht d (by simp [hds])
  rw [String.toList_append, List.append_assoc, hs _ hhead, ht.opens rest, Option.map_map]
  simp [Function.comp_def]

/-- A quotation is read as one piece, unless its mark follows. -/
lemma scan_encloseChars {mark : Char} (hm : isMark mark = true) (cs : List Char)
    {rest : List Char} (hrest : ∀ c ∈ rest.head?, isMark c = false) :
    scan (encloseChars mark cs ++ rest) = (scan rest).map (Piece.quoted mark cs :: ·) := by
  have hne : rest.head? ≠ some mark := by
    intro h
    have := hrest mark h
    rw [hm] at this
    exact absurd this (by decide)
  have hcs : encloseChars mark cs ++ rest = mark :: (doubled mark cs ++ mark :: rest) := by
    simp [encloseChars]
  rw [hcs, scan_of_mark hm (readEnclosed_body hne cs)]

/-- A quoted name is read as that name, whatever its characters are. -/
lemma reads_backtick (s : String) : Reads (backtick s) [.name s] := by
  intro rest hrest
  rw [backtick, toList_enclose, scan_encloseChars (by decide) _ hrest]
  simp [Piece.quoted]

/-- A quoted literal is read as that literal, whatever its characters are. -/
lemma reads_quoteLiteral (s : String) : Reads (quoteLiteral s) [.literal s] := by
  intro rest hrest
  rw [quoteLiteral, toList_enclose, scan_encloseChars (by decide) _ hrest]
  simp [Piece.quoted]

end SqlRequest
