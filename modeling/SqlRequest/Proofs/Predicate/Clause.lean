import SqlRequest.Proofs.Condition.Chain
import SqlRequest.Proofs.Predicate.Reader
import SqlRequest.Proofs.Quotation.Pieces

/-!
The reader of predicates finds in a clause what its conditions say.

* `Plain`: texts in which the reader sees no token. Tables and operators have to be such,
  fields and values need not.
* `Condition.tokensFrom_pieces`, `Condition.tokensFrom_joined`: the tokens of a predicate
  and of the conditions after the first, from the lexemes of their texts.
* `Condition.foldlM_tokens`: reading the tokens of one condition, the step for
  `Condition.foldlM_joinedTokens`, the run over a list.
* `Condition.runs`, `Condition.truth`: what a list of conditions means, without any text.
* `truth_ofText_clause`: the reader of the text comes to that meaning, in three-valued
  logic, and finds each condition in one piece.
-/

namespace SqlRequest

open Predicate

/-! ### Lexemes of texts put together -/

section Lexemes

variable {ps qs : List Piece}

@[simp] lemma flatten_lexemes (ps : List Piece) : (lexemes ps).flatten = ps :=
  List.flatten_splitBy _ ps

/-- No word goes on where a text begins with another piece. -/
lemma lexemes_append_of_head (h : ∀ q ∈ qs.head?, q.inWord = false) :
    lexemes (ps ++ qs) = lexemes ps ++ lexemes qs :=
  List.splitBy_append fun p _ q hq => by rw [h q hq, Bool.and_false]

/-- No word goes on where a text ends with another piece. -/
lemma lexemes_append_of_getLast (h : ∀ p ∈ ps.getLast?, p.inWord = false) :
    lexemes (ps ++ qs) = lexemes ps ++ lexemes qs :=
  List.splitBy_append fun p hp q _ => by rw [h p hp, Bool.false_and]

/-- A text that neither begins nor ends with a part of a word keeps apart what is on both
sides of it. -/
lemma lexemes_between {between : List Piece} (ps qs : List Piece) (hne : between ≠ [])
    (hhead : ∀ q ∈ between.head?, q.inWord = false)
    (hlast : ∀ p ∈ between.getLast?, p.inWord = false) :
    lexemes (ps ++ between ++ qs) = lexemes ps ++ lexemes between ++ lexemes qs := by
  rw [lexemes_append_of_getLast, lexemes_append_of_head hhead]
  rw [List.getLast?_append_of_ne_nil _ hne]
  exact hlast

end Lexemes

/-- A text without marks, parentheses and the words `AND` and `OR`, in any letter case. -/
structure Plain (s : String) : Prop where
  unmarked : Unmarked s
  tokenless : ∀ l ∈ lexemes (Piece.bares s), Token.ofLexeme? l = none

instance (s : String) : Decidable (Plain s) :=
  decidable_of_iff (Unmarked s ∧ ∀ l ∈ lexemes (Piece.bares s), Token.ofLexeme? l = none)
    ⟨fun h => ⟨h.1, h.2⟩, fun h => ⟨h.1, h.2⟩⟩

namespace Predicate

/-! ### Blanks around a comparison -/

/-- A comparison as the reader knows it: its text without the blanks around it. -/
def bare (s : String) : String := String.ofList (unspaced s.toList)

lemma unspaced_cons_space (cs : List Char) : unspaced (' ' :: cs) = unspaced cs := by
  rw [unspaced, List.dropWhile_cons_of_pos (by decide), unspaced]

lemma unspaced_concat_space (cs : List Char) : unspaced (cs ++ [' ']) = unspaced cs := by
  rw [unspaced, List.dropWhile_append]
  split
  · next h => simp [unspaced, List.isEmpty_iff.mp h, Notebook.Token.isSpace,
      Notebook.Token.isBlank]
  · rw [List.rdropWhile_concat_pos _ _ _ (by decide), unspaced]

lemma unspaced_ne_nil {c : Char} {cs : List Char} (hc : c ∈ cs)
    (hs : Notebook.Token.isSpace c = false) : unspaced cs ≠ [] := by
  rw [unspaced, Ne, List.rdropWhile_eq_nil_iff]
  intro hall
  rw [← List.takeWhile_append_dropWhile (p := Notebook.Token.isSpace) (l := cs),
    List.mem_append] at hc
  have hspace := hc.elim (fun h => List.mem_takeWhile_imp h) fun h => hall c h
  rw [hs] at hspace
  cases hspace

@[simp] lemma ofPending_cons_space (ps : List Piece) :
    Token.ofPending (.bare ' ' :: ps) = Token.ofPending ps := by
  simp only [Token.ofPending, List.flatMap_cons, Piece.write, List.cons_append, List.nil_append,
    unspaced_cons_space]

@[simp] lemma ofPending_concat_space (ps : List Piece) :
    Token.ofPending (ps ++ [.bare ' ']) = Token.ofPending ps := by
  simp only [Token.ofPending, List.flatMap_append, List.flatMap_singleton, Piece.write,
    unspaced_concat_space]

@[simp] lemma ofPending_nil : Token.ofPending [] = [] := rfl

/-- A blank before a comparison does not count. -/
lemma tokensFrom_cons_space (pending : List Piece) (ls : List (List Piece)) :
    tokensFrom (.bare ' ' :: pending) ls = tokensFrom pending ls := by
  induction ls generalizing pending with
  | nil => exact ofPending_cons_space pending
  | cons l ls ih =>
      rw [tokensFrom, tokensFrom, ofPending_cons_space, List.cons_append, ih]

/-! ### Where a comparison ends -/

/-- Lexemes before which a comparison is over. -/
def Ends (ls : List (List Piece)) : Prop :=
  ∀ pending, tokensFrom pending ls = Token.ofPending pending ++ tokensFrom [] ls

lemma ends_nil : Ends [] := fun pending => (List.append_nil (Token.ofPending pending)).symm

section Ends

variable {l : List Piece} {ls : List (List Piece)} {t : Token}

lemma tokensFrom_token (hnot : spells "NOT" l = false) (ht : Token.ofLexeme? l = some t)
    (pending : List Piece) (ls : List (List Piece)) :
    tokensFrom pending (l :: ls) = Token.ofPending pending ++ t :: tokensFrom [] ls := by
  rw [tokensFrom, hnot, Bool.false_and, if_neg Bool.false_ne_true, ht]

lemma tokensFrom_nil_token (hnot : spells "NOT" l = false) (ht : Token.ofLexeme? l = some t)
    (ls : List (List Piece)) : tokensFrom [] (l :: ls) = t :: tokensFrom [] ls := by
  rw [tokensFrom_token hnot ht, ofPending_nil, List.nil_append]

lemma ends_token (hnot : spells "NOT" l = false) (ht : Token.ofLexeme? l = some t)
    (ls : List (List Piece)) : Ends (l :: ls) := by
  intro pending
  rw [tokensFrom_token hnot ht, tokensFrom_nil_token hnot ht]

@[simp] lemma tokensFrom_opening (ls : List (List Piece)) :
    tokensFrom [] (Piece.bares "(" :: ls) = .opening :: tokensFrom [] ls :=
  tokensFrom_nil_token rfl rfl ls

@[simp] lemma tokensFrom_closing (ls : List (List Piece)) :
    tokensFrom [] (Piece.bares ")" :: ls) = .closing :: tokensFrom [] ls :=
  tokensFrom_nil_token rfl rfl ls

@[simp] lemma tokensFrom_and (ls : List (List Piece)) :
    tokensFrom [] (Piece.bares "AND" :: ls) = .and :: tokensFrom [] ls :=
  tokensFrom_nil_token rfl rfl ls

@[simp] lemma tokensFrom_or (ls : List (List Piece)) :
    tokensFrom [] (Piece.bares "OR" :: ls) = .or :: tokensFrom [] ls :=
  tokensFrom_nil_token rfl rfl ls

@[simp] lemma tokensFrom_not (ls : List (List Piece)) :
    tokensFrom [] (Piece.bares "NOT" :: Piece.bares "(" :: ls) =
      .not :: .opening :: tokensFrom [] ls := rfl

lemma tokensFrom_space (pending : List Piece) (ls : List (List Piece)) :
    tokensFrom pending ([.bare ' '] :: ls) = tokensFrom (pending ++ [.bare ' ']) ls := rfl

@[simp] lemma tokensFrom_nil_space (ls : List (List Piece)) :
    tokensFrom [] ([.bare ' '] :: ls) = tokensFrom [] ls := by
  rw [tokensFrom_space, List.nil_append, tokensFrom_cons_space]

lemma Ends.space (h : Ends ls) : Ends ([.bare ' '] :: ls) := by
  intro pending
  rw [tokensFrom_space, h, ofPending_concat_space, tokensFrom_nil_space]

end Ends

/-! ### The lexemes of a comparison -/

lemma opensNext_cons (l : List Piece) (ls : List (List Piece)) :
    opensNext (l :: ls) =
      if l.all Piece.isSpace then opensNext ls else decide (l = Piece.bares "(") := by
  rw [opensNext, List.dropWhile_cons]
  split <;> simp [opensNext]

/-- After a `NOT` within a comparison there is more of the comparison, and no
parenthesis. -/
lemma opensNext_eq_false {ls : List (List Piece)} {last : List Piece}
    (h : ∀ l ∈ ls ++ [last], Token.ofLexeme? l = none) (hlast : last.all Piece.isSpace = false)
    (rest : List (List Piece)) : opensNext (ls ++ last :: rest) = false := by
  have hopening {l : List Piece} (hl : Token.ofLexeme? l = none) : l ≠ Piece.bares "(" := by
    rintro rfl
    cases hl
  induction ls with
  | nil => simp [opensNext_cons, hlast, hopening (h last (by simp))]
  | cons l ls ih =>
      rw [List.cons_append, List.forall_mem_cons] at h
      rw [List.cons_append, opensNext_cons, ih h.2]
      simp [hopening h.1]

/-- Lexemes that are no tokens are read as parts of a comparison, if the last of them is
neither blank nor a `NOT`. -/
lemma tokensFrom_tokenless {ls : List (List Piece)} {last : List Piece}
    (h : ∀ l ∈ ls ++ [last], Token.ofLexeme? l = none) (hlast : last.all Piece.isSpace = false)
    (hnot : spells "NOT" last = false) (pending : List Piece) (rest : List (List Piece)) :
    tokensFrom pending (ls ++ last :: rest) =
      tokensFrom (pending ++ (ls ++ [last]).flatten) rest := by
  induction ls generalizing pending with
  | nil =>
      rw [List.nil_append, tokensFrom, hnot, Bool.false_and, if_neg Bool.false_ne_true,
        h last (by simp)]
      simp
  | cons l ls ih =>
      rw [List.cons_append, List.forall_mem_cons] at h
      rw [List.cons_append, tokensFrom, opensNext_eq_false h.2 hlast, Bool.and_false,
        if_neg Bool.false_ne_true, h.1]
      simp only
      rw [ih h.2, List.cons_append, List.flatten_cons, List.append_assoc]

end Predicate

namespace Atom

variable {a : Atom}

/-- The value of a comparison is one lexeme. -/
lemma lexemes_ofShown (v : Option String) :
    lexemes (Piece.ofShown v) = [Piece.ofShown v] ∧
      Token.ofLexeme? (Piece.ofShown v) = none ∧
        (Piece.ofShown v).all Piece.isSpace = false ∧ spells "NOT" (Piece.ofShown v) = false := by
  cases v with
  | none => decide
  | some s => exact ⟨rfl, rfl, rfl, rfl⟩

/-- The lexemes of a comparison, of which the value is the last. -/
lemma lexemes_pieces (a : Atom) :
    lexemes a.pieces =
      lexemes (Piece.bares a.table.text) ++ [[.bare '.'], [.name a.field.text], [.bare ' ']] ++
        lexemes (Piece.bares a.operator) ++ [[.bare ' ']] ++ [Piece.ofShown a.value] := by
  have hpieces : a.pieces = Piece.bares a.table.text ++
      [.bare '.', .name a.field.text, .bare ' '] ++ Piece.bares a.operator ++ [.bare ' '] ++
        Piece.ofShown a.value := by
    simp [pieces, Piece.bares]
  have hdot : ∀ p ∈ ([.bare '.', .name a.field.text, .bare ' '] : List Piece).head?,
      p.inWord = false := by
    rintro p ⟨⟩
    rfl
  have hspace : ∀ p ∈ ([.bare '.', .name a.field.text, .bare ' '] : List Piece).getLast?,
      p.inWord = false := by
    rintro p ⟨⟩
    rfl
  rw [hpieces, lexemes_between _ _ (by simp) (by decide) (by decide),
    lexemes_between _ _ (by simp) hdot hspace, (lexemes_ofShown a.value).1]
  rfl

/-- A comparison is read as a whole, whatever stands in its field and its value. -/
lemma tokensFrom_pieces (htable : Plain a.table.text) (hoperator : Plain a.operator)
    (pending : List Piece) (rest : List (List Piece)) :
    tokensFrom pending (lexemes a.pieces ++ rest) = tokensFrom (pending ++ a.pieces) rest := by
  obtain ⟨-, htoken, hspace, hnot⟩ := lexemes_ofShown a.value
  have hdot : ∀ l ∈ ([[.bare '.'], [.name a.field.text], [.bare ' ']] : List (List Piece)),
      Token.ofLexeme? l = none := by
    simp only [List.forall_mem_cons]
    exact ⟨rfl, rfl, rfl, by simp⟩
  have hblank : ∀ l ∈ ([[.bare ' ']] : List (List Piece)), Token.ofLexeme? l = none := by decide
  have hall : ∀ l ∈ lexemes a.pieces, Token.ofLexeme? l = none := by
    simp only [lexemes_pieces, List.forall_mem_append]
    exact ⟨⟨⟨⟨htable.tokenless, hdot⟩, hoperator.tokenless⟩, hblank⟩, by simpa using htoken⟩
  have hflatten : pending ++ (lexemes a.pieces).flatten = pending ++ a.pieces := by
    rw [flatten_lexemes]
  rw [lexemes_pieces] at hall hflatten ⊢
  rw [List.append_assoc, List.singleton_append, tokensFrom_tokenless hall hspace hnot, hflatten]

/-- The text of a comparison is its pieces, and it is not blank. -/
lemma ofPending_pieces (htable : Plain a.table.text) (hoperator : Plain a.operator) :
    Token.ofPending a.pieces = [.text (bare (a.render .standard))] := by
  have hwrite : a.pieces.flatMap Piece.write = (a.render .standard).toList :=
    write_of_scan (Atom.reads ⟨htable.unmarked, hoperator.unmarked⟩).scan_eq
  have hdot : '.' ∈ (a.render .standard).toList := by
    simp [render, String.toList_append]
  rw [Token.ofPending, hwrite, if_neg (unspaced_ne_nil hdot (by decide))]
  rfl

/-- A comparison is one token, if it is over where the next lexemes begin. -/
lemma tokensFrom_nil_pieces (htable : Plain a.table.text) (hoperator : Plain a.operator)
    {rest : List (List Piece)} (h : Ends rest) :
    tokensFrom [] (lexemes a.pieces ++ rest) =
      .text (bare (a.render .standard)) :: tokensFrom [] rest := by
  rw [tokensFrom_pieces htable hoperator, List.nil_append, h, ofPending_pieces htable hoperator]
  rfl

end Atom

/-! ### The tokens of conditions -/

/-- The token of a connective. -/
def Connective.token : Connective → Predicate.Token
  | .and => .and
  | .or => .or

namespace Condition

/-- The tokens of a predicate. -/
def tokens (ambient : Ident) : Condition → List Predicate.Token
  | .comparison c => [.text (bare (c.render .standard ambient))]
  | .fallback f =>
    let test := Predicate.Token.text (bare (f.test.renderTest .standard ambient))
    [.opening, .opening, test, .and, .text (bare (f.yes.renderOutcome .standard ambient)),
      .closing, .or, .opening, .not, .opening, test, .closing, .and,
      .text (bare (f.no.renderOutcome .standard ambient)), .closing, .closing]

/-- The lexemes of a fallback: those of its comparisons, and between them always the same. -/
lemma lexemes_fallback (ambient : Ident) (f : Fallback) :
    lexemes (pieces ambient (.fallback f)) =
      Piece.bares "(" :: Piece.bares "(" :: (lexemes (f.test.testAtom ambient).pieces ++
        [.bare ' '] :: Piece.bares "AND" :: [.bare ' '] ::
          (lexemes (f.yes.outcomeAtom ambient).pieces ++
            Piece.bares ")" :: [.bare ' '] :: Piece.bares "OR" :: [.bare ' '] ::
              Piece.bares "(" :: Piece.bares "NOT" :: Piece.bares "(" ::
                (lexemes (f.test.testAtom ambient).pieces ++
                  Piece.bares ")" :: [.bare ' '] :: Piece.bares "AND" :: [.bare ' '] ::
                    (lexemes (f.no.outcomeAtom ambient).pieces ++
                      [Piece.bares ")", Piece.bares ")"])))) := by
  rw [pieces, lexemes_append_of_head (by decide), lexemes_between _ _ (by decide) (by decide)
    (by decide), lexemes_between _ _ (by decide) (by decide) (by decide),
    lexemes_between _ _ (by decide) (by decide) (by decide),
    lexemes_append_of_getLast (by decide)]
  have hopen : lexemes (Piece.bares "((") = [Piece.bares "(", Piece.bares "("] := rfl
  have hand : lexemes (Piece.bares " AND ") = [[.bare ' '], Piece.bares "AND", [.bare ' ']] := rfl
  have helse : lexemes (Piece.bares ") OR (NOT(") =
      [Piece.bares ")", [.bare ' '], Piece.bares "OR", [.bare ' '], Piece.bares "(",
        Piece.bares "NOT", Piece.bares "("] := rfl
  have hafter : lexemes (Piece.bares ") AND ") =
      [Piece.bares ")", [.bare ' '], Piece.bares "AND", [.bare ' ']] := rfl
  have hclose : lexemes (Piece.bares "))") = [Piece.bares ")", Piece.bares ")"] := rfl
  simp only [hopen, hand, helse, hafter, hclose, List.append_assoc, List.cons_append,
    List.nil_append]

/-- A further condition begins with a blank. -/
lemma head?_joined (ambient : Ident) (cs : List Condition) :
    ∀ q ∈ (cs.flatMap (joined ambient)).head?, q.inWord = false := by
  cases cs with
  | nil => simp
  | cons c cs =>
      obtain ⟨ps, hps⟩ : ∃ ps, c.joined ambient = .bare ' ' :: ps := by
        simp [joined, Piece.bares]
      rw [List.flatMap_cons, hps]
      rintro q ⟨⟩
      rfl

/-- The lexemes of a further condition, with those after it. -/
lemma lexemes_joined_append {ambient : Ident} {c : Condition} {cs : List Condition}
    {op : Connective} (hop : c.connective = some op) :
    lexemes (c.joined ambient ++ cs.flatMap (joined ambient)) =
      [.bare ' '] :: Piece.bares op.sql :: [.bare ' '] ::
        (lexemes (c.pieces ambient) ++ lexemes (cs.flatMap (joined ambient))) := by
  rw [lexemes_append_of_head (head?_joined ambient cs), joined, hop, Connective.word, Option.elim]
  cases op with
  | and | or =>
      rw [lexemes_append_of_getLast (by decide)]
      rfl

/-- The tokens of a condition after the first. -/
def joinedTokens (ambient : Ident) (c : Condition) : List Predicate.Token :=
  (c.connective.map Connective.token).toList ++ c.tokens ambient

section Plain

variable {ambient : Ident} {rest : List (List Piece)}

/-- The tokens of a predicate, if it is over where the next lexemes begin. The lexemes
between the comparisons of a fallback are always the same. -/
lemma tokensFrom_pieces {c : Condition} (ha : Plain ambient.text)
    (hc : ∀ t ∈ c.trusted, Plain t) (hrest : Ends rest) :
    tokensFrom [] (lexemes (c.pieces ambient) ++ rest) =
      c.tokens ambient ++ tokensFrom [] rest := by
  have hatoms := atoms_of (by decide) (by decide) ha hc
  cases c with
  | comparison c =>
      obtain ⟨ht, ho⟩ := hatoms (c.atom ambient) (by simp [atoms])
      rw [pieces, Atom.tokensFrom_nil_pieces ht ho hrest, tokens, Comparison.render_eq]
      rfl
  | fallback f =>
      have htest := hatoms (f.test.testAtom ambient) (by simp [atoms])
      have hyes := hatoms (f.yes.outcomeAtom ambient) (by simp [atoms])
      have hno := hatoms (f.no.outcomeAtom ambient) (by simp [atoms])
      have hand (ls : List (List Piece)) :
          Ends ([.bare ' '] :: Piece.bares "AND" :: [.bare ' '] :: ls) :=
        (ends_token rfl rfl _).space
      have hclosing (ls : List (List Piece)) : Ends (Piece.bares ")" :: ls) := ends_token rfl rfl ls
      rw [lexemes_fallback]
      simp only [List.cons_append, List.append_assoc, List.nil_append, tokensFrom_opening,
        tokensFrom_closing, tokensFrom_and, tokensFrom_or, tokensFrom_not, tokensFrom_nil_space,
        Atom.tokensFrom_nil_pieces htest.1 htest.2 (hand _),
        Atom.tokensFrom_nil_pieces htest.1 htest.2 (hclosing _),
        Atom.tokensFrom_nil_pieces hyes.1 hyes.2 (hclosing _),
        Atom.tokensFrom_nil_pieces hno.1 hno.2 (hclosing _)]
      simp only [tokens, Branch.renderTest_eq, Branch.renderOutcome_eq, List.cons_append,
        List.nil_append]

/-- A predicate is over where a further condition begins, and where the clause ends. -/
lemma ends_joined {cs : List Condition} (hcs : ∀ c ∈ cs, c.connective.isSome) :
    Ends (lexemes (cs.flatMap (joined ambient))) := by
  cases cs with
  | nil => exact ends_nil
  | cons c cs =>
      obtain ⟨op, hop⟩ := Option.isSome_iff_exists.mp (hcs c (by simp))
      rw [List.flatMap_cons, lexemes_joined_append hop]
      cases op with
      | and | or => exact (ends_token rfl rfl _).space

/-- The tokens of the conditions after the first. -/
lemma tokensFrom_joined {cs : List Condition} (ha : Plain ambient.text)
    (h : ∀ t ∈ cs.flatMap trusted, Plain t) (hcs : ∀ c ∈ cs, c.connective.isSome) :
    tokensFrom [] (lexemes (cs.flatMap (joined ambient))) = cs.flatMap (joinedTokens ambient) := by
  induction cs with
  | nil => rfl
  | cons c cs ih =>
      rw [List.flatMap_cons, List.forall_mem_append] at h
      rw [List.forall_mem_cons] at hcs
      obtain ⟨op, hop⟩ := Option.isSome_iff_exists.mp hcs.1
      have hends : Ends (lexemes (cs.flatMap (joined ambient))) := ends_joined hcs.2
      have hrest := tokensFrom_pieces ha h.1 hends
      rw [ih h.2 hcs.2] at hrest
      rw [List.flatMap_cons, lexemes_joined_append hop, tokensFrom_nil_space, List.flatMap_cons,
        joinedTokens, hop]
      cases op with
      | and => rw [Connective.sql, tokensFrom_and, tokensFrom_nil_space, hrest]; rfl
      | or => rw [Connective.sql, tokensFrom_or, tokensFrom_nil_space, hrest]; rfl

end Plain

end Condition

/-! ### The tree of a clause -/

namespace Condition

/-- A condition as a tree. -/
def predicate (ambient : Ident) : Condition → Predicate
  | .comparison c => .atom (bare (c.render .standard ambient))
  | .fallback f =>
    let test := Predicate.atom (bare (f.test.renderTest .standard ambient))
    .or (.and test (.atom (bare (f.yes.renderOutcome .standard ambient))))
      (.and (.not test) (.atom (bare (f.no.renderOutcome .standard ambient))))

/-- Terms that are complete and one that is not, with a further condition. -/
def extend (ambient : Ident) (s : Option Predicate × Predicate) (c : Condition) :
    Option Predicate × Predicate :=
  match c.connective with
  | some .or => (some (Predicate.joined .or s.1 s.2), c.predicate ambient)
  | _ => (s.1, .and s.2 (c.predicate ambient))

/-- A condition is read as one operand. -/
lemma foldlM_tokens (ambient : Ident) (c : Condition) (f : Frame) (outer : List Frame) :
    (c.tokens ambient).foldlM step (.operand f outer) =
      some (.operator f.terms (f.term (c.predicate ambient)) outer) := by
  cases c <;> rfl

/-- The conditions after the first are read one by one. -/
lemma foldlM_joinedTokens (ambient : Ident) {cs : List Condition}
    (hcs : ∀ c ∈ cs, c.connective.isSome) (s : Option Predicate × Predicate) :
    (cs.flatMap (joinedTokens ambient)).foldlM step (.operator s.1 s.2 []) =
      some (.operator (cs.foldl (extend ambient) s).1 (cs.foldl (extend ambient) s).2 []) := by
  induction cs generalizing s with
  | nil => rfl
  | cons c cs ih =>
      rw [List.forall_mem_cons] at hcs
      obtain ⟨op, hop⟩ := Option.isSome_iff_exists.mp hcs.1
      have hstep : (joinedTokens ambient c).foldlM step (.operator s.1 s.2 []) =
          some (.operator (extend ambient s c).1 (extend ambient s c).2 []) := by
        rw [joinedTokens, extend, hop]
        cases op with
        | and | or => exact foldlM_tokens ambient c _ []
      rw [List.flatMap_cons, List.foldlM_append, hstep, List.foldl_cons]
      exact ih hcs.2 _

/-- The tree of a list of conditions. -/
def tree (ambient : Ident) (c : Condition) (cs : List Condition) : Predicate :=
  let s := cs.foldl (extend ambient) (none, c.predicate ambient)
  Predicate.joined .or s.1 s.2

section Clause

variable {ambient : Ident} {c : Condition} {cs : List Condition} {text : String}

/-- The pieces of a clause after the word `WHERE`. -/
lemma scan_clause (h : ∀ t ∈ ambient.text :: (c :: cs).flatMap trusted, Plain t)
    (hr : Conditions.clause .standard ambient (.list (c :: cs)) = .ok (" WHERE " ++ text)) :
    scan text.toList = some (c.pieces ambient ++ cs.flatMap (joined ambient)) := by
  obtain ⟨ha, hplain⟩ := List.forall_mem_cons.mp h
  have hreads : Reads ("" ++ (" WHERE " ++ text))
      ([] ++ Conditions.pieces ambient (.list (c :: cs))) :=
    Conditions.reads_clause ha.unmarked (fun t ht => (hplain t ht).unmarked) hr opens_empty.reads
  have hwhere : Unmarked " WHERE " := by decide
  have hscan := hreads.scan_eq
  rw [String.empty_append, List.nil_append, String.toList_append, scan_append_of_not_mark hwhere,
    Option.map_eq_some_iff] at hscan
  obtain ⟨ps, hps, hpieces⟩ := hscan
  rw [Conditions.pieces, List.append_assoc] at hpieces
  rw [hps, List.append_cancel_left hpieces]

/-- The tokens of a clause after the word `WHERE`. -/
lemma tokens_clause (h : ∀ t ∈ ambient.text :: (c :: cs).flatMap trusted, Plain t)
    (hcs : ∀ d ∈ cs, d.connective.isSome) :
    Predicate.tokens (c.pieces ambient ++ cs.flatMap (joined ambient)) =
      c.tokens ambient ++ cs.flatMap (joinedTokens ambient) := by
  obtain ⟨ha, hplain⟩ := List.forall_mem_cons.mp h
  rw [List.flatMap_cons, List.forall_mem_append] at hplain
  rw [Predicate.tokens, lexemes_append_of_head (head?_joined ambient cs),
    tokensFrom_pieces ha hplain.1 (ends_joined hcs), tokensFrom_joined ha hplain.2 hcs]

/-- The reader finds the tree of a list of conditions in its clause. -/
lemma ofText_clause (h : ∀ t ∈ ambient.text :: (c :: cs).flatMap trusted, Plain t)
    (hr : Conditions.clause .standard ambient (.list (c :: cs)) = .ok (" WHERE " ++ text)) :
    Predicate.ofText text = some (tree ambient c cs) := by
  have hcs := (Conditions.clause_cons_eq_ok_iff.mp hr).1
  have hfirst : (c.tokens ambient).foldlM step (.operand {} []) =
      some (.operator none (c.predicate ambient) []) := foldlM_tokens ambient c {} []
  have hrest := foldlM_joinedTokens ambient hcs (none, c.predicate ambient)
  rw [Predicate.ofText, scan_clause h hr, Option.bind_eq_bind, Option.bind_some,
    tokens_clause h hcs, ofTokens, List.foldlM_append, hfirst, Option.bind_eq_bind,
    Option.bind_eq_bind, Option.bind_some, hrest, Option.bind_some]
  rfl

end Clause

/-! ### What a list of conditions means -/

/-- The conditions between two `OR`s, in order: a run goes on as long as the next condition
is joined by `AND`. -/
def runs (cs : List Condition) : List (List Condition) :=
  cs.splitBy fun _ d => d.connective = some .and

/-- What a condition comes to, if each comparison comes to something. A fallback comes to
its first outcome under the test, or to the other one under its negation. -/
def truth (ambient : Ident) (v : String → Truth) : Condition → Truth
  | .comparison c => v (bare (c.render .standard ambient))
  | .fallback f =>
    let test := v (bare (f.test.renderTest .standard ambient))
    (test.and (v (bare (f.yes.renderOutcome .standard ambient)))).or
      (test.not.and (v (bare (f.no.renderOutcome .standard ambient))))

lemma truth_predicate (ambient : Ident) (v : String → Truth) (c : Condition) :
    (c.predicate ambient).truth v = c.truth ambient v := by
  cases c <;> rfl

/-- What some runs come to: any run of which all conditions hold. -/
def truthOfRuns (ambient : Ident) (v : String → Truth) (rs : List (List Condition)) : Truth :=
  Truth.any (rs.map fun run => Truth.all (run.map (truth ambient v)))

lemma runs_cons_of_ne {c d : Condition} (cs : List Condition)
    (h : d.connective ≠ some .and) : runs (c :: d :: cs) = [c] :: runs (d :: cs) := by
  have hsplit : ([c] ++ d :: cs).splitBy (fun _ d : Condition => d.connective = some .and) = _ :=
    List.splitBy_append_cons cs (by simpa using h)
  exact hsplit

/-- A condition joined by `AND` goes on the run before it. -/
lemma runs_cons_of_and {c d : Condition} {cs run : List Condition}
    {rest : List (List Condition)} (h : d.connective = some .and)
    (hr : runs (d :: cs) = run :: rest) : runs (c :: d :: cs) = (c :: run) :: rest := by
  obtain ⟨hflatten, hnil, hchain, hbreaks⟩ := List.splitBy_eq_iff.mp hr
  have hne : run ≠ [] := fun hrun => hnil (hrun ▸ List.mem_cons_self)
  obtain ⟨e, run, rfl⟩ := List.exists_cons_of_ne_nil hne
  obtain rfl : d = e := by simpa using congrArg List.head? hflatten
  rw [List.forall_mem_cons] at hchain
  refine List.splitBy_eq_iff.mpr ⟨by simp [hflatten], by simpa using hnil, ?_, ?_⟩
  · rw [List.forall_mem_cons]
    exact ⟨List.isChain_cons_cons.mpr ⟨by simpa using h, hchain.1⟩, hchain.2⟩
  · rw [List.isChain_cons] at hbreaks ⊢
    refine ⟨fun next hnext => ?_, hbreaks.2⟩
    obtain ⟨-, hb, hlast⟩ := hbreaks.1 next hnext
    exact ⟨by simp, hb, by simpa using hlast⟩

/-- Terms that are complete and one that is not come to either. -/
def truthOfTerms (v : String → Truth) (s : Option Predicate × Predicate) : Truth :=
  (s.1.elim .no (Predicate.truth v)).or (s.2.truth v)

lemma truth_joined_or (v : String → Truth) (s : Option Predicate × Predicate) :
    (Predicate.joined .or s.1 s.2).truth v = truthOfTerms v s := by
  obtain ⟨_ | p, q⟩ := s <;> simp [Predicate.joined, truthOfTerms, Predicate.truth]

/-- The terms that are read come to the runs. The induction is on the conditions after one
that has been read, which is the last factor of its term: `t` is what the factors before
it come to, and the run of that condition goes on from there. -/
lemma truth_foldl_extend {ambient : Ident} {v : String → Truth} {cs : List Condition}
    (hcs : ∀ d ∈ cs, d.connective.isSome) {c : Condition} {s : Option Predicate × Predicate}
    {t : Truth} (hs : s.2.truth v = t.and (c.truth ambient v)) :
    ∃ run rest, runs (c :: cs) = run :: rest ∧
      truthOfTerms v (cs.foldl (extend ambient) s) =
        (s.1.elim .no (Predicate.truth v)).or
          ((t.and (Truth.all (run.map (truth ambient v)))).or (truthOfRuns ambient v rest)) := by
  induction cs generalizing c s t with
  | nil => exact ⟨[c], [], rfl, by simp [truthOfTerms, truthOfRuns, hs]⟩
  | cons d cs ih =>
      rw [List.forall_mem_cons] at hcs
      obtain ⟨op, hop⟩ := Option.isSome_iff_exists.mp hcs.1
      cases op with
      | and =>
          have hd : (extend ambient s d).2.truth v =
              (t.and (c.truth ambient v)).and (d.truth ambient v) := by
            simp [extend, hop, Predicate.truth, hs, truth_predicate]
          obtain ⟨run, rest, hruns, htruth⟩ := ih hcs.2 hd
          refine ⟨c :: run, rest, runs_cons_of_and hop hruns, ?_⟩
          rw [List.foldl_cons, htruth, List.map_cons, Truth.all_cons, ← Truth.and_assoc]
          simp [extend, hop]
      | or =>
          have hd : (extend ambient s d).2.truth v = Truth.yes.and (d.truth ambient v) := by
            simp [extend, hop, truth_predicate]
          obtain ⟨run, rest, hruns, htruth⟩ := ih hcs.2 hd
          refine ⟨[c], run :: rest, ?_, ?_⟩
          · rw [runs_cons_of_ne cs (by simp [hop]), hruns]
          · rw [List.foldl_cons, htruth]
            simp [extend, hop, truth_joined_or, truthOfTerms, truthOfRuns, hs, Truth.or_assoc]

/-- The tree of a list of conditions comes to what the list means. -/
lemma truth_tree {ambient : Ident} {c : Condition} {cs : List Condition}
    (hcs : ∀ d ∈ cs, d.connective.isSome) (v : String → Truth) :
    (tree ambient c cs).truth v = truthOfRuns ambient v (runs (c :: cs)) := by
  have hs : (c.predicate ambient).truth v = Truth.yes.and (c.truth ambient v) := by
    rw [truth_predicate, Truth.yes_and]
  obtain ⟨run, rest, hruns, htruth⟩ := truth_foldl_extend (s := (none, c.predicate ambient)) hcs hs
  rw [tree, truth_joined_or, htruth, hruns]
  simp [truthOfRuns]

/-! ### No condition is regrouped -/

/-- A tree is a part of what has been read: of a term that is complete, or of the one that
is not. -/
def Within (p : Predicate) (s : Option Predicate × Predicate) : Prop :=
  (∃ q ∈ s.1, p.Part q) ∨ p.Part s.2

lemma Within.part {p : Predicate} {s : Option Predicate × Predicate} (h : Within p s) :
    p.Part (Predicate.joined .or s.1 s.2) := by
  obtain ⟨terms, term⟩ := s
  cases terms with
  | none => exact h.elim (fun ⟨_, hq, _⟩ => by cases hq) id
  | some q => exact h.elim (fun ⟨_, hq, hp⟩ => .orLeft (Option.some.inj hq ▸ hp)) .orRight

/-- What has been read is not taken apart when a condition is added. -/
lemma Within.extend {p : Predicate} {s : Option Predicate × Predicate} (ambient : Ident)
    (h : Within p s) (c : Condition) : Within p (c.extend ambient s) := by
  rw [Condition.extend]
  split
  · exact .inl ⟨_, rfl, h.part⟩
  · exact h.imp id .andLeft

/-- The condition that is added is a part of what has been read. -/
lemma within_extend (ambient : Ident) (s : Option Predicate × Predicate) (c : Condition) :
    Within (c.predicate ambient) (c.extend ambient s) := by
  rw [extend]
  split
  · exact .inr .refl
  · exact .inr (.andRight .refl)

lemma Within.foldl {p : Predicate} {s : Option Predicate × Predicate} (ambient : Ident)
    (h : Within p s) (cs : List Condition) :
    Within p (cs.foldl (Condition.extend ambient) s) := by
  induction cs generalizing s with
  | nil => exact h
  | cons c cs ih => exact ih (h.extend ambient c)

/-- Each condition of a list is a part of its tree. -/
lemma part_tree {ambient : Ident} {c d : Condition} {cs : List Condition} (hd : d ∈ c :: cs) :
    (d.predicate ambient).Part (tree ambient c cs) := by
  obtain rfl | hd := List.mem_cons.mp hd
  · have hfirst : Within (d.predicate ambient) (none, d.predicate ambient) := .inr .refl
    exact (hfirst.foldl ambient cs).part
  · obtain ⟨before, after, rfl⟩ := List.append_of_mem hd
    rw [tree, List.foldl_append, List.foldl_cons]
    exact (Within.foldl ambient (within_extend ambient _ d) after).part

end Condition

/-- **A clause groups as its conditions say**, if no table and no operator has a mark, a
parenthesis or one of the words `AND` and `OR` in it, and whatever stands in the fields and
the values. A reader that knows parentheses, `NOT`, `AND` and `OR` with their precedence
finds a predicate after the word `WHERE`. Whatever the comparisons come to, yes, no or
unknown, it comes to what the list means: any run of conditions joined by `AND` all of
which hold, where a fallback stands for one of two outcomes. And each condition is a part
of it as it is, so that nothing around a fallback and no text in it regroups its inside. -/
theorem truth_ofText_clause {ambient : Ident} {cs : List Condition} {text : String}
    (h : ∀ t ∈ ambient.text :: cs.flatMap Condition.trusted, Plain t)
    (hr : Conditions.clause .standard ambient (.list cs) = .ok (" WHERE " ++ text)) :
    ∃ p, Predicate.ofText text = some p ∧
      (∀ v : String → Truth, p.truth v =
        Truth.any ((Condition.runs cs).map fun run =>
          Truth.all (run.map (Condition.truth ambient v)))) ∧
      ∀ c ∈ cs, (c.predicate ambient).Part p := by
  cases cs with
  | nil =>
      have hempty : "" = " WHERE " ++ text := Except.ok.inj hr
      simp at hempty
  | cons c cs =>
      have hcs := (Conditions.clause_cons_eq_ok_iff.mp hr).1
      exact ⟨Condition.tree ambient c cs, Condition.ofText_clause h hr, Condition.truth_tree hcs,
        fun _ => Condition.part_tree⟩

/-- Conditions with values that look like parts of a clause, the last ones joined by `AND`. -/
def hostileConditions : List Condition :=
  [.comparison (.of ⟨"na\x60) AND ("⟩ (.text "') OR ('")),
    .fallback
      { connective := some .or
        test := { field := ⟨"role"⟩, operator := some "NOT IN", queue := .text "NOT(" }
        yes := { field := ⟨"id"⟩, queue := .text "' AND '", wildcard := .both }
        no := .of ⟨"id"⟩ },
    .comparison { field := ⟨"id"⟩, connective := some .and, operator := "IS NOT" }]

theorem truth_ofText_clause_hostile :
    (∀ t ∈ "android" :: hostileConditions.flatMap Condition.trusted, Plain t) ∧
      ∃ text : String,
        Conditions.clause .standard ⟨"android"⟩ (.list hostileConditions) =
          .ok (" WHERE " ++ text) ∧
        (Condition.runs hostileConditions).map List.length = [1, 2] ∧
        ∃ p, Predicate.ofText text = some p ∧
          (∀ v : String → Truth, p.truth v =
            Truth.any ((Condition.runs hostileConditions).map fun run =>
              Truth.all (run.map (Condition.truth ⟨"android"⟩ v)))) ∧
          ∀ c ∈ hostileConditions, (c.predicate ⟨"android"⟩).Part p := by
  have h : ∀ t ∈ "android" :: hostileConditions.flatMap Condition.trusted, Plain t := by decide
  have hr : Conditions.clause .standard ⟨"android"⟩ (.list hostileConditions) =
      .ok (" WHERE " ++ ("android.\x60na\x60\x60) AND (\x60 LIKE ''') OR (''' OR " ++
        "((android.\x60role\x60 NOT IN 'NOT(' AND android.\x60id\x60 LIKE '%'' AND ''%') OR " ++
        "(NOT(android.\x60role\x60 NOT IN 'NOT(') AND android.\x60id\x60 LIKE '')) " ++
        "AND android.\x60id\x60 IS NOT NULL")) := by
    cbv
  exact ⟨h, _, hr, by decide, truth_ofText_clause h hr⟩

end SqlRequest
