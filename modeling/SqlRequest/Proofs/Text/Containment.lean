import SqlRequest.Proofs.Text.LowerCase
import SqlRequest.Records

/-!
Containment of texts whatever the case of the letters.

* `contains_iff`: the search for a text finds it exactly where its characters stand
  one after the other.
* `Within`: a text is contained in another once both are in lower case.
  `Within.append_comma`: it still is when something is added after a comma.
* `collected_kept`: what has been collected for a field stays collected.
-/

namespace SqlRequest

namespace Text

/-! ### Searching -/

lemma occursIn_iff {needle cs : List Char} : occursIn needle cs = true ↔ needle <:+: cs := by
  induction cs with
  | nil => simp [occursIn]
  | cons c cs ih => rw [occursIn, Bool.or_eq_true, ih, List.infix_cons_iff,
      List.isPrefixOf_iff_prefix]

lemma contains_iff {s needle : String} :
    contains s needle = true ↔ needle.toList <:+: s.toList :=
  occursIn_iff

end Text

/-! ### Containment whatever the case -/

/-- A text is contained in another, both in lower case. -/
def Within (v s : String) : Prop := (Text.lower v).toList <:+: (Text.lower s).toList

instance (v s : String) : Decidable (Within v s) := inferInstanceAs (Decidable (_ <:+: _))

lemma collected_iff {s v : String} : collected s v = true ↔ Within v s :=
  Text.contains_iff

lemma within_refl (v : String) : Within v v := List.infix_rfl

variable {v s : String}

/-- What is contained stays contained when something is added after a comma. -/
lemma Within.append_comma (h : Within v s) (t : String) : Within v (s ++ "," ++ t) := by
  rw [Within, Text.lower_comma, String.toList_append, String.toList_append, List.append_assoc]
  exact h.trans (List.prefix_append _ _).isInfix

/-- What is added after a comma is contained. -/
lemma within_append_comma (s v : String) : Within v (s ++ "," ++ v) := by
  rw [Within, Text.lower_comma, String.toList_append]
  exact (List.suffix_append _ _).isInfix

/-- **What has been collected stays collected**, whatever is added after a comma, and what is added
is collected from then on, as every text is by itself. That is because the lower-case form of two
texts with a comma between them is that of each, although a form is not told by the character
alone: it is the one in the midst of all characters before and after, and it may be several
characters. -/
theorem collected_kept (a b v : String) :
    (collected a v = true → collected (a ++ "," ++ b) v = true) ∧
      collected (a ++ "," ++ v) v = true ∧ collected v v = true ∧
      Text.lower (a ++ "," ++ b) = Text.lower a ++ "," ++ Text.lower b ∧
      ∀ s, (Text.lower s).toList = (s.toList.mapIdx fun i c =>
        Text.formBetween (s.toList.take i) c (s.toList.drop (i + 1))).flatten := by
  simp only [collected_iff]
  exact ⟨fun h => h.append_comma b, within_append_comma a v, within_refl v, Text.lower_comma a b,
    Text.toList_lower⟩

/-- A word that ends with a capital sigma, after a letter with a form of two characters. -/
theorem collected_kept_sigma :
    Text.lower "İΣ" = "i\u0307ς" ∧ collected "İΣ" "ς" = true ∧
      collected ("İΣ" ++ "," ++ "ΑΣ") "ς" = true ∧
      collected ("İΣ" ++ "," ++ "ΑΣ") "ΑΣ" = true := by
  have hcollected : collected "İΣ" "ς" = true := by decide +kernel
  exact ⟨by decide +kernel, hcollected, (collected_kept "İΣ" "ΑΣ" "ς").1 hcollected,
    (collected_kept "İΣ" "ΑΣ" "ΑΣ").2.1⟩

/-- After a full stop in the place of the comma the word goes on, and what had been collected is
lost. -/
example : collected "ΑΣ" "ΑΣ" = true ∧ collected ("ΑΣ" ++ "." ++ "Α") "ΑΣ" = false := by
  decide +kernel

end SqlRequest
