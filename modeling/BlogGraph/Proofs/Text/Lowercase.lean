import BlogGraph.Text.Lowercase
import BlogGraph.Text.Substring

/-!
# The lower case of a piece of a text

All characters but one have a lower case of their own, whatever stands around them.  A capital sigma
looks around for letters, as far as the text goes, and so may come out in one form in a text and in
the other form in a piece of that text.  Where it does not (`KeepsSigmas`), the lower case of the
piece is a piece of the lower case of the text.

Main statements:

* `exists_lowerAfter_append`: a text in lower case is its beginning and its rest in lower case, each
  seen in the whole;
* `lowerAfter_append_of_keeps`: a piece comes out as it does alone, if its sigmas do;
* `lower_infix`: so its lower case occurs in that of the text.
-/

namespace BlogGraph.Text

/-- What follows a beginning comes out as it does after that beginning. -/
theorem exists_lowerAfter_append (before cs ds : List Char) :
    ∃ image, lowerAfter before (cs ++ ds) = image ++ lowerAfter (cs.reverse ++ before) ds := by
  induction cs generalizing before with
  | nil => exact ⟨[], rfl⟩
  | cons c rest ih =>
    obtain ⟨image, himage⟩ := ih (c :: before)
    rw [List.cons_append, lowerAfter, himage, ← List.append_assoc, List.reverse_cons,
      List.append_assoc _ [c]]
    exact ⟨_, rfl⟩

/-- A piece comes out the same after two beginnings, and before something else or nothing, if each
capital sigma in it closes a word in both places or in none. -/
theorem lowerAfter_append_of_keeps {before before' cs after : List Char}
    (h : ∀ p s, cs = p ++ 'Σ' :: s →
      closesWord (p.reverse ++ before) (s ++ after) = closesWord (p.reverse ++ before') s) :
    lowerAfter before (cs ++ after) =
      lowerAfter before' cs ++ lowerAfter (cs.reverse ++ before) after := by
  induction cs generalizing before before' with
  | nil => rfl
  | cons c rest ih =>
    have hrest : ∀ p s, rest = p ++ 'Σ' :: s → closesWord (p.reverse ++ c :: before) (s ++ after) =
        closesWord (p.reverse ++ c :: before') s := by
      intro p s hps
      have hlonger := h (c :: p) s (by rw [hps, List.cons_append])
      simpa using hlonger
    rw [List.cons_append, lowerAfter, lowerAfter, ih hrest]
    by_cases hc : c = 'Σ'
    · subst hc
      have hfirst : closesWord before (rest ++ after) = closesWord before' rest := h [] rest rfl
      simp [hfirst]
    · simp [hc]

/-! ## Pieces -/

/-- Every capital sigma of a piece closes a word in the text around it just when it does so in the
piece alone. -/
def KeepsSigmas (before piece after : List Char) : Prop :=
  ∀ i, (h : i < piece.length) → piece[i] = 'Σ' →
    closesWord ((piece.take i).reverse ++ before.reverse) (piece.drop (i + 1) ++ after) =
      closesWord (piece.take i).reverse (piece.drop (i + 1))

instance (before piece after : List Char) : Decidable (KeepsSigmas before piece after) :=
  inferInstanceAs (Decidable (∀ i, (h : i < piece.length) → piece[i] = 'Σ' →
    closesWord ((piece.take i).reverse ++ before.reverse) (piece.drop (i + 1) ++ after) =
      closesWord (piece.take i).reverse (piece.drop (i + 1))))

/-- The piece stands somewhere in the text, and its sigmas come out there as they do alone. -/
def OccursAlike (piece text : List Char) : Prop :=
  ∃ before after, text = before ++ piece ++ after ∧ KeepsSigmas before piece after

variable {before piece after text : List Char}

/-- **The lower case of a piece** occurs in that of the text if its sigmas come out alike. -/
theorem lower_infix (h : OccursAlike piece text) : lower piece <:+: lower text := by
  obtain ⟨before, after, rfl, hkeeps⟩ := h
  obtain ⟨image, himage⟩ := exists_lowerAfter_append [] before (piece ++ after)
  have hpiece : lowerAfter before.reverse (piece ++ after) =
      lower piece ++ lowerAfter (piece.reverse ++ before.reverse) after := by
    refine lowerAfter_append_of_keeps fun p s hps => ?_
    subst hps
    have hsigma := hkeeps p.length (by simp) (by simp)
    simpa using hsigma
  rw [List.append_nil, hpiece, ← List.append_assoc image] at himage
  refine ⟨image, _, himage.symm.trans ?_⟩
  rw [List.append_assoc before, lower]

/-- A piece without a capital sigma comes out as it does alone wherever it stands. -/
theorem occursAlike_of_not_mem (hsigma : 'Σ' ∉ piece) (h : piece <:+: text) :
    OccursAlike piece text := by
  obtain ⟨before, after, rfl⟩ := h
  refine ⟨before, after, rfl, fun i hi hchar => ?_⟩
  exact absurd (hchar ▸ List.getElem_mem hi) hsigma

end BlogGraph.Text
