import BlogGraph.Text.Lowercase

/-!
# Lower case is final

A text in lower case is not changed by being put into lower case once more.  Of a table that sends
code points to other code points this cannot be taken for granted: a code point may be sent to one
that is sent on.  In the table of case ranges none is.  Each range sends its code points to a range
again (`CaseRange.image`), and these images keep clear of all ranges of the table and of the dotted
capital I.  Where an image and a range overlap they take turns: the one has the even code points,
the other the odd ones (`CaseRange.apart`).

What lower case makes of a sigma or of a dotted capital I is settled too, so that the neighbours of
a sigma, which may be other letters by then, are not asked for again.

Main statements:

* `images_apart`: the law of the table, checked range by range;
* `isSettled_lowerChar`, `isSettled_of_mem_lowerAfter`: lower case consists of settled characters;
* `lower_eq_self_iff`: and these are the texts that lower case leaves alone;
* `lower_lower`: so it is enough to lower a text once.
-/

namespace BlogGraph.Text

/-! ## Ranges and their images -/

namespace CaseRange

/-- The code points that a range sends its own to. -/
def image (r : CaseRange) : CaseRange :=
  ⟨(r.first + r.shift).toNat, (r.last + r.shift).toNat, r.step, r.shift⟩

/-- Two ranges lie one behind the other, or the second has every other code point and the first
only such as lie between these. -/
def apart (r s : CaseRange) : Bool :=
  r.last.blt s.first || s.last.blt r.first ||
    (s.step == 2 && (r.step == 2 || r.first == r.last) && r.first % 2 != s.first % 2)

/-- The range sends its code points to characters. -/
def reachesCharacters (r : CaseRange) : Bool :=
  0 ≤ r.first + r.shift &&
    (r.last + r.shift < 0xD800 || (0xDFFF < r.first + r.shift && r.last + r.shift < 0x110000))

variable {r s : CaseRange} {n : Nat}

theorem covers_iff :
    r.covers n = true ↔ r.first ≤ n ∧ n ≤ r.last ∧ (n - r.first) % r.step = 0 := by
  simp [covers, and_assoc]

theorem not_covers_of_apart (h : r.apart s = true) (hn : r.covers n = true) :
    s.covers n = false := by
  rw [← Bool.not_eq_true, covers_iff]
  rw [covers_iff] at hn
  rintro ⟨hfirst, hlast, hstep⟩
  simp only [apart, Bool.or_eq_true, Bool.and_eq_true, Nat.blt_eq, beq_iff_eq, bne_iff_ne] at h
  rcases h with (h | h) | ⟨⟨hs, hr | hr⟩, hparity⟩
  · omega
  · omega
  · rw [hs] at hstep
    rw [hr] at hn
    omega
  · rw [hs] at hstep
    omega

theorem shifted_eq (h : r.reachesCharacters = true) (hn : r.covers n = true) :
    ((n + r.shift).toNat : Int) = n + r.shift := by
  simp only [reachesCharacters, Bool.and_eq_true, decide_eq_true_eq] at h
  rw [covers_iff] at hn
  omega

theorem covers_image (h : r.reachesCharacters = true) (hn : r.covers n = true) :
    r.image.covers (n + r.shift).toNat = true := by
  have hshifted := shifted_eq h hn
  simp only [reachesCharacters, Bool.and_eq_true, decide_eq_true_eq] at h
  rw [covers_iff] at hn ⊢
  have hdistance : (n + r.shift).toNat - (r.first + r.shift).toNat = n - r.first := by omega
  refine ⟨?_, ?_, ?_⟩
  · simp only [image]
    omega
  · simp only [image]
    omega
  · rw [image, hdistance]
    exact hn.2.2

theorem toNat_shifted (h : r.reachesCharacters = true) (hn : r.covers n = true) :
    (Char.ofNat (n + r.shift).toNat).toNat = (n + r.shift).toNat := by
  have hshifted := shifted_eq h hn
  simp only [reachesCharacters, Bool.and_eq_true, Bool.or_eq_true, decide_eq_true_eq] at h
  rw [covers_iff] at hn
  have hvalid : (n + r.shift).toNat.isValidChar := by
    unfold Nat.isValidChar
    omega
  rw [Char.ofNat, dif_pos hvalid]
  rfl

end CaseRange

/-! ## The law of the table -/

/-- The code points that lower case replaces: those of the table and the dotted capital I. -/
def replacedRanges : List CaseRange := ⟨0x130, 0x130, 1, 0⟩ :: caseRanges

theorem caseRanges_reachCharacters : caseRanges.all CaseRange.reachesCharacters = true := by
  decide +kernel

/-- **The law of the table.**  What a range sends its code points to is not replaced again. -/
theorem images_apart :
    (caseRanges.all fun r => replacedRanges.all r.image.apart) = true := by
  decide +kernel

/-! ## Settled characters -/

/-- Lower case does not replace the character. -/
def IsSettled (c : Char) : Prop := ∀ r ∈ replacedRanges, r.covers c.toNat = false

-- one test after the other, so that the length of the table does not nest the evaluation
instance (c : Char) : Decidable (IsSettled c) :=
  decidable_of_iff (replacedRanges.all fun r => !r.covers c.toNat) (by simp [IsSettled])

theorem IsSettled.lowerChar_eq {c : Char} (h : IsSettled c) : lowerChar c = c := by
  have hnone : caseRanges.find? (·.covers c.toNat) = none := by
    refine List.find?_eq_none.2 fun r hr => ?_
    rw [h r (List.mem_cons_of_mem _ hr)]
    exact Bool.false_ne_true
  rw [lowerChar, hnone]

theorem IsSettled.ne {c d : Char} (h : IsSettled c) (hd : ¬ IsSettled d) : c ≠ d := by
  rintro rfl
  exact hd h

/-- The lower case of a character other than the dotted capital I is settled. -/
theorem isSettled_lowerChar {c : Char} (hc : c ≠ 'İ') : IsSettled (lowerChar c) := by
  cases hfind : caseRanges.find? (·.covers c.toNat) with
  | some r =>
    have hr : r ∈ caseRanges := List.mem_of_find?_eq_some hfind
    have hcovers : r.covers c.toNat = true := by simpa using List.find?_some hfind
    have hreaches := List.all_eq_true.1 caseRanges_reachCharacters r hr
    have happart := List.all_eq_true.1 (List.all_eq_true.1 images_apart r hr)
    intro s hs
    rw [lowerChar, hfind, CaseRange.toNat_shifted hreaches hcovers]
    exact CaseRange.not_covers_of_apart (happart s hs) (CaseRange.covers_image hreaches hcovers)
  | none =>
    have hself : lowerChar c = c := by rw [lowerChar, hfind]
    rw [hself]
    intro s hs
    rcases List.mem_cons.1 hs with rfl | hs
    · -- the range of the dotted capital I covers nothing else
      rw [← Bool.not_eq_true, CaseRange.covers_iff]
      rintro ⟨hfirst, hlast, -⟩
      exact hc (Char.toNat_inj.1 (Nat.le_antisymm hlast hfirst))
    · rw [← Bool.not_eq_true]
      exact List.find?_eq_none.1 hfind s hs

/-! ## Texts in lower case -/

/-- What comes out of a text, whatever stood before it, is settled. -/
theorem isSettled_of_mem_lowerAfter {before cs : List Char} {d : Char}
    (hd : d ∈ lowerAfter before cs) : IsSettled d := by
  have hsmall : IsSettled 'σ' ∧ IsSettled 'ς' := by decide +kernel
  have hdotted : IsSettled 'i' ∧ IsSettled (Char.ofNat 0x307) := by decide +kernel
  induction cs generalizing before with
  | nil => exact absurd hd List.not_mem_nil
  | cons c rest ih =>
    rw [lowerAfter] at hd
    rcases List.mem_append.1 hd with hd | hd
    · split at hd
      · -- either form of a sigma
        rw [List.mem_singleton.1 hd]
        split
        · exact hsmall.2
        · exact hsmall.1
      · split at hd
        · rcases List.mem_cons.1 hd with rfl | hd
          · exact hdotted.1
          · rw [List.mem_singleton.1 hd]
            exact hdotted.2
        · next hc =>
          rw [List.mem_singleton.1 hd]
          exact isSettled_lowerChar hc
    · exact ih hd

/-- Settled characters stay as they are, whatever stands around them. -/
theorem lowerAfter_of_isSettled {before cs : List Char} (h : ∀ c ∈ cs, IsSettled c) :
    lowerAfter before cs = cs := by
  have hcapitals : ¬ IsSettled 'Σ' ∧ ¬ IsSettled 'İ' := by decide +kernel
  induction cs generalizing before with
  | nil => rfl
  | cons c rest ih =>
    obtain ⟨hc, hrest⟩ := List.forall_mem_cons.1 h
    rw [lowerAfter, if_neg (hc.ne hcapitals.1), if_neg (hc.ne hcapitals.2), hc.lowerChar_eq,
      ih hrest]
    rfl

/-- Lower case leaves a text alone just when all its characters are settled. -/
theorem lower_eq_self_iff {cs : List Char} : lower cs = cs ↔ ∀ c ∈ cs, IsSettled c := by
  constructor
  · intro h c hc
    rw [← h] at hc
    exact isSettled_of_mem_lowerAfter hc
  · exact lowerAfter_of_isSettled

/-- **Lower case is final.** -/
theorem lower_lower (cs : List Char) : lower (lower cs) = lower cs :=
  lower_eq_self_iff.2 fun _ => isSettled_of_mem_lowerAfter

end BlogGraph.Text
