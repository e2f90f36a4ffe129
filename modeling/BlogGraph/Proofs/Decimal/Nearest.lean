import BlogGraph.Proofs.Decimal.Machine

/-!
# Products are rounded to nearest

A product is made of the exact product of two mantissas, of which the bits that do not fit are
dropped while a round bit and a sticky bit remember them.  What these remember decides the
rounding exactly (`Tracks.roundedMantissa`), so the result is off by half a unit at most, and no
finite number comes nearer to the exact product.

Main statements: `rounds_mul`, and `Parts.truncate_eq` for the whole part of a number.
-/

namespace BlogGraph.Binary64

open Float.Model (Format UnpackedFloat totalExponent)
open Float.Model.UnpackedFloat

/-! ## Dropping bits -/

/-- An extended mantissa keeps track of a mantissa `m` of which the bits below `d` were dropped. -/
def Tracks (em : ExtendedMantissa) (m d : Nat) : Prop :=
  ∃ rest < d, 2 * m = (2 * em.mantissa + em.roundBit.toNat) * d + rest ∧
    (em.stickyBit = true ↔ rest ≠ 0)

theorem tracks_exact (m : Nat) : Tracks (.ofMantissaAndAccuracy m .exact) m 1 :=
  ⟨0, Nat.one_pos, by simp [ExtendedMantissa.ofMantissaAndAccuracy],
    by simp [ExtendedMantissa.ofMantissaAndAccuracy]⟩

theorem Tracks.shiftRightOne {em : ExtendedMantissa} {m d : Nat} (h : Tracks em m d) :
    Tracks em.shiftRightOne m (2 * d) := by
  obtain ⟨rest, hrest, hm, hsticky⟩ := h
  have hbit : (em.mantissa % 2 != 0).toNat = em.mantissa % 2 := by
    rcases Nat.mod_two_eq_zero_or_one em.mantissa with h | h <;> rw [h] <;> rfl
  have hsplit : em.mantissa = 2 * (em.mantissa / 2) + em.mantissa % 2 := by omega
  refine ⟨em.roundBit.toNat * d + rest, ?_, ?_, ?_⟩
  · cases em.roundBit
    · simp only [Bool.toNat_false]
      omega
    · simp only [Bool.toNat_true]
      omega
  · simp only [ExtendedMantissa.shiftRightOne, hbit]
    rw [← hsplit, hm]
    ring
  · simp only [ExtendedMantissa.shiftRightOne, Bool.or_eq_true, hsticky]
    cases em.roundBit
    · simp
    · simp
      omega

theorem Tracks.shiftRight {em : ExtendedMantissa} {m d : Nat} (h : Tracks em m d) (k : Nat) :
    Tracks (em >>> k) m (2 ^ k * d) := by
  induction k with
  | zero => rwa [Nat.pow_zero, Nat.one_mul]
  | succ k ih =>
    have hstep := ih.shiftRightOne
    rwa [← Nat.mul_assoc, ← Nat.pow_succ'] at hstep

/-- The mantissa that is rounded is off by half of what was dropped at most. -/
theorem Tracks.roundedMantissa {em : ExtendedMantissa} {m d : Nat} (h : Tracks em m d) :
    2 * em.roundedMantissa * d ≤ 2 * m + d ∧ 2 * m ≤ 2 * em.roundedMantissa * d + d := by
  obtain ⟨rest, hrest, hm, hsticky⟩ := h
  rcases em with ⟨n, _ | _, _ | _⟩
  all_goals
    simp only [ExtendedMantissa.roundedMantissa, ExtendedMantissa.accuracy,
      Accuracy.roundToNearestEven, Bool.toNat_false, Bool.toNat_true, Nat.add_zero] at hm hsticky ⊢
  · omega
  · omega
  · -- a tie: whichever neighbour is even, it is half a step away
    have hrest : rest = 0 := by simpa using hsticky
    rw [hm, hrest]
    rcases Nat.mod_two_eq_zero_or_one n with h | h
    · rw [h]
      constructor <;> ring_nf <;> omega
    · rw [h]
      constructor <;> ring_nf <;> omega
  · rw [hm]
    constructor <;> ring_nf <;> omega

/-! ## Rounding -/

/-- The exponent at which a mantissa fills its 53 bits, or the least one. -/
def unitOf (m : Nat) (e : Int) : Int := max (m.log2 + e - 52) (-1074)

theorem targetExponent_eq (m : Nat) (e : Int) :
    Format.binary64.targetExponent (totalExponent m e) = unitOf m e := by
  have hbits : Format.binary64.mantissaBits = 53 := rfl
  have hmin : Format.binary64.minExponent = -1074 := rfl
  unfold Format.targetExponent totalExponent unitOf
  rw [hbits, hmin]
  omega

/-- Parts with a mantissa of 53 bits, or the least one beyond, whose bits then move by one. -/
def Parts.carry (negative : Bool) (r : Nat) (t : Int) : Parts :=
  if r = 2 ^ 53 then ⟨negative, 2 ^ 52, t + 1⟩ else ⟨negative, r, t⟩

theorem shift_exact_of_lt {r : Nat} {t : Int} (hr : r < 2 ^ 53) (ht : -1074 ≤ t) :
    shiftToTargetExponent Format.binary64 r t .exact =
      (.ofMantissaAndAccuracy r .exact, t) := by
  have hlog : r.log2 < 53 := by
    by_cases h : r = 0
    · rw [h]
      decide
    · exact (Nat.log2_lt h).2 hr
  have hshift : (unitOf r t - t).toNat = 0 := by
    unfold unitOf
    omega
  simp only [shiftToTargetExponent, shiftToExponent, targetExponent_eq, hshift]
  exact Prod.ext rfl (Int.add_zero t)

theorem shift_exact_carry {t : Int} (ht : -1074 ≤ t) :
    shiftToTargetExponent Format.binary64 (2 ^ 53) t .exact =
      (.ofMantissaAndAccuracy (2 ^ 52) .exact, t + 1) := by
  have hshift : (unitOf (2 ^ 53) t - t).toNat = 1 := by
    have hlog : (2 ^ 53).log2 = 53 := Nat.log2_two_pow
    unfold unitOf
    omega
  simp only [shiftToTargetExponent, shiftToExponent, targetExponent_eq, hshift]
  exact Prod.ext rfl rfl

/-- The number of bits that do not fit. -/
def droppedBits (m : Nat) (e : Int) : Nat := (unitOf m e - e).toNat

theorem lt_of_droppedBits (m : Nat) (e : Int) : m < 2 ^ 53 * 2 ^ droppedBits m e := by
  have hlog : m.log2 + 1 ≤ 53 + droppedBits m e := by
    unfold droppedBits unitOf
    omega
  calc
    m < 2 ^ (m.log2 + 1) := Nat.lt_log2_self
    _ ≤ 2 ^ (53 + droppedBits m e) := Nat.pow_le_pow_right (by decide) hlog
    _ = 2 ^ 53 * 2 ^ droppedBits m e := Nat.pow_add ..

/-- Above the least exponent the bits that stay fill the mantissa. -/
theorem le_of_unitOf_ne {m : Nat} {e : Int} (hm : 0 < m) (he : e ≤ unitOf m e)
    (h : unitOf m e ≠ -1074) : 2 ^ 52 * 2 ^ droppedBits m e ≤ m := by
  have hlog : 52 + droppedBits m e = m.log2 := by
    unfold droppedBits
    unfold unitOf at h he ⊢
    omega
  rw [← Nat.pow_add, hlog]
  exact Nat.log2_self_le hm.ne'

theorem rounded_le {m r d : Nat} (hm : m < 2 ^ 53 * d) (h : 2 * r * d ≤ 2 * m + d) :
    r ≤ 2 ^ 53 := by
  have hlt : 2 * r * d < (2 * 2 ^ 53 + 1) * d := by
    rw [Nat.add_mul]
    omega
  have := Nat.lt_of_mul_lt_mul_right hlt
  omega

theorem le_rounded {m r d : Nat} (hd : 0 < d) (hm : 2 ^ 52 * d ≤ m)
    (h : 2 * m ≤ 2 * r * d + d) : 2 ^ 52 ≤ r := by
  have hle : 2 * 2 ^ 52 * d ≤ (2 * r + 1) * d := by
    rw [Nat.add_mul]
    omega
  have := Nat.le_of_mul_le_mul_right hle hd
  omega

/-- What rounding makes of `m * 2 ^ e`: a mantissa at the exponent `unitOf m e` that is off by
half a unit at most. -/
theorem exists_round (negative : Bool) {m : Nat} {e : Int} (hm : 0 < m) (he : e ≤ unitOf m e) :
    ∃ r, roundWithAccuracy Format.binary64 (Parts.sign ⟨negative, m, e⟩) m e .exact =
        (Parts.carry negative r (unitOf m e)).unpacked ∧
      2 * r * 2 ^ droppedBits m e ≤ 2 * m + 2 ^ droppedBits m e ∧
      2 * m ≤ 2 * r * 2 ^ droppedBits m e + 2 ^ droppedBits m e ∧
      r ≤ 2 ^ 53 ∧ (unitOf m e = -1074 ∨ 2 ^ 52 * 2 ^ droppedBits m e ≤ m ∧ 2 ^ 52 ≤ r) := by
  have hround := ((tracks_exact m).shiftRight (droppedBits m e)).roundedMantissa
  have hshift : shiftToTargetExponent Format.binary64 m e .exact =
      (ExtendedMantissa.ofMantissaAndAccuracy m .exact >>> droppedBits m e, unitOf m e) := by
    simp only [shiftToTargetExponent, shiftToExponent, targetExponent_eq, droppedBits]
    exact Prod.ext rfl (by simp only; omega)
  generalize ExtendedMantissa.ofMantissaAndAccuracy m .exact >>> droppedBits m e = em
    at hround hshift
  generalize hr : em.roundedMantissa = r at hround
  rw [Nat.mul_one] at hround
  have hle := rounded_le (lt_of_droppedBits m e) hround.1
  refine ⟨r, ?_, hround.1, hround.2, hle, ?_⟩
  · have hleast : -1074 ≤ unitOf m e := Int.le_max_right ..
    by_cases hcarry : r = 2 ^ 53
    · subst hcarry
      simp only [roundWithAccuracy, hshift, hr, shift_exact_carry hleast, Parts.carry, if_pos]
      rfl
    · have hlt : r < 2 ^ 53 := by omega
      simp only [roundWithAccuracy, hshift, hr, shift_exact_of_lt hlt hleast, Parts.carry,
        if_neg hcarry]
      rfl
  · by_cases hleast : unitOf m e = -1074
    · exact Or.inl hleast
    · have hfull := le_of_unitOf_ne hm he hleast
      exact Or.inr ⟨hfull, le_rounded (by positivity) hfull hround.2⟩

/-! ## Nearest numbers -/

/-- One or minus one. -/
def factor (negative : Bool) : ℚ := if negative then -1 else 1

/-- The value of a number by its parts. -/
def Parts.value (p : Parts) : ℚ := factor p.negative * p.mantissa * 2 ^ p.exponent

/-- A finite number to which no finite number comes nearer. -/
def Nearest (x : Binary64) (v : ℚ) : Prop :=
  ∃ p, x.decode = .finite p ∧
    ∀ (y : Binary64) (q : Parts), y.decode = .finite q → |v - p.value| ≤ |v - q.value|

@[simp] theorem factor_false : factor false = 1 := rfl

@[simp] theorem factor_true : factor true = -1 := rfl

theorem abs_factor (negative : Bool) : |factor negative| = 1 := by
  cases negative <;> simp

theorem factor_bne (a b : Bool) : factor (a != b) = factor a * factor b := by
  cases a <;> cases b <;> simp

theorem Parts.abs_value (p : Parts) : |p.value| = p.mantissa * 2 ^ p.exponent := by
  have hpos : (0 : ℚ) ≤ p.mantissa * 2 ^ p.exponent := by positivity
  rw [Parts.value, mul_assoc, abs_mul, abs_factor, one_mul, abs_of_nonneg hpos]

theorem Parts.value_carry (negative : Bool) (r : Nat) (t : Int) :
    (Parts.carry negative r t).value = factor negative * r * 2 ^ t := by
  unfold Parts.carry
  split
  · rename_i h
    rw [Parts.value, h, zpow_add_one₀ (by norm_num)]
    push_cast
    ring
  · rfl

/-- Within half a step, no other step is nearer. -/
theorem abs_sub_le_of_half {v u : ℚ} {r : Int} (hu : 0 < u) (hr : |v - r * u| ≤ u / 2) (k : Int) :
    |v - r * u| ≤ |v - k * u| := by
  by_cases hk : k = r
  · rw [hk]
  have hone : (1 : ℚ) ≤ |(k : ℚ) - r| := by
    have hne : 1 ≤ |k - r| := Int.one_le_abs (sub_ne_zero.2 hk)
    exact_mod_cast hne
  have hstep : u ≤ |k * u - r * u| := calc
    u = 1 * u := (one_mul u).symm
    _ ≤ |(k : ℚ) - r| * u := by gcongr
    _ = |k * u - r * u| := by rw [← sub_mul, abs_mul, abs_of_pos hu]
  have htriangle : |k * u - r * u| ≤ |v - k * u| + |v - r * u| := calc
    |k * u - r * u| = |(v - r * u) - (v - k * u)| := by congr 1; ring
    _ ≤ |v - r * u| + |v - k * u| := abs_sub _ _
    _ = _ := add_comm _ _
  linarith

/-- A multiple of a unit within half of it is a nearest number, where the unit is the least one or
the value fills the mantissa. -/
theorem abs_sub_le_of_fits {v : ℚ} {r t : Int} (hr : |v - r * 2 ^ t| ≤ 2 ^ t / 2)
    (hfull : t = -1074 ∨ (2 : ℚ) ^ 52 * 2 ^ t ≤ |v|) {q : Parts} (hq : q.Fits) :
    |v - r * 2 ^ t| ≤ |v - q.value| := by
  have hu : (0 : ℚ) < 2 ^ t := by positivity
  by_cases ht : t ≤ q.exponent
  · -- a number of no finer grain is a multiple of the unit itself
    obtain ⟨n, hn⟩ := Int.le.dest ht
    let k : Int := (if q.negative then -1 else 1) * q.mantissa * 2 ^ n
    have hk : q.value = k * 2 ^ t := by
      have hsign : ((if q.negative then -1 else 1 : Int) : ℚ) = factor q.negative := by
        cases q.negative <;> simp
      rw [Parts.value, ← hn, zpow_add₀ (by norm_num), zpow_natCast]
      simp only [k, Int.cast_mul, hsign, Int.cast_natCast, Int.cast_pow, Int.cast_ofNat]
      ring
    rw [hk]
    exact abs_sub_le_of_half hu hr k
  · -- one of finer grain lies below the power of two that the value reaches
    have hle := hq.le_exponent
    have hv : (2 : ℚ) ^ 52 * 2 ^ t ≤ |v| := hfull.resolve_left (by omega)
    have hvalue : |q.value| ≤ 2 ^ 52 * 2 ^ t := by
      have hm : (q.mantissa : ℚ) ≤ 2 ^ 53 := by exact_mod_cast hq.mantissa_lt.le
      have he : (2 : ℚ) ^ q.exponent ≤ 2 ^ (t - 1) := zpow_le_zpow_right₀ (by norm_num) (by omega)
      calc
        |q.value| = q.mantissa * 2 ^ q.exponent := q.abs_value
        _ ≤ 2 ^ 53 * 2 ^ (t - 1) := by gcongr
        _ = 2 ^ 52 * 2 ^ t := by rw [zpow_sub_one₀ (by norm_num)]; ring
    have hreach : ∃ k : Int, |v - k * 2 ^ t| = |v| - 2 ^ 52 * 2 ^ t := by
      rcases le_total 0 v with hv0 | hv0
      · rw [abs_of_nonneg hv0] at hv ⊢
        exact ⟨2 ^ 52, by rw [Int.cast_pow, Int.cast_ofNat, abs_of_nonneg (by linarith)]⟩
      · rw [abs_of_nonpos hv0] at hv ⊢
        refine ⟨-2 ^ 52, ?_⟩
        rw [Int.cast_neg, Int.cast_pow, Int.cast_ofNat, abs_of_nonpos (by linarith)]
        ring
    obtain ⟨k, hk⟩ := hreach
    calc
      |v - r * 2 ^ t| ≤ |v - k * 2 ^ t| := abs_sub_le_of_half hu hr k
      _ = |v| - 2 ^ 52 * 2 ^ t := hk
      _ ≤ |v| - |q.value| := by linarith
      _ ≤ |v - q.value| := abs_sub_abs_le_abs_sub v q.value

theorem Parts.carry_spec (negative : Bool) {r : Nat} {t : Int} (hr : r ≤ 2 ^ 53)
    (hfull : t = -1074 ∨ 2 ^ 52 ≤ r) :
    (Parts.carry negative r t).mantissa < 2 ^ 53 ∧
    (2 ^ 52 ≤ (Parts.carry negative r t).mantissa ∨
      (Parts.carry negative r t).exponent = -1074) ∧
    ((Parts.carry negative r t).exponent = t ∨ (Parts.carry negative r t).exponent = t + 1) := by
  unfold Parts.carry
  split
  · exact ⟨by simp, by simp, Or.inr rfl⟩
  · exact ⟨by simp only; omega, hfull.symm, Or.inl rfl⟩

/-- What rounding makes of `m * 2 ^ e`, as a number of units next to the exact value. -/
theorem exists_round_value (negative : Bool) {m : Nat} {e : Int} (hm : 0 < m)
    (he : e ≤ unitOf m e) :
    ∃ r, roundWithAccuracy Format.binary64 (Parts.sign ⟨negative, m, e⟩) m e .exact =
        (Parts.carry negative r (unitOf m e)).unpacked ∧
      r ≤ 2 ^ 53 ∧ (unitOf m e = -1074 ∨ 2 ^ 52 ≤ r) ∧
      |factor negative * (m * 2 ^ e) - factor negative * r * 2 ^ unitOf m e| ≤
        2 ^ unitOf m e / 2 ∧
      (unitOf m e = -1074 ∨ (2 : ℚ) ^ 52 * 2 ^ unitOf m e ≤ |factor negative * (m * 2 ^ e)|) := by
  obtain ⟨r, hround, hupper, hlower, hr, hfull⟩ := exists_round negative hm he
  have hexp : e + (droppedBits m e : Int) = unitOf m e := by
    unfold droppedBits
    omega
  generalize droppedBits m e = k at hupper hlower hfull hexp
  generalize unitOf m e = t at *
  have hpow : (2 : ℚ) ^ t = 2 ^ k * 2 ^ e := by
    rw [← hexp, zpow_add₀ (by norm_num), zpow_natCast, mul_comm]
  refine ⟨r, hround, hr, hfull.imp_right And.right, ?_, hfull.imp_right fun h => ?_⟩
  · have he0 : (0 : ℚ) < 2 ^ e := by positivity
    have hupper : (2 * r * 2 ^ k : ℚ) ≤ 2 * m + 2 ^ k := by exact_mod_cast hupper
    have hlower : (2 * m : ℚ) ≤ 2 * r * 2 ^ k + 2 ^ k := by exact_mod_cast hlower
    have hdiff : factor negative * (m * 2 ^ e) - factor negative * r * 2 ^ t =
        factor negative * ((m - r * 2 ^ k) * 2 ^ e) := by
      rw [hpow]
      ring
    have habs : |(m : ℚ) - r * 2 ^ k| ≤ 2 ^ k / 2 := abs_le.2 ⟨by linarith, by linarith⟩
    rw [hdiff, abs_mul, abs_factor, one_mul, abs_mul, abs_of_pos he0, hpow]
    nlinarith
  · have hlow : (2 ^ 52 * 2 ^ k : ℚ) ≤ m := by exact_mod_cast h.1
    have hm0 : (0 : ℚ) ≤ m * 2 ^ e := by positivity
    rw [abs_mul, abs_factor, one_mul, abs_of_nonneg hm0, hpow, ← mul_assoc]
    gcongr

/-- The number that an exact value is rounded to: a nearest one, or an infinite one where the
value is out of range. -/
def Rounds (x : Binary64) (v : ℚ) : Prop :=
  Nearest x v ∨ (∃ negative, x.decode = .infinite negative) ∧ 2 ^ (1023 : Int) ≤ |v|

theorem rounds_round (negative : Bool) {m : Nat} {e : Int} (hm : 0 < m) (he : e ≤ unitOf m e) :
    Rounds ⟨UInt64.ofBitVec (pack Format.binary64
      (roundWithAccuracy Format.binary64 (Parts.sign ⟨negative, m, e⟩) m e .exact))⟩
      (factor negative * (m * 2 ^ e)) := by
  obtain ⟨r, hround, hr, hfull, hhalf, hreach⟩ := exists_round_value negative hm he
  have hleast : -1074 ≤ unitOf m e := Int.le_max_right ..
  rw [hround]
  generalize unitOf m e = t at *
  obtain ⟨hlt, hkept, hexp⟩ := Parts.carry_spec negative hr hfull
  have hge : -1074 ≤ (Parts.carry negative r t).exponent := by omega
  by_cases hmax : (Parts.carry negative r t).exponent ≤ 971
  · left
    have hsigned : factor negative * r = ((if negative then -(r : Int) else r : Int) : ℚ) := by
      cases negative <;> simp
    refine ⟨_, decode_pack ⟨hlt, hge, hmax, hkept⟩, fun y q hq => ?_⟩
    rw [hsigned] at hhalf
    rw [Parts.value_carry, hsigned]
    exact abs_sub_le_of_fits hhalf hreach (fits_of_decode hq)
  · right
    refine ⟨⟨_, decode_pack_of_exponent (by omega) (by omega)⟩, ?_⟩
    calc
      (2 : ℚ) ^ (1023 : Int) = 2 ^ 52 * 2 ^ (971 : Int) := by
        rw [← zpow_natCast, ← zpow_add₀ (by norm_num)]
        rfl
      _ ≤ 2 ^ 52 * 2 ^ t := by
        gcongr
        · norm_num
        · omega
      _ ≤ _ := hreach.resolve_left (by omega)

/-- The sign of a product. -/
theorem Parts.sign_mul (p q : Parts) (m : Nat) (e : Int) :
    p.sign * q.sign = Parts.sign ⟨p.negative != q.negative, m, e⟩ := by
  rcases p with ⟨_ | _, _, _⟩ <;> rcases q with ⟨_ | _, _, _⟩ <;> rfl

theorem Parts.value_mul (p q : Parts) :
    p.value * q.value = factor (p.negative != q.negative) *
      ((p.mantissa * q.mantissa : Nat) * 2 ^ (p.exponent + q.exponent)) := by
  rw [Parts.value, Parts.value, factor_bne, zpow_add₀ (by norm_num)]
  push_cast
  ring

theorem mul_unpacked_of_eq_zero {p q : Parts} (h : p.mantissa * q.mantissa = 0) :
    UnpackedFloat.mul Format.binary64 p.unpacked q.unpacked =
      (⟨p.negative != q.negative, 0, -1074⟩ : Parts).unpacked := by
  have hzero : (⟨p.negative != q.negative, 0, -1074⟩ : Parts).unpacked =
      .zero (p.sign * q.sign) := by
    rw [p.sign_mul q 0 (-1074)]
    rfl
  rw [hzero]
  unfold Parts.unpacked
  by_cases hp : p.mantissa = 0
  · rw [dif_pos hp]
    split <;> rfl
  · have hq : q.mantissa = 0 := (Nat.mul_eq_zero.1 h).resolve_left hp
    rw [dif_neg hp, dif_pos hq]
    rfl

/-- Two mantissas that are full, or stand at the least exponent, leave no bits to be filled in. -/
theorem le_unitOf_mul {p q : Parts} (hp : p.Fits) (hq : q.Fits) (h : p.mantissa * q.mantissa ≠ 0) :
    p.exponent + q.exponent ≤ unitOf (p.mantissa * q.mantissa) (p.exponent + q.exponent) := by
  unfold unitOf
  by_cases hfull : 2 ^ 52 ≤ p.mantissa * q.mantissa
  · have hlog := (Nat.le_log2 h).2 hfull
    omega
  · have hpos := Nat.mul_ne_zero_iff.1 h
    have hp52 : p.mantissa < 2 ^ 52 := by
      have := Nat.le_mul_of_pos_right p.mantissa (Nat.pos_of_ne_zero hpos.2)
      omega
    have hq52 : q.mantissa < 2 ^ 52 := by
      have := Nat.le_mul_of_pos_left q.mantissa (Nat.pos_of_ne_zero hpos.1)
      omega
    have hpe := hp.full_or_least.resolve_left (by omega)
    have hqe := hq.full_or_least.resolve_left (by omega)
    omega

/-- **A product is the exact product, rounded.** -/
theorem rounds_mul {x y : Binary64} {p q : Parts} (hx : x.decode = .finite p)
    (hy : y.decode = .finite q) : Rounds (x.mul y) (p.value * q.value) := by
  rw [mul_eq hx hy]
  by_cases hzero : p.mantissa * q.mantissa = 0
  · left
    have hfits : (⟨p.negative != q.negative, 0, -1074⟩ : Parts).Fits := by
      constructor <;> simp
    have hvalue : p.value * q.value = 0 := by
      rw [Parts.value_mul, hzero]
      simp
    have hnil : (⟨p.negative != q.negative, 0, -1074⟩ : Parts).value = 0 := by
      simp [Parts.value]
    rw [mul_unpacked_of_eq_zero hzero, hvalue]
    refine ⟨_, decode_pack hfits, fun y r _ => ?_⟩
    rw [hnil, sub_self, abs_zero]
    exact abs_nonneg _
  · have hpos := Nat.mul_ne_zero_iff.1 hzero
    have hmul : UnpackedFloat.mul Format.binary64 p.unpacked q.unpacked =
        roundWithAccuracy Format.binary64 (p.sign * q.sign) (p.mantissa * q.mantissa)
          (p.exponent + q.exponent) .exact := by
      rw [Parts.unpacked, Parts.unpacked, dif_neg hpos.1, dif_neg hpos.2]
      rfl
    have hle := le_unitOf_mul (fits_of_decode hx) (fits_of_decode hy) hzero
    rw [Parts.value_mul, hmul, p.sign_mul q]
    exact rounds_round _ (Nat.pos_of_ne_zero hzero) hle

/-! ## The whole part -/

/-- The whole part of a number, toward zero. -/
def towardZero (v : ℚ) : Int := if v < 0 then ⌈v⌉ else ⌊v⌋

theorem floor_mul_two_zpow (m : Nat) (e : Int) :
    ⌊(m * 2 ^ e : ℚ)⌋ =
      ((if e < 0 then m / Nat.pow 2 e.natAbs else m * Nat.pow 2 e.natAbs : Nat) : Int) := by
  split
  · rename_i he
    have hpow : (m * 2 ^ e : ℚ) = ((m : Int) : ℚ) / ((Nat.pow 2 e.natAbs : Nat) : ℚ) := by
      rw [Nat.pow_eq, Nat.cast_pow, Int.cast_natCast, Nat.cast_ofNat, div_eq_mul_inv,
        ← zpow_natCast, ← zpow_neg]
      congr 2
      omega
    rw [hpow, Rat.floor_intCast_div_natCast]
    rfl
  · rename_i he
    have hpow : (m * 2 ^ e : ℚ) = ((m * Nat.pow 2 e.natAbs : Nat) : ℚ) := by
      rw [Nat.pow_eq, Nat.cast_mul, Nat.cast_pow, Nat.cast_ofNat, ← zpow_natCast]
      congr 2
      omega
    rw [hpow, Int.floor_natCast]

theorem towardZero_of_nonneg {v : ℚ} (h : 0 ≤ v) : towardZero v = ⌊v⌋ := if_neg (not_lt.2 h)

theorem towardZero_neg {v : ℚ} (h : 0 ≤ v) : towardZero (-v) = -⌊v⌋ := by
  rcases h.eq_or_lt with rfl | hpos
  · rfl
  · rw [towardZero, if_pos (neg_lt_zero.2 hpos), Int.ceil_neg]

/-- The integer part by shifting is the value without its fraction. -/
theorem Parts.truncate_eq (p : Parts) : p.truncate = towardZero p.value := by
  have hpos : (0 : ℚ) ≤ p.mantissa * 2 ^ p.exponent := by positivity
  have hfloor := floor_mul_two_zpow p.mantissa p.exponent
  unfold Parts.truncate Parts.value
  rw [mul_assoc]
  cases p.negative with
  | false =>
    rw [factor_false, one_mul, towardZero_of_nonneg hpos, hfloor]
    rfl
  | true =>
    rw [factor_true, neg_one_mul, towardZero_neg hpos, hfloor]
    rfl

end BlogGraph.Binary64
