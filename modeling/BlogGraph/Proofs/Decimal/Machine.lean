import BlogGraph.Decimal.Binary64
import Mathlib

/-!
# Floating point numbers by their parts

The same sixty-four bits are read twice: by arithmetic on the pattern (`Binary64.decode`) and as the
fields of a machine word.  The two readings agree in both directions on every finite number
(`unpack_of_decode`, `decode_pack`), so a product is decided by the parts of its factors alone
(`mul_eq`).
-/

namespace BlogGraph.Binary64

open Float.Model (Format UnpackedFloat)
open Float.Model.UnpackedFloat

/-! ## The fields of a word -/

/-- The bit pattern as a word of the format. -/
def word (x : Binary64) : BitVec Format.binary64.numBits := x.bits.toBitVec

@[simp] theorem word_ofBitVec (b : BitVec Format.binary64.numBits) :
    word ⟨UInt64.ofBitVec b⟩ = b := rfl

theorem toNat_unpackMantissa (b : BitVec Format.binary64.numBits) :
    (unpackMantissa b).toNat = b.toNat % Nat.pow 2 52 := by
  simp [unpackMantissa]

theorem toNat_unpackExponent (b : BitVec Format.binary64.numBits) :
    (unpackExponent b).toNat = b.toNat / Nat.pow 2 52 % Nat.pow 2 11 := by
  simp [unpackExponent, Nat.shiftRight_eq_div_pow]

theorem toNat_unpackSign (b : BitVec Format.binary64.numBits) :
    (unpackSign b).toNat = b.toNat / Nat.pow 2 63 := by
  have hb : b.toNat < 2 ^ 64 := b.isLt
  have hsmall : b.toNat / Nat.pow 2 63 < 2 := Nat.div_lt_of_lt_mul hb
  simp only [unpackSign, BitVec.toNat_cast, BitVec.extractLsb_toNat, Nat.shiftRight_eq_div_pow]
  exact Nat.mod_eq_of_lt hsmall

/-- What a pattern stands for, by its fields. -/
theorem decode_eq (x : Binary64) : x.decode =
    let negative : Bool := unpackSign x.word = 1#1
    if (unpackExponent x.word).toNat = 2047 then
      if (unpackMantissa x.word).toNat = 0 then .infinite negative else .notANumber
    else if (unpackExponent x.word).toNat = 0 then
      .finite ⟨negative, (unpackMantissa x.word).toNat, -1074⟩
    else .finite ⟨negative, Nat.pow 2 52 + (unpackMantissa x.word).toNat,
      ((unpackExponent x.word).toNat : Int) - 1075⟩ := by
  have hsign : unpackSign x.word = 1#1 ↔ x.bits.toNat / Nat.pow 2 63 = 1 := by
    rw [← BitVec.toNat_inj, toNat_unpackSign]
    rfl
  simp only [decode, toNat_unpackMantissa, toNat_unpackExponent, decide_eq_decide.2 hsign]
  rfl

/-- A word put together from its fields stands for what the fields say. -/
theorem decode_packComponents {s : Sign} {e : BitVec 11} {m : BitVec 52} (he : e.toNat ≠ 2047) :
    decode ⟨UInt64.ofBitVec (packComponents Format.binary64 s e m)⟩ =
      if e.toNat = 0 then .finite ⟨s.toBitVec = 1#1, m.toNat, -1074⟩
      else .finite ⟨s.toBitVec = 1#1, Nat.pow 2 52 + m.toNat, (e.toNat : Int) - 1075⟩ := by
  rw [decode_eq, word_ofBitVec]
  simp only [unpackExponent_packComponents, unpackMantissa_packComponents,
    unpackSign_packComponents]
  rw [if_neg he]

/-! ## The parts of a number -/

namespace Parts

/-- The sign of a number. -/
def sign (p : Parts) : Sign := if p.negative then .negative else .positive

/-- The parts of a number as machine arithmetic has them. -/
def unpacked (p : Parts) : UnpackedFloat :=
  if h : p.mantissa = 0 then .zero p.sign
  else .finite p.sign p.mantissa p.exponent (Nat.pos_of_ne_zero h)

/-- Parts that a bit pattern has: the mantissa fills its 53 bits, or the exponent is the least. -/
structure Fits (p : Parts) : Prop where
  mantissa_lt : p.mantissa < 2 ^ 53
  le_exponent : -1074 ≤ p.exponent
  exponent_le : p.exponent ≤ 971
  full_or_least : 2 ^ 52 ≤ p.mantissa ∨ p.exponent = -1074

theorem negative_sign (p : Parts) : decide (p.sign.toBitVec = 1#1) = p.negative := by
  rcases p with ⟨_ | _, _, _⟩ <;> rfl

end Parts

theorem ofBitVec_eq (b : BitVec 1) :
    Sign.ofBitVec b = if decide (b = 1#1) then .negative else .positive := by
  rcases BitVec.eq_zero_or_eq_one b with rfl | rfl <;> rfl

theorem fits_of_decode {x : Binary64} {p : Parts} (h : x.decode = .finite p) : p.Fits := by
  have he : (unpackExponent x.word).toNat < 2 ^ 11 := (unpackExponent x.word).isLt
  have hm : (unpackMantissa x.word).toNat < 2 ^ 52 := (unpackMantissa x.word).isLt
  rw [decode_eq] at h
  simp only at h
  split at h
  · split at h <;> cases h
  · split at h
    · cases h
      exact ⟨by simp only; omega, by simp, by simp, Or.inr rfl⟩
    · cases h
      constructor
      all_goals simp only [Nat.pow_eq]
      all_goals omega

/-- The machine reads a finite number as its parts say. -/
theorem unpack_of_decode {x : Binary64} {p : Parts} (h : x.decode = .finite p) :
    unpack Format.binary64 x.word = p.unpacked := by
  have hall : unpackExponent x.word = -1#_ ↔ (unpackExponent x.word).toNat = 2047 := by
    rw [← BitVec.toNat_inj]
    rfl
  have hnone : unpackExponent x.word = 0#_ ↔ (unpackExponent x.word).toNat = 0 := by
    rw [← BitVec.toNat_inj]
    rfl
  have hzero : unpackMantissa x.word = 0#_ ↔ (unpackMantissa x.word).toNat = 0 := by
    rw [← BitVec.toNat_inj]
    rfl
  rw [decode_eq] at h
  simp only [unpack, hall, hnone, hzero, ofBitVec_eq]
  simp only at h
  split at h
  · split at h <;> cases h
  rename_i hfinite
  rw [if_neg hfinite]
  split at h
  · rename_i hleast
    cases h
    rw [if_pos hleast]
    simp only [Parts.unpacked, Parts.sign, hleast]
    congr
  · rename_i hfull
    cases h
    have hpos : Nat.pow 2 52 + (unpackMantissa x.word).toNat ≠ 0 := by simp
    have hm : (1#1 ++ unpackMantissa x.word).toNat =
        Nat.pow 2 52 + (unpackMantissa x.word).toNat := by
      rw [BitVec.toNat_append, ← Nat.shiftLeft_add_eq_or_of_lt (unpackMantissa x.word).isLt]
      rfl
    rw [if_neg hfull]
    simp only [Parts.unpacked, Parts.sign, dif_neg hpos, hm]
    congr

/-- The machine writes parts that fit as a pattern that has them. -/
theorem decode_pack {p : Parts} (h : p.Fits) :
    decode ⟨UInt64.ofBitVec (pack Format.binary64 p.unpacked)⟩ = .finite p := by
  have hsign := p.negative_sign
  rcases p with ⟨negative, mantissa, exponent⟩
  obtain ⟨hlt, hle, hge, hfull⟩ := h
  simp only at hlt hle hge hfull
  by_cases hm : mantissa = 0
  · obtain rfl : exponent = -1074 := by omega
    simp only [Parts.unpacked, dif_pos hm, pack, packedZero]
    rw [decode_packComponents (by decide), if_pos (by rfl), hsign, hm]
    rfl
  have hbias : (exponent + (Format.binary64.exponentBias : Int) + (52 : Nat)).toNat =
      (exponent + 1075).toNat := by
    congr 1
    simp only [Format.exponentBias]
    omega
  simp only [Parts.unpacked, dif_neg hm, pack]
  rw [hbias, if_neg (by omega)]
  by_cases hnormal : 2 ^ 52 ≤ mantissa
  · have hlog : mantissa.log2 + 1 = Format.binary64.mantissaBits := by
      have hle : 52 ≤ mantissa.log2 := (Nat.le_log2 hm).2 hnormal
      have hlt : mantissa.log2 < 53 := (Nat.log2_lt hm).2 hlt
      simp only [Format.mantissaBits]
      omega
    have he : (BitVec.ofNat 11 (exponent + 1075).toNat).toNat = (exponent + 1075).toNat := by
      rw [BitVec.toNat_ofNat]
      omega
    have hfraction : Nat.pow 2 52 + (BitVec.ofNat 52 mantissa).toNat = mantissa := by
      rw [BitVec.toNat_ofNat, Nat.pow_eq]
      omega
    rw [if_pos hlog, decode_packComponents (by omega), if_neg (by omega), he, hsign, hfraction]
    congr
    omega
  · obtain rfl : exponent = -1074 := by omega
    have hlog : mantissa.log2 + 1 ≠ Format.binary64.mantissaBits := by
      have hlt : mantissa.log2 < 52 := (Nat.log2_lt hm).2 (by omega)
      simp only [Format.mantissaBits]
      omega
    have hfraction : (BitVec.ofNat 52 mantissa).toNat = mantissa := by
      rw [BitVec.toNat_ofNat]
      omega
    rw [if_neg hlog, decode_packComponents (by decide), if_pos (by rfl), hsign, hfraction]

/-- Parts beyond the greatest exponent are written as infinite. -/
theorem decode_pack_of_exponent {p : Parts} (hm : p.mantissa ≠ 0) (h : 972 ≤ p.exponent) :
    decode ⟨UInt64.ofBitVec (pack Format.binary64 p.unpacked)⟩ = .infinite p.negative := by
  have hbias : (Format.binary64.exponentBias : Int) = 1023 := rfl
  simp only [Parts.unpacked, dif_neg hm, pack]
  rw [if_pos (by omega), decode_eq, word_ofBitVec, packedInfinity]
  simp only [unpackExponent_packComponents, unpackMantissa_packComponents,
    unpackSign_packComponents, p.negative_sign]
  rfl

theorem unpack_pack {p : Parts} (h : p.Fits) :
    unpack Format.binary64 (pack Format.binary64 p.unpacked) = p.unpacked := by
  have hword := unpack_of_decode (decode_pack h)
  rwa [word_ofBitVec] at hword

/-- **A product of finite numbers is decided by their parts.** -/
theorem mul_eq {x y : Binary64} {p q : Parts} (hx : x.decode = .finite p)
    (hy : y.decode = .finite q) :
    x.mul y = ⟨UInt64.ofBitVec (pack Format.binary64
      (UnpackedFloat.mul Format.binary64 p.unpacked q.unpacked))⟩ := by
  have hfloat {x : Binary64} {p : Parts} (hx : x.decode = .finite p) :
      x.toFloat.toModel.unpack = p.unpacked := by
    have hmodel : x.toFloat.toModel.unpack =
        unpack Format.binary64 (pack Format.binary64 (unpack Format.binary64 x.word)) := rfl
    rw [hmodel, unpack_of_decode hx, unpack_pack (fits_of_decode hx)]
  rw [← hfloat hx, ← hfloat hy]
  rfl

end BlogGraph.Binary64
