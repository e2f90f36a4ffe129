import BlogGraph.Log.RequestId
import BlogGraph.Proofs.Decimal.Nearest
import BlogGraph.Proofs.Encoding.Base64

/-!
# An identifier tells when it was made

The letters of an identifier are those of its bytes, eight bytes hold every microsecond that can
be written into them, and whatever follows is the random part.  So both can be read back, and two
identifiers agree only where both do.

The microsecond is taken from a clock that may be a floating point number.  Its product with a
million is rounded before it is cut off, which matters at one place: the number that stands for a
millionth of a second before zero is a little nearer to zero than that, and all the same it counts
as one microsecond before.

Main statements: `read_of_ok`, `Clock.microseconds_float`, `identifiers_are_lossless`.
-/

namespace BlogGraph.RequestId

open Encoding

/-! ## Bytes -/

/-- The number that bytes stand for, highest first. -/
def numberOf (bytes : List Byte) : Nat :=
  bytes.foldl (fun n b => n * 256 + b.toNat) 0

@[simp] theorem length_bytesOf (count n : Nat) : (bytesOf count n).length = count := by
  induction count generalizing n with
  | zero => rfl
  | succ count ih => simp [bytesOf, ih]

/-- Writing keeps the digits that there is room for. -/
theorem numberOf_bytesOf (count n : Nat) : numberOf (bytesOf count n) = n % 256 ^ count := by
  induction count generalizing n with
  | zero => simp [bytesOf, numberOf, Nat.mod_one]
  | succ count ih =>
    have hfold : numberOf (bytesOf (count + 1) n) =
        numberOf (bytesOf count (n / 256)) * 256 + n % 256 := by
      simp [bytesOf, numberOf]
    rw [hfold, ih, Nat.pow_succ', Nat.mod_mul]
    omega

/-! ## Reading an identifier -/

/-- The microsecond and the random bytes that an identifier was made of. -/
def read (id : String) : Int × List Byte :=
  let bytes := Base64.decode id.toList
  ((numberOf (bytes.take 8) : Nat), bytes.drop 8)

/-- What becomes of a microsecond and random bytes. -/
structure Lossless (t : Int) (random : List Byte) : Prop where
  negative : t < 0 → ofMicroseconds t random = .error .negativeTime
  tooLarge : 2 ^ 64 ≤ t → ofMicroseconds t random = .error .timeTooLarge
  made : 0 ≤ t → t < 2 ^ 64 → ∃ id, ofMicroseconds t random = .ok id ∧ read id = (t, random) ∧
    (∀ c ∈ id.toList, c.isAlphanum ∨ c = '-' ∨ c = '_') ∧ (random.length = 2 → id.length = 14)

theorem read_encode {t : Int} (h0 : 0 ≤ t) (ht : t < 2 ^ 64) (random : List Byte) :
    read (String.ofList (Base64.encode (bytesOf 8 t.natAbs ++ random))) = (t, random) := by
  have hnumber : numberOf (bytesOf 8 t.natAbs) = t.natAbs := by
    rw [numberOf_bytesOf]
    exact Nat.mod_eq_of_lt (by omega)
  have htake : (bytesOf 8 t.natAbs ++ random).take 8 = bytesOf 8 t.natAbs :=
    List.take_left' (length_bytesOf 8 _)
  have hdrop : (bytesOf 8 t.natAbs ++ random).drop 8 = random :=
    List.drop_left' (length_bytesOf 8 _)
  unfold read
  rw [String.toList_ofList, Base64.decode_encode]
  simp only [htake, hdrop, hnumber, Prod.mk.injEq, and_true]
  omega

theorem lossless (t : Int) (random : List Byte) : Lossless t random where
  negative h := by rw [ofMicroseconds, if_pos h]
  tooLarge h := by
    have hbound : t ≥ timeBound := h
    rw [ofMicroseconds, if_neg (by omega), if_pos hbound]
  made h0 ht := by
    have hbound : ¬t ≥ timeBound := Int.not_le.2 ht
    refine ⟨_, by rw [ofMicroseconds, if_neg (by omega), if_neg hbound], ?_, ?_, ?_⟩
    · exact read_encode h0 ht random
    · intro c hc
      rw [String.toList_ofList] at hc
      exact Base64.mem_encode hc
    · intro hr
      rw [String.length_ofList, Base64.length_encode, List.length_append, length_bytesOf, hr]

theorem read_of_ok {t : Int} {random : List Byte} {id : String}
    (h : ofMicroseconds t random = .ok id) : read id = (t, random) := by
  have hall := lossless t random
  by_cases h0 : t < 0
  · rw [hall.negative h0] at h
    cases h
  by_cases ht : 2 ^ 64 ≤ t
  · rw [hall.tooLarge ht] at h
    cases h
  obtain ⟨id', hid, hread, -⟩ := hall.made (by omega) (by omega)
  rw [hid] at h
  cases h
  exact hread

/-- Identifiers of different microseconds or random bytes are different. -/
theorem ofMicroseconds_injective {t t' : Int} {r r' : List Byte} {id : String}
    (h : ofMicroseconds t r = .ok id) (h' : ofMicroseconds t' r' = .ok id) : t = t' ∧ r = r' := by
  have heq : (t, r) = (t', r') := (read_of_ok h).symm.trans (read_of_ok h')
  exact Prod.mk.inj heq

/-! ## Clocks -/

open Binary64

/-- A million, as clocks are multiplied by it. -/
theorem decode_million : (ofInt 1000000).decode = .finite ⟨false, 0x1E848000000000, -33⟩ := by
  decide +kernel

theorem value_million : Parts.value ⟨false, 0x1E848000000000, -33⟩ = 1000000 := by
  norm_num [Parts.value]

theorem rounds_microseconds {x : Binary64} {p : Parts} (hx : x.decode = .finite p) :
    Rounds (x.mul (ofInt 1000000)) (p.value * 1000000) := by
  have h := rounds_mul hx decode_million
  rwa [value_million] at h

/-- A clock that shows a floating point number shows the whole part of a number nearest to the exact
product, if that is in range. -/
theorem Clock.microseconds_float {x : Binary64} {p : Parts} (hx : x.decode = .finite p) :
    (∃ (y : Binary64) (q : Parts), y.decode = .finite q ∧ y.Nearest (p.value * 1000000) ∧
      (Clock.float x).microseconds = .ok (towardZero q.value)) ∨
    2 ^ (1023 : Int) ≤ |p.value * 1000000| ∧
      (Clock.float x).microseconds = .error .infiniteTime := by
  rcases rounds_microseconds hx with hnear | ⟨⟨negative, hinf⟩, hlarge⟩
  · obtain ⟨q, hq, -⟩ := id hnear
    refine Or.inl ⟨_, q, hq, hnear, ?_⟩
    simp only [Clock.microseconds, hq, Parts.truncate_eq]
  · refine Or.inr ⟨hlarge, ?_⟩
    simp only [Clock.microseconds, hinf]

/-- The number that stands for a millionth of a second before zero. -/
def before : Binary64 := ofDecimal true 1 (-6)

theorem decode_before : before.decode = .finite ⟨true, 4722366482869645, -72⟩ := by
  decide +kernel

theorem nearest_before : before.Nearest (-1 / 1000000) := by
  refine ⟨_, decode_before, fun y q hq => ?_⟩
  have hvalue : Parts.value ⟨true, 4722366482869645, -72⟩ =
      ((-4722366482869645 : Int) : ℚ) * 2 ^ (-72 : Int) := by
    norm_num [Parts.value]
  rw [hvalue]
  refine abs_sub_le_of_fits ?_ (Or.inr ?_) (fits_of_decode hq)
  · rw [abs_le]
    norm_num
  · rw [abs_of_neg (by norm_num)]
    norm_num

/-- A number between it and zero is a whole unit nearer to zero. -/
theorem le_value_of_before_lt {p : Parts} (hp : p.Fits)
    (hlow : Parts.value ⟨true, 4722366482869645, -72⟩ < p.value) (hneg : p.value < 0) :
    -(4722366482869644 * 2 ^ (-72 : Int)) ≤ p.value := by
  have hsize : p.value = -(p.mantissa * 2 ^ p.exponent) := by
    rw [← p.abs_value, abs_of_neg hneg, neg_neg]
  have hlow : (p.mantissa * 2 ^ p.exponent : ℚ) < 4722366482869645 * 2 ^ (-72 : Int) := by
    rw [hsize, Parts.value, factor_true, neg_one_mul, neg_mul, neg_lt_neg_iff] at hlow
    exact_mod_cast hlow
  rw [hsize, neg_le_neg_iff]
  by_cases he : -72 ≤ p.exponent
  · obtain ⟨n, hn⟩ := Int.le.dest he
    have hwhole : (p.mantissa * 2 ^ p.exponent : ℚ) =
        (p.mantissa * 2 ^ n : Nat) * 2 ^ (-72 : Int) := by
      rw [← hn, zpow_add₀ (by norm_num), zpow_natCast]
      push_cast
      ring
    rw [hwhole] at hlow ⊢
    have hlt : p.mantissa * 2 ^ n < 4722366482869645 := by
      exact_mod_cast lt_of_mul_lt_mul_right hlow (by positivity)
    have hle : ((p.mantissa * 2 ^ n : Nat) : ℚ) ≤ 4722366482869644 := by
      exact_mod_cast Nat.le_of_lt_succ hlt
    gcongr
  · have hm : (p.mantissa : ℚ) ≤ 2 ^ 53 := by exact_mod_cast hp.mantissa_lt.le
    have he : (2 : ℚ) ^ p.exponent ≤ 2 ^ (-73 : Int) :=
      zpow_le_zpow_right₀ (by norm_num) (by omega)
    calc
      (p.mantissa * 2 ^ p.exponent : ℚ) ≤ 2 ^ 53 * 2 ^ (-73 : Int) := by gcongr
      _ ≤ 4722366482869644 * 2 ^ (-72 : Int) := by norm_num

/-- A number nearest to one that is not near minus one does not reach it. -/
theorem towardZero_of_nearest {y : Binary64} {q : Parts} {v : ℚ} (hq : y.decode = .finite q)
    (hnear : y.Nearest v) (hlow : -(1 - 2 ^ (-53 : Int)) ≤ v) (hneg : v < 0) :
    towardZero q.value = 0 := by
  obtain ⟨q', hq', hleast⟩ := hnear
  obtain rfl : q' = q := by rw [hq] at hq'; cases hq'; rfl
  have hone := hleast ⟨0xBFEFFFFFFFFFFFFF⟩ ⟨true, 9007199254740991, -53⟩ (by decide +kernel)
  have hzero := hleast ⟨0⟩ ⟨false, 0, -1074⟩ (by decide +kernel)
  have hvalueOne : Parts.value ⟨true, 9007199254740991, -53⟩ = -(1 - 2 ^ (-53 : Int)) := by
    norm_num [Parts.value]
  have hvalueZero : Parts.value ⟨false, 0, -1074⟩ = 0 := by
    norm_num [Parts.value]
  have hpos : (0 : ℚ) < 2 ^ (-53 : Int) := by positivity
  rw [hvalueOne, abs_of_nonneg (by linarith : 0 ≤ v - -(1 - 2 ^ (-53 : Int)))] at hone
  rw [hvalueZero, sub_zero, abs_of_neg hneg] at hzero
  have hlower : -1 < q'.value := by
    have := (abs_le.1 hone).2
    linarith
  have hupper : q'.value ≤ 0 := by
    have := (abs_le.1 hzero).1
    linarith
  unfold towardZero
  split
  · exact Int.ceil_eq_iff.2 ⟨by simpa using hlower, by simpa using hupper⟩
  · have hvalue : q'.value = 0 := by linarith
    rw [hvalue, Int.floor_zero]

theorem Clock.microseconds_of_before_lt {x : Binary64} {p q : Parts} (hx : x.decode = .finite p)
    (hq : before.decode = .finite q) (hlow : q.value < p.value) (hneg : p.value < 0) :
    (Clock.float x).microseconds = .ok 0 := by
  rw [decode_before] at hq
  cases hq
  have hle := le_value_of_before_lt (fits_of_decode hx) hlow hneg
  have hunit : -(1 - 2 ^ (-53 : Int)) ≤ -(4722366482869644 * 2 ^ (-72 : Int)) * (1000000 : ℚ) := by
    norm_num
  have hv : -(1 - 2 ^ (-53 : Int)) ≤ p.value * 1000000 := by linarith
  rcases Clock.microseconds_float hx with ⟨y, q, hy, hnear, hok⟩ | ⟨hlarge, -⟩
  · rw [hok, towardZero_of_nearest hy hnear hv (by linarith)]
  · have hpos : (0 : ℚ) < 2 ^ (-53 : Int) := by positivity
    have hsmall : |p.value * 1000000| ≤ 1 := abs_le.2 ⟨by linarith, by linarith⟩
    have htwo : (1 : ℚ) < 2 ^ (1023 : Int) := one_lt_zpow₀ (by norm_num) (by norm_num)
    exact absurd (hlarge.trans hsmall) (not_le.2 htwo)

/-- A clock shows the microsecond of its time, cut off toward zero. -/
structure Clock.Cuts (clock : Clock) : Prop where
  whole : ∀ s, clock = .whole s → clock.microseconds = .ok (s * 1000000)
  float : ∀ x p, clock = .float x → x.decode = .finite p →
    (∃ (y : Binary64) (q : Parts), y.decode = .finite q ∧ y.Nearest (p.value * 1000000) ∧
      clock.microseconds = .ok (towardZero q.value)) ∨
    2 ^ (1023 : Int) ≤ |p.value * 1000000| ∧ clock.microseconds = .error .infiniteTime
  beforeZero : ∀ x p q, clock = .float x → x.decode = .finite p → before.decode = .finite q →
    q.value < p.value → p.value < 0 → clock.microseconds = .ok 0

theorem Clock.cuts (clock : Clock) : clock.Cuts where
  whole s h := by
    subst h
    rfl
  float x p h hx := by
    subst h
    exact microseconds_float hx
  beforeZero x p q h hx hq hlow hneg := by
    subst h
    exact microseconds_of_before_lt hx hq hlow hneg

/-- Two random bytes at most are all used. -/
theorem make_eq (clock : Clock) {random : List Byte} (h : random.length ≤ 2) :
    make clock random = clock.microseconds >>= fun time => ofMicroseconds time random := by
  unfold make
  rw [List.take_of_length_le h]
  cases clock.microseconds <;> rfl

/-- **An identifier is the microsecond of its clock and its random bytes, and nothing is lost of
either.**  It is refused exactly before zero and from `2 ^ 64` on; the microsecond is the product
as a clock computes it, without its fraction, so no time after the floating point number for a
millionth of a second before zero is refused. -/
theorem identifiers_are_lossless :
    (∀ (clock : Clock) (random : List Byte), random.length ≤ 2 →
      make clock random = clock.microseconds >>= fun time => ofMicroseconds time random) ∧
    (∀ clock : Clock, clock.Cuts) ∧
    (∀ (time : Int) (random : List Byte), Lossless time random) ∧
    (∀ (time time' : Int) (random random' : List Byte) (id : String),
      ofMicroseconds time random = .ok id → ofMicroseconds time' random' = .ok id →
      time = time' ∧ random = random') ∧
    before.Nearest (-1 / 1000000) :=
  ⟨fun clock _ h => make_eq clock h, Clock.cuts, lossless,
    fun _ _ _ _ _ h h' => ofMicroseconds_injective h h', nearest_before⟩

/-- The number next to a millionth of a second before zero lies after it, but is refused. -/
theorem before_is_refused :
    (∃ p, before.decode = .finite p ∧ -1 / 1000000 < p.value ∧ p.value < 0 ∧
      towardZero (p.value * 1000000) = 0) ∧
    make (.float before) [0, 1] = .error .negativeTime := by
  refine ⟨⟨_, decode_before, ?_, ?_, ?_⟩, by decide +kernel⟩
  · norm_num [Parts.value]
  · norm_num [Parts.value]
  · norm_num [Parts.value, towardZero]

end BlogGraph.RequestId
