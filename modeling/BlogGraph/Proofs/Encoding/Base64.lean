import BlogGraph.Encoding.Base64

/-!
# Base 64 without padding is lossless

The letters of a run of bytes tell how many bytes there are: a group of two letters stands for one
byte, a group of three for two, and padding would add nothing to that.  So the bytes can be read
back from the letters alone (`decode_encode`), and only letters of the alphabet occur
(`mem_encode`).
-/

namespace BlogGraph.Encoding.Base64

/-- The value of a letter of the alphabet. -/
def value (c : Char) : Nat := alphabet.idxOf c

/-- The bytes that letters stand for. -/
def decode : List Char → List Byte
  | a :: b :: c :: d :: rest =>
    let n := ((value a * 64 + value b) * 64 + value c) * 64 + value d
    UInt8.ofNat (n / 65536) :: UInt8.ofNat (n / 256) :: UInt8.ofNat n :: decode rest
  | [a, b, c] =>
    let n := (value a * 64 + value b) * 64 + value c
    [UInt8.ofNat (n / 1024), UInt8.ofNat (n / 4)]
  | [a, b] => [UInt8.ofNat ((value a * 64 + value b) / 16)]
  | _ => []

theorem value_letter {n : Nat} (h : n < 64) : value (letter n) = n := by
  have hall : ∀ n : Fin 64, value (letter n) = n := by decide +kernel
  exact hall ⟨n, h⟩

theorem isLetter_letter {n : Nat} (h : n < 64) :
    (letter n).isAlphanum ∨ letter n = '-' ∨ letter n = '_' := by
  have hall : ∀ n : Fin 64, (letter n).isAlphanum ∨ letter n = '-' ∨ letter n = '_' := by
    decide +kernel
  exact hall ⟨n, h⟩

/-- Letters, digits, hyphens and underscores are all that occurs. -/
theorem mem_encode {bytes : List Byte} {c : Char} (h : c ∈ encode bytes) :
    c.isAlphanum ∨ c = '-' ∨ c = '_' := by
  fun_induction encode bytes with
  | case1 => cases h
  | case2 a n =>
    have ha := a.toNat_lt
    simp only [List.mem_cons, List.not_mem_nil, or_false] at h
    rcases h with rfl | rfl <;> exact isLetter_letter (by omega)
  | case3 a b n =>
    have ha := a.toNat_lt
    have hb := b.toNat_lt
    simp only [List.mem_cons, List.not_mem_nil, or_false] at h
    rcases h with rfl | rfl | rfl <;> exact isLetter_letter (by omega)
  | case4 a b c rest n ih =>
    have ha := a.toNat_lt
    have hb := b.toNat_lt
    have hc := c.toNat_lt
    simp only [List.mem_cons] at h
    rcases h with rfl | rfl | rfl | rfl | h
    iterate 4 exact isLetter_letter (by omega)
    exact ih h

/-- Every three bytes take four letters, and a rest of one or two bytes takes one letter more than
it has bytes. -/
theorem length_encode (bytes : List Byte) :
    (encode bytes).length = (4 * bytes.length + 2) / 3 := by
  fun_induction encode bytes with
  | case1 => rfl
  | case2 => simp
  | case3 => simp
  | case4 a b c rest n ih =>
    simp only [List.length_cons, ih]
    omega

theorem ofNat_eq_of_toNat {b : Byte} {n : Nat} (h : n % 256 = b.toNat) : UInt8.ofNat n = b := by
  rw [← UInt8.toNat_inj]
  exact h

/-- **The bytes are read back from their letters.** -/
theorem decode_encode (bytes : List Byte) : decode (encode bytes) = bytes := by
  fun_induction encode bytes with
  | case1 => rfl
  | case2 a n =>
    have ha := a.toNat_lt
    have hn : value (letter (n / 64)) * 64 + value (letter (n % 64)) = n := by
      rw [value_letter (by omega), value_letter (by omega)]
      omega
    simp only [decode, hn]
    rw [ofNat_eq_of_toNat (b := a) (by omega)]
  | case3 a b n =>
    have ha := a.toNat_lt
    have hb := b.toNat_lt
    have hn : (value (letter (n / 4096)) * 64 + value (letter (n / 64 % 64))) * 64 +
        value (letter (n % 64)) = n := by
      rw [value_letter (by omega), value_letter (by omega), value_letter (by omega)]
      omega
    simp only [decode, hn]
    rw [ofNat_eq_of_toNat (b := a) (by omega), ofNat_eq_of_toNat (b := b) (by omega)]
  | case4 a b c rest n ih =>
    have ha := a.toNat_lt
    have hb := b.toNat_lt
    have hc := c.toNat_lt
    have hn : ((value (letter (n / 262144)) * 64 + value (letter (n / 4096 % 64))) * 64 +
        value (letter (n / 64 % 64))) * 64 + value (letter (n % 64)) = n := by
      rw [value_letter (by omega), value_letter (by omega), value_letter (by omega),
        value_letter (by omega)]
      omega
    simp only [decode, hn, ih]
    rw [ofNat_eq_of_toNat (b := a) (by omega), ofNat_eq_of_toNat (b := b) (by omega),
      ofNat_eq_of_toNat (b := c) (by omega)]

end BlogGraph.Encoding.Base64
