import BlogGraph.Encoding.Detect

/-!
# Reading back what was written in UTF-8

A character is written with a leading byte, which says how many bytes follow and between which
bounds the first of them lies, and with six bits in each of the others.  No bound cuts off a
character: a byte below the bound would begin a longer form than needed, one above it half of a
surrogate pair or a number beyond the last character.  So the first step of reading takes what was
written for the first character (`step_encodeChar`), and the text comes back.

The encoding of a document is not named, but guessed from its first bytes.  A document that starts
with two characters of ASCII is read in UTF-8.

Main statements:

* `Utf8.encodeChar_eq_utf8EncodeChar`: the bytes are those of the standard library;
* `Utf8.decode_encode`, `Utf8.decodeLossy_encode`: strict reading, and reading that replaces what is
  faulty;
* `decodeDocument_encode`: reading a document.
-/

namespace BlogGraph.Encoding

variable {bytes : List Byte}

theorem toNat_byte {n : Nat} (hn : n < 256) : (UInt8.ofNat n).toNat = n :=
  UInt8.toNat_ofNat_of_lt' hn

namespace Utf8

variable {loneHalves : Bool} {b : Byte} {low high n fitting count : Nat} {rest : List Byte}

/-! ## One character -/

/-- The numbers that characters have. -/
theorem toNat_cases (c : Char) : c.toNat < 0xD800 ∨ (0xDFFF < c.toNat ∧ c.toNat < 0x110000) :=
  c.valid

theorem charOfPoint_toNat (c : Char) : charOfPoint c.toNat = c := by
  rw [charOfPoint, if_neg, Char.ofNat_toNat]
  simp only [Bool.and_eq_true, decide_eq_true_eq]
  have hpoint := toNat_cases c
  omega

/-- A following byte within its bounds adds six bits. -/
theorem readTail_part (hlow : low ≤ 0x80 + n) (hhigh : 0x80 + n ≤ high) (hn : n < 64) {bits : Nat} :
    readTail low high bits fitting (count + 1) (UInt8.ofNat (0x80 + n) :: rest) =
      readTail 0x80 0xBF (bits * 64 + n) (fitting + 1) count rest := by
  have hbyte : (UInt8.ofNat (0x80 + n)).toNat = 0x80 + n :=
    toNat_byte (by omega)
  have hwithin : (low ≤ 0x80 + n && 0x80 + n ≤ high) = true := by
    rw [decide_eq_true hlow, decide_eq_true hhigh]
    rfl
  rw [readTail, hbyte, if_pos hwithin, Nat.add_sub_cancel_left]

theorem step_eq_char {bits : Nat} {rest' : List Byte} {c : Char}
    (hlead : lead? loneHalves b = some ⟨count, low, high, bits⟩)
    (htail : readTail low high bits 0 count rest = .point c.toNat rest') :
    step loneHalves b rest = .char c rest' := by
  rw [step, hlead]
  simp only [htail, charOfPoint_toNat]

/-- What announces two bytes. -/
theorem lead?_two (hn : 0x80 ≤ n ∧ n < 0x800) :
    lead? loneHalves (UInt8.ofNat (0xC0 + n / 64)) = some ⟨1, 0x80, 0xBF, n / 64⟩ := by
  have hbyte : (UInt8.ofNat (0xC0 + n / 64)).toNat = 0xC0 + n / 64 :=
    toNat_byte (by omega)
  simp only [lead?, hbyte]
  rw [if_neg (by omega), if_neg (by omega), if_pos (by omega), Nat.add_sub_cancel_left]

/-- What announces three bytes lets the second of them through. -/
theorem lead?_three (loneHalves : Bool) (hn : 0x800 ≤ n ∧ n < 0x10000)
    (hhalf : n < 0xD800 ∨ 0xDFFF < n) :
    ∃ low high, lead? loneHalves (UInt8.ofNat (0xE0 + n / 4096)) =
        some ⟨2, low, high, n / 4096⟩ ∧
      low ≤ 0x80 + n / 64 % 64 ∧ 0x80 + n / 64 % 64 ≤ high := by
  have hbyte : (UInt8.ofNat (0xE0 + n / 4096)).toNat = 0xE0 + n / 4096 :=
    toNat_byte (by omega)
  simp only [lead?, hbyte]
  rw [if_neg (by omega), if_neg (by omega), if_neg (by omega)]
  by_cases hfirst : n / 4096 = 0
  · exact ⟨0xA0, 0xBF, by rw [if_pos (by omega), hfirst], by omega, by omega⟩
  by_cases hhalves : n / 4096 = 13
  · -- the halves of surrogate pairs are the second part of this range
    refine ⟨0x80, if loneHalves then 0xBF else 0x9F, ?_, by omega, by split <;> omega⟩
    rw [if_neg (by omega), if_pos (by omega), hhalves]
  · refine ⟨0x80, 0xBF, ?_, by omega, by omega⟩
    rw [if_neg (by omega), if_neg (by omega), if_pos (by omega), Nat.add_sub_cancel_left]

/-- What announces four bytes lets the second of them through. -/
theorem lead?_four (loneHalves : Bool) (hn : 0x10000 ≤ n ∧ n < 0x110000) :
    ∃ low high, lead? loneHalves (UInt8.ofNat (0xF0 + n / 262144)) =
        some ⟨3, low, high, n / 262144⟩ ∧
      low ≤ 0x80 + n / 4096 % 64 ∧ 0x80 + n / 4096 % 64 ≤ high := by
  have hbyte : (UInt8.ofNat (0xF0 + n / 262144)).toNat = 0xF0 + n / 262144 :=
    toNat_byte (by omega)
  simp only [lead?, hbyte]
  rw [if_neg (by omega), if_neg (by omega), if_neg (by omega), if_neg (by omega),
    if_neg (by omega), if_neg (by omega)]
  by_cases hfirst : n / 262144 = 0
  · exact ⟨0x90, 0xBF, by rw [if_pos (by omega), hfirst], by omega, by omega⟩
  by_cases hlast : n / 262144 = 4
  · refine ⟨0x80, 0x8F, ?_, by omega, by omega⟩
    rw [if_neg (by omega), if_neg (by omega), if_pos (by omega), hlast]
  · refine ⟨0x80, 0xBF, ?_, by omega, by omega⟩
    rw [if_neg (by omega), if_pos (by omega), Nat.add_sub_cancel_left]

/-! What is written for a character, by the number of bytes that it takes. -/

theorem encodeChar_one {c : Char} (h : c.toNat < 0x80) : encodeChar c = [UInt8.ofNat c.toNat] := by
  rw [encodeChar, if_pos h]

theorem encodeChar_two {c : Char} (h : 0x80 ≤ c.toNat ∧ c.toNat < 0x800) :
    encodeChar c =
      [UInt8.ofNat (0xC0 + c.toNat / 64), UInt8.ofNat (0x80 + c.toNat % 64)] := by
  have hshift : Nat.pow 2 0 = 1 := rfl
  rw [encodeChar, if_neg (by omega), if_pos h.2]
  simp only [hshift, Nat.div_one]

theorem encodeChar_three {c : Char} (h : 0x800 ≤ c.toNat ∧ c.toNat < 0x10000) :
    encodeChar c =
      [UInt8.ofNat (0xE0 + c.toNat / 4096), UInt8.ofNat (0x80 + c.toNat / 64 % 64),
        UInt8.ofNat (0x80 + c.toNat % 64)] := by
  have hshift : Nat.pow 2 0 = 1 ∧ Nat.pow 2 6 = 64 := ⟨rfl, rfl⟩
  rw [encodeChar, if_neg (by omega), if_neg (by omega), if_pos h.2]
  simp only [hshift, Nat.div_one]

theorem encodeChar_four {c : Char} (h : 0x10000 ≤ c.toNat) :
    encodeChar c =
      [UInt8.ofNat (0xF0 + c.toNat / 262144), UInt8.ofNat (0x80 + c.toNat / 4096 % 64),
        UInt8.ofNat (0x80 + c.toNat / 64 % 64), UInt8.ofNat (0x80 + c.toNat % 64)] := by
  have hshift : Nat.pow 2 0 = 1 ∧ Nat.pow 2 6 = 64 ∧ Nat.pow 2 12 = 4096 := ⟨rfl, rfl, rfl⟩
  rw [encodeChar, if_neg (by omega), if_neg (by omega), if_neg (by omega)]
  simp only [hshift, Nat.div_one]

/-- **The bytes of a character** are those that the standard library gives it. -/
theorem encodeChar_eq_utf8EncodeChar (c : Char) : encodeChar c = String.utf8EncodeChar c := by
  have hpoint := toNat_cases c
  have hvalue : c.val.toNat = c.toNat := rfl
  have hlast : c.toNat % 64 + 128 = 0x80 + c.toNat % 64 := Nat.add_comm _ _
  have hmiddle : c.toNat / 64 % 64 + 128 = 0x80 + c.toNat / 64 % 64 := Nat.add_comm _ _
  have hsecond : c.toNat / 4096 % 64 + 128 = 0x80 + c.toNat / 4096 % 64 := Nat.add_comm _ _
  unfold String.utf8EncodeChar
  simp only [hvalue, hlast, hmiddle, hsecond]
  split
  · exact encodeChar_one (by omega)
  split
  · have hlead : c.toNat / 64 % 32 + 192 = 0xC0 + c.toNat / 64 := by omega
    rw [encodeChar_two (by omega), hlead]
  split
  · have hlead : c.toNat / 4096 % 16 + 224 = 0xE0 + c.toNat / 4096 := by omega
    rw [encodeChar_three (by omega), hlead]
  · have hlead : c.toNat / 262144 % 8 + 240 = 0xF0 + c.toNat / 262144 := by omega
    rw [encodeChar_four (by omega), hlead]

/-- **The first step of reading** takes what was written for the first character, and that only. -/
theorem step_encodeChar (loneHalves : Bool) (c : Char) :
    ∃ b following, encodeChar c = b :: following ∧
      ∀ rest, step loneHalves b (following ++ rest) = .char c rest := by
  have hpoint := toNat_cases c
  by_cases hone : c.toNat < 0x80
  · refine ⟨_, [], encodeChar_one hone, fun rest => ?_⟩
    have hbyte : (UInt8.ofNat c.toNat).toNat = c.toNat :=
      toNat_byte (by omega)
    have hlead : lead? loneHalves (UInt8.ofNat c.toNat) = some ⟨0, 0x80, 0xBF, c.toNat⟩ := by
      simp only [lead?, hbyte, if_pos hone]
    exact step_eq_char hlead rfl
  by_cases htwo : c.toNat < 0x800
  · refine ⟨_, _, encodeChar_two (by omega), fun rest => step_eq_char (lead?_two (by omega)) ?_⟩
    rw [List.cons_append, readTail_part (by omega) (by omega) (by omega), List.nil_append, readTail]
    congr 1
    omega
  by_cases hthree : c.toNat < 0x10000
  · obtain ⟨low, high, hlead, hlow, hhigh⟩ :=
      lead?_three loneHalves (n := c.toNat) (by omega) (by omega)
    refine ⟨_, _, encodeChar_three (by omega), fun rest => step_eq_char hlead ?_⟩
    rw [List.cons_append, List.cons_append, readTail_part hlow hhigh (by omega),
      readTail_part (by omega) (by omega) (by omega), List.nil_append, readTail]
    congr 1
    omega
  · obtain ⟨low, high, hlead, hlow, hhigh⟩ :=
      lead?_four loneHalves (n := c.toNat) (by omega)
    refine ⟨_, _, encodeChar_four (by omega), fun rest => step_eq_char hlead ?_⟩
    rw [List.cons_append, List.cons_append, List.cons_append, readTail_part hlow hhigh (by omega),
      readTail_part (by omega) (by omega) (by omega),
      readTail_part (by omega) (by omega) (by omega), List.nil_append, readTail]
    congr 1
    omega

/-! ## A whole text -/

theorem encode_cons (c : Char) (cs : List Char) : encode (c :: cs) = encodeChar c ++ encode cs :=
  List.flatMap_cons ..

theorem decodeFrom_encode (size : Nat) (cs acc : List Char) {fuel : Nat}
    (hfuel : (encode cs).length ≤ fuel) :
    decodeFrom size acc fuel (encode cs) = .ok (acc.reverse ++ cs) := by
  induction cs generalizing acc fuel with
  | nil => cases fuel <;> simp [decodeFrom, encode]
  | cons c cs ih =>
    obtain ⟨b, following, hchar, hstep⟩ := step_encodeChar true c
    rw [encode_cons, hchar, List.cons_append] at hfuel ⊢
    rw [List.length_cons, List.length_append] at hfuel
    obtain ⟨fuel, rfl⟩ : ∃ left, fuel = left + 1 := ⟨fuel - 1, by omega⟩
    rw [decodeFrom, hstep]
    simp only
    rw [ih _ (by omega), List.reverse_cons, List.append_assoc, List.singleton_append]

/-- **Strict reading** gives the text that was written. -/
theorem decode_encode (cs : List Char) : decode (encode cs) = .ok cs :=
  decodeFrom_encode _ cs [] (Nat.le_refl _)

theorem decodeLossyFrom_encode (cs acc : List Char) {fuel : Nat}
    (hfuel : (encode cs).length ≤ fuel) :
    decodeLossyFrom acc fuel (encode cs) = acc.reverse ++ cs := by
  induction cs generalizing acc fuel with
  | nil => cases fuel <;> simp [decodeLossyFrom, encode]
  | cons c cs ih =>
    obtain ⟨b, following, hchar, hstep⟩ := step_encodeChar false c
    rw [encode_cons, hchar, List.cons_append] at hfuel ⊢
    rw [List.length_cons, List.length_append] at hfuel
    obtain ⟨fuel, rfl⟩ : ∃ left, fuel = left + 1 := ⟨fuel - 1, by omega⟩
    rw [decodeLossyFrom, hstep]
    simp only
    rw [ih _ (by omega), List.reverse_cons, List.append_assoc, List.singleton_append]

/-- **Reading that replaces what is faulty** finds nothing to replace. -/
theorem decodeLossy_encode (cs : List Char) : decodeLossy (encode cs) = cs :=
  decodeLossyFrom_encode cs [] (Nat.le_refl _)

/-! ## Plain text -/

/-- A character of ASCII is the one byte of its number. -/
theorem encode_of_ascii {cs : List Char} (h : ∀ c ∈ cs, c.toNat < 0x80) :
    encode cs = cs.map fun c => UInt8.ofNat c.toNat := by
  induction cs with
  | nil => rfl
  | cons c cs ih =>
    obtain ⟨hc, hcs⟩ := List.forall_mem_cons.1 h
    rw [encode_cons, encodeChar_one hc, ih hcs, List.singleton_append, List.map_cons]

end Utf8

/-- The text of bytes that stand for one plain character each. -/
def plainText (bytes : List Byte) : List Char := bytes.map fun b => Char.ofNat b.toNat

theorem plainText_encode {cs : List Char} (h : ∀ c ∈ cs, c.toNat < 0x80) :
    plainText (Utf8.encode cs) = cs := by
  rw [Utf8.encode_of_ascii h, plainText, List.map_map]
  refine (List.map_congr_left fun c hc => ?_).trans (List.map_id cs)
  have hbyte : (UInt8.ofNat c.toNat).toNat = c.toNat :=
    toNat_byte (Nat.lt_trans (h c hc) (by decide))
  rw [Function.comp_apply, hbyte, Char.ofNat_toNat, id]

theorem encode_plainText (h : ∀ b ∈ bytes, b.toNat < 0x80) :
    Utf8.encode (plainText bytes) = bytes := by
  have hpoint {b : Byte} (hb : b.toNat < 0x80) : (Char.ofNat b.toNat).toNat = b.toNat := by
    have hvalid : b.toNat.isValidChar := Or.inl (by omega)
    rw [Char.ofNat, dif_pos hvalid]
    rfl
  rw [Utf8.encode_of_ascii, plainText, List.map_map]
  · refine (List.map_congr_left fun b hb => ?_).trans (List.map_id bytes)
    rw [Function.comp_apply, hpoint (h b hb), UInt8.ofNat_toNat, id]
  · intro c hc
    obtain ⟨b, hb, rfl⟩ := List.mem_map.1 hc
    rw [hpoint (h b hb)]
    exact h b hb

/-! ## Documents -/

/-- No byte order mark starts with a plain character that is no zero. -/
theorem markedForm?_of_plain {a : Byte} (ha : a ≠ 0 ∧ a.toNat < 0x80) (rest : List Byte) :
    markedForm? (a :: rest) = none := by
  obtain ⟨hzero, hhigh⟩ := ha
  have hfirst {m : Byte} (hm : m = 0 ∨ 0x80 ≤ m.toNat) : (m == a) = false := by
    rw [beq_eq_false_iff_ne]
    rintro rfl
    rcases hm with rfl | hm
    · exact hzero rfl
    · omega
  have hnoPrefix {m : Byte} {others : List Byte} (hm : m = 0 ∨ 0x80 ≤ m.toNat) :
      (m :: others).isPrefixOf (a :: rest) = false := by
    rw [List.isPrefixOf_cons_cons, hfirst hm, Bool.false_and]
  simp only [markedForm?, hnoPrefix (Or.inl rfl),
    hnoPrefix (Or.inr (show 0x80 ≤ (0xFF : Byte).toNat by decide)),
    hnoPrefix (Or.inr (show 0x80 ≤ (0xFE : Byte).toNat by decide)),
    hnoPrefix (Or.inr (show 0x80 ≤ (0xEF : Byte).toNat by decide)), Bool.false_eq_true, if_false]

/-- A plain character and another byte, neither of them zero, show the common encoding. -/
theorem form_of_plain {a b : Byte} (ha : a ≠ 0 ∧ a.toNat < 0x80) (hb : b ≠ 0) (rest : List Byte) :
    form (a :: b :: rest) = .utf8 := by
  rw [form, markedForm?_of_plain ha, Option.getD_none, plainForm.eq_def]
  split
  · next heq =>
    obtain ⟨rfl, rfl, -⟩ : _ = a ∧ _ = b ∧ _ := by simpa using heq.symm
    rw [if_neg ha.1, if_neg hb]
  · next heq =>
    obtain ⟨rfl, rfl, -⟩ : _ = a ∧ _ = b ∧ _ := by simpa using heq.symm
    rw [if_neg ha.1, if_neg hb]
  · rfl

/-- **A document** that starts with two characters of ASCII, neither of them zero, is read as it was
written. -/
theorem decodeDocument_encode {c d : Char} (hc : c.toNat ≠ 0 ∧ c.toNat < 0x80)
    (hd : d.toNat ≠ 0 ∧ d.toNat < 0x80) (cs : List Char) :
    decodeDocument (Utf8.encode (c :: d :: cs)) = .ok (c :: d :: cs) := by
  have hplain {c : Char} (hc : c.toNat ≠ 0 ∧ c.toNat < 0x80) :
      UInt8.ofNat c.toNat ≠ 0 ∧ (UInt8.ofNat c.toNat).toNat < 0x80 := by
    have hbyte : (UInt8.ofNat c.toNat).toNat = c.toNat :=
      toNat_byte (by omega)
    refine ⟨fun hzero => hc.1 ?_, by rw [hbyte]; exact hc.2⟩
    rw [← hbyte, hzero]
    rfl
  have hform : form (Utf8.encode (c :: d :: cs)) = .utf8 := by
    rw [Utf8.encode_cons, Utf8.encode_cons, Utf8.encodeChar_one hc.2, Utf8.encodeChar_one hd.2]
    exact form_of_plain (hplain hc) (hplain hd).1 _
  rw [decodeDocument, hform]
  exact Utf8.decode_encode _

/-- Plain characters without zeros are read as they are. -/
theorem decodeDocument_plain (hplain : ∀ b ∈ bytes, b ≠ 0 ∧ b.toNat < 0x80) :
    decodeDocument bytes = .ok (plainText bytes) := by
  have hform : form bytes = .utf8 := by
    match bytes, hplain with
    | [], _ => rfl
    | [a], h => rw [form, markedForm?_of_plain (h a (by simp))]; rfl
    | a :: b :: rest, h => exact form_of_plain (h a (by simp)) (h b (by simp)).1 rest
  have htext := Utf8.decode_encode (plainText bytes)
  rw [encode_plainText fun b hb => (hplain b hb).2] at htext
  rw [decodeDocument, hform]
  exact htext

end BlogGraph.Encoding
