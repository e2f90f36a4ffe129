import BlogGraph.Http.Url
import BlogGraph.Proofs.Encoding.Utf8
import BlogGraph.Proofs.Text.Hex
import Mathlib.Data.List.Forall2

/-!
# Reading the parameters of a query

A text can be written in the query of an address in many ways.  A character of ASCII may stand for
itself if it has no meaning there, a blank may be a plus sign, and every character may be written
byte for byte, with percent signs and digits that are capital or small.  Names and values end where
a sign stands that is reserved, so such a sign is never written as it is.

However a text is written, reading gives it back (`parameterPart_of_written`), and parameters that
are written one after the other come back in their order, repeated names and empty values included
(`allParameters_of_written`).
-/

namespace BlogGraph.Url

open Encoding Text

variable {reserved text cs es : List Char} {bytes pending : List Byte} {c d : Char}

/-! ## Ways of writing -/

/-- The bytes stand as percent signs with two digits each. -/
inductive Escaped : List Byte → List Char → Prop
  | nil : Escaped [] []
  | cons {b : Byte} {x y : Char} {bytes : List Byte} {es : List Char}
      (hdigits : hexNumber? [x, y] = some b.toNat) (h : Escaped bytes es) :
      Escaped (b :: bytes) ('%' :: x :: y :: es)

/-- The text is written where signs are reserved. -/
inductive Written (reserved : List Char) : List Char → List Char → Prop
  | nil : Written reserved [] []
  | plain {c : Char} {text cs : List Char} (hascii : c.toNat < 0x80)
      (hfree : c ≠ '%' ∧ c ≠ '+' ∧ c ∉ reserved) (h : Written reserved text cs) :
      Written reserved (c :: text) (c :: cs)
  | blank {text cs : List Char} (h : Written reserved text cs) :
      Written reserved (' ' :: text) ('+' :: cs)
  | escaped {c : Char} {text es cs : List Char} (hbytes : Escaped (Utf8.encodeChar c) es)
      (h : Written reserved text cs) : Written reserved (c :: text) (es ++ cs)

/-- The signs at which the name of a parameter ends. -/
def endsOfName : List Char := ['&', '=']

/-- The sign at which the value of a parameter ends. -/
def endsOfValue : List Char := ['&']

/-- The parameter is written with its value, or without it and its sign if the value is empty and
the name is not. -/
inductive WrittenParameter : String × String → List Char → Prop
  | full {name value : String} {n v : List Char} (hname : Written endsOfName name.toList n)
      (hvalue : Written endsOfValue value.toList v) :
      WrittenParameter (name, value) (n ++ '=' :: v)
  | bare {name : String} {n : List Char} (hname : Written endsOfName name.toList n)
      (hne : n ≠ []) : WrittenParameter (name, "") n

/-- The parameters are written in this order. -/
def WrittenQuery (parameters : List (String × String)) (cs : List Char) : Prop :=
  ∃ ps, List.Forall₂ WrittenParameter parameters ps ∧ cs = joined '&' ps

/-- The sign means nothing in a query. -/
def isPlain (reserved : List Char) (c : Char) : Bool :=
  c.toNat < 0x80 && c ≠ '%' && c ≠ '+' && !reserved.contains c

/-- Signs that mean nothing in a query may stand for themselves. -/
theorem Written.of_plain (h : text.all (isPlain reserved) = true) :
    Written reserved text text := by
  induction text with
  | nil => exact .nil
  | cons c text ih =>
    obtain ⟨hc, htext⟩ : isPlain reserved c = true ∧ text.all (isPlain reserved) = true := by
      simpa using h
    simp only [isPlain, Bool.and_eq_true, decide_eq_true_eq, Bool.not_eq_true',
      List.contains_eq_mem, decide_eq_false_iff_not] at hc
    obtain ⟨⟨⟨hascii, hpercent⟩, hplus⟩, hreserved⟩ := hc
    exact .plain hascii ⟨hpercent, hplus, hreserved⟩ (ih htext)

theorem Written.append {text' cs' : List Char} (h : Written reserved text cs)
    (h' : Written reserved text' cs') : Written reserved (text ++ text') (cs ++ cs') := by
  induction h with
  | nil => exact h'
  | plain hascii hfree h ih => exact .plain hascii hfree ih
  | blank h ih => exact .blank ih
  | escaped hbytes h ih =>
    rw [List.append_assoc]
    exact .escaped hbytes ih

theorem exists_escaped (bytes : List Byte) : ∃ es, Escaped bytes es := by
  induction bytes with
  | nil => exact ⟨[], .nil⟩
  | cons b bytes ih =>
    obtain ⟨es, hes⟩ := ih
    have hdigits : hexNumber? (hexFixed 2 b.toNat) = some b.toNat := hexNumber?_hexFixed b.toNat_lt
    exact ⟨_, .cons hdigits hes⟩

theorem exists_written (reserved text : List Char) : ∃ cs, Written reserved text cs := by
  induction text with
  | nil => exact ⟨[], .nil⟩
  | cons c text ih =>
    obtain ⟨cs, hcs⟩ := ih
    obtain ⟨es, hes⟩ := exists_escaped (Utf8.encodeChar c)
    exact ⟨es ++ cs, .escaped hes hcs⟩

/-- Whatever the parameters, there is a query in which they are written. -/
theorem exists_writtenQuery (parameters : List (String × String)) :
    ∃ cs, WrittenQuery parameters cs := by
  have hps : ∃ ps, List.Forall₂ WrittenParameter parameters ps := by
    induction parameters with
    | nil => exact ⟨[], .nil⟩
    | cons p parameters ih =>
      obtain ⟨ps, hps⟩ := ih
      obtain ⟨n, hn⟩ := exists_written endsOfName p.1.toList
      obtain ⟨v, hv⟩ := exists_written endsOfValue p.2.toList
      exact ⟨_, .cons (.full hn hv) hps⟩
  obtain ⟨ps, hps⟩ := hps
  exact ⟨joined '&' ps, ps, hps, rfl⟩

/-! ## Signs in what is written -/

/-- A digit that an escape can have. -/
def IsHex (c : Char) : Prop := (hexValue? c).isSome = true

theorem isHex_of_hexNumber? {x y : Char} {n : Nat} (h : hexNumber? [x, y] = some n) :
    IsHex x ∧ IsHex y := by
  rw [IsHex, IsHex]
  cases hx : hexValue? x with
  | none => simp [hexNumber?, hx] at h
  | some m =>
    cases hy : hexValue? y with
    | none => simp [hexNumber?, hx, hy] at h
    | some m' => exact ⟨rfl, rfl⟩

theorem IsHex.toNat_lt (h : IsHex c) : c.toNat < 0x80 := by
  unfold IsHex hexValue? at h
  by_contra hlarge
  rw [if_neg (by simp; omega), if_neg (by simp; omega), if_neg (by simp; omega)] at h
  exact absurd h (by decide)

theorem Escaped.isHex (h : Escaped bytes es) : ∀ c ∈ es, c = '%' ∨ IsHex c := by
  induction h with
  | nil => simp
  | @cons b x y bytes es hdigits h ih =>
    obtain ⟨hx, hy⟩ := isHex_of_hexNumber? hdigits
    intro c hc
    simp only [List.mem_cons] at hc
    rcases hc with rfl | rfl | rfl | hc
    · exact Or.inl rfl
    · exact Or.inr hx
    · exact Or.inr hy
    · exact ih c hc

/-- All that is written is ASCII; what is reserved is there as a part of an escape at most. -/
theorem Written.mem (h : Written reserved text cs) :
    ∀ c ∈ cs, c.toNat < 0x80 ∧ (c ∈ reserved → c = '%' ∨ c = '+' ∨ IsHex c) := by
  induction h with
  | nil => simp
  | @plain c text cs hascii hfree h ih =>
    intro d hd
    rcases List.mem_cons.1 hd with rfl | hd
    · exact ⟨hascii, fun hreserved => absurd hreserved hfree.2.2⟩
    · exact ih d hd
  | @blank text cs h ih =>
    intro d hd
    rcases List.mem_cons.1 hd with rfl | hd
    · exact ⟨by decide, fun _ => Or.inr (Or.inl rfl)⟩
    · exact ih d hd
  | @escaped c text es cs hbytes h ih =>
    intro d hd
    rcases List.mem_append.1 hd with hd | hd
    · rcases hbytes.isHex d hd with rfl | hhex
      · exact ⟨by decide, fun _ => Or.inl rfl⟩
      · exact ⟨hhex.toNat_lt, fun _ => Or.inr (Or.inr hhex)⟩
    · exact ih d hd

/-- A sign that is reserved, and no part of an escape, is never written. -/
theorem Written.not_mem (h : Written reserved text cs) (hd : d ∈ reserved)
    (hother : d ≠ '%' ∧ d ≠ '+' ∧ hexValue? d = none) : d ∉ cs := by
  intro hmem
  obtain ⟨hpercent, hplus, hhex⟩ := hother
  rcases (h.mem d hmem).2 hd with heq | heq | hdigit
  · exact hpercent heq
  · exact hplus heq
  · rw [IsHex, hhex] at hdigit
    exact absurd hdigit (by decide)

/-! ## One side of a parameter -/

theorem decodeFrom_plain (hascii : c.toNat < 0x80) (hc : c ≠ '%') (pending : List Byte)
    (cs : List Char) :
    decodeFrom pending (c :: cs) = decodeFrom (UInt8.ofNat c.toNat :: pending) cs := by
  rw [decodeFrom.eq_def]
  split
  · next heq => exact absurd heq (by simp)
  · next heq => exact absurd (List.cons.inj heq).1 hc
  · next heq =>
    obtain ⟨rfl, rfl⟩ := List.cons.inj heq
    rw [if_pos hascii]

/-- Escapes are read as the bytes that they stand for. -/
theorem decodeFrom_escaped (h : Escaped bytes es) (pending : List Byte) (cs : List Char) :
    decodeFrom pending (es ++ cs) = decodeFrom (bytes.reverse ++ pending) cs := by
  induction h generalizing pending with
  | nil => rfl
  | @cons b x y bytes es hdigits h ih =>
    rw [List.cons_append, List.cons_append, List.cons_append, decodeFrom, hdigits]
    simp only [UInt8.ofNat_toNat]
    rw [ih, List.reverse_cons, List.append_assoc, List.singleton_append]

/-- A plus sign as the blank that it stands for. -/
def plusAsBlank (cs : List Char) : List Char := cs.map fun c => if c = '+' then ' ' else c

theorem plusAsBlank_eq_self (h : '+' ∉ cs) : plusAsBlank cs = cs := by
  refine (List.map_congr_left fun c hc => if_neg ?_).trans (List.map_id cs)
  rintro rfl
  exact h hc

/-- The bytes of the text follow those that are pending. -/
theorem decodeFrom_of_written (h : Written reserved text cs) (pending : List Byte) :
    decodeFrom pending (plusAsBlank cs) =
      Utf8.decodeLossy (pending.reverse ++ Utf8.encode text) := by
  induction h generalizing pending with
  | nil => simp [plusAsBlank, decodeFrom, Utf8.encode]
  | @plain c text cs hascii hfree h ih =>
    have hc : plusAsBlank (c :: cs) = c :: plusAsBlank cs := by simp [plusAsBlank, hfree.2.1]
    rw [hc, decodeFrom_plain hascii hfree.1, ih, Utf8.encode_cons, Utf8.encodeChar_one hascii,
      List.reverse_cons, List.append_assoc]
  | @blank text cs h ih =>
    have hc : plusAsBlank ('+' :: cs) = ' ' :: plusAsBlank cs := rfl
    rw [hc, decodeFrom_plain (by decide) (by decide), ih, Utf8.encode_cons,
      Utf8.encodeChar_one (by decide), List.reverse_cons, List.append_assoc]
  | @escaped c text es cs hbytes h ih =>
    have hplus : '+' ∉ es := by
      intro hmem
      rcases hbytes.isHex _ hmem with heq | hhex
      · exact absurd heq (by decide)
      · exact absurd hhex (by rw [IsHex]; decide)
    have hes : plusAsBlank (es ++ cs) = es ++ plusAsBlank cs := by
      rw [plusAsBlank, List.map_append]
      exact congrArg (· ++ plusAsBlank cs) (plusAsBlank_eq_self hplus)
    rw [hes, decodeFrom_escaped hbytes, ih, Utf8.encode_cons, List.reverse_append,
      List.reverse_reverse, List.append_assoc]

/-- **One side of a parameter** is read as the text that was written. -/
theorem parameterPart_of_written {s : String} (h : Written reserved s.toList cs) :
    parameterPart cs = s := by
  have htext : decode (plusAsBlank cs) = s.toList := by
    rw [decode, decodeFrom_of_written h, List.reverse_nil, List.nil_append, Utf8.decodeLossy_encode]
  rw [parameterPart]
  change String.ofList (decode (plusAsBlank cs)) = s
  rw [htext, String.ofList_toList]

/-! ## All parameters -/

namespace WrittenParameter

variable {p : String × String}

theorem toNat_lt (h : WrittenParameter p cs) : ∀ c ∈ cs, c.toNat < 0x80 := by
  cases h with
  | @full name value n v hname hvalue =>
    intro c hc
    rcases List.mem_append.1 hc with hc | hc
    · exact (hname.mem c hc).1
    · rcases List.mem_cons.1 hc with rfl | hc
      · decide
      · exact (hvalue.mem c hc).1
  | bare hname hne => exact fun c hc => (hname.mem c hc).1

theorem ne_nil (h : WrittenParameter p cs) : cs ≠ [] := by
  cases h with
  | full hname hvalue => simp
  | bare hname hne => exact hne

/-- No parameter is cut in two. -/
theorem not_mem (h : WrittenParameter p cs) : '&' ∉ cs := by
  have hother : '&' ≠ '%' ∧ '&' ≠ '+' ∧ hexValue? '&' = none := by decide
  cases h with
  | @full name value n v hname hvalue =>
    intro hmem
    rcases List.mem_append.1 hmem with hmem | hmem
    · exact hname.not_mem (by decide) hother hmem
    · rcases List.mem_cons.1 hmem with heq | hmem
      · exact absurd heq (by decide)
      · exact hvalue.not_mem (by decide) hother hmem
  | bare hname hne => exact hname.not_mem (by decide) hother

theorem parameter_eq (h : WrittenParameter p cs) : parameter cs = p := by
  have hother : '=' ≠ '%' ∧ '=' ≠ '+' ∧ hexValue? '=' = none := by decide
  cases h with
  | @full name value n v hname hvalue =>
    have hcut : cutAt '=' (n ++ '=' :: v) = (n, some v) :=
      cutAt_append (hname.not_mem (by decide) hother) v
    rw [parameter, hcut]
    simp only [Option.getD_some]
    rw [parameterPart_of_written hname, parameterPart_of_written hvalue]
  | @bare name n hname hne =>
    have hcut : cutAt '=' cs = (cs, none) := cutAt_of_not_mem (hname.not_mem (by decide) hother)
    rw [parameter, hcut]
    simp only [Option.getD_none]
    rw [parameterPart_of_written hname]
    rfl

end WrittenParameter

variable {parameters : List (String × String)}

theorem map_parameter {ps : List (List Char)} (h : List.Forall₂ WrittenParameter parameters ps) :
    ps.map parameter = parameters := by
  induction h with
  | nil => rfl
  | cons hp hps ih => rw [List.map_cons, hp.parameter_eq, ih]

/-- What holds of every way of writing a parameter holds of all that are written. -/
theorem forall_of_written {P : List Char → Prop} {ps : List (List Char)}
    (h : List.Forall₂ WrittenParameter parameters ps)
    (hwritten : ∀ parameter p, WrittenParameter parameter p → P p) : ∀ p ∈ ps, P p := by
  induction h with
  | nil => simp
  | cons hp hps ih => exact List.forall_mem_cons.2 ⟨hwritten _ _ hp, ih⟩

/-- **All parameters of a query** are read as they were written, in their order. -/
theorem allParameters_of_written (h : WrittenQuery parameters cs) :
    allParameters (Utf8.encode cs) = parameters := by
  obtain ⟨ps, hps, rfl⟩ := h
  have hascii : ∀ c ∈ joined '&' ps, c.toNat < 0x80 := by
    intro c hc
    rcases mem_joined hc with rfl | ⟨p, hp, hc⟩
    · decide
    · exact forall_of_written hps (fun _ _ h => h.toNat_lt) p hp c hc
  have hcharacters : characters (Utf8.encode (joined '&' ps)) = joined '&' ps :=
    plainText_encode hascii
  rw [allParameters, hcharacters]
  by_cases hempty : ps = []
  · subst hempty
    rw [List.forall₂_nil_right_iff.1 hps]
    rfl
  · have hpieces : pieces '&' (joined '&' ps) = ps :=
      pieces_joined hempty (forall_of_written hps fun _ _ h => h.not_mem)
    have hfilter : ps.filter (fun p => !p.isEmpty) = ps := by
      refine List.filter_eq_self.2 fun p hp => ?_
      have hne : p ≠ [] := forall_of_written hps (fun _ _ h => h.ne_nil) p hp
      simpa using hne
    rw [hpieces, hfilter, map_parameter hps]

end BlogGraph.Url
