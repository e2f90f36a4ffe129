import BlogGraph.Json.Bytes
import BlogGraph.Json.Writer
import BlogGraph.Proofs.Encoding.Utf8
import BlogGraph.Proofs.Text.Hex
import BlogGraph.Text.Pieces
import Mathlib.Data.List.Forall2

/-!
# Reading the members of an object

A string can be written in a document in many ways.  Most characters may stand for themselves, some
have a short escape, and every character has one with four digits, or with twice four if it needs
two halves of a surrogate pair; blanks may stand around every part.

However an object of strings is written, reading it gives its members, of repeated names the last
(`readWithin_of_written`).  A document starts with its brace or with blanks, so its bytes are taken
for UTF-8 if it was written so (`ofBytes_of_written`).  The writer of documents knows one of the
ways (`writtenObject_write`).
-/

namespace BlogGraph.Json

open Text

variable {limits : Limits} {depth fuel n : Nat} {c : Char} {s : String} {p : String × String}
  {acc : Named Json} {text cs ds es w rest : List Char}

/-! ## Ways of writing a string -/

/-- The characters that have a short escape, with the character after the backslash. -/
def shortEscapes : List (Char × Char) := [
  ('"', '"'), ('\\', '\\'), ('/', '/'), ('\x08', 'b'), ('\x0c', 'f'), ('\n', 'n'), ('\r', 'r'),
  ('\t', 't')]

/-- Four hexadecimal digits, capital or small, that stand for a number. -/
inductive FourDigits : List Char → Nat → Prop
  | mk {a b c d : Char} {n : Nat} (hvalue : hexNumber? [a, b, c, d] = some n) :
      FourDigits [a, b, c, d] n

/-- What stands after the backslash in an escape of a character. -/
inductive Escape : Char → List Char → Prop
  | short {c e : Char} (h : (c, e) ∈ shortEscapes) : Escape c [e]
  | unit {c : Char} {ds : List Char} (h : FourDigits ds c.toNat) : Escape c ('u' :: ds)
  | pair {c : Char} {ds es : List Char} (hc : 0x10000 ≤ c.toNat)
      (hhigh : FourDigits ds (0xD800 + (c.toNat - 0x10000) / 0x400))
      (hlow : FourDigits es (0xDC00 + (c.toNat - 0x10000) % 0x400)) :
      Escape c ('u' :: (ds ++ '\\' :: 'u' :: es))

/-- The text is written so between quotes. -/
inductive Spelled : List Char → List Char → Prop
  | nil : Spelled [] []
  | plain {c : Char} {text cs : List Char} (hc : c ≠ '"' ∧ c ≠ '\\' ∧ 0x20 ≤ c.toNat)
      (h : Spelled text cs) : Spelled (c :: text) (c :: cs)
  | escaped {c : Char} {text es cs : List Char} (hc : Escape c es) (h : Spelled text cs) :
      Spelled (c :: text) ('\\' :: (es ++ cs))

/-- The string is written so, quotes and all. -/
def Quoted (s : String) (cs : List Char) : Prop :=
  ∃ content, Spelled s.toList content ∧ cs = '"' :: (content ++ ['"'])

/-! ## Reading a string -/

theorem readUnit_append (h : FourDigits ds n) (rest : List Char) :
    readUnit (ds ++ rest) = some (n, rest) := by
  cases h with
  | mk hvalue =>
    rw [List.cons_append, List.cons_append, List.cons_append, List.cons_append, List.nil_append,
      readUnit, hvalue, Option.map_some]

theorem charOfUnit_toNat (c : Char) : charOfUnit c.toNat = c := Encoding.Utf8.charOfPoint_toNat c

/-- An escape is read as the character that it stands for. -/
theorem readEscape_append (h : Escape c es) (rest : List Char) :
    readEscape (es ++ rest) = some (c, rest) := by
  have hpoint := Encoding.Utf8.toNat_cases c
  cases h with
  | @short e h =>
    simp only [shortEscapes, List.mem_cons, Prod.mk.injEq, List.not_mem_nil, or_false] at h
    rcases h with h | h | h | h | h | h | h | h
    all_goals
      obtain ⟨rfl, rfl⟩ := h
      rfl
  | @unit ds h =>
    have hhalf : (decide (0xD800 ≤ c.toNat) && decide (c.toNat ≤ 0xDBFF)) = false := by
      simp only [Bool.and_eq_false_iff, decide_eq_false_iff_not]
      omega
    rw [List.cons_append, readEscape, readNumbered, readUnit_append h]
    simp only [hhalf, Bool.false_eq_true, if_false, charOfUnit_toNat]
  | @pair ds es hc hhigh hlow =>
    have hfirst : (decide (0xD800 ≤ 0xD800 + (c.toNat - 0x10000) / 0x400) &&
        decide (0xD800 + (c.toNat - 0x10000) / 0x400 ≤ 0xDBFF)) = true := by
      simp only [Bool.and_eq_true, decide_eq_true_eq]
      omega
    have hsecond : (decide (0xDC00 ≤ 0xDC00 + (c.toNat - 0x10000) % 0x400) &&
        decide (0xDC00 + (c.toNat - 0x10000) % 0x400 ≤ 0xDFFF)) = true := by
      simp only [Bool.and_eq_true, decide_eq_true_eq]
      omega
    have hnumber : 0x10000 + (0xD800 + (c.toNat - 0x10000) / 0x400 - 0xD800) * 0x400 +
        (0xDC00 + (c.toNat - 0x10000) % 0x400 - 0xDC00) = c.toNat := by
      omega
    rw [List.cons_append, List.append_assoc, readEscape, readNumbered, readUnit_append hhigh]
    simp only [hfirst, if_true, List.cons_append, readLowHalf, readUnit_append hlow, hsecond,
      hnumber, Char.ofNat_toNat]

/-- Up to the closing quote the text is read, however it is written. -/
theorem readString_of_spelled (h : Spelled text cs) (hfuel : cs.length < fuel)
    (acc rest : List Char) :
    readString fuel acc (cs ++ '"' :: rest) = .ok (String.ofList (acc.reverse ++ text), rest) := by
  induction h generalizing fuel acc with
  | nil =>
    obtain ⟨fuel, rfl⟩ : ∃ left, fuel = left + 1 := ⟨fuel - 1, by simp at hfuel; omega⟩
    rw [List.nil_append, readString, if_pos rfl, List.append_nil]
  | @plain c text cs hc h ih =>
    rw [List.length_cons] at hfuel
    obtain ⟨fuel, rfl⟩ : ∃ left, fuel = left + 1 := ⟨fuel - 1, by omega⟩
    rw [List.cons_append, readString, if_neg hc.1, if_neg hc.2.1, if_neg (by omega),
      ih (by omega), List.reverse_cons, List.append_assoc, List.singleton_append]
  | @escaped c text es cs hc h ih =>
    rw [List.length_cons, List.length_append] at hfuel
    obtain ⟨fuel, rfl⟩ : ∃ left, fuel = left + 1 := ⟨fuel - 1, by omega⟩
    rw [List.cons_append, List.append_assoc, readString, if_neg (by decide), if_pos rfl,
      readEscape_append hc]
    simp only
    rw [ih (by omega), List.reverse_cons, List.append_assoc, List.singleton_append]

theorem readValue_of_quoted (h : Quoted s cs) (hfuel : cs.length ≤ fuel) (rest : List Char) :
    readValue limits fuel depth (cs ++ rest) = .ok (.text s, rest) := by
  obtain ⟨content, hcontent, rfl⟩ := h
  rw [List.length_cons, List.length_append, List.length_singleton] at hfuel
  obtain ⟨fuel, rfl⟩ : ∃ left, fuel = left + 1 := ⟨fuel - 1, by omega⟩
  rw [List.cons_append, List.append_assoc, List.singleton_append, readValue,
    readString_of_spelled hcontent (by omega), List.reverse_nil, List.nil_append,
    String.ofList_toList]

/-! ## Ways of writing an object of strings -/

/-- Nothing but blanks. -/
def Blanks (w : List Char) : Prop := ∀ c ∈ w, isSpace c = true

/-- A name and a string are written so, with blanks around them. -/
inductive WrittenMember : String × String → List Char → Prop
  | mk {name value : String} {w₁ n w₂ w₃ v w₄ : List Char}
      (hblanks : Blanks w₁ ∧ Blanks w₂ ∧ Blanks w₃ ∧ Blanks w₄) (hname : Quoted name n)
      (hvalue : Quoted value v) :
      WrittenMember (name, value) (w₁ ++ (n ++ (w₂ ++ ':' :: (w₃ ++ (v ++ w₄)))))

/-- An object with these members, one at least, is written so, with blanks around it. -/
inductive WrittenObject (members : List (String × String)) : List Char → Prop
  | mk {ms : List (List Char)} {w₁ w₂ : List Char} (hblanks : Blanks w₁ ∧ Blanks w₂)
      (hne : ms ≠ []) (hmembers : List.Forall₂ WrittenMember members ms) :
      WrittenObject members (w₁ ++ '\x7b' :: (joined ',' ms ++ '\x7d' :: w₂))

theorem skipSpace_blanks (h : Blanks w) (rest : List Char) :
    skipSpace (w ++ rest) = skipSpace rest :=
  List.dropWhile_append_of_pos h

theorem skipSpace_cons (h : isSpace c = false) (rest : List Char) :
    skipSpace (c :: rest) = c :: rest :=
  List.dropWhile_cons_of_neg (by simp [h])

theorem skipSpace_quoted (h : Quoted s cs) (rest : List Char) :
    skipSpace (cs ++ rest) = cs ++ rest := by
  obtain ⟨content, -, rfl⟩ := h
  exact skipSpace_cons (by decide) _

/-! ## Reading an object of strings -/

/-- A member is set in the object under way.  Behind it the object ends at a brace, and goes on at a
comma. -/
theorem readFields_member (h : WrittenMember p cs) (hfuel : cs.length ≤ fuel) (rest : List Char) :
    readFields limits (fuel + 1) depth acc (skipSpace (cs ++ '\x7d' :: rest)) =
        .ok (.object (acc.set p.1 (.text p.2)), rest) ∧
      readFields limits (fuel + 1) depth acc (skipSpace (cs ++ ',' :: rest)) =
        readFields limits fuel depth (acc.set p.1 (.text p.2)) (skipSpace rest) := by
  have hbrace : isSpace '\x7d' = false := by decide
  have hcomma : isSpace ',' = false := by decide
  cases h with
  | @mk name value w₁ n w₂ w₃ v w₄ hblanks hname hvalue =>
    obtain ⟨h₁, h₂, h₃, h₄⟩ := hblanks
    obtain ⟨content, hcontent, rfl⟩ := hname
    simp only [List.length_append, List.length_cons] at hfuel
    have hvalueRead (rest : List Char) : readValue limits fuel depth (v ++ (w₄ ++ rest)) =
        .ok (.text value, w₄ ++ rest) := readValue_of_quoted hvalue (by omega) _
    simp only [List.append_assoc, List.cons_append, List.nil_append]
    constructor
    all_goals
      rw [skipSpace_blanks h₁, skipSpace_cons (by decide), readFields]
      simp only
      rw [readString_of_spelled hcontent (by omega)]
      simp only
      rw [skipSpace_blanks h₂, skipSpace_cons (by decide)]
      simp only
      rw [skipSpace_blanks h₃, skipSpace_quoted hvalue, hvalueRead]
      simp only [skipSpace_blanks h₄, skipSpace_cons hbrace, skipSpace_cons hcomma,
        List.reverse_nil, List.nil_append, String.ofList_toList]

/-- The members are set one after the other. -/
theorem readFields_joined {members : List (String × String)} {ms : List (List Char)}
    (h : List.Forall₂ WrittenMember members ms) (hne : ms ≠ [])
    (hfuel : (joined ',' ms).length < fuel) (acc : Named Json) (rest : List Char) :
    readFields limits fuel depth acc (skipSpace (joined ',' ms ++ '\x7d' :: rest)) =
      .ok (.object (members.foldl (fun (fields : Named Json) p => fields.set p.1 (.text p.2)) acc),
        rest) := by
  induction h generalizing fuel acc with
  | nil => exact absurd rfl hne
  | @cons p m members ms hm hms ih =>
    cases ms with
    | nil =>
      obtain rfl := List.forall₂_nil_right_iff.1 hms
      have hjoined : joined ',' [m] = m := rfl
      rw [hjoined] at hfuel ⊢
      obtain ⟨fuel, rfl⟩ : ∃ left, fuel = left + 1 := ⟨fuel - 1, by omega⟩
      exact (readFields_member hm (by omega) rest).1
    | cons m' ms =>
      rw [joined_cons_next, List.length_append, List.length_cons] at hfuel
      obtain ⟨fuel, rfl⟩ : ∃ left, fuel = left + 1 := ⟨fuel - 1, by omega⟩
      rw [joined_cons_next, List.append_assoc, List.cons_append,
        (readFields_member hm (by omega) _).2, ih (by simp) (by omega), List.foldl_cons]

/-- An object begins with a quote behind its brace and blanks. -/
theorem joined_begins {members : List (String × String)} {ms : List (List Char)}
    (h : List.Forall₂ WrittenMember members ms) (hne : ms ≠ []) (rest : List Char) :
    ∃ w tail, Blanks w ∧ joined ',' ms ++ rest = w ++ '"' :: tail := by
  cases h with
  | nil => exact absurd rfl hne
  | @cons p m members ms hm hms =>
    cases hm with
    | @mk name value w₁ n w₂ w₃ v w₄ hblanks hname hvalue =>
      obtain ⟨content, -, rfl⟩ := hname
      refine ⟨w₁, content ++ ['"'] ++ (w₂ ++ ':' :: (w₃ ++ (v ++ w₄))) ++
        (ms.flatMap (',' :: ·) ++ rest), hblanks.1, ?_⟩
      rw [joined_cons, List.append_assoc, List.append_assoc]
      rfl

variable {members : List (String × String)}

/-- The values of the members, as they are read. -/
def fieldsOf (members : List (String × String)) : Named Json :=
  Named.ofList (members.map fun p => (p.1, .text p.2))

theorem readValue_of_members {ms : List (List Char)}
    (h : List.Forall₂ WrittenMember members ms) (hne : ms ≠ [])
    (hfuel : (joined ',' ms).length + 1 < fuel) (hdepth : limits.allows depth = true)
    (rest : List Char) :
    readValue limits fuel depth ('\x7b' :: (joined ',' ms ++ '\x7d' :: rest)) =
      .ok (.object (fieldsOf members), rest) := by
  obtain ⟨fuel, rfl⟩ : ∃ left, fuel = left + 1 := ⟨fuel - 1, by omega⟩
  obtain ⟨w, tail, hw, htail⟩ := joined_begins h hne ('\x7d' :: rest)
  have hskip : skipSpace (joined ',' ms ++ '\x7d' :: rest) = '"' :: tail := by
    rw [htail, skipSpace_blanks hw, skipSpace_cons (by decide)]
  have hfields : readFields limits fuel (depth + 1) []
      (skipSpace (joined ',' ms ++ '\x7d' :: rest)) = _ :=
    readFields_joined h hne (by omega) [] rest
  rw [hskip] at hfields
  rw [readValue, if_pos hdepth, hskip, fieldsOf, Named.ofList, List.foldl_map]
  exact hfields

/-- **An object of strings** is read as its members, however it is written. -/
theorem readWithin_of_written (h : WrittenObject members cs) (hdepth : limits.allows 0 = true) :
    readWithin limits cs = .ok (.object (fieldsOf members)) := by
  cases h with
  | @mk ms w₁ w₂ hblanks hne hmembers =>
    have hend : skipSpace w₂ = [] := by
      have hblank := skipSpace_blanks hblanks.2 []
      rwa [List.append_nil] at hblank
    have hlength : (w₁ ++ '\x7b' :: (joined ',' ms ++ '\x7d' :: w₂)).length =
        w₁.length + ((joined ',' ms).length + (w₂.length + 1) + 1) := by
      simp only [List.length_append, List.length_cons]
    rw [readWithin, skipSpace_blanks hblanks.1, skipSpace_cons (by decide), hlength,
      readValue_of_members hmembers hne (by omega) hdepth]
    simp only [hend, List.isEmpty_nil, if_true]

/-- The first two characters of such an object are plain. -/
theorem WrittenObject.begins (h : WrittenObject members cs) :
    ∃ c d rest, cs = c :: d :: rest ∧ (c.toNat ≠ 0 ∧ c.toNat < 0x80) ∧
      (d.toNat ≠ 0 ∧ d.toNat < 0x80) := by
  have hblank {c : Char} (hc : isSpace c = true) : c.toNat ≠ 0 ∧ c.toNat < 0x80 := by
    simp only [isSpace, Bool.or_eq_true, decide_eq_true_eq] at hc
    rcases hc with ((rfl | rfl) | rfl) | rfl
    all_goals decide
  cases h with
  | @mk ms w₁ w₂ hblanks hne hmembers =>
    obtain ⟨w, tail, hw, htail⟩ := joined_begins hmembers hne ('\x7d' :: w₂)
    rw [htail]
    match w₁, hblanks.1, w, hw with
    | [], _, [], _ => exact ⟨'\x7b', '"', _, rfl, by decide, by decide⟩
    | [], _, a :: w, hw => exact ⟨'\x7b', a, _, rfl, by decide, hblank (hw a (by simp))⟩
    | [a], h₁, w, _ => exact ⟨a, '\x7b', _, rfl, hblank (h₁ a (by simp)), by decide⟩
    | a :: b :: w₁, h₁, w, _ =>
      exact ⟨a, b, _, rfl, hblank (h₁ a (by simp)), hblank (h₁ b (by simp))⟩

/-- **The bytes of an object of strings** in UTF-8 are read as its members. -/
theorem ofBytes_of_written (h : WrittenObject members cs) (hdepth : limits.allows 0 = true) :
    ofBytes limits (Encoding.Utf8.encode cs) = .ok (.object (fieldsOf members)) := by
  obtain ⟨c, d, rest, rfl, hc, hd⟩ := h.begins
  rw [ofBytes, Encoding.decodeDocument_encode hc hd]
  simp only [readWithin_of_written h hdepth, Except.mapError]

/-! ## The way of the writer -/

theorem fourDigits_hexFixed (hn : n < 0x10000) : FourDigits (hexFixed 4 n) n := by
  have hvalue : hexNumber? (hexFixed 4 n) = some n := hexNumber?_hexFixed hn
  exact FourDigits.mk hvalue

/-- A character is written as it is or as an escape. -/
theorem spelled_escapeChar (c : Char) (h : Spelled text cs) :
    Spelled (c :: text) (escapeChar c ++ cs) := by
  have hpoint := Encoding.Utf8.toNat_cases c
  have hshort {e : Char} (he : (c, e) ∈ shortEscapes) : Spelled (c :: text) ('\\' :: e :: cs) :=
    .escaped (.short he) h
  unfold escapeChar
  dsimp only
  split
  · next hc => exact hshort (by rw [hc]; decide)
  split
  · next hc => exact hshort (by rw [hc]; decide)
  split
  · next hc => exact hshort (by rw [hc]; decide)
  split
  · next hc => exact hshort (by rw [hc]; decide)
  split
  · next hc => exact hshort (by rw [hc]; decide)
  split
  · next hc => exact hshort (by rw [← Char.ofNat_toNat c, hc]; decide)
  split
  · next hc => exact hshort (by rw [← Char.ofNat_toNat c, hc]; decide)
  split
  · next hquote hbackslash _ _ _ _ _ hplain =>
    simp only [Bool.and_eq_true, decide_eq_true_eq] at hplain
    exact .plain ⟨hquote, hbackslash, hplain.1⟩ h
  split
  · next hunit => exact .escaped (.unit (fourDigits_hexFixed hunit)) h
  · next hlarge =>
    have hpair : Escape c _ := .pair (by omega) (fourDigits_hexFixed (by omega))
      (fourDigits_hexFixed (by omega))
    have hspelled := Spelled.escaped hpair h
    simpa [escapeUnit] using hspelled

theorem quoted_writeString (s : String) : Quoted s (writeString s) := by
  have hspelled (text : List Char) : Spelled text (text.flatMap escapeChar) := by
    induction text with
    | nil => exact .nil
    | cons c text ih =>
      rw [List.flatMap_cons]
      exact spelled_escapeChar c ih
  exact ⟨_, hspelled s.toList, rfl⟩

/-- An object of strings, as a value. -/
def objectOf (members : List (String × String)) : Json :=
  .object (members.map fun p => (p.1, .text p.2))

/-- A member as the writer writes it, after blanks. -/
def memberText (w : List Char) (p : String × String) : List Char :=
  w ++ (writeString p.1 ++ ':' :: ' ' :: writeString p.2)

theorem writtenMember_memberText (hw : Blanks w) (p : String × String) :
    WrittenMember p (memberText w p) := by
  have hblank : Blanks [' '] := by simp [Blanks, isSpace]
  have hnone : Blanks [] := by simp [Blanks]
  have hmember := WrittenMember.mk ⟨hw, hnone, hblank, hnone⟩ (quoted_writeString p.1)
    (quoted_writeString p.2)
  simpa [memberText] using hmember

theorem writeFields_text (members : List (String × String)) (tail : List Char) :
    writeFields (members.map fun p => (p.1, .text p.2)) tail =
      members.flatMap (fun p => ',' :: memberText [' '] p) ++ '\x7d' :: tail := by
  induction members with
  | nil => simp [writeFields]
  | cons p members ih => simp [writeFields, writeOnto, ih, memberText]

/-- **What the writer writes** for an object of strings is one of the ways of writing it. -/
theorem writtenObject_write (hne : members ≠ []) :
    WrittenObject members (write (objectOf members)).toList := by
  have hnone : Blanks [] := by simp [Blanks]
  have hblank : Blanks [' '] := by simp [Blanks, isSpace]
  obtain ⟨p, members, rfl⟩ := List.exists_cons_of_ne_nil hne
  have hrest : List.Forall₂ WrittenMember members (members.map (memberText [' '])) := by
    rw [List.forall₂_map_right_iff, List.forall₂_same]
    exact fun p _ => writtenMember_memberText hblank p
  have hobject := WrittenObject.mk ⟨hnone, hnone⟩ (by simp)
    (.cons (writtenMember_memberText hnone p) hrest)
  have hwritten : (write (objectOf (p :: members))).toList =
      [] ++ '\x7b' :: (joined ',' (memberText [] p :: members.map (memberText [' '])) ++
        '\x7d' :: []) := by
    rw [write, String.toList_ofList, objectOf, List.map_cons, writeOnto, writeFields_text,
      joined_cons, List.flatMap_map]
    simp [memberText, writeOnto]
  rw [hwritten]
  exact hobject

end BlogGraph.Json
