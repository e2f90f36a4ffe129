import BlogGraph.Json.Reader
import Mathlib.Data.List.TakeDrop
import Mathlib.Data.List.TakeWhile

/-!
# What the limits on documents do

Reading within limits is reading without any until a limit is met.  Whatever text it is, either
both come to the same, a value or a malformed document, or the text shows why it is refused: more
digits in a row than allowed, or more openings of lists and objects than the depth allowed
(`Beyond`).

Both readers take from the front of the text, so what is to blame in the rest is to blame in the
whole (`Beyond.of_suffix`); that is what carries the induction on the fuel.

Main statements:

* `Json.readWithin_cases`: what reading a whole document within limits comes to;
* `Json.readWithin_digits`, `Json.readWithin_openings`: texts that meet a limit.
-/

namespace BlogGraph.Json

variable {limits : Limits} {depth fuel : Nat} {cs rest : List Char} {e : ReadError} {α : Type}

/-! ## Texts beyond the limits -/

/-- The character opens a list or an object. -/
def opens (c : Char) : Bool := c = '[' || c = '\x7b'

/-- Why a text, inside this many lists and objects, cannot be read within limits. -/
inductive Beyond (limits : Limits) (depth : Nat) (cs : List Char) : ReadError → Prop
  | digits {allowed : Nat} {ds : List Char} (hlimit : limits.digits = some allowed)
      (hlong : allowed < ds.length) (hdigits : ∀ c ∈ ds, c.isDigit) (hrun : ds <:+: cs) :
      Beyond limits depth cs (.integerTooLong allowed ds.length)
  | depth {most : Nat} (inObject : Bool) (hlimit : limits.depth = some most)
      (hdeep : most < depth + cs.countP opens) : Beyond limits depth cs (.tooDeep inObject)

/-- What is to blame in the rest of a text is to blame in the text. -/
theorem Beyond.of_suffix (h : Beyond limits depth rest e) (hrest : rest <:+ cs) :
    Beyond limits depth cs e := by
  cases h with
  | digits hlimit hlong hdigits hrun =>
    exact .digits hlimit hlong hdigits (hrun.trans hrest.isInfix)
  | depth inObject hlimit hdeep =>
    have hcount := hrest.sublist.countP_le (p := opens)
    exact .depth inObject hlimit (by omega)

/-- What is to blame inside a list or an object is to blame where it opens. -/
theorem Beyond.of_opened {c : Char} (h : Beyond limits (depth + 1) rest e) (hc : opens c) :
    Beyond limits depth (c :: rest) e := by
  cases h with
  | digits hlimit hlong hdigits hrun =>
    exact .digits hlimit hlong hdigits (hrun.trans (List.suffix_cons c rest).isInfix)
  | depth inObject hlimit hdeep =>
    refine .depth inObject hlimit ?_
    rw [List.countP_cons_of_pos hc]
    omega

/-- A text beyond the limits is longer than one of the two bounds. -/
theorem Beyond.lt_length {levels : Nat} (h : Beyond (.nested levels) 0 cs e) :
    min 4300 levels < cs.length := by
  cases h with
  | digits hlimit hlong hdigits hrun =>
    obtain rfl := Option.some.inj hlimit
    have hlength := hrun.length_le
    omega
  | depth inObject hlimit hdeep =>
    obtain rfl := Option.some.inj hlimit
    have hcount := List.countP_le_length (p := opens) (l := cs)
    omega

/-! ## Two readers of one text -/

/-- What comes of one text without limits, and what comes of it within limits. -/
inductive Within (limits : Limits) (depth : Nat) (cs : List Char) : Read α → Read α → Prop
  | read {a : α} {rest : List Char} (hrest : rest <:+ cs) :
      Within limits depth cs (.ok (a, rest)) (.ok (a, rest))
  | malformed : Within limits depth cs (.error .malformed) (.error .malformed)
  | beyond {free : Read α} {e : ReadError} (he : Beyond limits depth cs e) :
      Within limits depth cs free (.error e)

namespace Within

variable {free bounded : Read α}

theorem of_suffix (h : Within limits depth rest free bounded) (hrest : rest <:+ cs) :
    Within limits depth cs free bounded := by
  cases h with
  | read hleft => exact .read (hleft.trans hrest)
  | malformed => exact .malformed
  | beyond he => exact .beyond (he.of_suffix hrest)

theorem of_opened {c : Char} (h : Within limits (depth + 1) rest free bounded) (hc : opens c) :
    Within limits depth (c :: rest) free bounded := by
  cases h with
  | read hleft => exact .read (hleft.trans (List.suffix_cons c rest))
  | malformed => exact .malformed
  | beyond he => exact .beyond (he.of_opened hc)

theorem inv (h : Within limits depth cs free bounded) :
    (∃ a rest, rest <:+ cs ∧ free = .ok (a, rest) ∧ bounded = .ok (a, rest)) ∨
      (free = .error .malformed ∧ bounded = .error .malformed) ∨
      ∃ e, Beyond limits depth cs e ∧ bounded = .error e := by
  cases h with
  | read hrest => exact Or.inl ⟨_, _, hrest, rfl, rfl⟩
  | malformed => exact Or.inr (Or.inl ⟨rfl, rfl⟩)
  | beyond he => exact Or.inr (Or.inr ⟨_, he, rfl⟩)

end Within

/-! ## Blanks, escapes and strings -/

theorem skipSpace_suffix (cs : List Char) : skipSpace cs <:+ cs := List.dropWhile_suffix _

theorem readUnit_suffix {n : Nat} (h : readUnit cs = some (n, rest)) : rest <:+ cs := by
  rw [readUnit.eq_def] at h
  split at h
  · next a b c d left =>
    obtain ⟨_, -, hn⟩ := Option.map_eq_some_iff.1 h
    obtain ⟨-, rfl⟩ := Prod.mk.inj hn
    exact List.suffix_append [a, b, c, d] _
  · exact absurd h (by simp)

theorem readLowHalf_suffix {n : Nat} (h : readLowHalf cs = some (n, rest)) : rest <:+ cs := by
  rw [readLowHalf.eq_def] at h
  split at h
  · next left =>
    split at h
    · next m left' hunit =>
      split at h
      · obtain ⟨-, rfl⟩ := Prod.mk.inj (Option.some.inj h)
        exact (readUnit_suffix hunit).trans (List.suffix_append ['\\', 'u'] _)
      · exact absurd h (by simp)
    · exact absurd h (by simp)
  · exact absurd h (by simp)

theorem readNumbered_suffix {c : Char} (h : readNumbered cs = some (c, rest)) : rest <:+ cs := by
  rw [readNumbered] at h
  split at h
  · exact absurd h (by simp)
  · next n left hunit =>
    have hleft := readUnit_suffix hunit
    split at h
    · split at h
      · next m left' hlow =>
        obtain ⟨-, rfl⟩ := Prod.mk.inj (Option.some.inj h)
        exact (readLowHalf_suffix hlow).trans hleft
      · obtain ⟨-, rfl⟩ := Prod.mk.inj (Option.some.inj h)
        exact hleft
    · obtain ⟨-, rfl⟩ := Prod.mk.inj (Option.some.inj h)
      exact hleft

theorem readEscape_suffix {c : Char} (h : readEscape cs = some (c, rest)) : rest <:+ cs := by
  rw [readEscape.eq_def] at h
  split at h
  case h_9 left => exact (readNumbered_suffix h).trans (List.suffix_cons _ _)
  case h_10 => exact absurd h (by simp)
  all_goals
    obtain ⟨-, rfl⟩ := Prod.mk.inj (Option.some.inj h)
    exact List.suffix_cons _ _

/-- No limit bears on a string: it is read from the front, or malformed. -/
theorem readString_cases (fuel : Nat) (acc cs : List Char) :
    (∃ s rest, rest <:+ cs ∧ readString fuel acc cs = .ok (s, rest)) ∨
      readString fuel acc cs = .error .malformed := by
  induction fuel generalizing acc cs with
  | zero => exact Or.inr rfl
  | succ fuel ih =>
    cases cs with
    | nil => exact Or.inr rfl
    | cons c rest =>
      have hlater {acc left} (hleft : left <:+ rest) :
          (∃ s rest', rest' <:+ c :: rest ∧ readString fuel acc left = .ok (s, rest')) ∨
            readString fuel acc left = .error .malformed := by
        refine (ih acc left).imp_left fun ⟨s, rest', hrest', hread⟩ => ⟨s, rest', ?_, hread⟩
        exact hrest'.trans (hleft.trans (List.suffix_cons c rest))
      rw [readString]
      split
      · exact Or.inl ⟨_, rest, List.suffix_cons c rest, rfl⟩
      split
      · split
        · next hescape => exact hlater (readEscape_suffix hescape)
        · exact Or.inr rfl
      split
      · exact Or.inr rfl
      · exact hlater (List.suffix_refl rest)

/-! ## Numerals and words -/

theorem spanDigits_eq (cs : List Char) :
    spanDigits cs = (cs.takeWhile Char.isDigit, cs.dropWhile Char.isDigit) :=
  List.span_eq_takeWhile_dropWhile _ _

/-- The whole part of a numeral is a run of digits at the front. -/
theorem readWhole_eq_some {ds : List Char} (h : readWhole cs = some (ds, rest)) :
    ds ++ rest = cs ∧ ∀ c ∈ ds, c.isDigit := by
  rw [readWhole.eq_def] at h
  split at h
  · obtain ⟨rfl, rfl⟩ := Prod.mk.inj (Option.some.inj h)
    exact ⟨rfl, List.forall_mem_singleton.2 rfl⟩
  · next c left _ =>
    split at h
    · rw [spanDigits_eq] at h
      obtain ⟨rfl, rfl⟩ := Prod.mk.inj (Option.some.inj h)
      exact ⟨List.takeWhile_append_dropWhile, fun c hc => List.mem_takeWhile_imp hc⟩
    · exact absurd h (by simp)
  · exact absurd h (by simp)

theorem readFraction_suffix {ds : List Char} (h : readFraction cs = some (ds, rest)) :
    rest <:+ cs := by
  rw [readFraction.eq_def] at h
  split at h
  · next left =>
    rw [spanDigits_eq] at h
    simp only [Option.ite_none_left_eq_some, Option.some.injEq, Prod.mk.injEq] at h
    obtain ⟨-, -, rfl⟩ := h
    exact (List.dropWhile_suffix _).trans (List.suffix_cons _ _)
  · exact absurd h (by simp)

theorem readExponent_suffix {n : Int} (h : readExponent cs = some (n, rest)) : rest <:+ cs := by
  rw [readExponent.eq_def] at h
  split at h
  · next mark left =>
    simp only [spanDigits_eq, Option.ite_none_right_eq_some, Option.ite_none_left_eq_some,
      Option.some.injEq, Prod.mk.injEq] at h
    obtain ⟨-, -, -, rfl⟩ := h
    refine (List.dropWhile_suffix _).trans (List.IsSuffix.trans ?_ (List.suffix_cons mark left))
    split <;> simp
  · exact absurd h (by simp)

theorem integer_unbounded (negative : Bool) (ds : List Char) :
    integer .unbounded negative ds =
      .ok (.int (if negative then -(natOfDigits ds : Int) else natOfDigits ds)) := rfl

/-- A whole number is read as without limits, or has more digits than allowed. -/
theorem integer_cases (limits : Limits) (negative : Bool) (ds : List Char) :
    integer limits negative ds = integer .unbounded negative ds ∨
      ∃ allowed, limits.digits = some allowed ∧ allowed < ds.length ∧
        integer limits negative ds = .error (.integerTooLong allowed ds.length) := by
  obtain ⟨digits, most⟩ := limits
  cases digits with
  | none => exact Or.inl rfl
  | some allowed =>
    by_cases hlong : allowed < ds.length
    · exact Or.inr ⟨allowed, rfl, hlong, by simp only [integer, if_pos hlong]⟩
    · left
      rw [integer_unbounded]
      simp only [integer, if_neg hlong]

theorem within_numeral (limits : Limits) (depth : Nat) (negative : Bool) (cs : List Char) :
    Within limits depth cs (readNumeral .unbounded negative cs)
      (readNumeral limits negative cs) := by
  rw [readNumeral, readNumeral]
  cases hwhole : readWhole cs with
  | none => exact .malformed
  | some found =>
    obtain ⟨whole, rest⟩ := found
    obtain ⟨happend, hdigits⟩ := readWhole_eq_some hwhole
    have hrest : rest <:+ cs := ⟨whole, happend⟩
    simp only
    have hfraction : ((readFraction rest).getD ([], rest)).2 <:+ rest := by
      cases h : readFraction rest with
      | none => exact List.suffix_refl rest
      | some found =>
        obtain ⟨ds, afterFraction⟩ := found
        exact readFraction_suffix h
    generalize (readFraction rest).getD ([], rest) = found at hfraction ⊢
    obtain ⟨fraction, left⟩ := found
    have hexponent : ((readExponent left).getD (0, left)).2 <:+ left := by
      cases h : readExponent left with
      | none => exact List.suffix_refl left
      | some found =>
        obtain ⟨n, afterExponent⟩ := found
        exact readExponent_suffix h
    split
    · obtain hsame | ⟨allowed, hlimit, hlong, herror⟩ := integer_cases limits negative whole
      · rw [hsame, integer_unbounded]
        exact .read hrest
      · rw [herror]
        exact .beyond (.digits hlimit hlong hdigits ⟨[], rest, happend⟩)
    · exact .read (hexponent.trans (hfraction.trans hrest))

theorem within_simple (limits : Limits) (depth : Nat) (cs : List Char) :
    Within limits depth cs (readSimple .unbounded cs) (readSimple limits cs) := by
  rw [readSimple.eq_def, readSimple.eq_def]
  cases hword : readWord cs with
  | some found =>
    obtain ⟨w, -, rfl⟩ := Option.map_eq_some_iff.1 hword
    exact .read (List.drop_suffix _ _)
  | none =>
    simp only
    split
    · exact (within_numeral limits depth true _).of_suffix (List.suffix_cons _ _)
    · exact within_numeral limits depth false cs

/-! ## Lists and objects -/

/-- The readers of values, with so much fuel, do as without limits until a limit is met. -/
structure ReadersWithin (limits : Limits) (fuel : Nat) : Prop where
  value (depth : Nat) (cs : List Char) : Within limits depth cs
    (readValue .unbounded fuel depth cs) (readValue limits fuel depth cs)
  items (depth : Nat) (acc : List Json) (cs : List Char) : Within limits depth cs
    (readItems .unbounded fuel depth acc cs) (readItems limits fuel depth acc cs)
  fields (depth : Nat) (acc : Named Json) (cs : List Char) : Within limits depth cs
    (readFields .unbounded fuel depth acc cs) (readFields limits fuel depth acc cs)

theorem allows_unbounded (depth : Nat) : Limits.unbounded.allows depth = true := rfl

/-- Where no deeper level is allowed, an opening is beyond the limits. -/
theorem Beyond.of_not_allows {c : Char} (inObject : Bool) (h : limits.allows depth = false)
    (hc : opens c) : Beyond limits depth (c :: rest) (.tooDeep inObject) := by
  rw [Limits.allows] at h
  split at h
  · next most hlimit =>
    refine .depth inObject hlimit ?_
    rw [List.countP_cons_of_pos hc]
    have hmost : ¬ depth < most := by simpa using h
    omega
  · exact absurd h (by simp)

/-- A list or an object is read one level deeper, if that is allowed. -/
theorem Within.opened {c : Char} {free bounded : Read α} (inObject : Bool) (hc : opens c)
    (h : Within limits (depth + 1) (skipSpace rest) free bounded) :
    Within limits depth (c :: rest) free
      (if limits.allows depth then bounded else .error (.tooDeep inObject)) := by
  cases hallows : limits.allows depth with
  | false => exact .beyond (.of_not_allows inObject hallows hc)
  | true => exact (h.of_suffix (skipSpace_suffix rest)).of_opened hc

namespace ReadersWithin

theorem value_succ (h : ReadersWithin limits fuel) (depth : Nat) (cs : List Char) :
    Within limits depth cs (readValue .unbounded (fuel + 1) depth cs)
      (readValue limits (fuel + 1) depth cs) := by
  rw [readValue.eq_def, readValue.eq_def]
  simp only [allows_unbounded, if_true]
  split
  · next left =>
    refine Within.of_suffix ?_ (List.suffix_cons _ left)
    obtain ⟨s, rest, hrest, hread⟩ | hread := readString_cases fuel [] left
    · rw [hread]
      exact .read hrest
    · rw [hread]
      exact .malformed
  · next left =>
    refine .opened false rfl ?_
    -- both readers look at the same character after the blanks, whatever it is
    generalize skipSpace left = inner
    split
    · exact .read (List.suffix_cons _ _)
    · exact h.items (depth + 1) [] _
  · next left =>
    refine .opened true rfl ?_
    generalize skipSpace left = inner
    split
    · exact .read (List.suffix_cons _ _)
    · exact h.fields (depth + 1) [] _
  · exact within_simple limits depth cs

theorem items_succ (h : ReadersWithin limits fuel) (depth : Nat) (acc : List Json)
    (cs : List Char) : Within limits depth cs (readItems .unbounded (fuel + 1) depth acc cs)
      (readItems limits (fuel + 1) depth acc cs) := by
  rw [readItems, readItems]
  obtain ⟨v, rest, hrest, hfree, hbounded⟩ | ⟨hfree, hbounded⟩ | ⟨e, he, hbounded⟩ :=
    (h.value depth cs).inv
  · rw [hfree, hbounded]
    refine Within.of_suffix ?_ ((skipSpace_suffix rest).trans hrest)
    dsimp only
    generalize skipSpace rest = afterValue
    split
    · exact .read (List.suffix_cons _ _)
    · exact (h.items depth (v :: acc) _).of_suffix
        ((skipSpace_suffix _).trans (List.suffix_cons _ _))
    · exact .malformed
  · rw [hfree, hbounded]
    exact .malformed
  · rw [hbounded]
    exact .beyond he

theorem fields_succ (h : ReadersWithin limits fuel) (depth : Nat) (acc : Named Json)
    (cs : List Char) : Within limits depth cs (readFields .unbounded (fuel + 1) depth acc cs)
      (readFields limits (fuel + 1) depth acc cs) := by
  rw [readFields.eq_def, readFields.eq_def]
  dsimp only
  split
  · next left =>
    refine Within.of_suffix ?_ (List.suffix_cons _ left)
    obtain ⟨name, rest, hrest, hname⟩ | hname := readString_cases fuel [] left
    · rw [hname]
      refine Within.of_suffix ?_ ((skipSpace_suffix rest).trans hrest)
      dsimp only
      generalize skipSpace rest = afterName
      split
      · next left =>
        refine Within.of_suffix ?_ ((skipSpace_suffix left).trans (List.suffix_cons _ left))
        obtain ⟨v, rest, hrest, hfree, hbounded⟩ | ⟨hfree, hbounded⟩ | ⟨e, he, hbounded⟩ :=
          (h.value depth (skipSpace left)).inv
        · rw [hfree, hbounded]
          refine Within.of_suffix ?_ ((skipSpace_suffix rest).trans hrest)
          dsimp only
          generalize skipSpace rest = afterValue
          split
          · exact .read (List.suffix_cons _ _)
          · exact (h.fields depth _ _).of_suffix
              ((skipSpace_suffix _).trans (List.suffix_cons _ _))
          · exact .malformed
        · rw [hfree, hbounded]
          exact .malformed
        · rw [hbounded]
          exact .beyond he
      · exact .malformed
    · rw [hname]
      exact .malformed
  · exact .malformed

end ReadersWithin

/-- The readers of values do as without limits until a limit is met. -/
theorem readersWithin (limits : Limits) (fuel : Nat) : ReadersWithin limits fuel := by
  induction fuel with
  | zero => exact ⟨fun _ _ => .malformed, fun _ _ _ => .malformed, fun _ _ _ => .malformed⟩
  | succ fuel ih => exact ⟨ih.value_succ, ih.items_succ, ih.fields_succ⟩

/-! ## Whole documents -/

/-- **What the limits on documents do.**  A document is read within limits as it is without any, and
then it is a value or malformed; or its text is beyond the limits. -/
theorem readWithin_cases (limits : Limits) (cs : List Char) :
    (readWithin limits cs = readWithin .unbounded cs ∧
      ((∃ v, readWithin limits cs = .ok v) ∨ readWithin limits cs = .error .malformed)) ∨
    ∃ e, readWithin limits cs = .error e ∧ Beyond limits 0 cs e := by
  have hvalue := ((readersWithin limits (2 * cs.length + 2)).value 0 (skipSpace cs)).of_suffix
    (skipSpace_suffix cs)
  simp only [readWithin]
  generalize readValue .unbounded (2 * cs.length + 2) 0 (skipSpace cs) = free at hvalue ⊢
  generalize readValue limits (2 * cs.length + 2) 0 (skipSpace cs) = bounded at hvalue ⊢
  cases hvalue with
  | malformed => exact Or.inl ⟨rfl, Or.inr rfl⟩
  | beyond he => exact Or.inr ⟨_, rfl, he⟩
  | @read v left hleft =>
    left
    refine ⟨rfl, ?_⟩
    simp only
    split
    · exact Or.inl ⟨v, rfl⟩
    · exact Or.inr rfl

/-! ## Texts that meet a limit -/

theorem skipSpace_openings (n : Nat) :
    skipSpace (List.replicate n '[') = List.replicate n '[' := by
  cases n <;> rfl

/-- Where the text goes on with openings, the reader goes as deep as it is allowed to. -/
theorem readValue_openings {most : Nat} (hlimit : limits.depth = some most) {n : Nat}
    (hdepth : depth ≤ most) (hdeep : most < depth + n) (hfuel : 2 * n ≤ fuel) :
    readValue limits fuel depth (List.replicate n '[') = .error (.tooDeep false) := by
  induction n generalizing depth fuel with
  | zero => omega
  | succ n ih =>
    obtain ⟨fuel, rfl⟩ : ∃ left, fuel = left + 2 := ⟨fuel - 2, by omega⟩
    rw [List.replicate_succ, readValue, Limits.allows, hlimit]
    by_cases hallowed : depth < most
    · have hinner : readValue limits fuel (depth + 1) (List.replicate n '[') =
          .error (.tooDeep false) := ih (by omega) (by omega) (by omega)
      rw [skipSpace_openings, if_pos (by simpa using hallowed)]
      cases n with
      | zero => omega
      | succ n =>
        rw [List.replicate_succ] at hinner ⊢
        change readItems limits (fuel + 1) (depth + 1) [] _ = _
        rw [readItems, hinner]
    · exact if_neg (by simpa using hallowed)

/-- **More openings than the depth allowed** are refused, whatever their number. -/
theorem readWithin_openings {most n : Nat} (hlimit : limits.depth = some most) (hdeep : most < n) :
    readWithin limits (List.replicate n '[') = .error (.tooDeep false) := by
  rw [readWithin, skipSpace_openings, List.length_replicate,
    readValue_openings hlimit (Nat.zero_le most) (by omega) (by omega)]

end BlogGraph.Json
