import BlogGraph.Text.Hex
import Mathlib.Algebra.GroupWithZero.Nat

/-!
# Hexadecimal numerals are read as their numbers

A numeral that is wide enough for its number is read as that number (`hexNumber?_hexFixed`), so
numerals of one least width tell numbers apart (`hexLower_injective`).
-/

namespace BlogGraph.Text

theorem hexNumber?_concat (cs : List Char) (c : Char) :
    hexNumber? (cs ++ [c]) =
      (hexNumber? cs).bind fun n => (hexValue? c).map (n * 16 + ·) := by
  simp [hexNumber?, List.foldlM_append]

/-- A numeral that is wide enough is read as its number. -/
theorem hexNumber?_hexFixed {width n : Nat} (h : n < 16 ^ width) :
    hexNumber? (hexFixed width n) = some n := by
  induction width generalizing n with
  | zero =>
    obtain rfl : n = 0 := by simpa using h
    rfl
  | succ width ih =>
    have hhigh : n / 16 < 16 ^ width := by
      rw [Nat.pow_succ] at h
      exact Nat.div_lt_of_lt_mul (by omega)
    have hlow : hexValue? (hexDigit (n % 16)) = some (n % 16) :=
      hexValue?_hexDigit ⟨n % 16, Nat.mod_lt n (by omega)⟩
    rw [hexFixed, hexNumber?_concat, ih hhigh, Option.bind_some, hlow, Option.map_some]
    exact congrArg some (Nat.div_add_mod' n 16)

theorem lt_pow_hexWidth (least n : Nat) : n < 16 ^ hexWidth least n := by
  have hpos : 0 < hexWidth least n :=
    Nat.lt_of_lt_of_le Nat.length_toDigits_pos (Nat.le_max_right least _)
  exact (Nat.length_toDigits_le_iff (by omega) hpos).1 (Nat.le_max_right least _)

theorem hexLower_injective (least : Nat) : Function.Injective (hexLower least) := by
  intro m n h
  have hdigits : hexFixed (hexWidth least m) m = hexFixed (hexWidth least n) n :=
    String.ofList_injective h
  have hm := hexNumber?_hexFixed (lt_pow_hexWidth least m)
  rw [hdigits, hexNumber?_hexFixed (lt_pow_hexWidth least n)] at hm
  exact (Option.some.inj hm).symm

end BlogGraph.Text
