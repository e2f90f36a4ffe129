/-!
# Hexadecimal numerals

Numerals in base sixteen with a least width, in small or in capital digits, and their reading.
-/

namespace BlogGraph.Text

/-- The digit of a value below sixteen, with small letters. -/
def hexDigit (n : Nat) : Char :=
  if n < 10 then Char.ofNat (48 + n) else Char.ofNat (87 + n)

/-- The value of one hexadecimal digit, capital or small. -/
def hexValue? (c : Char) : Option Nat :=
  let n := c.toNat
  if 48 ≤ n && n ≤ 57 then some (n - 48)
  else if 65 ≤ n && n ≤ 70 then some (n - 55)
  else if 97 ≤ n && n ≤ 102 then some (n - 87)
  else none

/-- The lowest `width` hexadecimal digits, most significant first. -/
def hexFixed : Nat → Nat → List Char
  | 0, _ => []
  | width + 1, n => hexFixed width (n / 16) ++ [hexDigit (n % 16)]

/-- How many hexadecimal digits a number needs, at least `least`. -/
def hexWidth (least n : Nat) : Nat :=
  max least (Nat.toDigits 16 n).length

/-- The numeral with at least `least` digits and small letters. -/
def hexLower (least n : Nat) : String :=
  String.ofList (hexFixed (hexWidth least n) n)

/-- The numeral with at least `least` digits and capital letters. -/
def hexUpper (least n : Nat) : String :=
  (hexLower least n).toUpper

/-- The value of a run of hexadecimal digits, if all are digits. -/
def hexNumber? (cs : List Char) : Option Nat :=
  cs.foldlM (fun n c => (hexValue? c).map (n * 16 + ·)) 0

theorem hexFixed_length (width n : Nat) : (hexFixed width n).length = width := by
  induction width generalizing n with
  | zero => rfl
  | succ w ih => simp [hexFixed, ih]

theorem hexValue?_hexDigit (n : Fin 16) : hexValue? (hexDigit n) = some n := by
  revert n
  decide

end BlogGraph.Text
