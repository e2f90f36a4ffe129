import BlogGraph.Text.Blank

/-!
# Whole numbers as people write them

A numeral of decimal digits of any script, with single underscores between digits, a sign
before it and white space around it. Every script has its ten digits in a row, so the table holds
the zeros only.
-/

namespace BlogGraph.Text

/-- The zeros of all scripts. -/
def zeros : List Nat := [
  0x30, 0x660, 0x6F0, 0x7C0, 0x966, 0x9E6, 0xA66, 0xAE6, 0xB66, 0xBE6, 0xC66, 0xCE6, 0xD66, 0xDE6,
  0xE50, 0xED0, 0xF20, 0x1040, 0x1090, 0x17E0, 0x1810, 0x1946, 0x19D0, 0x1A80, 0x1A90, 0x1B50,
  0x1BB0, 0x1C40, 0x1C50, 0xA620, 0xA8D0, 0xA900, 0xA9D0, 0xA9F0, 0xAA50, 0xABF0, 0xFF10, 0x104A0,
  0x10D30, 0x11066, 0x110F0, 0x11136, 0x111D0, 0x112F0, 0x11450, 0x114D0, 0x11650, 0x116C0,
  0x11730, 0x118E0, 0x11950, 0x11C50, 0x11D50, 0x11DA0, 0x16A60, 0x16AC0, 0x16B50, 0x1D7CE,
  0x1D7D8, 0x1D7E2, 0x1D7EC, 0x1D7F6, 0x1E140, 0x1E2F0, 0x1E950, 0x1FBF0]

/-- The value of a decimal digit of any script. -/
def digitValue? (c : Char) : Option Nat :=
  (zeros.find? fun z => z ≤ c.toNat && c.toNat ≤ z + 9).map (c.toNat - ·)

/-- The digits of a numeral; between two of them one underscore may stand. `needed` tells
whether a digit has to follow. -/
def digitsOf? (needed : Bool) : List Char → Option (List Nat)
  | [] => if needed then none else some []
  | c :: rest =>
    if c = '_' then if needed then none else digitsOf? true rest
    else
      match digitValue? c, digitsOf? false rest with
      | some d, some ds => some (d :: ds)
      | _, _ => none

/-- The number that digits stand for, most significant first. -/
def numberOfDigits (ds : List Nat) : Nat := ds.foldl (fun n d => n * 10 + d) 0

/-- A text without a sign, and whether the sign is a minus. -/
def splitSign : List Char → Bool × List Char
  | '-' :: rest => (true, rest)
  | '+' :: rest => (false, rest)
  | cs => (false, cs)

/-- The most digits that a numeral may have. -/
def mostDigits : Nat := 4300

/-- The number that a text stands for, if it is a numeral of at most `mostDigits` digits. -/
def wholeNumber? (cs : List Char) : Option Int :=
  let (negative, digits) := splitSign (trimSpaces cs)
  match digitsOf? true digits with
  | none => none
  | some ds =>
    if ds.length > mostDigits then none
    else some (if negative then -(numberOfDigits ds : Int) else numberOfDigits ds)

end BlogGraph.Text
