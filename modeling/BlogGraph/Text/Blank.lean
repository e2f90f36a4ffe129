import BlogGraph.Text.Ranges

/-!
# Blank characters

White space in the wide sense: the ASCII blanks, the four information separators, the next
line and no-break characters, and the spaces and separators of the Unicode blocks. White
space in the narrower sense leaves the information separators out.
-/

namespace BlogGraph.Text

/-- The blank code points. -/
def blankRanges : List (Nat × Nat) := [
  (0x9, 0xD), (0x1C, 0x20), (0x85, 0x85), (0xA0, 0xA0), (0x1680, 0x1680), (0x2000, 0x200A),
  (0x2028, 0x2029), (0x202F, 0x202F), (0x205F, 0x205F), (0x3000, 0x3000)]

/-- White space in the wide sense. -/
def isBlank (c : Char) : Bool :=
  inRanges blankRanges c.toNat

/-- The text without its leading blanks. -/
def dropBlanks (cs : List Char) : List Char :=
  cs.dropWhile isBlank

/-- The text without the blanks at either end. -/
def trimBlanks (cs : List Char) : List Char :=
  ((dropBlanks cs).reverse.dropWhile isBlank).reverse

/-- White space in the narrower sense: without the information separators. -/
def isSpace (c : Char) : Bool :=
  isBlank c && !(0x1C ≤ c.toNat && c.toNat ≤ 0x1F)

/-- The text without the white space at either end. -/
def trimSpaces (cs : List Char) : List Char :=
  ((cs.dropWhile isSpace).reverse.dropWhile isSpace).reverse

end BlogGraph.Text
