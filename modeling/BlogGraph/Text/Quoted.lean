import BlogGraph.Text.Hex
import BlogGraph.Text.Printable

/-!
# Quoted text in messages

A text shown inside a message stands in single quotes, or in double quotes when it holds a
single quote and no double one. A backslash, the quote itself and every character without a
printed form are escaped; all else stands for itself.
-/

namespace BlogGraph.Text

/-- The quote that a shown text stands in. -/
def quoteFor (cs : List Char) : Char :=
  if cs.contains '\'' && !cs.contains '"' then '"' else '\''

/-- A character as it stands in a shown text with the given quote. -/
def escapeIn (quote : Char) (c : Char) : List Char :=
  if c = quote || c = '\\' then ['\\', c]
  else if c = '\t' then ['\\', 't']
  else if c = '\n' then ['\\', 'n']
  else if c = '\r' then ['\\', 'r']
  else if isPrintable c then [c]
  else if c.toNat < 0x100 then '\\' :: 'x' :: hexFixed 2 c.toNat
  else if c.toNat < 0x10000 then '\\' :: 'u' :: hexFixed 4 c.toNat
  else '\\' :: 'U' :: hexFixed 8 c.toNat

/-- A text with its quotes, as a message shows it. -/
def quoted (s : String) : String :=
  let cs := s.toList
  let quote := quoteFor cs
  String.ofList (quote :: (cs.flatMap (escapeIn quote)) ++ [quote])

end BlogGraph.Text
