/-!
# Places in a document

A place in a document is the number of characters before it. People count lines and columns,
both from one; a line ends with a line feed, a carriage return, or both together.
-/

namespace BlogGraph.GraphQL

/-- A line and a column, both counted from one. -/
structure Location where
  line : Nat
  column : Nat
deriving DecidableEq, Repr

namespace Location

/-- The order of reading. -/
def le (a b : Location) : Bool :=
  a.line < b.line || (a.line = b.line && a.column ≤ b.column)

/-- Counts on from a location over the next `offset` characters. -/
def advance (l : Location) : Nat → List Char → Location
  | 0, _ => l
  | _, [] => l
  | 1, '\r' :: '\n' :: _ => ⟨l.line + 1, 0⟩
  | n + 2, '\r' :: '\n' :: rest => advance ⟨l.line + 1, 1⟩ n rest
  | n + 1, c :: rest =>
    if c = '\n' || c = '\r' then advance ⟨l.line + 1, 1⟩ n rest
    else advance ⟨l.line, l.column + 1⟩ n rest

/-- The location of a place in a text. -/
def ofOffset (text : List Char) (offset : Nat) : Location :=
  advance ⟨1, 1⟩ offset text

end Location
end BlogGraph.GraphQL
