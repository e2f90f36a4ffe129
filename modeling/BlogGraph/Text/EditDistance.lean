import BlogGraph.Text.Lowercase

/-!
# Suggestions by edit distance

Which known names are near enough to a name that was mistyped. The distance counts single
insertions, deletions, substitutions and swaps of neighbours, ignoring case; names that
differ in case alone have distance one. A name is near when its distance is at most two
fifths of the length of what was typed, plus one.
-/

namespace BlogGraph.Text

/-- One cell of the distance table: `a`, `b` are the characters compared, `up`, `left` and
`diagonal` the neighbouring cells, and `swap` the cell two rows and columns back when the
last two characters stand in swapped order. -/
def distanceCell (same : Bool) (up left diagonal : Nat) (swap : Option Nat) : Nat :=
  let base := min (min (up + 1) (left + 1)) (diagonal + if same then 0 else 1)
  match swap with
  | some s => min base (s + 1)
  | none => base

/-- One row of the distance table. `older` and `old` are the two rows before it from the
current column on, `last` the previous character of the other text, and `left` the cell just
computed. -/
def distanceRow (a : Char) (lastA lastB : Option Char) (left : Nat) :
    List Char → (old older : List Nat) → List Nat
  | [], _, _ => []
  | b :: bs, old, older =>
    let swap := if lastA = some b && lastB = some a then older.head? else none
    let up := (old.drop 1).headD 0
    let cell := distanceCell (a == b) up left (old.headD 0) swap
    let older' := if lastB.isSome then older.drop 1 else older
    cell :: distanceRow a lastA (some b) cell bs (old.drop 1) older'

/-- The remaining rows of the table: the last cell of the last row. `older` is empty before
the second row. -/
def distanceRows (bs : List Char) : List Char → Option Char → Nat → (old older : List Nat) → Nat
  | [], _, _, old, _ => old.getLastD 0
  | a :: as, lastA, i, old, older =>
    let row := i :: distanceRow a lastA none i bs old older
    distanceRows bs as (some a) (i + 1) row old

/-- How many single edits lead from one text to the other. -/
def editDistance (a b : List Char) : Nat :=
  distanceRows b a none 1 (List.range (b.length + 1)) []

/-- The greatest distance at which a name still counts as near to what was typed. -/
def nearness (typed : String) : Nat :=
  typed.length * 2 / 5 + 1

/-- The distance between what was typed and a known name, case aside. -/
def nameDistance (typed known : String) : Nat :=
  let a := lower typed.toList
  let b := lower known.toList
  if typed = known then 0 else if a = b then 1 else editDistance b a

/-- The known names near to what was typed: nearest first, then in alphabetical order. -/
def nearNames (typed : String) (known : List String) : List String :=
  let near := (known.map fun name => (nameDistance typed name, name)).filter fun p =>
    p.1 ≤ nearness typed
  (near.mergeSort fun p q => p.1 < q.1 || (p.1 = q.1 && p.2 ≤ q.2)).map (·.2)

/-- A list of choices in words: `'a'`, `'a' or 'b'`, `'a', 'b', or 'c'`. -/
def choices : List String → String
  | [] => ""
  | [a] => a
  | [a, b] => a ++ " or " ++ b
  | items => ", ".intercalate (items.dropLast) ++ ", or " ++ items.getLastD ""

/-- The question that ends a message about an unknown name: at most five suggestions. -/
def didYouMean (suggestions : List String) : String :=
  if suggestions.isEmpty then ""
  else " Did you mean " ++ choices ((suggestions.take 5).map fun s => "'" ++ s ++ "'") ++ "?"

end BlogGraph.Text
