/-!
# Suggestions by shared pieces

How much two texts resemble each other: the share of characters in common pieces, found by
taking the longest common piece and going on to its left and to its right. Of several
longest pieces the one furthest left in the first text is taken, then the one furthest left
in the second.
-/

namespace BlogGraph.Text

/-- How many leading characters two texts share. -/
def sharedPrefix : List Char → List Char → Nat
  | a :: as, b :: bs => if a = b then sharedPrefix as bs + 1 else 0
  | _, _ => 0

/-- A common piece: where it starts in either text and how long it is. -/
structure Piece where
  left : Nat
  right : Nat
  size : Nat
deriving DecidableEq, Repr

/-- The longest common piece, furthest left in the first text and then in the second. -/
def longestPiece (a b : List Char) : Piece :=
  (List.range a.length).foldl (fun best i =>
    (List.range b.length).foldl (fun best j =>
      let size := sharedPrefix (a.drop i) (b.drop j)
      if size > best.size then ⟨i, j, size⟩ else best) best) ⟨0, 0, 0⟩

/-- How many characters stand in common pieces, with `fuel` bounding the nesting of splits. -/
def sharedWithin : Nat → List Char → List Char → Nat
  | 0, _, _ => 0
  | fuel + 1, a, b =>
    let p := longestPiece a b
    if p.size = 0 then 0
    else p.size + sharedWithin fuel (a.take p.left) (b.take p.right) +
      sharedWithin fuel (a.drop (p.left + p.size)) (b.drop (p.right + p.size))

/-- How many characters two texts share in common pieces. Each split shortens the first text,
so its length bounds the nesting. -/
def sharedCount (a b : List Char) : Nat :=
  sharedWithin (a.length + 1) a b

/-- The known names that resemble what was typed: at least three fifths shared, the best
three, best first; of two that share equally the later in the alphabet comes first. -/
def resembling (typed : String) (known : List String) : List String :=
  let scored := known.map fun name =>
    (2 * sharedCount name.toList typed.toList, name.length + typed.length, name)
  let close := scored.filter fun (shared, total, _) => 3 * total ≤ 5 * shared
  let better := fun (x y : Nat × Nat × String) =>
    let l := x.1 * y.2.1
    let r := y.1 * x.2.1
    r < l || (l = r && y.2.2 ≤ x.2.2)
  ((close.mergeSort better).take 3).map (·.2.2)

end BlogGraph.Text
