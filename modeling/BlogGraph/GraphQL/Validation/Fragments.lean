import BlogGraph.GraphQL.Document
import BlogGraph.GraphQL.Error

/-!
# Fragments of a document

Which fragments are spread where, which ones an operation reaches, and which ones spread
themselves. A selection set lists its spreads before those of the selection sets inside it,
and of these the last one comes first.
-/

namespace BlogGraph.GraphQL

/-- A fragment spread: its place and the name it spreads. -/
structure Spread where
  pos : Nat
  name : String
deriving DecidableEq, Repr

/-- The spreads that stand directly in a selection set. -/
def directSpreads (selections : List Selection) : List Spread :=
  selections.filterMap fun
    | .spread p n _ => some ⟨p, n.value⟩
    | _ => none

mutual

/-- The spreads of a selection's own selection set. -/
def Selection.spreads : Selection → List Spread
  | .field _ _ _ _ _ selections => directSpreads selections ++ innerSpreads selections
  | .inline _ _ _ _ selections => directSpreads selections ++ innerSpreads selections
  | .spread _ _ _ => []

/-- The spreads of the selection sets inside a selection set, the last one first. -/
def innerSpreads : List Selection → List Spread
  | [] => []
  | s :: rest => innerSpreads rest ++ s.spreads

end

/-- All spreads of a selection set. -/
def spreadsIn (selections : List Selection) : List Spread :=
  directSpreads selections ++ innerSpreads selections

namespace Document

/-- The fragments reached from selection sets that are still to be visited, given those that
have been found. Every step visits one set, and each fragment is visited once. -/
def reachedFrom (d : Document) : Nat → List (List Selection) → List Fragment → List String →
    List Fragment
  | 0, _, found, _ => found
  | _, [], found, _ => found
  | fuel + 1, set :: waiting, found, names =>
    let step := fun (acc : List (List Selection) × List Fragment × List String) (s : Spread) =>
      let (waiting, found, names) := acc
      if names.contains s.name then acc
      else
        match d.fragment? s.name with
        | some f => (f.selections :: waiting, found ++ [f], names ++ [s.name])
        | none => (waiting, found, names ++ [s.name])
    let (waiting', found', names') := (spreadsIn set).foldl step (waiting, found, names)
    reachedFrom d fuel waiting' found' names'

/-- The fragments that a selection set reaches, directly or through others. -/
def reached (d : Document) (selections : List Selection) : List Fragment :=
  reachedFrom d (d.fragments.length + 1) [selections] [] []

end Document

/-! ## Cycles -/

/-- The search for cycles: the fragments that were visited, and the errors found. -/
structure CycleSearch where
  visited : List String
  errors : List GraphError

namespace CycleSearch

/-- The error about a fragment that the spreads of a path lead back to. -/
def cycleError (name : String) (cycle : List Spread) : GraphError :=
  let via := ", ".intercalate (cycle.dropLast.map fun s => "'" ++ s.name ++ "'")
  .atPlaces ("Cannot spread fragment '" ++ name ++ "' within itself" ++
    (if via.isEmpty then "." else " via " ++ via ++ ".")) (cycle.map (·.pos))

mutual

/-- Visits a fragment, unless it has been visited. `path` holds the spreads that lead here, and
`onWay` each fragment on the way with the number of spreads before it. Every visit marks a
fragment, so their number bounds the nesting. -/
def visit (d : Document) : Nat → List Spread → List (String × Nat) → Fragment → CycleSearch →
    CycleSearch
  | 0, _, _, _, search => search
  | fuel + 1, path, onWay, f, search =>
    if search.visited.contains f.name.value then search
    else
      follow d fuel path ((f.name.value, path.length) :: onWay) (spreadsIn f.selections)
        { search with visited := f.name.value :: search.visited }

/-- Follows the spreads of a fragment one after the other. -/
def follow (d : Document) : Nat → List Spread → List (String × Nat) → List Spread → CycleSearch →
    CycleSearch
  | 0, _, _, _, search => search
  | _, _, _, [], search => search
  | fuel + 1, path, onWay, s :: rest, search =>
    let path' := path ++ [s]
    let search' :=
      match onWay.find? fun e => e.1 = s.name with
      | some (_, start) =>
        { search with errors := search.errors ++ [cycleError s.name (path'.drop start)] }
      | none =>
        match d.fragment? s.name with
        | some f => visit d fuel path' onWay f search
        | none => search
    follow d fuel path onWay rest search'

end

end CycleSearch

namespace Document

/-- The number of spreads in all fragments. -/
def spreadCount (d : Document) : Nat :=
  (d.fragments.map fun f => (spreadsIn f.selections).length).foldl (· + ·) 0

/-- The errors about cycles that are found when the fragments are visited in order: for each
fragment those that its visit finds. -/
def cycleErrors (d : Document) : List (Nat × List GraphError) :=
  let bound := (d.fragments.length + 1) * (d.spreadCount + 2) + 2
  (d.fragments.foldl (fun (acc : CycleSearch × List (Nat × List GraphError)) f =>
    let after := CycleSearch.visit d bound [] [] f { acc.1 with errors := [] }
    (after, acc.2 ++ [(f.pos, after.errors)])) (⟨[], []⟩, [])).2

end Document
end BlogGraph.GraphQL
