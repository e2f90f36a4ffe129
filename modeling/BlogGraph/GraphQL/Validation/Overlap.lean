import BlogGraph.GraphQL.Error
import BlogGraph.GraphQL.LiteralText
import BlogGraph.GraphQL.Validation.Usage

/-!
# Fields that share a response name

Two fields of one response name must be the same field with the same arguments, unless they
can never apply to one object, and their own fields must agree in the same way. Fields are
compared within a selection set, with the fragments it spreads, and those fragments with each
other. Pairs that have been compared are not compared again.
-/

namespace BlogGraph.GraphQL

mutual

/-- A written value with the fields of its objects in the order of their names. -/
def Literal.sorted : Literal → Literal
  | .list p items => .list p (sortedItems items)
  | .object p fields =>
    .object p ((sortedFields fields).mergeSort fun a b => a.1.value ≤ b.1.value)
  | l => l

/-- Items with the fields of their objects in order. -/
def sortedItems : List Literal → List Literal
  | [] => []
  | l :: rest => l.sorted :: sortedItems rest

/-- Fields with the fields of their objects in order. -/
def sortedFields : List (Name × Literal) → List (Name × Literal)
  | [] => []
  | (n, l) :: rest => (n, l.sorted) :: sortedFields rest

end

/-- A field that takes part in comparisons: the type it is selected on, and its definition. -/
structure Candidate where
  parent : Option String
  pos : Nat
  name : String
  arguments : List Argument
  brace : Option Nat
  selections : List Selection
  type : Option Ty

/-- Fields by response name, in the order in which the names first appear. -/
abbrev FieldMap := List (String × List Candidate)

/-- Adds a field under its response name. -/
def FieldMap.add (name : String) (c : Candidate) : FieldMap → FieldMap
  | [] => [(name, [c])]
  | (n, cs) :: rest =>
    if n = name then (n, cs ++ [c]) :: rest else (n, cs) :: FieldMap.add name c rest

/-- What a selection set holds: its fields, those of fragments in place among them, and the
names of the fragments it spreads. It is known by the place of its brace. -/
structure FieldSet where
  brace : Nat
  fields : FieldMap
  spreads : List String

mutual

/-- Collects one selection. -/
def collectCandidate (s : Schema) (parent : Option String) (acc : FieldMap × List String) :
    Selection → FieldMap × List String
  | .field responseName n args ds brace selections =>
    let type := do (← s.field? (← parent) n.value).type
    let pos := (Selection.field responseName n args ds brace selections).pos
    let key := (responseName.getD n).value
    (FieldMap.add key ⟨parent, pos, n.value, args, brace, selections, type⟩ acc.1, acc.2)
  | .spread _ n _ =>
    if acc.2.contains n.value then acc else (acc.1, acc.2 ++ [n.value])
  | .inline _ condition _ _ selections =>
    collectCandidates s (s.inlineType? parent condition) acc selections

/-- Collects selections. -/
def collectCandidates (s : Schema) (parent : Option String) (acc : FieldMap × List String) :
    List Selection → FieldMap × List String
  | [] => acc
  | x :: rest => collectCandidates s parent (collectCandidate s parent acc x) rest

end

/-- What a selection set on a type holds. -/
def fieldSet (s : Schema) (parent : Option String) (brace : Nat) (selections : List Selection) :
    FieldSet :=
  let (fields, spreads) := collectCandidates s parent ([], []) selections
  ⟨brace, fields, spreads⟩

/-- Why two fields conflict. -/
inductive Reason where
  | because (text : String)
  | subfields (conflicts : List (String × Reason))
deriving Inhabited

mutual

/-- The wording of a reason. -/
def Reason.message : Reason → String
  | .because text => text
  | .subfields conflicts => " and ".intercalate (reasonMessages conflicts)

/-- The wordings of the conflicts of subfields. -/
def reasonMessages : List (String × Reason) → List String
  | [] => []
  | (name, r) :: rest =>
    ("subfields '" ++ name ++ "' conflict because " ++ r.message) :: reasonMessages rest

end

/-- A conflict: the response name and the reason, and the places of the fields on either side. -/
structure Conflict where
  name : String
  reason : Reason
  left : List Nat
  right : List Nat

/-- The error that reports a conflict. -/
def Conflict.error (c : Conflict) : GraphError :=
  .atPlaces ("Fields '" ++ c.name ++ "' conflict because " ++ c.reason.message ++
    ". Use different aliases on the fields to fetch both if this was intentional.")
    (c.left ++ c.right)

/-- What has been compared: fragments with each other, and selection sets with fragments, each
with the note whether the fields could never apply together. -/
structure Compared where
  fragments : List ((String × String) × Bool)
  sets : List ((Nat × String) × Bool)

namespace Compared

/-- A comparison has been made if it was made under the same or weaker assumptions. -/
def covers {α : Type} [DecidableEq α] (made : List (α × Bool)) (pair : α) (exclusive : Bool) :
    Bool :=
  match (made.find? fun m => m.1 = pair).map (·.2) with
  | some before => exclusive || !before
  | none => false

/-- Two names in their order. -/
def ordered (a b : String) : String × String := if a < b then (a, b) else (b, a)

end Compared

/-- The arguments of two fields are the same, whatever their order. -/
def sameArguments (a b : List Argument) : Bool :=
  a.length = b.length && a.all fun x =>
    match b.reverse.find? fun y => y.name.value = x.name.value with
    | some y => x.value.sorted.text = y.value.sorted.text
    | none => false

/-- Two types cannot describe one response value. -/
def typesConflict (s : Schema) : Ty → Ty → Bool
  | .list a, .list b => typesConflict s a b
  | .list _, _ => true
  | _, .list _ => true
  | .nonNull a, .nonNull b => typesConflict s a b
  | .nonNull _, _ => true
  | _, .nonNull _ => true
  | .named a, .named b =>
    let leaf := fun (n : String) => ((s.type? n).map TypeSpec.isLeaf).getD false
    (leaf a || leaf b) && a ≠ b

/-- What the comparison needs to know of its document. -/
structure OverlapContext where
  schema : Schema
  document : Document

namespace OverlapContext

/-- What a named fragment holds. -/
def fragmentSet? (c : OverlapContext) (name : String) : Option FieldSet :=
  (c.document.fragment? name).map fun f =>
    fieldSet c.schema (c.schema.composite? f.condition.value) f.brace f.selections

/-- The fields of two candidates that could never apply to one object. -/
def exclusive (a b : Candidate) : Bool :=
  match a.parent, b.parent with
  | some p, some q => p ≠ q
  | _, _ => false

/-- A comparison in progress: what has been compared. -/
abbrev Comparing := StateM Compared

mutual

/-- Compares two fields of one response name. -/
def compareFields (c : OverlapContext) (excluded : Bool) (name : String) (a b : Candidate) :
    Nat → Comparing (Option Conflict)
  | 0 => pure none
  | fuel + 1 => do
    let apart := excluded || exclusive a b
    let conflict := fun (text : String) => some (Conflict.mk name (.because text) [a.pos] [b.pos])
    if !apart && a.name ≠ b.name then
      return conflict ("'" ++ a.name ++ "' and '" ++ b.name ++ "' are different fields")
    else if !apart && !sameArguments a.arguments b.arguments then
      return conflict "they have differing arguments"
    else
      match a.type, b.type with
      | some t, some u =>
        if typesConflict c.schema t u then
          return conflict
            ("they return conflicting types '" ++ t.text ++ "' and '" ++ u.text ++ "'")
        else compareInner c apart name a b fuel
      | _, _ => compareInner c apart name a b fuel

/-- Compares the selection sets of two fields. -/
def compareInner (c : OverlapContext) (excluded : Bool) (name : String) (a b : Candidate) :
    Nat → Comparing (Option Conflict)
  | 0 => pure none
  | fuel + 1 => do
    match a.brace, b.brace with
    | some p, some q =>
      let inner := fun (x : Candidate) (brace : Nat) =>
        fieldSet c.schema (x.type.bind fun t => c.schema.composite? t.base) brace x.selections
      let x := inner a p
      let y := inner b q
      let direct ← compareMaps c excluded x.fields y.fields fuel
      let left ← y.spreads.mapM fun f => compareWithFragment c excluded x f fuel
      let right ← x.spreads.mapM fun f => compareWithFragment c excluded y f fuel
      let both ← x.spreads.mapM fun f => do
        return (← y.spreads.mapM fun g => compareFragments c excluded f g fuel).flatten
      let conflicts := direct ++ left.flatten ++ right.flatten ++ both.flatten
      if conflicts.isEmpty then return none
      else
        return some ⟨name, .subfields (conflicts.map fun x => (x.name, x.reason)),
          a.pos :: conflicts.flatMap (·.left), b.pos :: conflicts.flatMap (·.right)⟩
    | _, _ => return none

/-- Compares the fields of two selection sets. -/
def compareMaps (c : OverlapContext) (excluded : Bool) (x y : FieldMap) :
    Nat → Comparing (List Conflict)
  | 0 => pure []
  | fuel + 1 => do
    let found ← x.mapM fun (name, as) => do
      let bs := ((y.find? fun e => e.1 = name).map (·.2)).getD []
      let found ← as.mapM fun a => do
        return (← bs.mapM fun b => compareFields c excluded name a b fuel).reduceOption
      return found.flatten
    return found.flatten

/-- Compares the fields of a selection set with those that a fragment holds or spreads. -/
def compareWithFragment (c : OverlapContext) (excluded : Bool) (x : FieldSet) (name : String) :
    Nat → Comparing (List Conflict)
  | 0 => pure []
  | fuel + 1 => do
    let pair := (x.brace, name)
    if Compared.covers (← get).sets pair excluded then return []
    modify fun st => { st with sets := (pair, excluded) :: st.sets }
    match c.fragmentSet? name with
    | none => return []
    | some y =>
      if x.brace = y.brace then return []
      let direct ← compareMaps c excluded x.fields y.fields fuel
      let nested ← y.spreads.mapM fun f => compareWithFragment c excluded x f fuel
      return direct ++ nested.flatten

/-- Compares the fields that two fragments hold or spread. -/
def compareFragments (c : OverlapContext) (excluded : Bool) (f g : String) :
    Nat → Comparing (List Conflict)
  | 0 => pure []
  | fuel + 1 => do
    if f = g then return []
    let pair := Compared.ordered f g
    if Compared.covers (← get).fragments pair excluded then return []
    modify fun st => { st with fragments := (pair, excluded) :: st.fragments }
    match c.fragmentSet? f, c.fragmentSet? g with
    | some x, some y =>
      let direct ← compareMaps c excluded x.fields y.fields fuel
      let right ← y.spreads.mapM fun h => compareFragments c excluded f h fuel
      let left ← x.spreads.mapM fun h => compareFragments c excluded h g fuel
      return direct ++ right.flatten ++ left.flatten
    | _, _ => return []

end

/-- The pairs of a list, each element with those after it. -/
def pairs {α : Type} : List α → List (α × α)
  | [] => []
  | a :: rest => rest.map (a, ·) ++ pairs rest

/-- The conflicts of one selection set. -/
def conflicts (c : OverlapContext) (bound : Nat) (x : FieldSet) : Comparing (List Conflict) := do
  let within ← x.fields.mapM fun (name, cs) => do
    return (← (pairs cs).mapM fun (a, b) => compareFields c false name a b bound).reduceOption
  let withFragments ← fragmentConflicts x.spreads
  return within.flatten ++ withFragments
where
  /-- The conflicts with fragments that the set spreads, and of these with each other. -/
  fragmentConflicts : List String → Comparing (List Conflict)
    | [] => pure []
    | f :: rest => do
      let own ← compareWithFragment c false x f bound
      let others ← rest.mapM fun g => compareFragments c false f g bound
      return own ++ others.flatten ++ (← fragmentConflicts rest)

end OverlapContext

mutual

/-- The selection sets inside a selection, in the order of reading. -/
def Selection.fieldSets (s : Schema) (parent : Option String) : Selection → List FieldSet
  | .field _ n _ _ brace selections =>
    let inner := s.innerType? parent n.value
    match brace with
    | some b => fieldSet s inner b selections :: fieldSetsOf s inner selections
    | none => []
  | .spread _ _ _ => []
  | .inline _ condition _ brace selections =>
    let inner := s.inlineType? parent condition
    fieldSet s inner brace selections :: fieldSetsOf s inner selections

/-- The selection sets inside selections, in the order of reading. -/
def fieldSetsOf (s : Schema) (parent : Option String) : List Selection → List FieldSet
  | [] => []
  | x :: rest => x.fieldSets s parent ++ fieldSetsOf s parent rest

end

namespace Document

/-- All selection sets of a document, in the order of reading. -/
def fieldSets (s : Schema) (d : Document) : List FieldSet :=
  d.definitions.flatMap fun
    | .operation o =>
      let parent := s.rootType? o.kind
      fieldSet s parent o.brace o.selections :: fieldSetsOf s parent o.selections
    | .fragment f =>
      let parent := s.composite? f.condition.value
      fieldSet s parent f.brace f.selections :: fieldSetsOf s parent f.selections
    | .system _ => []

/-- The errors about response names, for each selection set by the place of its brace. The
nesting of comparisons is bounded: each goes into a selection set or marks a new pair. -/
def overlapErrors (s : Schema) (d : Document) : List (Nat × List GraphError) :=
  let sets := d.fieldSets s
  let n := sets.length + d.fragments.length + 2
  let bound := 4 * n * n * n + 10
  let c : OverlapContext := ⟨s, d⟩
  let run : StateM Compared (List (Nat × List GraphError)) := sets.mapM fun x => do
    return (x.brace, (← c.conflicts bound x).map Conflict.error)
  (run.run ⟨[], []⟩).1

end Document
end BlogGraph.GraphQL
