import BlogGraph.GraphQL.Validation.Directives
import BlogGraph.GraphQL.Validation.Fragments

/-!
# Rules for selections

Selected fields must exist, simple values have no fields to select while all others need some,
and fragments must be known and made for the type they are spread on. Errors come in the order
of reading; at one place they come in a fixed order of rules.
-/

namespace BlogGraph.GraphQL

/-- What the rules need to know of the document around a selection. -/
structure SelectionContext where
  schema : Schema
  document : Document
  known : List KnownDirective
  overlaps : List (Nat × List GraphError)

/-- Errors about the fragments and types that exist only in name. -/
def unknownType (s : Schema) (own : List String) (system : Bool) (n : Name) : List GraphError :=
  let names := s.types.map (·.name) ++ own
  if names.contains n.value || (system && MetaSchema.scalarNames.contains n.value) then []
  else
    let options := if system then (MetaSchema.scalarNames ++ names).eraseDups else names.eraseDups
    [.atPlaces ("Unknown type '" ++ n.value ++ "'." ++
      Text.didYouMean (Text.nearNames n.value options)) [n.pos]]

namespace Document

/-- The names of the types that a document itself defines. -/
def definedTypes (d : Document) : List String :=
  d.definitions.filterMap fun
    | .system ⟨_, false, some n, _, body⟩ =>
      match body with
      | .directive _ _ _ => none
      | _ => some n.value
    | _ => none

end Document

/-! ## The depth of introspection -/

/-- The fields that lead from a type to lists of others. -/
def metaLists : List String := ["fields", "interfaces", "possibleTypes", "inputFields"]

mutual

/-- A selection goes through three lists of the type system, counting those before it; `within`
holds the fragments on the way. -/
def goesTooDeep (d : Document) (within : List String) (depth : Nat) : Nat → Selection → Bool
  | 0, _ => false
  | fuel + 1, .spread _ n _ =>
    if within.contains n.value then false
    else
      match d.fragment? n.value with
      | some f => anyGoesTooDeep d (n.value :: within) depth fuel f.selections
      | none => false
  | fuel + 1, .field _ n _ _ _ selections =>
    let depth := if metaLists.contains n.value then depth + 1 else depth
    depth ≥ 3 && metaLists.contains n.value || anyGoesTooDeep d within depth fuel selections
  | fuel + 1, .inline _ _ _ _ selections => anyGoesTooDeep d within depth fuel selections

/-- Some selection goes through three lists of the type system. -/
def anyGoesTooDeep (d : Document) (within : List String) (depth : Nat) :
    Nat → List Selection → Bool
  | 0, _ => false
  | _, [] => false
  | fuel + 1, x :: rest =>
    goesTooDeep d within depth fuel x || anyGoesTooDeep d within depth fuel rest

end

mutual

/-- The number of selections in a selection, itself included. -/
def Selection.size : Selection → Nat
  | .field _ _ _ _ _ selections => 1 + selectionsSize selections
  | .spread _ _ _ => 1
  | .inline _ _ _ _ selections => 1 + selectionsSize selections

/-- The number of selections in selections. -/
def selectionsSize : List Selection → Nat
  | [] => 0
  | x :: rest => 1 + x.size + selectionsSize rest

end

namespace Document

/-- The number of selections in a document. -/
def size (d : Document) : Nat :=
  (d.definitions.map fun
    | .operation o => selectionsSize o.selections
    | .fragment f => selectionsSize f.selections
    | .system _ => 0).foldl (· + ·) 0

/-- A bound on the nesting of walks that go into selection sets and fragments, each fragment at
most once at a time. -/
def walkBound (d : Document) : Nat := (d.size + 2) * (d.fragments.length + 2) * 2 + 2

end Document

namespace SelectionContext

variable (c : SelectionContext)

/-- Errors about directives at a selection. -/
def directiveErrors (location : String) (field : Option FieldSpec) (parent : Option String)
    (ds : List Directive) : List GraphError :=
  DirectivePlace.allErrors ⟨c.schema, c.known, location, field, parent⟩ ds

/-- Errors about response names in the selection set with this brace. -/
def overlapErrors (brace : Nat) : List GraphError :=
  ((c.overlaps.find? fun e => e.1 = brace).map (·.2)).getD []

/-- Errors about the selection set of a field that exists, or the lack of one. -/
def subfieldErrors (spec : FieldSpec) (n : Name) (pos : Nat) (brace : Option Nat)
    (selections : List Selection) : List GraphError :=
  let type := spec.type.text
  let leaf := ((c.schema.type? spec.type.base).map TypeSpec.isLeaf).getD false
  match leaf, brace with
  | true, some b =>
    [.atPlaces ("Field '" ++ n.value ++ "' must not have a selection since type '" ++ type ++
      "' has no subfields.") [b]]
  | false, none =>
    [.atPlaces ("Field '" ++ n.value ++ "' of type '" ++ type ++
      "' must have a selection of subfields. Did you mean '" ++ n.value ++ " \x7b ... \x7d'?")
      [pos]]
  | false, some _ =>
    if selections.isEmpty then
      [.atPlaces ("Field '" ++ n.value ++ "' of type '" ++ type ++
        "' must have at least one field selected.") [pos]]
    else []
  | true, none => []

/-- The error about a field that a type does not have. -/
def unknownField (parent : String) (n : Name) (pos : Nat) : GraphError :=
  let fields := ((c.schema.type? parent).map fun t => t.fields.map (·.name)).getD []
  .atPlaces ("Cannot query field '" ++ n.value ++ "' on type '" ++ parent ++ "'." ++
    Text.didYouMean (Text.nearNames n.value fields)) [pos]

/-- Errors about a fragment that can never apply where it stands. -/
def misplacedFragment (which : String) (parent fragment : Option String) (pos : Nat) :
    List GraphError :=
  match parent, fragment with
  | some p, some f =>
    if p = f then []
    else
      [.atPlaces ("Fragment " ++ which ++ "cannot be spread here as objects of type '" ++ p ++
        "' can never be of type '" ++ f ++ "'.") [pos]]
  | _, _ => []

/-- Errors about a condition on a type without fields. -/
def conditionErrors (which : String) (n : Name) : List GraphError :=
  match c.schema.type? n.value with
  | some t =>
    if t.isComposite then []
    else
      [.atPlaces ("Fragment " ++ which ++ "cannot condition on non composite type '" ++ n.value ++
        "'.") [n.pos]]
  | none => []

mutual

/-- Errors about a selection on an object type; `around` is the field whose selection set it
stands in. -/
def selectionErrors (around : Option FieldSpec) (parent : Option String) :
    Selection → List GraphError
  | .field responseName n args ds brace selections =>
    let pos := (responseName.getD n).pos
    let spec := parent.bind fun p => c.schema.selectedField? p n.value
    let enter :=
      match parent, spec with
      | some _, some f => c.subfieldErrors f n pos brace selections
      | some p, none => [c.unknownField p n pos]
      | none, _ => []
    let deep :=
      if (n.value = "__schema" || n.value = "__type") &&
          goesTooDeep c.document [] 0 c.document.walkBound
            (.field responseName n args ds brace selections) then
        [GraphError.atPlaces "Maximum introspection depth exceeded" [pos]]
      else []
    let arguments :=
      match parent, spec with
      | some p, some f => fieldArgumentErrors c.schema p f args
      | _, _ => args.flatMap fun a => valueErrors c.schema none a.value
    let set :=
      match brace with
      | some b =>
        c.overlapErrors b ++ allSelectionErrors spec (c.schema.innerType? parent n.value) selections
      | none => []
    let leave :=
      match parent, spec with
      | some p, some f => missingFieldArguments p f args pos
      | _, _ => []
    enter ++ repeatedDirectives c.known [] ds ++ repeatedArguments args ++ deep ++ arguments ++
      c.directiveErrors "FIELD" spec parent ds ++ set ++ leave
  | .spread pos n ds =>
    let fragment := c.document.fragment? n.value
    let unknown :=
      if fragment.isSome then []
      else [GraphError.atPlaces ("Unknown fragment '" ++ n.value ++ "'.") [n.pos]]
    let type := fragment.bind fun f => c.schema.composite? f.condition.value
    unknown ++ misplacedFragment ("'" ++ n.value ++ "' ") parent type pos ++
      repeatedDirectives c.known [] ds ++ c.directiveErrors "FRAGMENT_SPREAD" around parent ds
  | .inline pos condition ds brace selections =>
    let type := c.schema.inlineType? parent condition
    let conditions :=
      match condition with
      | some n => c.conditionErrors "" n
      | none => []
    let types :=
      match condition with
      | some n => unknownType c.schema c.document.definedTypes false n
      | none => []
    conditions ++ misplacedFragment "" parent type pos ++ repeatedDirectives c.known [] ds ++
      types ++ c.directiveErrors "INLINE_FRAGMENT" around parent ds ++ c.overlapErrors brace ++
      allSelectionErrors around type selections

/-- Errors about selections on an object type. -/
def allSelectionErrors (around : Option FieldSpec) (parent : Option String) :
    List Selection → List GraphError
  | [] => []
  | x :: rest => selectionErrors around parent x ++ allSelectionErrors around parent rest

end

end SelectionContext
end BlogGraph.GraphQL
