import BlogGraph.GraphQL.Document
import BlogGraph.GraphQL.MetaSchema

/-!
# Uses of variables

Where variables stand in the selections and directives of a document, and which type each
place expects.
-/

namespace BlogGraph.GraphQL

namespace Schema

/-- The type that a written type stands for, if its name is known. -/
def resolve? (s : Schema) : TypeRef → Option Ty
  | .named n => if (s.type? n.value).isSome then some (.named n.value) else none
  | .list _ t => (s.resolve? t).map .list
  | .nonNull _ t => (s.resolve? t).map .nonNull

/-- The name of a type with fields to select. -/
def composite? (s : Schema) (name : String) : Option String :=
  match s.type? name with
  | some t => if t.isComposite then some name else none
  | none => none

/-- The object type whose fields are selected inside a field of an object type. -/
def innerType? (s : Schema) (parent : Option String) (field : String) : Option String := do
  let f ← s.selectedField? (← parent) field
  s.composite? f.type.base

/-- The type on which the selections of a fragment in place are made. -/
def inlineType? (s : Schema) (parent : Option String) (condition : Option Name) : Option String :=
  match condition with
  | some n => s.composite? n.value
  | none => parent

/-- The type of the values that an operation starts from. -/
def rootType? (s : Schema) : OperationKind → Option String
  | .query => some s.queryType
  | .mutation => some s.mutationType
  | .subscription => none

end Schema

/-- A use of a variable: its name, its place, the type expected there, and whether the place
has a value to fall back on. -/
structure Usage where
  name : String
  pos : Nat
  type : Option Ty
  hasDefault : Bool

mutual

/-- The uses of variables in a value of an expected type. -/
def literalUsages (s : Schema) (type : Option Ty) (hasDefault : Bool) : Literal → List Usage
  | .var p n => [⟨n.value, p, type, hasDefault⟩]
  | .list _ items =>
    let itemType :=
      match type.map Ty.nullable with
      | some (.list t) => some t
      | other => other
    itemUsages s itemType items
  | .object _ fields => fieldUsages s type fields
  | _ => []

/-- The uses of variables in the items of a list. -/
def itemUsages (s : Schema) (type : Option Ty) : List Literal → List Usage
  | [] => []
  | l :: rest => literalUsages s type false l ++ itemUsages s type rest

/-- The uses of variables in the fields of an object. -/
def fieldUsages (s : Schema) (type : Option Ty) : List (Name × Literal) → List Usage
  | [] => []
  | (n, l) :: rest =>
    let spec : Option InputSpec := do
      let t ← s.type? (← type).base
      t.inputFields.find? fun f => f.name = n.value
    literalUsages s (spec.map (·.type)) ((spec.bind (·.defaultValue)).isSome) l ++
      fieldUsages s type rest

end

/-- The uses of variables in arguments, given what is known of them. -/
def argumentUsages (s : Schema) (specs : List InputSpec) (args : List Argument) : List Usage :=
  args.flatMap fun a =>
    let spec := specs.find? fun i => i.name = a.name.value
    literalUsages s (spec.map (·.type)) ((spec.bind (·.defaultValue)).isSome) a.value

/-- The arguments of a directive: those of the schema's directive, or, of an unknown one, those
of the field at which it stands. -/
def directiveArguments (s : Schema) (field : Option FieldSpec) (d : Directive) : List InputSpec :=
  match s.directive? d.name.value, field with
  | some spec, _ => spec.arguments
  | none, some f => f.arguments
  | none, none => []

/-- The uses of variables in directives. -/
def directiveUsages (s : Schema) (field : Option FieldSpec) (ds : List Directive) : List Usage :=
  ds.flatMap fun d => argumentUsages s (directiveArguments s field d) d.arguments

mutual

/-- The uses of variables in a selection on an object type; `around` is the field whose
selection set it stands in. -/
def Selection.usages (s : Schema) (around : Option FieldSpec) (parent : Option String) :
    Selection → List Usage
  | .field _ n args ds _ selections =>
    let spec := parent.bind fun p => s.selectedField? p n.value
    argumentUsages s ((spec.map (·.arguments)).getD []) args ++ directiveUsages s spec ds ++
      selectionUsages s spec (s.innerType? parent n.value) selections
  | .spread _ _ ds => directiveUsages s around ds
  | .inline _ condition ds _ selections =>
    directiveUsages s around ds ++
      selectionUsages s around (s.inlineType? parent condition) selections

/-- The uses of variables in selections. -/
def selectionUsages (s : Schema) (around : Option FieldSpec) (parent : Option String) :
    List Selection → List Usage
  | [] => []
  | x :: rest => x.usages s around parent ++ selectionUsages s around parent rest

end

/-- The uses of variables in a fragment. -/
def Fragment.usages (s : Schema) (f : Fragment) : List Usage :=
  directiveUsages s none f.directives ++
    selectionUsages s none (s.composite? f.condition.value) f.selections

/-- The uses of variables in an operation itself. -/
def Operation.usages (s : Schema) (o : Operation) : List Usage :=
  directiveUsages s none o.directives ++ selectionUsages s none (s.rootType? o.kind) o.selections

end BlogGraph.GraphQL
