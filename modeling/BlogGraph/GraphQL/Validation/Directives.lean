import BlogGraph.GraphQL.InputValue
import BlogGraph.GraphQL.Validation.Usage

/-!
# Rules for arguments and directives

Arguments must be known, unique and of the right type, and those that are required must be
there. Directives must be known, stand where they may, and not be repeated.
-/

namespace BlogGraph.GraphQL

/-- Names that occur more than once, each with the places where it does. -/
def duplicateNames (names : List Name) : List (String × List Nat) :=
  (names.map (·.value)).eraseDups.filterMap fun v =>
    match names.filter fun n => n.value = v with
    | _ :: [] => none
    | same => some (v, same.map (·.pos))

/-- Whether a name was met before, and where, for each of a run of names. -/
def firstPlaces (seen : List Name) : List Name → List (Name × Nat)
  | [] => []
  | n :: rest =>
    match seen.find? fun m => m.value = n.value with
    | some m => (n, m.pos) :: firstPlaces seen rest
    | none => firstPlaces (seen ++ [n]) rest

/-! ## Values -/

mutual

/-- Errors about input fields that are given twice. -/
def repeatedFields : Literal → List GraphError
  | .list _ items => repeatedFieldsOfItems items
  | .object _ fields => repeatedFieldsFrom [] fields
  | _ => []

/-- Errors about repeated fields in the items of a list. -/
def repeatedFieldsOfItems : List Literal → List GraphError
  | [] => []
  | l :: rest => repeatedFields l ++ repeatedFieldsOfItems rest

/-- Errors about repeated fields in the rest of an object, after the fields `seen`. -/
def repeatedFieldsFrom (seen : List Name) : List (Name × Literal) → List GraphError
  | [] => []
  | (n, l) :: rest =>
    match seen.find? fun m => m.value = n.value with
    | some m =>
      .atPlaces ("There can be only one input field named '" ++ n.value ++ "'.") [m.pos, n.pos] ::
        (repeatedFields l ++ repeatedFieldsFrom seen rest)
    | none => repeatedFields l ++ repeatedFieldsFrom (seen ++ [n]) rest

end

/-- Errors about a value where a type is expected, if it is known. -/
def valueErrors (s : Schema) (type : Option Ty) (l : Literal) : List GraphError :=
  let wrong :=
    match type with
    | some t => (s.faultsOfLiteral none t l).map fun f => .atPlaces f.message f.positions
    | none => []
  wrong ++ repeatedFields l

/-! ## Arguments -/

/-- Errors about arguments that are given twice. -/
def repeatedArguments (args : List Argument) : List GraphError :=
  (duplicateNames (args.map (·.name))).map fun (name, places) =>
    .atPlaces ("There can be only one argument named '" ++ name ++ "'.") places

/-- The error about an argument that is not known on a field or a directive. -/
def unknownArgument (place : String) (known : List String) (n : Name) : GraphError :=
  .atPlaces ("Unknown argument '" ++ n.value ++ "' on " ++ place ++ "." ++
    Text.didYouMean (Text.nearNames n.value known)) [n.pos]

/-- The error about a required argument that is not given. -/
def missingArgument (place type : String) (pos : Nat) : GraphError :=
  .atPlaces ("Argument '" ++ place ++ "' of type '" ++ type ++
    "' is required, but it was not provided.") [pos]

/-- Errors about the arguments of a field, in their order. -/
def fieldArgumentErrors (s : Schema) (parent : String) (spec : FieldSpec) (args : List Argument) :
    List GraphError :=
  args.flatMap fun a =>
    let known := spec.arguments.find? fun i => i.name = a.name.value
    let unknown :=
      if known.isSome then []
      else [unknownArgument ("field '" ++ parent ++ "." ++ spec.name ++ "'")
        (spec.arguments.map (·.name)) a.name]
    unknown ++ valueErrors s (known.map (·.type)) a.value

/-- Errors about required arguments of a field that are not given. -/
def missingFieldArguments (parent : String) (spec : FieldSpec) (args : List Argument) (pos : Nat) :
    List GraphError :=
  (spec.arguments.filter fun i =>
    i.isRequired && !args.any fun a => a.name.value = i.name).map fun i =>
      missingArgument (parent ++ "." ++ spec.name ++ "(" ++ i.name ++ ":)") i.type.text pos

/-! ## Directives -/

/-- What is known of a directive: its arguments, those that are required with the texts of
their types, where it may stand, and whether it may be repeated. -/
structure KnownDirective where
  name : String
  arguments : List String
  required : List (String × String)
  locations : List String
  repeatable : Bool

namespace Document

/-- The directives that a schema or the document itself defines; the document's come first. -/
def knownDirectives (s : Schema) (d : Document) : List KnownDirective :=
  let own := d.definitions.filterMap fun
    | .system ⟨_, false, some n, _, .directive args repeatable locations⟩ =>
      let required := args.filter fun a =>
        a.defaultValue.isNone && (match a.type with | .nonNull _ _ => true | _ => false)
      some ⟨n.value, args.map (·.name.value), required.map fun a => (a.name.value, a.type.text),
        locations, repeatable⟩
    | _ => none
  own.reverse ++ s.directives.map fun d =>
    ⟨d.name, d.arguments.map (·.name),
      (d.arguments.filter InputSpec.isRequired).map fun i => (i.name, i.type.text), d.locations,
      false⟩

end Document

/-- What the rules need to know around a directive. -/
structure DirectivePlace where
  schema : Schema
  known : List KnownDirective
  location : String
  field : Option FieldSpec
  parent : Option String

namespace DirectivePlace

/-- Errors about the name and the place of a directive. -/
def placeErrors (p : DirectivePlace) (d : Directive) : List GraphError :=
  match p.known.find? fun k => k.name = d.name.value with
  | none => [.atPlaces ("Unknown directive '@" ++ d.name.value ++ "'.") [d.pos]]
  | some k =>
    if k.locations.contains p.location then []
    else
      [.atPlaces ("Directive '@" ++ d.name.value ++ "' may not be used on " ++ p.location ++ ".")
        [d.pos]]

/-- Errors about a directive: its name and place, its arguments and their values. -/
def errors (p : DirectivePlace) (d : Directive) : List GraphError :=
  let known := p.known.find? fun k => k.name = d.name.value
  let unknown :=
    match known with
    | none => []
    | some k =>
      (d.arguments.filter fun a => !k.arguments.contains a.name.value).map fun a =>
        unknownArgument ("directive '@" ++ d.name.value ++ "'") k.arguments a.name
  let specs := directiveArguments p.schema p.field d
  let values := d.arguments.flatMap fun a =>
    valueErrors p.schema ((specs.find? fun i => i.name = a.name.value).map (·.type)) a.value
  let missing :=
    match known with
    | none => []
    | some k =>
      (k.required.filter fun r => !d.arguments.any fun a => a.name.value = r.1).map fun r =>
        missingArgument ("@" ++ d.name.value ++ "(" ++ r.1 ++ ":)") r.2 d.pos
  p.placeErrors d ++ unknown ++ repeatedArguments d.arguments ++ values ++ missing

/-- Errors about each of a run of directives. -/
def allErrors (p : DirectivePlace) (ds : List Directive) : List GraphError := ds.flatMap p.errors

end DirectivePlace

/-- Errors about directives that are repeated at one place, after those `seen` there. -/
def repeatedDirectives (known : List KnownDirective) (seen ds : List Directive) : List GraphError :=
  let unique := fun (d : Directive) =>
    match known.find? fun k => k.name = d.name.value with
    | some k => !k.repeatable
    | none => false
  (firstPlaces ((seen.filter unique).map fun d => ⟨d.name.value, d.pos⟩)
    ((ds.filter unique).map fun d => ⟨d.name.value, d.pos⟩)).map fun (n, first) =>
      .atPlaces ("The directive '@" ++ n.value ++ "' can only be used once at this location.")
        [first, n.pos]

end BlogGraph.GraphQL
