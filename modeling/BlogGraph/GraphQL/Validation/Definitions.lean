import BlogGraph.GraphQL.Validation.Overlap
import BlogGraph.GraphQL.Validation.Selections

/-!
# Validation of documents

A document is valid for a schema when no rule finds an error in it. Main definition:
`Document.validate`. Of more than a hundred errors only the first hundred are kept.
-/

namespace BlogGraph.GraphQL

namespace SelectionContext

variable (c : SelectionContext)

/-- Errors about a written type whose name is not known. -/
def typeErrors (system : Bool) (t : TypeRef) : List GraphError :=
  unknownType c.schema c.document.definedTypes system t.base

/-! ## Operations -/

/-- The words that name an operation in a message, after a given word. -/
def operationSuffix (o : Operation) (word : String) : String :=
  match o.name with
  | some n => " " ++ word ++ " operation '" ++ n.value ++ "'"
  | none => ""

/-- The uses of variables in an operation and in the fragments that it reaches. -/
def usages (o : Operation) : List Usage :=
  o.usages c.schema ++
    (c.document.reached o.selections).flatMap (Fragment.usages c.schema)

/-- Errors about variables that are declared twice, used but not declared, or not used. -/
def variableErrors (o : Operation) : List GraphError :=
  let usages := c.usages o
  let twice := (duplicateNames (o.declarations.map (·.name))).map fun (name, places) =>
    GraphError.atPlaces ("There can be only one variable named '$" ++ name ++ "'.") places
  let undeclared := (usages.filter fun u => !o.declarations.any fun v => v.name.value = u.name).map
    fun u => GraphError.atPlaces
      ("Variable '$" ++ u.name ++ "' is not defined" ++ operationSuffix o "by" ++ ".")
        [u.pos, o.pos]
  let unused := (o.declarations.filter fun v => !usages.any fun u => u.name = v.name.value).map
    fun v => GraphError.atPlaces
      ("Variable '$" ++ v.name.value ++ "' is never used" ++ operationSuffix o "in" ++ ".") [v.pos]
  twice ++ undeclared ++ unused

/-- Values of the first type can stand where the second is expected. -/
def fits : Ty → Ty → Bool
  | .nonNull a, .nonNull b => fits a b
  | .nonNull a, b => fits a b
  | _, .nonNull _ => false
  | .list a, .list b => fits a b
  | .named a, .named b => a = b
  | _, _ => false

/-- A variable may stand in a place: its type fits, or would fit but for a missing value that a
default takes the place of. -/
def usageAllowed (v : VariableDefinition) (type : Ty) (u : Usage) (expected : Ty) : Bool :=
  match expected with
  | .nonNull inner =>
    if type.isNonNull then fits type expected
    else
      let ownDefault :=
        match v.defaultValue with
        | none => false
        | some (.null _) => false
        | some _ => true
      (ownDefault || u.hasDefault) && fits type inner
  | _ => fits type expected

/-- Errors about variables in places where their types do not fit. -/
def usageErrors (o : Operation) : List GraphError :=
  (c.usages o).filterMap fun u => do
    let v ← o.declarations.reverse.find? fun v => v.name.value = u.name
    let expected ← u.type
    let type ← c.schema.resolve? v.type
    if usageAllowed v type u expected then none
    else
      some (.atPlaces ("Variable '$" ++ u.name ++ "' of type '" ++ type.text ++
        "' used in position expecting type '" ++ expected.text ++ "'.") [v.pos, u.pos])

/-- Errors about the declaration of a variable. -/
def declarationErrors (v : VariableDefinition) : List GraphError :=
  let type := c.schema.resolve? v.type
  let isInput := fun (t : Ty) => ((c.schema.type? t.base).map TypeSpec.isInput).getD false
  let noInput :=
    match type with
    | some t =>
      if isInput t then []
      else
        [GraphError.atPlaces ("Variable '$" ++ v.name.value ++ "' cannot be non-input type '" ++
          v.type.text ++ "'.") [v.type.pos]]
    | none => []
  let value :=
    match v.defaultValue with
    | some l => valueErrors c.schema (type.filter isInput) l
    | none => []
  noInput ++ repeatedDirectives c.known [] v.directives ++ c.typeErrors false v.type ++ value ++
    c.directiveErrors "VARIABLE_DEFINITION" none none v.directives

/-- The error about an earlier operation of the same name. -/
def nameErrors (earlier : List Operation) (o : Operation) : List GraphError :=
  match o.name with
  | none => []
  | some n =>
    match (earlier.filterMap (·.name)).find? fun m => m.value = n.value with
    | some m =>
      [.atPlaces ("There can be only one operation named '" ++ n.value ++ "'.") [m.pos, n.pos]]
    | none => []

/-- Errors about an operation; `earlier` are the operations before it. -/
def operationErrors (earlier : List Operation) (o : Operation) : List GraphError :=
  let root := c.schema.rootType? o.kind
  let unsupported :=
    if root.isSome then []
    else
      [GraphError.atPlaces ("The " ++ o.kind.word ++
        " operation is not supported by the schema.") [o.pos]]
  let lonely :=
    if o.name.isNone && c.document.operations.length > 1 then
      [GraphError.atPlaces "This anonymous operation must be the only defined operation." [o.pos]]
    else []
  let location := (o.kind.word).toUpper
  unsupported ++ nameErrors earlier o ++ lonely ++ c.variableErrors o ++
    repeatedDirectives c.known [] o.directives ++ o.declarations.flatMap c.declarationErrors ++
    c.directiveErrors location none none o.directives ++ c.overlapErrors o.brace ++
    c.allSelectionErrors none root o.selections ++ c.usageErrors o

/-! ## Fragments -/

/-- Errors about a named fragment; `earlier` are the fragments before it. -/
def fragmentErrors (cycles : List (Nat × List GraphError)) (earlier : List Fragment)
    (f : Fragment) : List GraphError :=
  let twice :=
    match earlier.find? fun e => e.name.value = f.name.value with
    | some e =>
      [GraphError.atPlaces ("There can be only one fragment named '" ++ f.name.value ++ "'.")
        [e.name.pos, f.name.pos]]
    | none => []
  let cycle := ((cycles.find? fun e => e.1 = f.pos).map (·.2)).getD []
  let parent := c.schema.composite? f.condition.value
  c.conditionErrors ("'" ++ f.name.value ++ "' ") f.condition ++ twice ++ cycle ++
    repeatedDirectives c.known [] f.directives ++
    unknownType c.schema c.document.definedTypes false f.condition ++
    c.directiveErrors "FRAGMENT_DEFINITION" none none f.directives ++ c.overlapErrors f.brace ++
    c.allSelectionErrors none parent f.selections

/-- Errors about fragments that no operation reaches. -/
def unusedFragments : List GraphError :=
  let used := c.document.operations.flatMap fun o =>
    (c.document.reached o.selections).map (·.name.value)
  (c.document.fragments.filter fun f => !used.contains f.name.value).map fun f =>
    .atPlaces ("Fragment '" ++ f.name.value ++ "' is never used.") [f.pos]

/-! ## Type system definitions -/

/-- Errors about the declaration of an argument or an input field. -/
def inputErrors (location : String) (i : InputDefinition) : List GraphError :=
  repeatedDirectives c.known [] i.directives ++ c.typeErrors true i.type ++
    (i.defaultValue.elim [] repeatedFields) ++ c.directiveErrors location none none i.directives

/-- Errors about the declaration of a field. -/
def fieldErrors (f : FieldDefinition) : List GraphError :=
  repeatedDirectives c.known [] f.directives ++
    f.arguments.flatMap (c.inputErrors "ARGUMENT_DEFINITION") ++ c.typeErrors true f.type ++
    c.directiveErrors "FIELD_DEFINITION" none none f.directives

/-- Errors about names of types. -/
def typeNameErrors (ns : List Name) : List GraphError :=
  ns.flatMap (unknownType c.schema c.document.definedTypes true)

/-- Errors about a type system definition; `seen` are the directives of earlier definitions of
the same thing. -/
def systemErrors (seen : List Directive) (d : SystemDefinition) : List GraphError :=
  let directives := fun (location : String) => c.directiveErrors location none none d.directives
  let inside :=
    match d.definiens with
    | .schema operations => directives "SCHEMA" ++ c.typeNameErrors (operations.map (·.2))
    | .scalar => directives "SCALAR"
    | .object implemented fields =>
      c.typeNameErrors implemented ++ directives "OBJECT" ++ fields.flatMap c.fieldErrors
    | .interface implemented fields =>
      c.typeNameErrors implemented ++ directives "INTERFACE" ++ fields.flatMap c.fieldErrors
    | .union types => directives "UNION" ++ c.typeNameErrors types
    | .enum values =>
      directives "ENUM" ++ values.flatMap fun v =>
        repeatedDirectives c.known [] v.2 ++ c.directiveErrors "ENUM_VALUE" none none v.2
    | .input fields =>
      directives "INPUT_OBJECT" ++ fields.flatMap (c.inputErrors "INPUT_FIELD_DEFINITION")
    | .directive args _ _ => args.flatMap (c.inputErrors "ARGUMENT_DEFINITION")
  repeatedDirectives c.known seen d.directives ++ inside

/-- The directives of the earlier definitions of what a definition defines. -/
def directivesBefore (earlier : List Definition) (d : SystemDefinition) : List Directive :=
  earlier.flatMap fun
    | .system e =>
      match e.definiens with
      | .directive _ _ _ => []
      | _ => if e.name.map (·.value) = d.name.map (·.value) then e.directives else []
    | _ => []

/-! ## Documents -/

/-- Errors about definitions that cannot be executed. -/
def notExecutable : List GraphError :=
  c.document.definitions.filterMap fun
    | .system d =>
      let what := d.name.elim "schema" fun n => "'" ++ n.value ++ "'"
      some (.atPlaces ("The " ++ what ++ " definition is not executable.") [d.pos])
    | _ => none

/-- Errors about the definitions of a document, after those `earlier`. -/
def definitionErrors (cycles : List (Nat × List GraphError)) (earlier : List Definition) :
    List Definition → List GraphError
  | [] => []
  | d :: rest =>
    let before : Document := ⟨earlier⟩
    let here :=
      match d with
      | .operation o => c.operationErrors before.operations o
      | .fragment f => c.fragmentErrors cycles before.fragments f
      | .system x => c.systemErrors (directivesBefore earlier x) x
    here ++ definitionErrors cycles (earlier ++ [d]) rest

/-- All errors of a document. -/
def errors : List GraphError :=
  c.notExecutable ++ c.definitionErrors c.document.cycleErrors [] c.document.definitions ++
    c.unusedFragments

end SelectionContext

/-- The greatest number of errors that are reported. -/
def maxErrors : Nat := 100

namespace Document

/-- The errors of a document under a schema; a valid document has none. -/
def validate (s : Schema) (d : Document) : List GraphError :=
  let c : SelectionContext := ⟨s, d, d.knownDirectives s, d.overlapErrors s⟩
  let all := c.errors
  if all.length > maxErrors then
    all.take maxErrors ++
      [.plain "Too many validation errors, error limit reached. Validation aborted."]
  else all

end Document
end BlogGraph.GraphQL
