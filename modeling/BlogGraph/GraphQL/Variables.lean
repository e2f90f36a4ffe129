import BlogGraph.GraphQL.InputValue
import BlogGraph.GraphQL.Validation.Usage

/-!
# Values of variables

The values that an operation's variables take: those that the client gives, in the form of
their types, and defaults for those that it does not.
-/

namespace BlogGraph.GraphQL

/-- The greatest number of errors about variables that are reported. -/
def maxVariableErrors : Nat := 50

/-- The value of one variable, if it has one, or what is wrong with the one given. -/
def variableValue (s : Schema) (given : Named Json) (v : VariableDefinition) :
    Except (List GraphError) (Option Json) :=
  match s.resolve? v.type with
  | none => .ok none
  | some type =>
    let faults := fun (value : Option Json) =>
      Except.error ((s.faultsOfValue type value).map fun (path, message) =>
        GraphError.atPlaces ("Variable '$" ++ v.name.value ++ "' has invalid value" ++
          pathSuffix path ++ ": " ++ message) [v.pos])
    match given.get? v.name.value with
    | some value =>
      match s.ofValue? type value with
      | some a => .ok (some a)
      | none => faults (some value)
    | none =>
      match v.defaultValue with
      | some l => .ok (s.ofLiteral? [] type l)
      | none => if type.isNonNull then faults none else .ok none

/-- The values of all variables of an operation, or what is wrong with those given. -/
def variableValues (s : Schema) (given : Named Json) (vars : List VariableDefinition) :
    Except (List GraphError) Variables :=
  let values := vars.map fun v => (v.name.value, variableValue s given v)
  let errors := values.flatMap fun v =>
    match v.2 with
    | .error es => es
    | .ok _ => []
  if values.all fun v => v.2.isOk then
    .ok (values.filterMap fun v =>
      match v.2 with
      | .ok (some value) => some (v.1, value)
      | _ => none)
  else if errors.length > maxVariableErrors then
    .error (errors.take maxVariableErrors ++
      [.plain "Too many errors processing variables, error limit reached. Execution aborted."])
  else .error errors

/-! ## Arguments -/

/-- The value of one argument, if it has one, or what is wrong with it. A variable without a
value counts as no argument, unless the argument is required. -/
def argumentValue (s : Schema) (vars : Variables) (args : List Argument) (pos : Nat)
    (spec : InputSpec) : Except GraphError (Option Json) :=
  let absent := fun (l : Literal) =>
    match l with
    | .var _ n => (vars.get? n.value).isNone && !spec.isRequired
    | _ => false
  match args.reverse.find? fun a => a.name.value = spec.name with
  | none =>
    if spec.isRequired then
      .error (.atPlaces ("Argument '" ++ spec.name ++ "' of type '" ++ spec.type.text ++
        "' is required, but not provided.") [pos])
    else .ok spec.defaultValue
  | some a =>
    if absent a.value then .ok spec.defaultValue
    else
      match s.ofLiteral? vars spec.type a.value with
      | some v => .ok (some v)
      | none =>
        match s.faultsOfLiteral (some vars) spec.type a.value with
        | f :: _ =>
          .error (.atPlaces ("Argument '" ++ spec.name ++ "' has invalid value" ++
            pathSuffix f.path ++ ": " ++ f.message) f.positions)
        | [] => .error (.atPlaces "Invalid argument" [a.value.pos])

/-- The values of all arguments, or what is wrong with the first wrong one. -/
def argumentValues (s : Schema) (vars : Variables) (specs : List InputSpec)
    (args : List Argument) (pos : Nat) : Except GraphError (Named Json) :=
  match specs with
  | [] => .ok []
  | spec :: rest =>
    match argumentValue s vars args pos spec with
    | .error e => .error e
    | .ok v =>
      match argumentValues s vars rest args pos with
      | .error e => .error e
      | .ok others => .ok (v.elim others fun a => (spec.name, a) :: others)

end BlogGraph.GraphQL
