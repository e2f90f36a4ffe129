import BlogGraph.GraphQL.Variables
import BlogGraph.GraphQL.Validation.Selections

/-!
# Plans

A plan says which fields are to be answered on an object, under which names and with which
arguments. It is made from the selections of an operation: fragments are expanded, selections
that directives leave out are dropped, and fields of one response name are merged. Since the
type of every object is known beforehand, the whole plan is made before anything is executed.
-/

namespace BlogGraph.GraphQL

/-- A field to be answered: its response name, its name and type, the places where it is
selected, and its arguments or what is wrong with them. The fields inside are planned too; if
that was not possible, `fault` says why, and is reported for each object that they were to be
answered on. -/
inductive PlannedField where
  | mk (key name : String) (type : Ty) (positions : List Nat)
    (arguments : Except GraphError (Named Json)) (fault : Option GraphError)
    (inner : List PlannedField)

/-- The fields to be answered on an object, in the order of their response names. -/
abbrev Plan := List PlannedField

namespace PlannedField

/-- The name under which a field is answered. -/
def key : PlannedField → String
  | mk k _ _ _ _ _ _ => k

/-- The name of a field. -/
def name : PlannedField → String
  | mk _ n _ _ _ _ _ => n

/-- The type of a field. -/
def type : PlannedField → Ty
  | mk _ _ t _ _ _ _ => t

/-- The places where a field is selected. -/
def positions : PlannedField → List Nat
  | mk _ _ _ p _ _ _ => p

/-- The arguments of a field. -/
def arguments : PlannedField → Except GraphError (Named Json)
  | mk _ _ _ _ a _ _ => a

/-- Why the fields inside could not be planned. -/
def fault : PlannedField → Option GraphError
  | mk _ _ _ _ _ f _ => f

/-- The fields inside. -/
def inner : PlannedField → List PlannedField
  | mk _ _ _ _ _ _ i => i

end PlannedField

/-- A selected field as it was found. -/
structure SelectedField where
  name : String
  pos : Nat
  arguments : List Argument
  selections : List Selection

/-- Selected fields by response name, in the order in which the names first appear. -/
abbrev Groups := List (String × List SelectedField)

/-- Adds a field under its response name. -/
def Groups.add (key : String) (f : SelectedField) : Groups → Groups
  | [] => [(key, [f])]
  | (k, fs) :: rest =>
    if k = key then (k, fs ++ [f]) :: rest else (k, fs) :: Groups.add key f rest

/-- What planning needs to know. -/
structure PlanContext where
  schema : Schema
  document : Document
  values : Variables

namespace PlanContext

variable (c : PlanContext)

/-- The condition of a directive at a selection, if the directive stands there. -/
def condition? (name : String) (ds : List Directive) : Except GraphError (Option Bool) :=
  match ds.find? fun d => d.name.value = name with
  | none => .ok none
  | some d =>
    let specs := ((c.schema.directive? name).map (·.arguments)).getD []
    match argumentValues c.schema c.values specs d.arguments d.pos with
    | .error e => .error e
    | .ok values =>
      match values.get? "if" with
      | some (.bool b) => .ok (some b)
      | _ => .ok none

/-- The directives at a selection let it take part. -/
def isIncluded (ds : List Directive) : Except GraphError Bool :=
  match c.condition? "skip" ds with
  | .error e => .error e
  | .ok (some true) => .ok false
  | .ok _ =>
    match c.condition? "include" ds with
    | .error e => .error e
    | .ok (some false) => .ok false
    | .ok _ => .ok true

/-- What has been collected: the fields, and the fragments that have been expanded. -/
abbrev Collected := Groups × List String

/-- What collecting does with a selection: it passes over it, adds a field under its response name,
or goes on inside, after which more fragments have been expanded. -/
inductive Step where
  | pass
  | add (key : String) (field : SelectedField)
  | into (selections : List Selection) (expanded : List String)

/-- The step that collecting takes at a selection on an object type. -/
def step (parent : String) (expanded : List String) : Selection → Except GraphError Step
  | .field responseName n args ds _ selections =>
    (c.isIncluded ds).map fun included =>
      if included then
        .add (responseName.getD n).value ⟨n.value, (responseName.getD n).pos, args, selections⟩
      else .pass
  | .inline _ condition ds _ selections =>
    (c.isIncluded ds).map fun included =>
      if included && (condition.map (·.value)).getD parent = parent then .into selections expanded
      else .pass
  | .spread _ n ds =>
    if expanded.contains n.value then .ok .pass
    else
      (c.isIncluded ds).map fun included =>
        match c.document.fragment? n.value with
        | some f =>
          if included && f.condition.value = parent then
            .into f.selections (n.value :: expanded)
          else .pass
        | none => .pass

/-- Collects the fields of selections on an object type. -/
def collect (parent : String) : Nat → List Selection → Collected → Except GraphError Collected
  | 0, _, acc => .ok acc
  | _, [], acc => .ok acc
  | fuel + 1, x :: rest, acc =>
    match c.step parent acc.2 x with
    | .error e => .error e
    | .ok .pass => collect parent fuel rest acc
    | .ok (.add key f) => collect parent fuel rest (Groups.add key f acc.1, acc.2)
    | .ok (.into selections expanded) =>
      match collect parent fuel selections (acc.1, expanded) with
      | .error e => .error e
      | .ok acc' => collect parent fuel rest acc'

/-- The plan for fields of one response name, given what the first of them is declared as; `inside`
plans the selections of all of them for the type that the field leads to. -/
def planField (inside : String → List (List Selection) → Except GraphError Plan) (key : String)
    (fields : List SelectedField) (first : SelectedField) (spec : FieldSpec) : PlannedField :=
  let args := argumentValues c.schema c.values spec.arguments first.arguments first.pos
  let places := fields.map SelectedField.pos
  let inner :=
    match c.schema.composite? spec.type.base with
    | some t => inside t (fields.map SelectedField.selections)
    | none => .ok []
  match inner with
  | .ok plan => .mk key first.name spec.type places args none plan
  | .error e => .mk key first.name spec.type places args (some e) []

/-- The plan for a group of fields on an object type, if the first of them exists. -/
def planGroup (parent : String) (inside : String → List (List Selection) → Except GraphError Plan)
    (group : String × List SelectedField) : Option PlannedField :=
  match group.2 with
  | [] => none
  | first :: _ =>
    (c.schema.selectedField? parent first.name).map (c.planField inside group.1 group.2 first)

/-- The plan for the selections of fields of one response name, taken together. -/
def planSelections : Nat → String → List (List Selection) → Except GraphError Plan
  | 0, _, _ => .ok []
  | fuel + 1, parent, sets =>
    match c.collect parent c.document.walkBound sets.flatten ([], []) with
    | .error e => .error e
    | .ok (groups, _) => .ok (groups.filterMap (c.planGroup parent (planSelections fuel)))

/-- The plan for an operation. The nesting of planned fields is bounded by that of selections. -/
def plan (o : Operation) : Except GraphError Plan :=
  match c.schema.rootType? o.kind with
  | some root => c.planSelections (2 * c.document.walkBound) root [o.selections]
  | none => .ok []

end PlanContext
end BlogGraph.GraphQL
