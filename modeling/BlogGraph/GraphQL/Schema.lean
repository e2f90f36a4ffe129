import BlogGraph.Json.Value

/-!
# Schemas

The types that a document is checked against: scalars, enums, objects with their fields, and
input objects. Every object type is concrete, so the type of each selected object is known
before anything is executed.
-/

namespace BlogGraph.GraphQL

/-- A type as a schema uses it. -/
inductive Ty where
  | named (name : String)
  | list (item : Ty)
  | nonNull (inner : Ty)
deriving DecidableEq, Repr, Inhabited

namespace Ty

/-- The text of a type. -/
def text : Ty → String
  | named n => n
  | list t => "[" ++ t.text ++ "]"
  | nonNull t => t.text ++ "!"

/-- The name inside a type. -/
def base : Ty → String
  | named n => n
  | list t => t.base
  | nonNull t => t.base

/-- A type that has no missing value. -/
def isNonNull : Ty → Bool
  | nonNull _ => true
  | _ => false

/-- A type without the demand for a value. -/
def nullable : Ty → Ty
  | nonNull t => t
  | t => t

/-- A value of this name that must be there. -/
def required (name : String) : Ty := .nonNull (.named name)

/-- A list that must be there, of values that must be there. -/
def requiredList (name : String) : Ty := .nonNull (.list (required name))

end Ty

/-- An argument or an input field. -/
structure InputSpec where
  name : String
  type : Ty
  defaultValue : Option Json
  description : Option String
deriving Inhabited

/-- A value has to be given: the type demands one and there is none to fall back on. -/
def InputSpec.isRequired (i : InputSpec) : Bool := i.type.isNonNull && i.defaultValue.isNone

/-- A field of an object type. -/
structure FieldSpec where
  name : String
  arguments : List InputSpec
  type : Ty
  description : Option String
deriving Inhabited

/-- What a named type consists of. -/
inductive TypeBody where
  | scalar
  | enum (values : List (String × String))
  | object (fields : List FieldSpec)
  | input (fields : List InputSpec)

/-- A named type. -/
structure TypeSpec where
  name : String
  description : Option String
  body : TypeBody

namespace TypeSpec

/-- The fields of an object type. -/
def fields (t : TypeSpec) : List FieldSpec :=
  match t.body with
  | .object fs => fs
  | _ => []

/-- The fields of an input object type. -/
def inputFields (t : TypeSpec) : List InputSpec :=
  match t.body with
  | .input fs => fs
  | _ => []

/-- A type whose values have fields to select. -/
def isComposite (t : TypeSpec) : Bool :=
  match t.body with
  | .object _ => true
  | _ => false

/-- A type whose values are written without fields. -/
def isLeaf (t : TypeSpec) : Bool :=
  match t.body with
  | .scalar | .enum _ => true
  | _ => false

/-- A type of values that a client may send. -/
def isInput (t : TypeSpec) : Bool := !t.isComposite

end TypeSpec

/-- A directive. -/
structure DirectiveSpec where
  name : String
  description : String
  arguments : List InputSpec
  locations : List String

/-- A schema: its types in their order, and its directives. -/
structure Schema where
  types : List TypeSpec
  directives : List DirectiveSpec
  queryType : String
  mutationType : String

namespace Schema

/-- The type of a name. -/
def type? (s : Schema) (name : String) : Option TypeSpec := s.types.find? fun t => t.name = name

/-- The directive of a name. -/
def directive? (s : Schema) (name : String) : Option DirectiveSpec :=
  s.directives.find? fun d => d.name = name

/-- The field of an object type. -/
def field? (s : Schema) (type field : String) : Option FieldSpec := do
  (← s.type? type).fields.find? fun f => f.name = field

end Schema
end BlogGraph.GraphQL
