import BlogGraph.GraphQL.SchemaText
import BlogGraph.GraphQL.MetaSchema

/-!
# Introspection

The objects by which a schema describes itself, and the values of their fields. Nothing in a
schema is deprecated, so asking for deprecated elements changes nothing.
-/

namespace BlogGraph.GraphQL

/-- A part of a schema that can be asked about itself. -/
inductive Meta where
  | schema
  | type (type : Ty)
  | field (spec : FieldSpec)
  | input (spec : InputSpec)
  | enumValue (name description : String)
  | directive (spec : DirectiveSpec)

/-- The value of a field of such a part: simple values, one part, or several. -/
inductive MetaValue where
  | leaf (value : Json)
  | leaves (values : List Json)
  | one (part : Meta)
  | many (parts : List Meta)

namespace MetaValue

/-- A text. -/
def text (s : String) : MetaValue := leaf (.text s)

/-- No value. -/
def missing : MetaValue := leaf .null

/-- A text that may be missing. -/
def optionalText (s : Option String) : MetaValue := s.elim missing text

/-- Named types. -/
def types (names : List String) : MetaValue := many (names.map fun n => .type (.named n))

end MetaValue

namespace Meta

open MetaValue

/-- The kind of a type. -/
def kind (s : Schema) : Ty → String
  | .list _ => "LIST"
  | .nonNull _ => "NON_NULL"
  | .named n =>
    match (s.type? n).map TypeSpec.body with
    | some (.object _) => "OBJECT"
    | some (.input _) => "INPUT_OBJECT"
    | some (.enum _) => "ENUM"
    | _ => "SCALAR"

/-- The value of a field of the schema itself. -/
def ofSchema (s : Schema) : String → MetaValue
  | "types" => types (s.types.map (·.name))
  | "queryType" => one (.type (.named s.queryType))
  | "mutationType" => one (.type (.named s.mutationType))
  | "directives" => many (s.directives.map .directive)
  | _ => missing

/-- The value of a field of a named type. -/
def ofNamed (t : TypeSpec) (field : String) : MetaValue :=
  match field, t.body with
  | "name", _ => text t.name
  | "description", _ => optionalText t.description
  | "fields", .object fields => many (fields.map .field)
  | "interfaces", .object _ => many []
  | "enumValues", .enum values => many (values.map fun v => .enumValue v.1 v.2)
  | "inputFields", .input fields => many (fields.map .input)
  | "isOneOf", .input _ => leaf (.bool false)
  | _, _ => missing

/-- The value of a field of a type. -/
def ofType (s : Schema) (t : Ty) (field : String) : MetaValue :=
  match field, t with
  | "kind", t => text (kind s t)
  | "ofType", .list inner => one (.type inner)
  | "ofType", .nonNull inner => one (.type inner)
  | _, .named n => (s.type? n).elim missing fun spec => ofNamed spec field
  | _, _ => missing

/-- The value of a field that tells whether something is deprecated. -/
def ofDeprecation : String → MetaValue
  | "isDeprecated" => leaf (.bool false)
  | _ => missing

/-- The value of a field of a part of a schema. -/
def value (s : Schema) (part : Meta) (field : String) : MetaValue :=
  match part, field with
  | schema, _ => ofSchema s field
  | type t, _ => ofType s t field
  | Meta.field f, "name" => text f.name
  | Meta.field f, "description" => optionalText f.description
  | Meta.field f, "args" => many (f.arguments.map .input)
  | Meta.field f, "type" => one (.type f.type)
  | input i, "name" => text i.name
  | input i, "description" => optionalText i.description
  | input i, "type" => one (.type i.type)
  | input i, "defaultValue" => optionalText (i.defaultValue.map defaultText)
  | enumValue n _, "name" => text n
  | enumValue _ d, "description" => text d
  | directive d, "name" => text d.name
  | directive d, "description" => text d.description
  | directive _, "isRepeatable" => leaf (.bool false)
  | directive d, "locations" => leaves (d.locations.map .text)
  | directive d, "args" => many (d.arguments.map .input)
  | _, _ => ofDeprecation field

end Meta
end BlogGraph.GraphQL
