import BlogGraph.GraphQL.Schema

/-!
# The schema of schemas

The types by which a schema describes itself, the scalars and directives that every schema
has, and the fields that every query can select.
-/

namespace BlogGraph.GraphQL.MetaSchema

open Ty

private def describedField (name : String) (type : Ty) (description : String) : FieldSpec :=
  ⟨name, [], type, some description⟩

private def plainField (name : String) (type : Ty) : FieldSpec := ⟨name, [], type, none⟩

/-- The argument that asks for deprecated elements too. -/
def includeDeprecated : InputSpec :=
  ⟨"includeDeprecated", required "Boolean", some (.bool false), none⟩

private def filteredField (name : String) (type : Ty) : FieldSpec :=
  ⟨name, [includeDeprecated], type, none⟩

/-- The type of a whole schema. -/
def schemaType : TypeSpec :=
  ⟨"__Schema", some ("A GraphQL Schema defines the capabilities of a GraphQL server. It exposes " ++
      "all available types and directives on the server, as well as the entry points for query, " ++
      "mutation, and subscription operations."),
    .object [
      plainField "description" (named "String"),
      describedField "types" (requiredList "__Type")
        "A list of all types supported by this server.",
      describedField "queryType" (required "__Type")
        "The type that query operations will be rooted at.",
      describedField "mutationType" (named "__Type")
        ("If this server supports mutation, the type that mutation operations will be rooted at."),
      describedField "subscriptionType" (named "__Type")
        ("If this server support subscription, the type that subscription operations will be " ++
          "rooted at."),
      describedField "directives" (requiredList "__Directive")
        "A list of all directives supported by this server."]⟩

/-- The type of a type. -/
def typeType : TypeSpec :=
  ⟨"__Type", some ("The fundamental unit of any GraphQL Schema is the type. There are many " ++
      "kinds of types in GraphQL as represented by the `__TypeKind` enum.\n\nDepending on the " ++
      "kind of a type, certain fields describe information about that type. Scalar types " ++
      "provide no information beyond a name, description and optional `specifiedByURL`, while " ++
      "Enum types provide their values. Object and Interface types provide the fields they " ++
      "describe. " ++
      "Abstract types, Union and Interface, provide the Object types possible at runtime. List " ++
      "and NonNull types compose other types."),
    .object [
      plainField "kind" (required "__TypeKind"),
      plainField "name" (named "String"),
      plainField "description" (named "String"),
      plainField "specifiedByURL" (named "String"),
      filteredField "fields" (list (required "__Field")),
      plainField "interfaces" (list (required "__Type")),
      plainField "possibleTypes" (list (required "__Type")),
      filteredField "enumValues" (list (required "__EnumValue")),
      filteredField "inputFields" (list (required "__InputValue")),
      plainField "ofType" (named "__Type"),
      plainField "isOneOf" (named "Boolean")]⟩

/-- The type of the kinds of type. -/
def kindType : TypeSpec :=
  ⟨"__TypeKind", some "An enum describing what kind of type a given `__Type` is.",
    .enum [
      ("SCALAR", "Indicates this type is a scalar."),
      ("OBJECT", "Indicates this type is an object. `fields` and `interfaces` are valid fields."),
      ("INTERFACE", "Indicates this type is an interface. `fields`, `interfaces`, and " ++
        "`possibleTypes` are valid fields."),
      ("UNION", "Indicates this type is a union. `possibleTypes` is a valid field."),
      ("ENUM", "Indicates this type is an enum. `enumValues` is a valid field."),
      ("INPUT_OBJECT", "Indicates this type is an input object. `inputFields` is a valid field."),
      ("LIST", "Indicates this type is a list. `ofType` is a valid field."),
      ("NON_NULL", "Indicates this type is a non-null. `ofType` is a valid field.")]⟩

/-- The type of a field. -/
def fieldType : TypeSpec :=
  ⟨"__Field", some ("Object and Interface types are described by a list of Fields, each of " ++
      "which has a name, potentially a list of arguments, and a return type."),
    .object [
      plainField "name" (required "String"),
      plainField "description" (named "String"),
      filteredField "args" (requiredList "__InputValue"),
      plainField "type" (required "__Type"),
      plainField "isDeprecated" (required "Boolean"),
      plainField "deprecationReason" (named "String")]⟩

/-- The type of an argument or an input field. -/
def inputValueType : TypeSpec :=
  ⟨"__InputValue", some ("Arguments provided to Fields or Directives and the input fields of an " ++
      "InputObject are represented as Input Values which describe their type and optionally a " ++
      "default value."),
    .object [
      plainField "name" (required "String"),
      plainField "description" (named "String"),
      plainField "type" (required "__Type"),
      describedField "defaultValue" (named "String")
        "A GraphQL-formatted string representing the default value for this input value.",
      plainField "isDeprecated" (required "Boolean"),
      plainField "deprecationReason" (named "String")]⟩

/-- The type of an enum value. -/
def enumValueType : TypeSpec :=
  ⟨"__EnumValue", some ("One possible value for a given Enum. Enum values are unique values, " ++
      "not a placeholder for a string or numeric value. However an Enum value is returned in a " ++
      "JSON response as a string."),
    .object [
      plainField "name" (required "String"),
      plainField "description" (named "String"),
      plainField "isDeprecated" (required "Boolean"),
      plainField "deprecationReason" (named "String")]⟩

/-- The type of a directive. -/
def directiveType : TypeSpec :=
  ⟨"__Directive", some ("A Directive provides a way to describe alternate runtime execution and " ++
      "type validation behavior in a GraphQL document.\n\nIn some cases, you need to provide " ++
      "options to alter GraphQL's execution behavior in ways field arguments will not suffice, " ++
      "such as conditionally including or skipping a field. Directives provide this by " ++
      "describing additional information to the executor."),
    .object [
      plainField "name" (required "String"),
      plainField "description" (named "String"),
      plainField "isRepeatable" (required "Boolean"),
      plainField "locations" (requiredList "__DirectiveLocation"),
      filteredField "args" (requiredList "__InputValue")]⟩

/-- The type of the places where a directive may stand. -/
def directiveLocationType : TypeSpec :=
  ⟨"__DirectiveLocation", some ("A Directive can be adjacent to many parts of the GraphQL " ++
      "language, a __DirectiveLocation describes one such possible adjacencies."),
    .enum ([
      ("QUERY", "a query operation"),
      ("MUTATION", "a mutation operation"),
      ("SUBSCRIPTION", "a subscription operation"),
      ("FIELD", "a field"),
      ("FRAGMENT_DEFINITION", "a fragment definition"),
      ("FRAGMENT_SPREAD", "a fragment spread"),
      ("INLINE_FRAGMENT", "an inline fragment"),
      ("VARIABLE_DEFINITION", "an operation variable definition"),
      ("FRAGMENT_VARIABLE_DEFINITION", "a fragment variable definition"),
      ("SCHEMA", "a schema definition"),
      ("SCALAR", "a scalar definition"),
      ("OBJECT", "an object type definition"),
      ("FIELD_DEFINITION", "a field definition"),
      ("ARGUMENT_DEFINITION", "an argument definition"),
      ("INTERFACE", "an interface definition"),
      ("UNION", "a union definition"),
      ("ENUM", "an enum definition"),
      ("ENUM_VALUE", "an enum value definition"),
      ("INPUT_OBJECT", "an input object type definition"),
      ("INPUT_FIELD_DEFINITION", "an input object field definition")].map fun v =>
        (v.1, "Location adjacent to " ++ v.2 ++ "."))⟩

/-- The types that describe a schema, in the order in which a schema lists them. -/
def types : List TypeSpec := [
  schemaType, typeType, kindType, fieldType, inputValueType, enumValueType, directiveType,
  directiveLocationType]

/-- Whole numbers of 32 bits. -/
def intType : TypeSpec :=
  ⟨"Int", some ("The `Int` scalar type represents non-fractional signed whole numeric values. " ++
    "Int can represent values between -(2^31) and 2^31 - 1."), .scalar⟩

/-- Texts. -/
def stringType : TypeSpec :=
  ⟨"String", some ("The `String` scalar type represents textual data, represented as UTF-8 " ++
    "character sequences. The String type is most often used by GraphQL to represent free-form " ++
    "human-readable text."), .scalar⟩

/-- Truth values. -/
def booleanType : TypeSpec :=
  ⟨"Boolean", some "The `Boolean` scalar type represents `true` or `false`.", .scalar⟩

/-- Identifiers. -/
def idType : TypeSpec :=
  ⟨"ID", some ("The `ID` scalar type represents a unique identifier, often used to refetch an " ++
    "object or as key for a cache. The ID type appears in a JSON response as a String; however, " ++
    "it is not intended to be human-readable. When expected as an input type, any string (such " ++
    "as `\"4\"`) or integer (such as `4`) input value will be accepted as an ID."), .scalar⟩

/-- The scalar names that every schema knows. -/
def scalarNames : List String := ["String", "Int", "Float", "Boolean", "ID"]

/-- Where a selection may be made to depend on a condition. -/
def selectionLocations : List String := ["FIELD", "FRAGMENT_SPREAD", "INLINE_FRAGMENT"]

/-- Where the syntax of descriptions is said. -/
def markdownSite : String := "https" ++ "://" ++ "commonmark.org/"

/-- The directives that every schema has. -/
def directives : List DirectiveSpec := [
  ⟨"include",
    "Directs the executor to include this field or fragment only when the `if` argument is true.",
    [⟨"if", required "Boolean", none, some "Included when true."⟩], selectionLocations⟩,
  ⟨"skip", "Directs the executor to skip this field or fragment when the `if` argument is true.",
    [⟨"if", required "Boolean", none, some "Skipped when true."⟩], selectionLocations⟩,
  ⟨"deprecated", "Marks an element of a GraphQL schema as no longer supported.",
    [⟨"reason", required "String", some (.text "No longer supported"),
      some ("Explains why this element was deprecated, usually also including a suggestion for " ++
        "how to access supported similar data. Formatted using the Markdown syntax, as " ++
        "specified by [CommonMark](" ++ markdownSite ++ ").")⟩],
    ["FIELD_DEFINITION", "ARGUMENT_DEFINITION", "INPUT_FIELD_DEFINITION", "ENUM_VALUE"]⟩,
  ⟨"specifiedBy", "Exposes a URL that specifies the behavior of this scalar.",
    [⟨"url", required "String", none, some "The URL that specifies the behavior of this scalar."⟩],
    ["SCALAR"]⟩,
  ⟨"oneOf",
    "Indicates exactly one field must be supplied and this field must not be `null`.",
    [], ["INPUT_OBJECT"]⟩]

/-- The field by which a query selects the schema. -/
def schemaField : FieldSpec := ⟨"__schema", [], required "__Schema", none⟩

/-- The field by which a query selects one type. -/
def typeField : FieldSpec :=
  ⟨"__type", [⟨"name", required "String", none, none⟩], named "__Type", none⟩

/-- The field by which any object gives the name of its type. -/
def typenameField : FieldSpec := ⟨"__typename", [], required "String", none⟩

end BlogGraph.GraphQL.MetaSchema

namespace BlogGraph.GraphQL

namespace Schema

/-- The field that a selection on an object type names, its own or one that every object has. -/
def selectedField? (s : Schema) (type field : String) : Option FieldSpec :=
  if field = "__typename" then some MetaSchema.typenameField
  else if type = s.queryType && field = "__schema" then some MetaSchema.schemaField
  else if type = s.queryType && field = "__type" then some MetaSchema.typeField
  else s.field? type field

end Schema
end BlogGraph.GraphQL
