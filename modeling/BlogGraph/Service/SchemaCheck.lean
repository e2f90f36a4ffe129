import BlogGraph.Log.Entry

/-!
# The check of the schema

Before the service starts, its schema is checked for faults, and then whether it can describe
itself. The faults found, or their absence, are reported.

This is `validate_schema`.
-/

namespace BlogGraph.Service

/-- Why a schema cannot be served. -/
inductive SchemaFault where
  | invalid (faults : List String)
  | notDescribed (faults : List String)
deriving DecidableEq, Repr

namespace SchemaFault

/-- The wording of a fault. -/
def message : SchemaFault → String
  | invalid faults => "GraphQL schema validation failed: " ++ "; ".intercalate faults
  | notDescribed faults => "GraphQL introspection failed: " ++ "; ".intercalate faults

end SchemaFault

/-- The outcome of a check that found these faults in the schema and in its description. -/
def checkSchema (faults descriptionFaults : List String) : Except SchemaFault Unit :=
  if !faults.isEmpty then .error (.invalid faults)
  else if !descriptionFaults.isEmpty then .error (.notDescribed descriptionFaults)
  else .ok ()

/-- Where the check reports. -/
def schemaLogger : String := "blogql.graphql.schema"

/-- What is reported of a check. -/
def schemaNotice : Except SchemaFault Unit → Log.Notice
  | .ok () => ⟨schemaLogger, .info, "GraphQL schema validation successful", []⟩
  | .error f =>
    ⟨schemaLogger, .error, "GraphQL schema validation failed", [("error", .text f.message)]⟩

end BlogGraph.Service
