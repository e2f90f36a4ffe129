import BlogGraph.Json.Value

/-!
# The request context of the log

While a request is handled its identifier and the name of its operation are kept, and every
log entry written meanwhile is stamped with them. The identifier is replaced by each setting;
the operation is kept when a setting names none.

These are `set_request_context`, `clear_request_context` and `RequestContextFilter`.
-/

namespace BlogGraph.Log

/-- What is known of the request that is being handled. -/
structure Context where
  requestId : Option String
  operation : Option String
deriving DecidableEq, Repr

namespace Context

/-- Nothing is known: no request is being handled. -/
def empty : Context := ⟨none, none⟩

/-- The context after a setting. -/
def set (c : Context) (requestId : String) (operation : Option String) : Context :=
  ⟨some requestId, operation.or c.operation⟩

/-- A value that is there and not the empty text. -/
def present : Option String → Option String
  | some "" => none
  | value => value

/-- Adds the identifier in any case, and the operation where the fields have none. -/
def stamp (c : Context) (fields : Named Json) : Named Json :=
  let identified :=
    match present c.requestId with
    | some id => fields.set "request_id" (.text id)
    | none => fields
  match present c.operation with
  | some name => identified.setIfMissing "graphql_operation" (.text name)
  | none => identified

end Context
end BlogGraph.Log
