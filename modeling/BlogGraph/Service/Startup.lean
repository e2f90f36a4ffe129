import BlogGraph.Service.SchemaCheck
import BlogGraph.Settings.Basic
import BlogGraph.Store.Seed

/-!
# Start of the service

The store that the service starts with, and what is reported while it starts and stops.

This is `create_store`, with what `create_app` and its `lifespan` report.
-/

namespace BlogGraph.Service

/-- The version of the service. -/
def version : String := "0.1.0"

/-- Where the service reports. -/
def serviceLogger : String := "blogql.api.app"

/-- A new store, with the sample data if it is asked for. -/
def openStore (seeded : Bool) : Appended :=
  if seeded then Store.empty.seed else ⟨.empty, [], none⟩

/-- What is reported while the endpoint is set up. -/
def setUpNotices (check : Except SchemaFault Unit) : List Log.Notice :=
  ⟨serviceLogger, .info, "Validating GraphQL schema...", []⟩ :: schemaNotice check ::
    match check with
    | .ok () =>
      [⟨serviceLogger, .info, "GraphQL endpoint initialized successfully",
        [("endpoint", .text "/graphql")]⟩]
    | .error f =>
      [⟨serviceLogger, .error, "Failed to initialize GraphQL endpoint",
        [("error", .text f.message)]⟩]

/-- What is reported when the service begins to answer. -/
def openingNotice (s : Store) : Log.Notice :=
  ⟨serviceLogger, .info, "Starting blogql API...", s.counts.fields⟩

/-- What is reported when the service ends. -/
def closingNotice : Log.Notice :=
  ⟨serviceLogger, .info, "Shutting down blogql API...", []⟩

end BlogGraph.Service
