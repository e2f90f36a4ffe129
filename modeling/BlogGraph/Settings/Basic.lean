import BlogGraph.Json.Value

/-!
# Settings

What can be set about the service: eight fields with defaults. A field is set by a variable
named after it, with the common beginning of all names before it; in such names small and
capital letters are the same.

These are the fields of `Settings`.
-/

namespace BlogGraph

/-- The settings of the service. -/
structure Settings where
  apiHost : String := "0.0.0.0"
  apiPort : Int := 4000
  apiReload : Bool := false
  corsOrigins : List String := ["http://localhost:3000"]
  graphiql : Bool := true
  seedData : Bool := true
  debug : Bool := true
  logLevel : String := "INFO"
deriving DecidableEq, Repr

namespace Settings

/-- The fields of the settings. -/
inductive Field where
  | apiHost
  | apiPort
  | apiReload
  | corsOrigins
  | graphiql
  | seedData
  | debug
  | logLevel
deriving DecidableEq, Repr

namespace Field

/-- All fields in their order. -/
def all : List Field :=
  [apiHost, apiPort, apiReload, corsOrigins, graphiql, seedData, debug, logLevel]

/-- The name of a field. -/
def name : Field → String
  | apiHost => "api_host"
  | apiPort => "api_port"
  | apiReload => "api_reload"
  | corsOrigins => "cors_origins"
  | graphiql => "graphiql"
  | seedData => "seed_data"
  | debug => "debug"
  | logLevel => "log_level"

/-- The beginning of the names of all variables, in small letters. -/
def variableStart : String := "blogql_"

/-- The name of the variable that sets a field, in small letters. -/
def variableName (f : Field) : String := variableStart ++ f.name

theorem name_injective {f g : Field} (h : f.name = g.name) : f = g := by
  cases f <;> cases g <;> first | rfl | exact absurd h (by decide)

end Field

/-- The fields of settings with their values. -/
def fields (s : Settings) : Named Json := [
  ("api_host", .text s.apiHost), ("api_port", .int s.apiPort), ("api_reload", .bool s.apiReload),
  ("cors_origins", .list (s.corsOrigins.map .text)), ("graphiql", .bool s.graphiql),
  ("seed_data", .bool s.seedData), ("debug", .bool s.debug), ("log_level", .text s.logLevel)]

end Settings
end BlogGraph
