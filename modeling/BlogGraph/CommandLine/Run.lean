import BlogGraph.CommandLine.Invocation
import BlogGraph.GraphQL.SchemaText
import BlogGraph.Named
import BlogGraph.Service.Application

/-!
# Runs of the program

What a command line leads to: what is printed, what is written to the log, how the server is
called, and which variables the environment has afterwards. The variables tell a server that
loads the service anew how it was asked for.

These are `serve` and `schema`, run by `main`. While it serves, the program imports the
application; what that import reports, and that it sets up the log once more after the settings,
is left out.
-/

namespace BlogGraph.CommandLine

open Service

/-- How the server is called: with an application, or, to be reloaded, with its name. -/
structure ServerCall where
  application : Option Application
  host : String
  port : Int
  logLevel : String
  reload : Bool

/-- The name of the application that a server loads itself. -/
def applicationName : String := "blogql.api.app:app"

/-- How the server ends. -/
inductive ServerEnd where
  | returned
  | interrupted
  | failed (message : String)
deriving DecidableEq, Repr

/-- What a run of the program leaves behind. -/
structure Run where
  exitCode : Nat
  output : String
  errors : String
  entries : List Log.Entry
  calls : List ServerCall
  environment : Named String

/-- Where the commands report. -/
def commandLogger : String := "blogql.cli"

namespace ServeOptions

/-- The service is to report in detail. -/
def isDebug (o : ServeOptions) : Bool := o.logLevel = "debug"

/-- How the log is written. -/
def mode (o : ServeOptions) : Log.Mode := if o.isDebug then .console else .data

/-- What is reported before the server is called. -/
def startNotice (o : ServeOptions) : Log.Notice :=
  ⟨commandLogger, .info, "Starting blogql API server",
    [("host", .text o.host), ("port", .int o.port), ("reload", .bool o.reload),
      ("log_level", .text o.logLevel), ("seed_data", .bool !o.noSeed)]⟩

/-- The variables that a server which loads the service anew is to find. Only the level for
details replaces what is there. -/
def environment (o : ServeOptions) (inherited : Named String) : Named String :=
  let levels :=
    if o.isDebug then
      (inherited.set "BLOGQL_DEBUG" "true").set "BLOGQL_LOG_LEVEL" "debug"
    else
      (inherited.setIfMissing "BLOGQL_DEBUG" "false").setIfMissing "BLOGQL_LOG_LEVEL" o.logLevel
  if o.noSeed then levels.set "BLOGQL_SEED_DATA" "false" else levels

/-- The application to be served, unless the server loads it itself. -/
def started? (o : ServeOptions) (settings : Settings) : Option Started :=
  if o.reload then none
  else some (Application.start settings o.mode (if o.noSeed then some .empty else none))

/-- How the server is called. -/
def call (o : ServeOptions) (application : Option Application) : ServerCall :=
  ⟨application, o.host, o.port, o.logLevel, o.reload⟩

end ServeOptions

/-- What is reported of the end of the server. -/
def ServerEnd.notices : ServerEnd → List Log.Notice
  | returned => []
  | interrupted => [⟨commandLogger, .info, "Server shutdown requested by user", []⟩]
  | failed message =>
    [⟨commandLogger, .error, "Server startup failed", [("error", .text message)]⟩]

/-- The exit code after the end of the server. -/
def ServerEnd.exitCode : ServerEnd → Nat
  | failed _ => 1
  | _ => 0

namespace Run

/-- A run that only prints. -/
def printed (environment : Named String) (text : String) : Run :=
  ⟨0, text, "", [], [], environment⟩

/-- A run that refuses its command line. -/
def refused (environment : Named String) (text : String) : Run :=
  ⟨2, "", text, [], [], environment⟩

/-- A run that serves, given how the server ends. Of the entries, those are left out that importing
the application leaves. -/
def serving (settings : Settings) (environment : Named String) (ending : ServerEnd)
    (o : ServeOptions) : Run :=
  let started := o.started? settings
  let write := Log.entries o.mode .empty
  ⟨ending.exitCode, "", "",
    write [o.startNotice] ++ (started.map (·.entries)).getD [] ++ write ending.notices,
    [o.call (started.map (·.application))], o.environment environment⟩

/-- The run of a command line, given how a server would end. -/
def ofArguments (settings : Settings) (environment : Named String) (ending : ServerEnd)
    (words : List String) : Run :=
  match Invocation.ofArguments words with
  | .print text => printed environment text
  | .refuse text => refused environment text
  | .printSchema => printed environment (GraphQL.blogSchema.text ++ "\n")
  | .serve o => serving settings environment ending o

end Run
end BlogGraph.CommandLine
