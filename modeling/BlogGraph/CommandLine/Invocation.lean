import BlogGraph.CommandLine.Help
import BlogGraph.Service.Startup

/-!
# Commands

The commands of the program: one starts the service, one prints its schema. What a command line
asks for is found out here; nothing is carried out yet.

These are the options that `cli`, `serve` and `schema` declare.
-/

namespace BlogGraph.CommandLine

/-- The option that every command has. -/
def helpOption : Opt := ⟨"--help", .help, "Show this message and exit."⟩

/-- The levels that the log of the server may have. -/
def logLevels : List String := ["debug", "info", "warning", "error"]

/-- The command that starts the service. -/
def serveCommand : CommandSpec where
  call := "blogql serve"
  about := "Start the blogql API server."
  options := [
    ⟨"--host", .text, "Host to bind to (default: 0.0.0.0)"⟩,
    ⟨"--port", .whole, "Port to bind to (default: 4000)"⟩,
    ⟨"--reload", .flag, "Enable auto-reload for development"⟩,
    ⟨"--log-level", .choice logLevels, "Log level (default: info)"⟩,
    ⟨"--no-seed", .flag, "Start with an empty store instead of the sample data"⟩,
    helpOption]
  commands := []

/-- The command that prints the schema. -/
def schemaCommand : CommandSpec where
  call := "blogql schema"
  about := "Print the GraphQL schema in SDL."
  options := [helpOption]
  commands := []

/-- The main command. -/
def mainCommand : CommandSpec where
  call := "blogql"
  about := "blogql CLI - run the GraphQL server and inspect its schema."
  options := [⟨"--version", .version, "Show the version and exit."⟩, helpOption]
  commands := [("schema", schemaCommand.about), ("serve", serveCommand.about)]

/-- The line that names the version. -/
def versionLine : String := "blogql, version " ++ Service.version ++ "\n"

/-- How the service is to be started. -/
structure ServeOptions where
  host : String
  port : Int
  reload : Bool
  logLevel : String
  noSeed : Bool
deriving DecidableEq, Repr

/-- The options of a line without faults. -/
def ServeOptions.ofParsed (p : Parsed) : ServeOptions where
  host := (p.value? "--host").getD "0.0.0.0"
  port := ((p.value? "--port").bind fun v => Text.wholeNumber? v.toList).getD 4000
  reload := p.has "--reload"
  logLevel := (p.value? "--log-level").getD "info"
  noSeed := p.has "--no-seed"

/-- What a command line asks for: a text to be printed, or to be printed as an error, or one of
the commands. -/
inductive Invocation where
  | print (text : String)
  | refuse (text : String)
  | printSchema
  | serve (options : ServeOptions)
deriving DecidableEq, Repr

namespace Invocation

/-- What the options of a line lead to before its command is carried out, if anything. -/
def ofOptions? (c : CommandSpec) (p : Parsed) : Option Invocation :=
  p.firstEffect?.map fun
    | .ok .version => print versionLine
    | .ok _ => print c.help
    | .error e => refuse (c.explain e)

/-- What a line of a command without commands under it asks for. -/
def ofCommand (c : CommandSpec) (carriedOut : Parsed → Invocation) (words : List String) :
    Invocation :=
  match c.parse true words with
  | .error e => refuse (c.explain e)
  | .ok p =>
    (ofOptions? c p).getD
      (if p.rest.isEmpty then carriedOut p else refuse (c.explain (.extraWords p.rest)))

/-- What a line asks for that names no command. The name may be an option after all. -/
def ofUnknown (name : String) (rest : List String) : Invocation :=
  let unknown := refuse (mainCommand.explain
    (.unknownCommand name (Text.resembling name (mainCommand.commands.map (·.1)))))
  match mainCommand.parse false (name :: rest) with
  | .error e => refuse (mainCommand.explain e)
  | .ok p => (ofOptions? mainCommand p).getD unknown

/-- What the words after the options of the main command ask for. -/
def ofWords : List String → Invocation
  | [] => refuse (mainCommand.explain .commandMissing)
  | "serve" :: rest => ofCommand serveCommand (fun p => serve (.ofParsed p)) rest
  | "schema" :: rest => ofCommand schemaCommand (fun _ => printSchema) rest
  | name :: rest => ofUnknown name rest

/-- What a command line asks for. Without any word the help is an error. -/
def ofArguments (words : List String) : Invocation :=
  if words.isEmpty then refuse mainCommand.help
  else
    match mainCommand.parse false words with
    | .error e => refuse (mainCommand.explain e)
    | .ok p => (ofOptions? mainCommand p).getD (ofWords p.rest)

end Invocation
end BlogGraph.CommandLine
