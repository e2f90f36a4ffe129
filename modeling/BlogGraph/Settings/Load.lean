import BlogGraph.Log.Entry
import BlogGraph.Settings.EnvFile
import BlogGraph.Settings.Value
import BlogGraph.Text.Lowercase

/-!
# Loading of settings

Settings come from the variables of the environment and from a file of variables. The
environment goes first, then the file, then the default. In the names of variables small and
capital letters are the same; of names that differ in that alone the later counts. Every
source is read for itself before they are put together, so a list that cannot be read fails
even where the other source sets it too. The file may hold no name that is not known.

This is what calling `Settings` comes to, by the configuration in its `model_config`.
-/

namespace BlogGraph.Settings

/-- Where variables come from. -/
inductive Source where
  | environment
  | file
deriving DecidableEq, Repr

/-- The name of a source in messages. -/
def Source.label : Source → String
  | environment => "EnvSettingsSource"
  | file => "DotEnvSettingsSource"

/-- Why settings cannot be loaded. -/
inductive LoadError where
  | unreadable (field : Field) (source : Source)
  | tooDeep (error : Json.ReadError)
  | invalid (faults : List Fault)
deriving DecidableEq, Repr

/-- The wording of a cause. -/
def LoadError.message : LoadError → String
  | unreadable f source =>
    "error parsing value for field \"" ++ f.name ++ "\" from source \"" ++ source.label ++ "\""
  | tooDeep e => e.message
  | invalid faults => toString faults.length ++ " validation errors"

/-- Variables under their names in small letters; of several with one name the last counts. -/
def folded {α : Type} (entries : Named α) : Named α :=
  Named.ofList (entries.map fun v => (Text.lowerString v.1, v.2))

/-! ## Sources -/

/-- The document that the text of a variable holds; the missing value sets nothing. -/
def readDocument (f : Field) (source : Source) (text : String) :
    Except LoadError (Option Given) :=
  match Json.read text with
  | .ok .null => .ok none
  | .ok v => .ok (some (.data v))
  | .error (.tooDeep inObject) => .error (.tooDeep (.tooDeep inObject))
  | .error _ => .error (.unreadable f source)

/-- What a source gives for every field: a text, and for the origins a document. -/
structure Offer where
  texts : Field → Option String
  origins : Option Given

/-- What a source gives, from its variables under small names. -/
def Offer.ofVariables (source : Source) (entries : Named (Option String)) :
    Except LoadError Offer :=
  let texts := fun (f : Field) => (entries.get? f.variableName).join
  match texts .corsOrigins with
  | none => .ok ⟨texts, none⟩
  | some text =>
    match readDocument .corsOrigins source text with
    | .ok origins => .ok ⟨texts, origins⟩
    | .error e => .error e

/-- What a source gives for a field. -/
def Offer.given (o : Offer) (f : Field) : Option Given :=
  if f = .corsOrigins then o.origins else (o.texts f).map .text

/-- A name that may stand in the file: that of a field, with the common beginning or without
it, or one that begins with the variable of the origins. -/
def isKnown (name : String) : Bool :=
  Field.all.any (fun f => name = f.variableName || name = f.name) ||
    Field.corsOrigins.variableName.toList.isPrefixOf name.toList

/-- The faults of names that may not stand in the file. Names without a value do not count. -/
def unknownNames (entries : Named (Option String)) : List Fault :=
  entries.filterMap fun v =>
    if (v.2.getD "").isEmpty || isKnown v.1 then none else some ⟨v.1, none, .unknownName⟩

/-! ## Settings -/

/-- What both sources give for a field: the environment goes first. -/
def choose (environment file : Offer) (f : Field) : Option Given :=
  (environment.given f).or (file.given f)

/-- Settings from given values, with the faults of all fields in their order. -/
def check (given : Field → Option Given) : Checked Settings :=
  let d : Settings := {}
  let apiHost := Given.asText .apiHost d.apiHost (given .apiHost)
  let apiPort := Given.asWhole .apiPort d.apiPort (given .apiPort)
  let apiReload := Given.asTruth .apiReload d.apiReload (given .apiReload)
  let corsOrigins := Given.asTexts .corsOrigins d.corsOrigins (given .corsOrigins)
  let graphiql := Given.asTruth .graphiql d.graphiql (given .graphiql)
  let seedData := Given.asTruth .seedData d.seedData (given .seedData)
  let debug := Given.asTruth .debug d.debug (given .debug)
  let logLevel := Given.asText .logLevel d.logLevel (given .logLevel)
  ⟨⟨apiHost.value, apiPort.value, apiReload.value, corsOrigins.value, graphiql.value,
      seedData.value, debug.value, logLevel.value⟩,
    apiHost.faults ++ apiPort.faults ++ apiReload.faults ++ corsOrigins.faults ++
      graphiql.faults ++ seedData.faults ++ debug.faults ++ logLevel.faults⟩

/-- Settings from the variables of the environment and those of a file. -/
def ofVariables (environment : Named String) (file : Named (Option String)) :
    Except LoadError Settings :=
  match Offer.ofVariables .environment (folded (environment.map fun v => (v.1, some v.2))) with
  | .error e => .error e
  | .ok fromEnvironment =>
    match Offer.ofVariables .file (folded file) with
    | .error e => .error e
    | .ok fromFile =>
      let checked := check (choose fromEnvironment fromFile)
      match checked.faults ++ unknownNames (folded file) with
      | [] => .ok checked.value
      | faults => .error (.invalid faults)

/-- Settings from the environment and the text of a file, if there is one. -/
def load (environment : Named String) (file : Option String) : Except LoadError Settings :=
  ofVariables environment (file.elim [] (EnvFile.entries environment))

/-- What is reported of loaded settings: nothing, unless they ask for details. -/
def notices (s : Settings) : List Log.Notice :=
  if s.debug then
    [⟨"blogql.config", .debug, "Settings initialized",
      [("graphiql", .bool s.graphiql), ("seed_data", .bool s.seedData)]⟩]
  else []

end BlogGraph.Settings
