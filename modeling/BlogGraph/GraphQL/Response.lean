import BlogGraph.GraphQL.BlogSchema
import BlogGraph.GraphQL.Execution
import BlogGraph.GraphQL.Parser
import BlogGraph.GraphQL.Validation.Definitions

/-!
# Requests and responses

A request names a document, values for its variables and perhaps one of its operations. Its
document is read, the operation is looked up, the document is validated, the variables take
their values, and then the operation is executed. A query only reads. A mutation carries out
its commands one after the other, each answered before the next begins, and stops at the first
failure; what earlier ones stored stays.

For the blog this is `schema.execute`.
-/

namespace BlogGraph.GraphQL

/-- What a client asks for. -/
structure Request where
  query : String
  given : Named Json
  operationName : Option String

/-- The answer to a request: data, and errors if there are any. -/
structure Response where
  data : Json
  errors : List GraphError

namespace Response

/-- The answer to a request that was not executed. -/
def failed (errors : List GraphError) : Response := ⟨.null, errors⟩

end Response

/-- Why there is no answer at all. -/
inductive RequestFault where
  | noQuery
  | noOperation (name : Option String)
deriving DecidableEq, Repr

/-- The wording of such a cause. -/
def RequestFault.message : RequestFault → String
  | noQuery => "Request data is missing a \"query\" value"
  | noOperation name => name.getD "None"

namespace Document

/-- The operation of a name, or the first one. -/
def operation? (d : Document) : Option String → Option Operation
  | none => d.operations.head?
  | some name => d.operations.find? fun o => o.name.map (·.value) = some name

end Document

/-! ## The order of errors -/

/-- The order of steps in a response. -/
def PathKey.le : PathKey → PathKey → Bool
  | .index i, .index j => i ≤ j
  | .index _, .key _ => true
  | .key _, .index _ => false
  | .key a, .key b => a ≤ b

/-- Compares lists by their first difference. -/
def listLe {α : Type} [DecidableEq α] (le : α → α → Bool) : List α → List α → Bool
  | [], _ => true
  | _ :: _, [] => false
  | a :: as, b :: bs => if a = b then listLe le as bs else le a b

/-- Errors by place in the document, then by place in the response, then by message. -/
def sortErrors (text : List Char) (errors : List GraphError) : List GraphError :=
  let keyed := errors.map fun e => (e.locations text, e)
  (keyed.mergeSort fun a b =>
    if a.1 ≠ b.1 then listLe Location.le a.1 b.1
    else if a.2.path ≠ b.2.path then listLe PathKey.le a.2.path b.2.path
    else a.2.message ≤ b.2.message).map (·.2)

/-! ## Execution of operations -/

/-- What executing an operation led to. -/
structure Executed where
  response : Response
  blog : Blog
  events : List Event

/-- The reports among marks. -/
def eventsOf (marks : List (Nat × Mark)) : List Event :=
  marks.filterMap fun
    | (_, .event e) => some e
    | _ => none

/-- The errors among marks. -/
def errorsOf (marks : List (Nat × Mark)) : List GraphError :=
  marks.filterMap fun
    | (_, .error e) => some e
    | _ => none

/-- The answer that a course comes to, and what it reports. -/
def answerOf (c : Course Json) : Response × List Event :=
  let marks := Course.inOrder c.marks
  match c.result with
  | .ok data => (⟨data, errorsOf marks⟩, eventsOf marks)
  | .error f => (⟨.null, errorsOf marks ++ [f.error]⟩, eventsOf marks)

/-- Executes the plan of a query. -/
def executeQuery (c : Reading) (plan : Plan) : Response × List Event :=
  answerOf ((c.object [] .query plan).start 0)

/-- A mutation under way: the fields answered so far, the errors beside them, what was
reported, and the failure that ended it. -/
structure MutationState where
  answered : Named Json
  errors : List GraphError
  events : List Event
  blog : Blog
  failure : Option GraphError

namespace MutationState

/-- A mutation before its first field. -/
def initial (b : Blog) : MutationState := ⟨[], [], [], b, none⟩

/-- The answer when all fields have been answered or one has failed. -/
def executed (st : MutationState) : Executed :=
  match st.failure with
  | some e => ⟨⟨.null, st.errors ++ [e]⟩, st.blog, st.events⟩
  | none => ⟨⟨.object st.answered, st.errors⟩, st.blog, st.events⟩

/-- The state after a field's value was completed. -/
def complete (st : MutationState) (key : String) (c : Completed Json) : MutationState :=
  let (answer, events) := answerOf (c.start 0)
  match (c.start 0).result with
  | .ok v =>
    { st with
      answered := st.answered ++ [(key, v)], errors := st.errors ++ answer.errors,
      events := st.events ++ events }
  | .error f =>
    { st with
      errors := st.errors ++ answer.errors.dropLast, events := st.events ++ events,
      failure := some f.error }

end MutationState

/-- Carries out the command of a field and answers the fields of the new record. -/
def runField (s : Schema) (available : Bool) (st : MutationState) : PlannedField → MutationState
  | .mk key name type positions arguments fault inner =>
    let path := [PathKey.key key]
    match arguments with
    | .error e => { st with failure := some (fieldError positions path e) }
    | .ok args =>
      match Command.ofField? name args with
      | none => st.complete key (.value (.text "Mutation"))
      | some command =>
        let o := command.runWhen available st.blog
        let st := { st with blog := o.blog, events := st.events ++ o.events }
        match o.result with
        | .error f => { st with failure := some (failureError positions path f) }
        | .ok r =>
          let c : Reading := ⟨s, if available then some o.blog.store else none⟩
          st.complete key (completeValue ⟨"Mutation", name, type, positions⟩ fault
            (fun path node => c.object path node inner) path (.one (.record r)))

/-- Carries out fields one after the other, up to the first failure. -/
def runFields (s : Schema) (available : Bool) (st : MutationState) : Plan → MutationState
  | [] => st
  | f :: rest =>
    let st := runField s available st f
    if st.failure.isSome then st else runFields s available st rest

/-- An executed operation with its errors in order. -/
def Executed.sorted (text : List Char) (e : Executed) : Executed :=
  { e with response := { e.response with errors := sortErrors text e.response.errors } }

/-- Executes an operation of a valid document, given the text of the document. -/
def executeOperation (s : Schema) (text : List Char) (d : Document)
    (given : Named Json) (o : Operation) (available : Bool) (b : Blog) : Executed :=
  match variableValues s given o.declarations with
  | .error es => ⟨.failed es, b, []⟩
  | .ok vars =>
    let c : PlanContext := ⟨s, d, vars⟩
    match c.plan o with
    | .error e => ⟨.failed [e], b, []⟩
    | .ok plan =>
      match o.kind with
      | .mutation => (runFields s available (.initial b) plan).executed.sorted text
      | _ =>
        let (response, events) := executeQuery ⟨s, if available then some b.store else none⟩ plan
        (Executed.mk response b events).sorted text

/-- Validates a document and executes one of its operations. -/
def executeDocument (s : Schema) (text : List Char) (d : Document) (given : Named Json)
    (o : Operation) (available : Bool) (b : Blog) : Executed :=
  match d.validate s with
  | [] => executeOperation s text d given o available b
  | es => ⟨.failed es, b, []⟩

/-- A document and the operation of it that is to be executed. -/
structure Prepared where
  document : Document
  operation : Operation

/-- What reading the document of a request comes to: the operation to execute, or the answer to
a document that cannot be read, or no answer at all. -/
def Request.prepare (r : Request) : Except RequestFault (Except Response Prepared) :=
  if r.query.isEmpty then .error .noQuery
  else
    match Document.parse r.query with
    | .error f => .ok (.error (.failed [.atPlaces f.message f.pos.toList]))
    | .ok d =>
      match d.operation? r.operationName with
      | none => .error (.noOperation r.operationName)
      | some o => .ok (.ok ⟨d, o⟩)

/-- Executes a request on a blog. -/
def execute (s : Schema) (available : Bool) (b : Blog) (r : Request) :
    Except RequestFault Executed :=
  match r.prepare with
  | .error f => .error f
  | .ok (.error response) => .ok ⟨response, b, []⟩
  | .ok (.ok p) =>
    .ok (executeDocument s r.query.toList p.document r.given p.operation available b)

/-! ## The text of responses -/

/-- A step in a response as data. -/
def PathKey.json : PathKey → Json
  | .key name => .text name
  | .index i => .int i

/-- A location as data. -/
def Location.json (l : Location) : Json :=
  .object [("line", .int l.line), ("column", .int l.column)]

/-- An error as data, with the text that its places refer to. -/
def GraphError.json (text : List Char) (e : GraphError) : Json :=
  let locations := e.locations text
  .object ([("message", .text e.message)] ++
    (if locations.isEmpty then [] else [("locations", Json.list (locations.map Location.json))]) ++
    (if e.path.isEmpty then [] else [("path", .list (e.path.map PathKey.json))]) ++
    (match e.code with
      | some code => [("extensions", .object [("code", .text code)])]
      | none => []))

/-- A response as data, with the text of its document. -/
def Response.json (text : String) (r : Response) : Json :=
  .object ([("data", r.data)] ++
    (if r.errors.isEmpty then []
    else [("errors", Json.list (r.errors.map (GraphError.json text.toList)))]))

end BlogGraph.GraphQL
