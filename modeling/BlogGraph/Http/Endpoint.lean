import BlogGraph.GraphQL.Response
import BlogGraph.Http.ContentType
import BlogGraph.Http.OperationName
import BlogGraph.Json.Shown

/-!
# The endpoint for documents

A document comes in the query of a `GET` or in the body of a `POST`. Who opens the address in a
browser is shown a page to try out documents, if there is one. A request without a usable
document is refused with a reason; any other is answered with the response to its document.
Only queries may come by `GET`. A body that cannot be decoded, or that goes beyond the limits
on documents, or that holds a single value, is a failure that no response explains.

This is the router that `create_graphql_router` makes over a store. What it does to a request is
decided in the library behind it.
-/

namespace BlogGraph.Http

open GraphQL

/-- Why a request is refused. -/
inductive Refused where
  | noWorkbench
  | contentType
  | notReadable
  | batch
  | wrongQuery
  | wrongMember (name : String)
  | noQuery
  | noOperation
  | unknownOperation (name : String)
  | mutationInAddress
deriving DecidableEq, Repr

namespace Refused

/-- The wording of a reason. -/
def message : Refused → String
  | noWorkbench => "Not Found"
  | contentType => "Unsupported content type"
  | notReadable => "Unable to parse request body as JSON"
  | batch => "Batching is not enabled"
  | wrongQuery =>
    "The GraphQL operation's `query` must be a string or null, if provided."
  | wrongMember name =>
    "The GraphQL operation's `" ++ name ++ "` must be an object or null, if provided."
  | noQuery => "No GraphQL query found in the request"
  | noOperation => "Can't get GraphQL operation type"
  | unknownOperation name => "Unknown operation named \"" ++ name ++ "\"."
  | mutationInAddress => "mutations are not allowed when using GET"

/-- The status of a refusal. -/
def status : Refused → Nat
  | noWorkbench => 404
  | _ => 400

/-- The response to a refused request. -/
def response (r : Refused) : Response := .plain r.status r.message

end Refused

/-- Why there is no answer to a document. -/
inductive Unanswered where
  | refused (reason : Refused)
  | crashed (crash : Crash)
deriving DecidableEq, Repr

/-! ## From requests to documents -/

/-- A faulty document of data. Only a malformed one is the client's fault. -/
def Unanswered.ofReadError : Json.ReadError → Unanswered
  | .malformed => .refused .notReadable
  | e => .crashed (.bytes (.document e))

/-- The value of a parameter that holds data. The empty text is left as it is. -/
def readParameter (limits : Json.Limits) : Json → Except Unanswered Json
  | .text "" => .ok (.text "")
  | .text s => (Json.readWithin limits s.toList).mapError .ofReadError
  | v => .ok v

/-- The members with one of them read as data, if it is there. -/
def readMember (limits : Json.Limits) (name : String) (members : Named Json) :
    Except Unanswered (Named Json) :=
  match members.get? name with
  | none => .ok members
  | some v => (readParameter limits v).map fun value => members.set name value

/-- The members of what a client sends in the query of the address. -/
def membersOfQuery (limits : Json.Limits) (parameters : Named Json) :
    Except Unanswered (Named Json) :=
  match readMember limits "variables" parameters with
  | .error e => .error e
  | .ok members => readMember limits "extensions" members

/-- The members of what a client sends in a body. -/
def membersOfBody (limits : Json.Limits) (body : List Encoding.Byte) :
    Except Unanswered (Named Json) :=
  match Json.ofBytes limits body with
  | .ok (.object members) => .ok members
  | .ok (.list _) => .error (.refused .batch)
  | .ok v => .error (.crashed (.noMembers v.kindName))
  | .error (.document e) => .error (.ofReadError e)
  | .error e => .error (.crashed (.bytes e))

/-- The members of what a client sends. -/
def membersOf (r : Request) : Except Unanswered (Named Json) :=
  let limits := Json.Limits.nested r.room.endpoint
  if r.method = "GET" then membersOfQuery limits r.parameters
  else if ContentType.isData ((r.header? "content-type").getD "") then
    membersOfBody limits r.body
  else .error (.refused .contentType)

/-- A member that is a text, or missing. -/
def queryMember (members : Named Json) : Except Unanswered String :=
  match (members.get? "query").getD .null with
  | .null => .ok ""
  | .text s => .ok s
  | _ => .error (.refused .wrongQuery)

/-- A member that is an object, or missing. -/
def objectMember (name : String) (members : Named Json) :
    Except Unanswered (Named Json) :=
  match (members.get? name).getD .null with
  | .null => .ok []
  | .object fields => .ok fields
  | _ => .error (.refused (.wrongMember name))

/-- A document as a client sends it. The name of its operation may be any value. -/
structure Enquiry where
  query : String
  given : Named Json
  operationName : Json

namespace Enquiry

/-- The document among the members of what a client sends. -/
def ofMembers (members : Named Json) : Except Unanswered Enquiry :=
  match queryMember members, objectMember "variables" members,
      objectMember "extensions" members with
  | .error e, _, _ => .error e
  | _, .error e, _ => .error e
  | _, _, .error e => .error e
  | .ok query, .ok given, .ok _ =>
    .ok ⟨query, given, (members.get? "operationName").getD .null⟩

/-- The document that a request carries. -/
def ofRequest (r : Request) : Except Unanswered Enquiry :=
  match membersOf r with
  | .error e => .error e
  | .ok members => ofMembers members

/-- The name of the operation, if it is a text. -/
def name? (e : Enquiry) : Option String :=
  match e.operationName with
  | .text s => some s
  | _ => none

/-- The name of the operation is neither a text nor missing, so no operation has it. -/
def hasOddName (e : Enquiry) : Bool :=
  match e.operationName with
  | .null | .text _ => false
  | _ => true

/-- The request that a document stands for. -/
def request (e : Enquiry) : GraphQL.Request := ⟨e.query, e.given, e.name?⟩

/-- The refusal of a document without the operation asked for. -/
def withoutOperation (e : Enquiry) : Refused :=
  match e.operationName with
  | .null => .noOperation
  | v => .unknownOperation v.plain

/-- What reading the document comes to: the operation to execute, or the answer to a document
that cannot be read. -/
def prepare (e : Enquiry) : Except Refused (Except GraphQL.Response Prepared) :=
  match e.request.prepare with
  | .error .noQuery => .error .noQuery
  | .error (.noOperation _) => .error e.withoutOperation
  | .ok (.error response) => .ok (.error response)
  | .ok (.ok p) => if e.hasOddName then .error e.withoutOperation else .ok (.ok p)

end Enquiry

/-! ## From documents to responses -/

/-- An answered request: the response, the blog afterwards, and what was reported. -/
structure Answered where
  response : Response
  blog : Blog
  events : List Event

/-- An answer that leaves the blog as it is. -/
def Answered.only (b : Blog) (response : Response) : Answered := ⟨response, b, []⟩

/-- The answer to a document. -/
def answerEnquiry (s : Schema) (method : String) (b : Blog) (e : Enquiry) :
    Except Refused Answered :=
  match e.prepare with
  | .error reason => .error reason
  | .ok (.error response) => .ok (.only b (.ofJson 200 (response.json e.query)))
  | .ok (.ok p) =>
    if method = "GET" && p.operation.kind = .mutation then .error .mutationInAddress
    else
      let done := executeDocument s e.query.toList p.document e.given p.operation true b
      .ok ⟨.ofJson 200 (done.response.json e.query), done.blog, done.events⟩

/-- The request is that of a browser that opens the address. -/
def opensWorkbench (r : Request) : Bool :=
  let accept := (r.header? "accept").getD ""
  r.method = "GET" && (r.parameters.get? "query").isNone &&
    (Text.contains accept "text/html" || Text.contains accept "*/*")

/-- The answer of the endpoint. -/
def endpoint (s : Schema) (workbench : Bool) (b : Blog) (r : Request) : Except Crash Answered :=
  if opensWorkbench r then
    .ok (.only b (if workbench then .workbench else Refused.noWorkbench.response))
  else
    match Enquiry.ofRequest r with
    | .error (.crashed crash) => .error crash
    | .error (.refused reason) => .ok (.only b reason.response)
    | .ok e =>
      match answerEnquiry s r.method b e with
      | .ok answered => .ok answered
      | .error reason => .ok (.only b reason.response)

end BlogGraph.Http
