import BlogGraph.Http.Cors
import BlogGraph.Http.Endpoint
import BlogGraph.Log.Journal
import BlogGraph.Service.Startup

/-!
# The application

The application answers requests one after the other. A preflight is answered at once. Any
other request gets an identifier; its beginning and its end are reported, and all that is
reported in between carries the identifier and the name of its operation. The values of the
query's parameters are reported too, but not those that hold documents or data. A failure is
reported and answered without an explanation. Afterwards nothing of the request is kept but
what its document stored.

Before a request gets its identifier, the name of its operation is looked for. Where that fails,
the request is answered like any failure, but nothing is reported.

The application is what `create_app` makes, with `LoggingContextMiddleware.dispatch` around its
routes and the check of origins around both. Left out are the pages on which the framework documents
the routes, and the answer with a traceback that it gives to failures while `debug` is set.
-/

namespace BlogGraph.Service

open Http

/-- The application between two requests. -/
structure Application where
  settings : Settings
  blog : Blog
  journal : Log.Journal

/-- What handling a request led to: the response, the failure behind it, the entries that were
written, and the application afterwards. -/
structure Handled where
  response : Response
  crash : Option Crash
  entries : List Log.Entry
  application : Application

/-! ## Start -/

/-- A started application and the entries that starting it left. -/
structure Started where
  application : Application
  entries : List Log.Entry

/-- Starts the application over a store, or over a new one. -/
def Application.start (settings : Settings) (mode : Log.Mode) (given : Option Store) : Started :=
  let opened : Appended :=
    match given with
    | some s => ⟨s, [], none⟩
    | none => openStore settings.seedData
  let journal := Log.Journal.fresh mode
  let notices := opened.events.map Event.notice ++ setUpNotices (checkSchema [] [])
  ⟨⟨settings, .ofStore opened.store, journal⟩, Log.entries mode journal.context notices⟩

/-! ## Reports -/

/-- Where requests are reported. -/
def requestLogger : String := "blogql.middleware"

/-- The parameters whose values are not reported. -/
def secretParameters : List String := ["query", "variables", "extensions"]

/-- What is reported in place of such a value. -/
def redacted : Json := .text "[REDACTED]"

/-- The parameters as they are reported, given the path of the address. -/
def reportedParameters (path : String) (parameters : Named Json) :
    Named Json :=
  if path = OperationName.endpointPath then
    parameters.map fun p => if secretParameters.contains p.1 then (p.1, redacted) else p
  else parameters

/-- A text, or the missing value. -/
def textOrNull (s : Option String) : Json := s.elim .null .text

/-- What is reported when a request arrives that has this path in its address. -/
def arrivalNotice (path : String) (r : Request) : Log.Notice :=
  let parameters := r.parameters
  ⟨requestLogger, .info, "Request started",
    [("method", .text r.method), ("path", .text path),
      ("query_params",
        if parameters.isEmpty then .null else .object (reportedParameters path parameters)),
      ("user_agent", textOrNull (r.header? "user-agent")),
      ("remote_addr", textOrNull r.client)]⟩

/-- What is reported when a request is answered. -/
def completionNotice (path : String) (r : Request) (status : Nat) : Log.Notice :=
  ⟨requestLogger, .info, "Request completed",
    [("status_code", .int status), ("method", .text r.method), ("path", .text path)]⟩

/-- What is reported when a request fails. -/
def failureNotice (path : String) (r : Request) (crash : Crash) : Log.Notice :=
  ⟨requestLogger, .error, "Request failed",
    [("method", .text r.method), ("path", .text path), ("error", .text crash.message)]⟩

/-! ## Routes -/

/-- The path that tells whether the service is well. -/
def healthPath : String := "/health"

/-- A path leads to a route; a line break at its end does not count. -/
def leadsTo (route path : String) : Bool := path = route || path = route ++ "\n"

/-- The path leads to some route. -/
def isRouted (path : String) : Bool :=
  leadsTo healthPath path || leadsTo OperationName.endpointPath path

/-- The answer that the service is well. -/
def healthResponse : Response :=
  .ofJson 200 (.object [("status", .text "healthy"), ("version", .text version)])

/-- The answer to a method that a path does not have. -/
def wrongMethod : Response :=
  (Response.detail 405 "Method Not Allowed").setHeader "allow" "GET"

/-- A path without the slashes at its end. -/
def withoutSlashes (path : String) : String :=
  String.ofList (path.toList.reverse.dropWhile (· = '/')).reverse

/-- Where a path with slashes at its end is sent instead. -/
def redirection? (path : String) : Option String :=
  let plain := withoutSlashes path
  if path ≠ "/" && path.toList.getLast? = some '/' && isRouted plain then some plain else none

/-- The answer that sends a request to another path. -/
def redirect (r : Request) (path : String) : Response :=
  let address := "http://".toList ++ r.addressAfterSlashes path
  ⟨307, [("location", String.ofList (Url.encode address))], .text ""⟩

/-- The answer to a request, by its path and method. The framework has four more paths, for the
documentation of the routes; they read nothing of the blog and are left out. -/
def route (settings : Settings) (b : Blog) (r : Request) : Except Crash Answered :=
  if leadsTo healthPath r.path then
    .ok (.only b (if r.method = "GET" then healthResponse else wrongMethod))
  else if leadsTo OperationName.endpointPath r.path then
    if r.method = "GET" || r.method = "POST" then
      endpoint GraphQL.blogSchema settings.graphiql b r
    else .ok (.only b wrongMethod)
  else
    match redirection? r.path with
    | some path => .ok (.only b (redirect r path))
    | none => .ok (.only b (.detail 404 "Not Found"))

/-! ## Requests -/

/-- The response to a failed request. While `debug` is set the framework answers with a traceback
instead, under the same status; that text is left out. -/
def failed : Response := .plain 500 "Internal Server Error"

/-- The identifier that the context holds. -/
def currentId (context : Log.Context) : String := context.requestId.getD ""

namespace Application

/-- Handles a request with this path in its address, whose operation has a name or none. -/
def handleNamed (identifiers : Log.Identifiers) (a : Application) (path : String) (r : Request)
    (operation : Option String) : Handled :=
  let journal := a.journal.set identifiers none operation
  let entriesOf := Log.entries journal.mode journal.context
  match route a.settings a.blog r with
  | .ok answered =>
    let response := answered.response.setHeader "x-request-id" (currentId journal.context)
    let notices := arrivalNotice path r :: (answered.events.map Event.notice ++
      [completionNotice path r response.status])
    ⟨Cors.mark a.settings.corsOrigins r response, none, entriesOf notices,
      { a with blog := answered.blog, journal := journal.clear }⟩
  | .error crash =>
    ⟨failed, some crash, entriesOf [arrivalNotice path r, failureNotice path r crash],
      { a with journal := journal.clear }⟩

/-- Handles a request. -/
def handle (identifiers : Log.Identifiers) (a : Application) (r : Request) : Handled :=
  if Cors.isPreflight r then
    ⟨Cors.preflightResponse a.settings.corsOrigins r, none, [], a⟩
  else
    match r.urlPath with
    | .error fault => ⟨failed, some (.address fault), [], a⟩
    | .ok path =>
      match OperationName.ofRequestTo? path r with
      | .error crash => ⟨failed, some crash, [], a⟩
      | .ok operation => a.handleNamed identifiers path r operation

/-- Handles requests one after the other. -/
def handleAll (identifiers : Log.Identifiers) (a : Application) : List Request → List Handled
  | [] => []
  | r :: rest =>
    let handled := a.handle identifiers r
    handled :: handleAll identifiers handled.application rest

end Application
end BlogGraph.Service
