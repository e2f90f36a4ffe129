import BlogGraph.Http.Url
import BlogGraph.Json.Bytes

/-!
# Requests and responses over HTTP

A request as it arrives: method, path and query, named header fields, the bytes of its body,
and who sent it. The names of header fields have no case, and of repeated fields the first
counts. A response has a status, header fields and a body: data, a page, or plain text.

Some failures are explained by no response: an address that cannot be read, a body that cannot, or
one that holds a single value.
-/

namespace BlogGraph.Http

/-- How many levels of lists and objects the readers of documents can go down into before the stack
of calls is full: the search for the name of an operation, and the endpoint, which is called from
further down. The stack is not part of the model, so the room that it leaves comes with each
request. One level there is in any case. -/
structure Room where
  search : Nat
  endpoint : Nat
  search_pos : 0 < search
  endpoint_pos : 0 < endpoint

/-- The room that there usually is. -/
def Room.usual : Room := ⟨970, 970, by decide, by decide⟩

/-- A request. `server` is the name of the host that it reached. The query is text: one whose bytes
are no UTF-8, which has no `request.url` either, cannot be expressed. -/
structure Request where
  method : String
  path : String
  query : String
  headers : List (String × String)
  body : List Encoding.Byte
  client : Option String
  server : String
  room : Room := .usual

namespace Request

/-- The value of a header field, by its name in small letters. -/
def header? (r : Request) (name : String) : Option String :=
  (r.headers.find? fun h => h.1.toLower = name).map (·.2)

/-- A header field of this name is there. -/
def hasHeader (r : Request) (name : String) : Bool := (r.header? name).isSome

/-- The host that the request is meant for. -/
def host (r : Request) : String := (r.header? "host").getD r.server

/-- The address of a path on the host, with the query if there is one, after the two
slashes. -/
def addressAfterSlashes (r : Request) (path : String) : List Char :=
  r.host.toList ++ path.toList ++ if r.query.isEmpty then [] else '?' :: r.query.toList

/-- The path of the address of the request, `request.url.path`, if the address can be read. -/
def urlPath (r : Request) : Except Url.Fault String :=
  Url.pathAfterHost (r.addressAfterSlashes r.path)

/-- The parameters of the query by name. -/
def parameters (r : Request) : Named Json :=
  Url.parameters (Encoding.Utf8.encode r.query.toList)

end Request

/-- A failure that no response explains. -/
inductive Crash where
  | address (fault : Url.Fault)
  | bytes (error : Json.BytesError)
  | noMembers (kind : String)
deriving DecidableEq, Repr

/-- The wording of such a failure. -/
def Crash.message : Crash → String
  | address f => f.message
  | bytes e => e.message
  | noMembers kind => "'" ++ kind ++ "' object has no attribute 'get'"

/-- The body of a response. -/
inductive Body where
  | data (value : Json)
  | page
  | text (text : String)

/-- A response. -/
structure Response where
  status : Nat
  headers : List (String × String)
  body : Body

namespace Response

/-- A response with plain text. -/
def plain (status : Nat) (text : String) : Response :=
  ⟨status, [("content-type", "text/plain; charset=utf-8")], .text text⟩

/-- A response with data. -/
def ofJson (status : Nat) (value : Json) : Response :=
  ⟨status, [("content-type", "application/json")], .data value⟩

/-- A response with the page on which documents can be tried out. -/
def workbench : Response := ⟨200, [("content-type", "text/html; charset=utf-8")], .page⟩

/-- A response with the name of what went wrong. -/
def detail (status : Nat) (text : String) : Response :=
  ofJson status (.object [("detail", .text text)])

/-- A response with one header field set. -/
def setHeader (r : Response) (name value : String) : Response :=
  { r with headers := r.headers.filter (fun h => h.1 ≠ name) ++ [(name, value)] }

end Response
end BlogGraph.Http
