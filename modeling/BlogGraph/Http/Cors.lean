import BlogGraph.Http.Message

/-!
# Requests from other origins

A browser asks whether a page of another origin may use the service. The question comes before
the request, as a preflight, or with it. An allowed origin is named in the response; every
method and every header field is allowed. A preflight that asks for something else is refused
with the names of what is not allowed.

This is the middleware that `create_app` adds with `allow_origins` from the settings.
-/

namespace BlogGraph.Http.Cors

/-- The methods that other origins may use. -/
def methods : List String :=
  ["DELETE", "GET", "HEAD", "OPTIONS", "PATCH", "POST", "PUT", "QUERY"]

/-- The origin that stands for all. -/
def anyOrigin : String := "*"

/-- An origin is allowed if it is named, or if all are. -/
def allows (origins : List String) (origin : String) : Bool :=
  origins.contains anyOrigin || origins.contains origin

/-- A request that only asks what is allowed. -/
def isPreflight (r : Request) : Bool :=
  r.method = "OPTIONS" && r.hasHeader "origin" && r.hasHeader "access-control-request-method"

/-- What a preflight asks for that is not allowed. -/
def refusals (origins : List String) (r : Request) : List String :=
  (if allows origins ((r.header? "origin").getD "") then [] else ["origin"]) ++
    (if methods.contains ((r.header? "access-control-request-method").getD "") then []
    else ["method"]) ++
    (if r.hasHeader "access-control-request-private-network" then ["private-network"] else [])

/-- The header fields in which a preflight may differ from another one. -/
def preflightVary : String :=
  "Origin, Access-Control-Request-Method, Access-Control-Request-Headers, " ++
    "Access-Control-Request-Private-Network"

/-- The response to a preflight. -/
def preflightResponse (origins : List String) (r : Request) : Response :=
  let origin := (r.header? "origin").getD ""
  let refused := refusals origins r
  let response :=
    if refused.isEmpty then Response.plain 200 "OK"
    else Response.plain 400 ("Disallowed CORS " ++ ", ".intercalate refused)
  let response := response.setHeader "vary" preflightVary
  let response := response.setHeader "access-control-allow-methods" (", ".intercalate methods)
  let response := response.setHeader "access-control-max-age" "600"
  let response := response.setHeader "access-control-allow-credentials" "true"
  let response :=
    if allows origins origin then response.setHeader "access-control-allow-origin" origin
    else response
  match r.header? "access-control-request-headers" with
  | some names => response.setHeader "access-control-allow-headers" names
  | none => response

/-- The origin that a response names: the asking one if it is allowed by name, or if the
request carries cookies; else the one that stands for all, if all are allowed. -/
def namedOrigin? (origins : List String) (r : Request) (origin : String) : Option String :=
  if origins.contains anyOrigin then
    if r.hasHeader "cookie" then some origin else some anyOrigin
  else if origins.contains origin then some origin
  else none

/-- A response with what it says about other origins. -/
def mark (origins : List String) (r : Request) (response : Response) : Response :=
  match r.header? "origin" with
  | none =>
    if origins.contains anyOrigin then response else response.setHeader "vary" "Origin"
  | some origin =>
    let named := namedOrigin? origins r origin
    let response := response.setHeader "access-control-allow-credentials" "true"
    let response :=
      match named with
      | some o => response.setHeader "access-control-allow-origin" o
      | none => response
    if named = some anyOrigin then response else response.setHeader "vary" "Origin"

end BlogGraph.Http.Cors
