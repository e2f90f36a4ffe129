import BlogGraph.Http.Message
import BlogGraph.Text.Blank
import BlogGraph.Text.Substring
import BlogGraph.Text.WordChar

/-!
# Names of operations

The name under which a request is logged. A name that the client gives comes first. Otherwise
the text of the document is searched, without reading it as a document: for signs of
introspection, then for the word `query` with a name after it, then for `mutation`. A word
counts where no letter, digit or underscore stands before it.

Of a request only the address of the endpoint counts. A body that is no readable object gives no
name; but an address that cannot be read is a failure, and so is a body that goes beyond the limits
on documents.

These are `operation_name_from_payload` and `extract_graphql_operation_name`. What follows `query`
or `mutation` is what the two patterns there match.
-/

namespace BlogGraph.OperationName

open Text

/-- The name after a word, if the text starts with the word, blanks and a name. -/
def nameAfter? (word cs : List Char) : Option (List Char) :=
  if word.isPrefixOf cs then
    let rest := cs.drop word.length
    let name := (dropBlanks rest).takeWhile isWordChar
    if (rest.head?.map isBlank).getD false && !name.isEmpty then some name else none
  else none

/-- The name after the first such place in a text; `inWord` tells whether a word goes on. -/
def findName? (word : List Char) (inWord : Bool) : List Char → Option (List Char)
  | [] => none
  | c :: rest =>
    match if inWord then none else nameAfter? word (c :: rest) with
    | some name => some name
    | none => findName? word (isWordChar c) rest

/-- The word before the name of a query. -/
def queryWord : List Char := "query".toList

/-- The word before the name of a mutation. -/
def mutationWord : List Char := "mutation".toList

/-- A document that asks for the schema. -/
def isIntrospection (cs : List Char) : Bool :=
  occursIn "__schema".toList cs || occursIn "IntrospectionQuery".toList cs

/-- The name that stands in the text of a document that is not empty. -/
def ofText (cs : List Char) : List Char :=
  if isIntrospection cs then "__introspection".toList
  else
    match (findName? queryWord false cs).or (findName? mutationWord false cs) with
    | some name =>
      if mutationWord.isPrefixOf (dropBlanks cs) then mutationWord ++ ':' :: name else name
    | none => "unnamed_operation".toList

/-- The name of the operation of a request, from the members of its payload. -/
def ofPayload? (payload : Named Json) : Option String :=
  match payload.get? "operationName" with
  | some (.text name) =>
    if name.isEmpty then ofQuery? else some name
  | _ => ofQuery?
where
  /-- The name that stands in the document of a payload. -/
  ofQuery? : Option String :=
    match payload.get? "query" with
    | some (.text q) => if q.isEmpty then none else some (String.ofList (ofText q.toList))
    | _ => none

/-! ## Requests -/

/-- The path of the endpoint. -/
def endpointPath : String := "/graphql"

/-- The name of the operation that a body asks for. -/
def ofBody? (limits : Json.Limits) (body : List Encoding.Byte) :
    Except Json.BytesError (Option String) :=
  if body.isEmpty then .ok none
  else
    match Json.ofBytes limits body with
    | .ok (.object payload) => .ok (ofPayload? payload)
    | .ok _ => .ok none
    | .error (.encoding _) => .ok none
    | .error (.document .malformed) => .ok none
    | .error e => .error e

/-- The name under which a request is logged that has this path in its address. -/
def ofRequestTo? (path : String) (r : Http.Request) : Except Http.Crash (Option String) :=
  if path ≠ endpointPath then .ok none
  else if r.method = "GET" then .ok (ofPayload? r.parameters)
  else if r.method = "POST" then (ofBody? (.nested r.room.search) r.body).mapError .bytes
  else .ok none

/-- The name under which a request is logged. -/
def ofRequest? (r : Http.Request) : Except Http.Crash (Option String) :=
  match r.urlPath with
  | .error fault => .error (.address fault)
  | .ok path => ofRequestTo? path r

end BlogGraph.OperationName
