import BlogGraph.Proofs.Http.Parameters
import BlogGraph.Proofs.Json.Members
import BlogGraph.Proofs.Service.Naming

/-!
# Two ways to send a document

A document, and the name of its operation if one is given, can be sent in the query of an address or
in an object in the body.  The first is read by percent signs and with replacement characters, the
second as a document that must be right in every place; but what was written properly is read as it
was meant in both, so the request gets the same name in the log (`transports_give_one_name`).
Other members, and the order of all of them, do not count.

Every list of members can be sent in both ways (`exists_sent`), so nothing is left out.
-/

namespace BlogGraph.OperationName

variable {members : List (String × String)} {document : String} {name : Option String}

/-! ## Payloads -/

/-- The values of a name among members, in their order. -/
def valuesOf (members : List (String × String)) (name : String) : List String :=
  (members.filter fun p => p.1 = name).map (·.2)

/-- The document stands among the members once, and so does the name of an operation if there is
one.  What stands under other names is free. -/
structure Holds (members : List (String × String)) (document : String) (name : Option String) :
    Prop where
  document : valuesOf members "query" = [document]
  name : valuesOf members "operationName" = name.toList

/-- The payload of a document and the name of an operation, and nothing else. -/
def pairPayload (document : String) (name : Option String) : Named Json :=
  ("query", .text document) :: name.toList.map fun n => ("operationName", .text n)

/-- The name is found in two members of a payload only. -/
theorem ofPayload?_congr {p₁ p₂ : Named Json} (hquery : p₁.get? "query" = p₂.get? "query")
    (hname : p₁.get? "operationName" = p₂.get? "operationName") :
    ofPayload? p₁ = ofPayload? p₂ := by
  unfold ofPayload? ofPayload?.ofQuery?
  rw [hquery, hname]

/-- Of members that are read, the last of a name counts. -/
theorem get?_fieldsOf (members : List (String × String)) (name : String) :
    (Json.fieldsOf members).get? name = (valuesOf members name).getLast?.map .text := by
  rw [Json.fieldsOf, Named.get?_ofList, ← List.map_reverse, List.find?_map, Option.map_map,
    valuesOf, List.getLast?_map, List.getLast?_eq_head?_reverse, ← List.filter_reverse,
    List.head?_filter, Option.map_map]
  rfl

theorem Holds.ofPayload?_eq (h : Holds members document name) :
    ofPayload? (Json.fieldsOf members) = ofPayload? (pairPayload document name) := by
  refine ofPayload?_congr ?_ ?_
  · rw [get?_fieldsOf, h.document]
    rfl
  · rw [get?_fieldsOf, h.name]
    cases name with
    | none => rfl
    | some n => rfl

/-! ## Requests -/

/-- The request asks the endpoint, with these parameters written in its query. -/
structure SentInQuery (r : Http.Request) (members : List (String × String)) : Prop where
  method : r.method = "GET"
  path : r.urlPath = .ok endpointPath
  query : Url.WrittenQuery members r.query.toList

/-- The request is posted to the endpoint, with an object of these members written in its body. -/
structure SentInBody (r : Http.Request) (members : List (String × String)) : Prop where
  method : r.method = "POST"
  path : r.urlPath = .ok endpointPath
  body : ∃ text, Json.WrittenObject members text ∧ r.body = Encoding.Utf8.encode text

variable {r asking posting : Http.Request}

theorem SentInQuery.ofRequest?_eq (h : SentInQuery r members) :
    ofRequest? r = .ok (ofPayload? (Json.fieldsOf members)) := by
  have hparameters : r.parameters = Json.fieldsOf members := by
    rw [Http.Request.parameters, Url.parameters, Url.allParameters_of_written h.query]
    rfl
  rw [ofRequest?_of_urlPath h.path, ofRequestTo?, if_neg (by simp), if_pos h.method, hparameters]

theorem SentInBody.ofRequest?_eq (h : SentInBody r members) :
    ofRequest? r = .ok (ofPayload? (Json.fieldsOf members)) := by
  obtain ⟨text, htext, hbody⟩ := h.body
  have hroom : (Json.Limits.nested r.room.search).allows 0 = true :=
    decide_eq_true r.room.search_pos
  have hbytes := Json.ofBytes_of_written htext hroom
  have hsome : r.body.isEmpty = false := by
    obtain ⟨c, d, rest, rfl, hc, -⟩ := htext.begins
    rw [hbody, Encoding.Utf8.encode_cons, Encoding.Utf8.encodeChar_one hc.2]
    rfl
  rw [ofRequest?_of_post h.method h.path, ofBody?, hsome, hbody, hbytes]
  rfl

/-- **One name for both ways.**  Take a document and perhaps the name of an operation, any texts
whatever, and send them to the endpoint twice: in a query, in any way of writing parameters, and in
a body, in any way of writing an object, with other members among them here and there.  Both
requests get one name, that of the payload of the two. -/
theorem transports_give_one_name {asked posted : List (String × String)}
    (hasking : SentInQuery asking asked) (hasked : Holds asked document name)
    (hposting : SentInBody posting posted) (hposted : Holds posted document name) :
    ofRequest? asking = ofRequest? posting ∧
      ofRequest? posting = .ok (ofPayload? (pairPayload document name)) := by
  have hquery : ofRequest? asking = .ok (ofPayload? (pairPayload document name)) := by
    rw [hasking.ofRequest?_eq, hasked.ofPayload?_eq]
  have hbody : ofRequest? posting = .ok (ofPayload? (pairPayload document name)) := by
    rw [hposting.ofRequest?_eq, hposted.ofPayload?_eq]
  exact ⟨hquery.trans hbody.symm, hbody⟩

/-! ## Every list of members can be sent -/

open Service.Application (asked posted)

theorem urlPath_of_endpoint (hhost : r.host = "test") (hpath : r.path = endpointPath) :
    r.urlPath = .ok endpointPath := by
  rw [Http.Request.urlPath_eq, hhost, hpath]
  decide

theorem sentInQuery_asked {query : String} (h : Url.WrittenQuery members query.toList) :
    SentInQuery (asked endpointPath query) members :=
  ⟨rfl, urlPath_of_endpoint rfl rfl, h⟩

theorem sentInBody_posted (hne : members ≠ []) :
    SentInBody (posted endpointPath (Json.write (Json.objectOf members))) members := by
  have hnone : [("content-type", "application/json")].find? (fun h => h.1.toLower = "host") =
      none := by decide +kernel
  have hheader (body : String) : (posted endpointPath body).header? "host" = none := by
    rw [Http.Request.header?, posted, hnone, Option.map_none]
  refine ⟨rfl, urlPath_of_endpoint ?_ rfl, _, Json.writtenObject_write hne, rfl⟩
  rw [Http.Request.host, hheader]
  rfl

/-- There is a request of either kind for all members, whatever their names and values. -/
theorem exists_sent (hne : members ≠ []) :
    ∃ asking posting, SentInQuery asking members ∧ SentInBody posting members := by
  obtain ⟨cs, hcs⟩ := Url.exists_writtenQuery members
  have hquery : Url.WrittenQuery members (String.ofList cs).toList := by
    rw [String.toList_ofList]
    exact hcs
  exact ⟨_, _, sentInQuery_asked hquery, sentInBody_posted hne⟩

/-! ## A document with signs -/

/-- A document with blanks, signs that mean something in a query, and a character that needs two
halves of a surrogate pair. -/
def signsDocument : String := "query a &+😀"

/-- The document in a query, after an empty name: the blanks are written in two ways. -/
def signsQuery : String := "operationName=&query=query+a%20%26%2B%F0%9f%98%80"

/-- The document in a body, before an empty name and with another member. -/
def signsMembers : List (String × String) :=
  [("query", signsDocument), ("note", "query b"), ("operationName", "")]

theorem writtenQuery_signs :
    Url.WrittenQuery [("operationName", ""), ("query", signsDocument)] signsQuery.toList := by
  have hname : Url.Written Url.endsOfName "operationName".toList "operationName".toList :=
    .of_plain (by decide)
  have hquery : Url.Written Url.endsOfName "query".toList "query".toList := .of_plain (by decide)
  have hword : Url.Written Url.endsOfValue "query".toList "query".toList := .of_plain (by decide)
  have hblank : Url.Escaped (Encoding.Utf8.encodeChar ' ') "%20".toList := .cons (by decide) .nil
  have hand : Url.Escaped (Encoding.Utf8.encodeChar '&') "%26".toList := .cons (by decide) .nil
  have hplus : Url.Escaped (Encoding.Utf8.encodeChar '+') "%2B".toList := .cons (by decide) .nil
  have hface : Url.Escaped (Encoding.Utf8.encodeChar '😀') "%F0%9f%98%80".toList :=
    .cons (by decide) (.cons (by decide) (.cons (by decide) (.cons (by decide) .nil)))
  have hsigns : Url.Written Url.endsOfValue " a &+😀".toList "+a%20%26%2B%F0%9f%98%80".toList :=
    .blank (.plain (by decide) (by decide)
      (.escaped hblank (.escaped hand (.escaped hplus (.escaped hface .nil)))))
  have hfirst : Url.WrittenParameter ("operationName", "") "operationName=".toList :=
    .full hname .nil
  have hsecond : Url.WrittenParameter ("query", signsDocument)
      "query=query+a%20%26%2B%F0%9f%98%80".toList := .full hquery (hword.append hsigns)
  exact ⟨_, .cons hfirst (.cons hsecond .nil), by decide⟩

/-- The name in the document is found in either request. -/
theorem transports_give_one_name_sample :
    ofRequest? (asked endpointPath signsQuery) = .ok (some "a") ∧
      ofRequest? (posted endpointPath (Json.write (Json.objectOf signsMembers))) =
        .ok (some "a") := by
  have hasked : Holds [("operationName", ""), ("query", signsDocument)] signsDocument (some "") :=
    ⟨by decide, by decide⟩
  have hposted : Holds signsMembers signsDocument (some "") := ⟨by decide, by decide⟩
  have hpayload : ofPayload? (pairPayload signsDocument (some "")) = some "a" := by decide +kernel
  obtain ⟨hsame, hname⟩ := transports_give_one_name (sentInQuery_asked writtenQuery_signs) hasked
    (sentInBody_posted (by decide)) hposted
  rw [hpayload] at hname
  exact ⟨hsame.trans hname, hname⟩

end BlogGraph.OperationName
