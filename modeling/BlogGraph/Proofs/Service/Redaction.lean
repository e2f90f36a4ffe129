import BlogGraph.Proofs.Log.Stamps
import BlogGraph.Proofs.Service.Writes
import BlogGraph.Service.Application
import Mathlib.Data.List.Basic
import Mathlib.Data.List.TakeDrop

/-!
# What the log tells of a query string

When a request arrives, the parameters of its address are reported.  Those that hold documents and
data are reported by name only, provided that the path of the address is that of the endpoint
(`reportedParameters`).  So two requests to the endpoint that differ only in such values leave the
same notice of their arrival, and their entries differ at most in the name of the operation.

The path is compared as it stands.  A path with a slash at its end leads to the endpoint too, by
way of a redirection, and there the values are reported as they are
(`slash_after_path_shows_payload`).

Main statements:

* `Service.reportedParameters_eq_of_agree`: such values leave no trace in the report;
* `Service.Application.handleNamed_arrival`: the first entry of a request;
* `Service.Application.payload_stays_out_of_the_log`: both together.
-/

namespace BlogGraph

/-! ## The path of an address -/

namespace Url

/-- What follows a question mark does not change the path, nor whether there is one. -/
theorem pathAfterHost_query (cs query : List Char) :
    pathAfterHost (cs ++ '?' :: query) = pathAfterHost cs := by
  have hkeep : (!ignored.contains '?') = true := by decide
  have htake {p : Char → Bool} (hp : ¬ p '?' = true) (xs ys : List Char) :
      (xs ++ '?' :: ys).takeWhile p = xs.takeWhile p := by
    rw [List.takeWhile_append, List.takeWhile_cons_of_neg hp, List.append_nil]
    split
    · next hall => exact ((List.takeWhile_prefix p).eq_of_length hall).symm
    · rfl
  simp only [pathAfterHost, splitHost, List.span_eq_takeWhile_dropWhile, List.filter_append,
    List.filter_cons, hkeep, if_true]
  -- the host ends at the question mark or before it, and so does the path
  rw [htake (by decide), List.dropWhile_append]
  split
  · rfl
  split
  · next hnone =>
    rw [List.dropWhile_cons_of_neg (by decide), List.takeWhile_cons_of_neg (by decide),
      List.isEmpty_iff.1 hnone, List.takeWhile_nil]
  · rw [htake (by decide)]

end Url

namespace Http.Request

variable {r₁ r₂ : Request}

/-- The query does not change the path of the address. -/
theorem urlPath_eq (r : Request) :
    r.urlPath = Url.pathAfterHost (r.host.toList ++ r.path.toList) := by
  rw [urlPath, addressAfterSlashes]
  split
  · rw [List.append_nil]
  · rw [Url.pathAfterHost_query]

/-- The parameters of the query in order, repeated names and all. -/
def allParameters (r : Request) : List (String × String) :=
  Url.allParameters (Encoding.Utf8.encode r.query.toList)

/-- The names of the parameters that hold documents and data. -/
def payloadNames : List String := ["query", "variables", "extensions"]

/-- Two requests differ only in the values of parameters that hold documents and data. -/
structure AgreeButPayload (r₁ r₂ : Request) : Prop where
  rest : r₂ = { r₁ with query := r₂.query }
  parameters :
    r₁.allParameters.map (fun p => (p.1, if p.1 ∈ payloadNames then none else some p.2)) =
      r₂.allParameters.map (fun p => (p.1, if p.1 ∈ payloadNames then none else some p.2))

/-- The last value of a parameter. -/
def lastValue? (r : Request) (name : String) : Option String :=
  (r.allParameters.reverse.find? fun p => p.1 = name).map (·.2)

theorem get?_parameters (r : Request) (name : String) :
    r.parameters.get? name = (r.lastValue? name).map .text := by
  rw [parameters, Url.parameters, Named.get?_ofList, lastValue?, allParameters, ← List.map_reverse,
    List.find?_map, Option.map_map, Option.map_map]
  rfl

theorem AgreeButPayload.urlPath (h : AgreeButPayload r₁ r₂) : r₁.urlPath = r₂.urlPath := by
  rw [urlPath_eq, urlPath_eq, h.rest]
  rfl

theorem AgreeButPayload.isPreflight (h : AgreeButPayload r₁ r₂) :
    Cors.isPreflight r₁ = Cors.isPreflight r₂ := by
  rw [h.rest]
  rfl

end Http.Request

/-- At a path that can be read, the name is looked for as at that path. -/
theorem OperationName.ofRequest?_of_urlPath {r : Http.Request} {path : String}
    (hpath : r.urlPath = .ok path) : ofRequest? r = ofRequestTo? path r := by
  rw [ofRequest?, hpath]

namespace Service

open Http Http.Request

variable {r₁ r₂ : Http.Request}

/-! ## The report of the parameters -/

/-- The value of a parameter as it is reported at the path of the endpoint. -/
def reportedValue (name : String) (value : Json) : Json :=
  if name ∈ payloadNames then redacted else value

theorem reportedParameters_endpoint (parameters : Named Json) :
    reportedParameters OperationName.endpointPath parameters =
      parameters.map fun p => (p.1, reportedValue p.1 p.2) := by
  rw [reportedParameters, if_pos rfl]
  refine List.map_congr_left fun p _ => ?_
  have hnames : secretParameters.contains p.1 = decide (p.1 ∈ payloadNames) :=
    List.contains_eq_mem ..
  rw [hnames, reportedValue]
  by_cases h : p.1 ∈ payloadNames
  · rw [if_pos h, if_pos (decide_eq_true h)]
  · rw [if_neg h, if_neg (by simpa using h)]

/-- The values of parameters that hold documents and data leave no trace in the report. -/
theorem reportedParameters_eq_of_agree (h : AgreeButPayload r₁ r₂) :
    reportedParameters OperationName.endpointPath r₁.parameters =
      reportedParameters OperationName.endpointPath r₂.parameters := by
  have hreported (r : Http.Request) :
      reportedParameters OperationName.endpointPath r.parameters =
        Named.ofList ((r.allParameters.map fun p =>
          (p.1, if p.1 ∈ payloadNames then none else some p.2)).map fun p =>
            (p.1, p.2.elim redacted Json.text)) := by
    rw [reportedParameters_endpoint, Http.Request.parameters, Url.parameters, Named.map_ofList,
      List.map_map, List.map_map]
    refine congrArg Named.ofList (List.map_congr_left fun p _ => ?_)
    by_cases hp : p.1 ∈ payloadNames
    · simp [reportedValue, hp]
    · simp [reportedValue, hp]
  rw [hreported, hreported, h.parameters]

/-- Every parameter is reported by its last value, if at all. -/
theorem get?_reportedParameters (r : Http.Request) (name : String) :
    (reportedParameters OperationName.endpointPath r.parameters).get? name =
      (r.lastValue? name).map fun v => reportedValue name (.text v) := by
  rw [reportedParameters_endpoint, Named.get?_map, get?_parameters, Option.map_map]
  rfl

end Service

/-! ## The name of the operation in an entry -/

namespace Log

/-- Fields of an entry without the name of the operation. -/
def withoutOperation (fields : Named Json) : Named Json :=
  fields.filter fun field => field.1 ≠ "graphql_operation"

/-- The name of the operation shows in no other field. -/
theorem Context.withoutOperation_stamp (c : Context) (operation : Option String)
    (fields : Named Json) :
    withoutOperation (({ c with operation := operation } : Context).stamp fields) =
      withoutOperation (({ c with operation := none } : Context).stamp fields) := by
  have hfilter := @filter_nameOperation fun name => name ≠ "graphql_operation"
  simp only [withoutOperation, stamp_eq]
  rw [hfilter (by decide), hfilter (by decide)]

theorem Notice.withoutOperation_fields (n : Notice) (c : Context) (operation : Option String) :
    withoutOperation (n.fields { c with operation := operation }) =
      withoutOperation (n.fields { c with operation := none }) := by
  have hstamp := c.withoutOperation_stamp operation
  simp only [Notice.fields, withoutOperation] at hstamp ⊢
  rw [List.filter_comm, hstamp, List.filter_comm]

/-- The names of fields that an entry has of its own. -/
def ownFields : List String := ["event", "logger", "level", "request_id", "graphql_operation"]

/-- A value of a notice is found in its entry, unless its name is one of the entry's own. -/
theorem Notice.get?_fields {name : String} (h : name ∉ ownFields) (hshown : name ∉ withheld)
    (n : Notice) (c : Context) : (n.fields c).get? name = n.values.get? name := by
  have hkept : (!withheld.contains name) = true := by simpa using hshown
  simp only [ownFields, List.mem_cons, List.not_mem_nil, or_false, not_or] at h
  obtain ⟨hevent, hlogger, hlevel, hid, hoperation⟩ := h
  rw [Notice.fields, Named.get?_filter (p := fun field => !withheld.contains field) hkept,
    c.get?_stamp hid hoperation]
  rw [Named.get?_set_ne hlevel, Named.get?_set_ne hlogger, Named.get?_set_ne hevent]

end Log

/-! ## The arrival of a request -/

namespace Service

open Http Http.Request

variable {r₁ r₂ : Http.Request}

/-- The entry that tells of the arrival of a request, if one was written: it comes first. -/
def Handled.arrival? (h : Handled) : Option Log.Entry := h.entries.head?

/-- Requests to the endpoint that agree are reported alike. -/
theorem arrivalNotice_eq_of_agree (h : AgreeButPayload r₁ r₂) :
    arrivalNotice OperationName.endpointPath r₁ = arrivalNotice OperationName.endpointPath r₂ := by
  have hreported := reportedParameters_eq_of_agree h
  have hempty : r₁.parameters.isEmpty = r₂.parameters.isEmpty := by
    have hlength := congrArg List.isEmpty hreported
    rwa [reportedParameters_endpoint, reportedParameters_endpoint, List.isEmpty_map,
      List.isEmpty_map] at hlength
  have hmethod : r₁.method = r₂.method := by rw [h.rest]
  have hagent : r₁.header? "user-agent" = r₂.header? "user-agent" := by
    rw [h.rest]
    rfl
  have hclient : r₁.client = r₂.client := by rw [h.rest]
  simp only [arrivalNotice]
  rw [hreported, hempty, hmethod, hagent, hclient]

/-- The name of the operation is looked for in the body or in the parameters; only a body can go
beyond the limits. -/
theorem ofRequest?_of_agree (h : AgreeButPayload r₁ r₂) {path : String}
    (hpath : r₁.urlPath = .ok path) :
    (∃ crash, OperationName.ofRequest? r₁ = .error crash ∧
        OperationName.ofRequest? r₂ = .error crash) ∨
      ∃ o₁ o₂, OperationName.ofRequest? r₁ = .ok o₁ ∧ OperationName.ofRequest? r₂ = .ok o₂ := by
  have hmethod : r₁.method = r₂.method := by rw [h.rest]
  have hbody : r₁.body = r₂.body := by rw [h.rest]
  have hroom : r₁.room = r₂.room := by rw [h.rest]
  rw [OperationName.ofRequest?_of_urlPath hpath,
    OperationName.ofRequest?_of_urlPath (h.urlPath.symm.trans hpath)]
  rw [OperationName.ofRequestTo?, OperationName.ofRequestTo?, hmethod, hbody, hroom]
  split
  · exact Or.inr ⟨none, none, rfl, rfl⟩
  split
  · exact Or.inr ⟨_, _, rfl, rfl⟩
  split
  · cases OperationName.ofBody? (.nested r₂.room.search) r₂.body with
    | error e => exact Or.inl ⟨.bytes e, rfl, rfl⟩
    | ok o => exact Or.inr ⟨o, o, rfl, rfl⟩
  · exact Or.inr ⟨none, none, rfl, rfl⟩

/-- A notice of this level is always written. -/
theorem entries_head?_of_info {n : Log.Notice} (hlevel : n.level = .info) (mode : Log.Mode)
    (c : Log.Context) (rest : List Log.Notice) :
    (Log.entries mode c (n :: rest)).head? = Log.Notice.entry? mode c n := by
  have hwritten : ∃ e, Log.Notice.entry? mode c n = some e := by
    cases mode with
    | data => exact ⟨_, by simp only [hlevel, Log.Notice.entry?]; rfl⟩
    | console => exact ⟨_, by simp only [hlevel, Log.Notice.entry?]; rfl⟩
  obtain ⟨e, he⟩ := hwritten
  rw [Log.entries, List.filterMap_cons, he]
  rfl

namespace Application

/-- The context in which the next request is handled. -/
def nextContext (a : Application) (identifiers : Log.Identifiers) (operation : Option String) :
    Log.Context :=
  (a.journal.set identifiers none operation).context

/-- **The first entry of a request** tells of its arrival, whatever comes of it. -/
theorem handleNamed_arrival (identifiers : Log.Identifiers) (a : Application) (path : String)
    (r : Http.Request) (operation : Option String) :
    (a.handleNamed identifiers path r operation).arrival? =
      Log.Notice.entry? a.journal.mode (a.nextContext identifiers operation)
        (arrivalNotice path r) := by
  have hmode : (a.journal.set identifiers none operation).mode = a.journal.mode := rfl
  have hinfo : (arrivalNotice path r).level = .info := rfl
  simp only [handleNamed, Handled.arrival?]
  cases route a.settings a.blog r with
  | error crash =>
    dsimp only
    rw [entries_head?_of_info hinfo, hmode, nextContext]
  | ok answered =>
    dsimp only
    rw [entries_head?_of_info hinfo, hmode, nextContext]

/-- A request whose name cannot be told fails, and leaves nothing. -/
theorem handle_eq_failed {crash : Crash} (hpreflight : Cors.isPreflight r = false)
    (hname : OperationName.ofRequest? r = .error crash) (identifiers : Log.Identifiers)
    (a : Application) : a.handle identifiers r = ⟨failed, some crash, [], a⟩ := by
  rw [handle, hpreflight, if_neg (by simp)]
  cases hpath : r.urlPath with
  | error fault =>
    rw [OperationName.ofRequest?, hpath] at hname
    obtain rfl := Except.error.inj hname
    rfl
  | ok path =>
    rw [OperationName.ofRequest?_of_urlPath hpath] at hname
    simp only [hname]

/-- Any other request that is no preflight is handled under its name, or without one. -/
theorem handle_eq_handleNamed {path : String} {operation : Option String}
    (hpreflight : Cors.isPreflight r = false) (hpath : r.urlPath = .ok path)
    (hname : OperationName.ofRequest? r = .ok operation) (identifiers : Log.Identifiers)
    (a : Application) : a.handle identifiers r = a.handleNamed identifiers path r operation := by
  rw [OperationName.ofRequest?_of_urlPath hpath] at hname
  rw [handle, hpreflight, if_neg (by simp), hpath]
  simp only [hname]

/-- **Documents and data in the query stay out of the log.**  Take two requests to the endpoint that
differ only in the values of the parameters that hold documents and data.  Handled by the same
application they leave no notice of their arrival, or the same notice: its entries differ at most in
the name of the operation, and it shows every parameter by its last value, those ones apart. -/
theorem payload_stays_out_of_the_log (identifiers : Log.Identifiers) (a : Application)
    (h : AgreeButPayload r₁ r₂) (hpath : r₁.urlPath = .ok OperationName.endpointPath) :
    ((a.handle identifiers r₁).arrival? = none ∧ (a.handle identifiers r₂).arrival? = none) ∨
      ∃ (n : Log.Notice) (c : Log.Context) (o₁ o₂ : Option String) (shown : Named Json),
        (a.handle identifiers r₁).arrival? =
          Log.Notice.entry? a.journal.mode { c with operation := o₁ } n ∧
        (a.handle identifiers r₂).arrival? =
          Log.Notice.entry? a.journal.mode { c with operation := o₂ } n ∧
        Log.withoutOperation (n.fields { c with operation := o₁ }) =
          Log.withoutOperation (n.fields { c with operation := o₂ }) ∧
        (n.fields { c with operation := o₁ }).get? "query_params" =
          some (if shown.isEmpty then .null else .object shown) ∧
        ∀ name, shown.get? name =
          (r₁.lastValue? name).map fun value => reportedValue name (.text value) := by
  cases hpreflight : Cors.isPreflight r₁ with
  | true =>
    rw [handle, handle, ← h.isPreflight, hpreflight]
    exact Or.inl ⟨rfl, rfl⟩
  | false =>
  have hpreflight₂ := h.isPreflight.symm.trans hpreflight
  have hpath₂ := h.urlPath.symm.trans hpath
  obtain ⟨crash, he₁, he₂⟩ | ⟨o₁, o₂, ho₁, ho₂⟩ := ofRequest?_of_agree h hpath
  · rw [handle_eq_failed hpreflight he₁, handle_eq_failed hpreflight₂ he₂]
    exact Or.inl ⟨rfl, rfl⟩
  rw [handle_eq_handleNamed hpreflight hpath ho₁, handle_eq_handleNamed hpreflight₂ hpath₂ ho₂,
    handleNamed_arrival, handleNamed_arrival, ← arrivalNotice_eq_of_agree h]
  right
  let c := a.nextContext identifiers none
  let kept := a.journal.context.operation
  let n := arrivalNotice OperationName.endpointPath r₁
  refine ⟨n, c, o₁.or kept, o₂.or kept,
    reportedParameters OperationName.endpointPath r₁.parameters, rfl, rfl, ?_, ?_, ?_⟩
  · exact (n.withoutOperation_fields c _).trans (n.withoutOperation_fields c _).symm
  · have hown : "query_params" ∉ Log.ownFields := by decide
    have hshown : "query_params" ∉ Log.withheld := by decide
    have hvalue := n.get?_fields hown hshown { c with operation := o₁.or kept }
    rw [hvalue, reportedParameters_endpoint, List.isEmpty_map, ← reportedParameters_endpoint]
    rfl
  · exact get?_reportedParameters r₁

/-- A request without a body. -/
def asked (path query : String) : Http.Request where
  method := "GET"
  path := path
  query := query
  headers := []
  body := []
  client := none
  server := "test"

/-- Two documents in the address of the endpoint, with the same page: neither document shows. -/
theorem payload_stays_out_of_the_log_sample :
    ∃ (n : Log.Notice) (c : Log.Context) (o₁ o₂ : Option String) (shown : Named Json),
      (sampleApplication.handle recordId
        (asked "/graphql" "page=1&query={me{id}}&page=2")).arrival? =
          Log.Notice.entry? .data { c with operation := o₁ } n ∧
      (sampleApplication.handle recordId
        (asked "/graphql" "page=1&query={__schema}&page=2")).arrival? =
          Log.Notice.entry? .data { c with operation := o₂ } n ∧
      Log.withoutOperation (n.fields { c with operation := o₁ }) =
        Log.withoutOperation (n.fields { c with operation := o₂ }) ∧
      (n.fields { c with operation := o₁ }).get? "query_params" = some (.object shown) ∧
      shown.get? "query" = some redacted ∧ shown.get? "page" = some (.text "2") := by
  let r₁ := asked "/graphql" "page=1&query={me{id}}&page=2"
  let r₂ := asked "/graphql" "page=1&query={__schema}&page=2"
  have hagree : AgreeButPayload r₁ r₂ := ⟨rfl, by decide +kernel⟩
  have hpath : r₁.urlPath = .ok OperationName.endpointPath := by decide +kernel
  have hwritten : (sampleApplication.handle recordId r₁).arrival?.isSome = true := by
    decide +kernel
  have hquery : r₁.lastValue? "query" = some "{me{id}}" := by decide +kernel
  have hpage : r₁.lastValue? "page" = some "2" := by decide +kernel
  obtain ⟨hnone, -⟩ | ⟨n, c, o₁, o₂, shown, h₁, h₂, hsame, hparams, hshown⟩ :=
    payload_stays_out_of_the_log recordId sampleApplication hagree hpath
  · rw [hnone] at hwritten
    exact absurd hwritten (by decide)
  have hshownPage : shown.get? "page" = some (.text "2") := by
    rw [hshown, hpage]
    rfl
  have hsome : shown.isEmpty = false := by
    cases shown with
    | nil => exact absurd hshownPage (by simp [Named.get?])
    | cons p rest => rfl
  rw [hsome] at hparams
  refine ⟨n, c, o₁, o₂, shown, h₁, h₂, hsame, hparams, ?_, hshownPage⟩
  rw [hshown, hquery]
  rfl

/-- The text that an entry shows for a parameter. -/
def shownParameter? (name : String) : Log.Entry → Option String
  | .data fields =>
    match fields.get? "query_params" with
    | some (.object shown) =>
      match Named.get? shown name with
      | some (.text s) => some s
      | _ => none
    | _ => none
  | .line _ => none

/-- With a slash at its end the path still leads to the endpoint, but the documents show. -/
theorem slash_after_path_shows_payload :
    redirection? "/graphql/" = some "/graphql" ∧
    (asked "/graphql/" "query={me{id}}").allParameters.map (·.1) = ["query"] ∧
    (asked "/graphql/" "query={__schema}").allParameters.map (·.1) = ["query"] ∧
    (sampleApplication.handle recordId (asked "/graphql/" "query={me{id}}")).arrival?.bind
      (shownParameter? "query") = some "{me{id}}" ∧
    (sampleApplication.handle recordId (asked "/graphql/" "query={__schema}")).arrival?.bind
      (shownParameter? "query") = some "{__schema}" := by
  decide +kernel

end Application
end Service
end BlogGraph
