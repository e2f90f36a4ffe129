import BlogGraph.Log.RequestId
import BlogGraph.Proofs.Service.Redaction

/-!
# Every request leaves its own trace

A request that is no preflight, and whose address and body do not end the search for the name of
its operation, is handled under an identifier that is made for it.  Its entries begin with its
arrival and end with its completion or its failure, and all of them, those of the operations on
the blog included, are stamped with that identifier and with the name of the operation, if there
is one.  The response carries the identifier too.

Between two requests the context is empty (`Application.Idle`).  That has to be so: a setting that
names no operation keeps the one that is there, so that a name that stayed behind would be taken
for the next request's.

Main statements:

* `Log.Notice.get?_requestId`, `Log.Notice.get?_operation`: what an entry is stamped with;
* `Service.Application.handleNamed_traced`: the trace of one request;
* `Service.Application.Idle.handle`: the context is empty again afterwards, whatever came of it;
* `Service.Application.every_request_is_traced`: any request among any requests.
-/

namespace BlogGraph

/-! ## Identifiers and names are not empty -/

namespace Encoding.Base64

theorem encode_ne_nil {bytes : List Byte} (h : bytes ≠ []) : encode bytes ≠ [] := by
  cases bytes with
  | nil => exact absurd rfl h
  | cons a rest =>
    cases rest with
    | nil => simp [encode]
    | cons b rest =>
      cases rest with
      | nil => simp [encode]
      | cons c rest => simp [encode]

end Encoding.Base64

namespace RequestId

/-- An identifier is made from some time and some random bytes. -/
def IsMade (id : String) : Prop := ∃ clock random, make clock random = .ok id

theorem bytesOf_ne_nil (count n : Nat) : bytesOf (count + 1) n ≠ [] := by
  simp [bytesOf]

theorem IsMade.ne_empty {id : String} (h : IsMade id) : id ≠ "" := by
  obtain ⟨clock, random, h⟩ := h
  rw [make] at h
  split at h
  · next time _ =>
    rw [ofMicroseconds] at h
    split at h
    · exact absurd h (by simp)
    · split at h
      · exact absurd h (by simp)
      · obtain rfl := Except.ok.inj h
        have hbytes : bytesOf 8 time.natAbs ++ random.take 2 ≠ [] :=
          List.append_ne_nil_of_left_ne_nil (bytesOf_ne_nil 7 _) _
        have hletters := Encoding.Base64.encode_ne_nil hbytes
        intro hempty
        exact hletters (String.ofList_injective hempty)
  · exact absurd h (by simp)

end RequestId

namespace OperationName

theorem nameAfter?_ne_nil {word cs name : List Char} (h : nameAfter? word cs = some name) :
    name ≠ [] := by
  rw [nameAfter?] at h
  split at h
  · simp only [Option.ite_none_right_eq_some, Bool.and_eq_true] at h
    obtain ⟨⟨-, hne⟩, hname⟩ := h
    rintro rfl
    rw [Option.some.inj hname] at hne
    exact absurd hne (by decide)
  · exact absurd h (by simp)

theorem findName?_ne_nil {word name cs : List Char} {inWord : Bool}
    (h : findName? word inWord cs = some name) : name ≠ [] := by
  induction cs generalizing inWord with
  | nil => exact absurd h (by simp [findName?])
  | cons c rest ih =>
    rw [findName?] at h
    split at h
    · next found hfound =>
      rw [← Option.some.inj h]
      cases inWord with
      | true => exact absurd hfound (by simp)
      | false => exact nameAfter?_ne_nil (by simpa using hfound)
    · exact ih h

theorem ofText_ne_nil (cs : List Char) : ofText cs ≠ [] := by
  rw [ofText]
  split
  · decide
  · split
    · next name hname =>
      split
      · exact List.append_ne_nil_of_right_ne_nil _ (List.cons_ne_nil _ _)
      · rcases Option.or_eq_some_iff.1 hname with hquery | ⟨-, hmutation⟩
        · exact findName?_ne_nil hquery
        · exact findName?_ne_nil hmutation
    · decide

theorem ofPayload?_ne_empty {payload : Named Json} {name : String}
    (h : ofPayload? payload = some name) : name ≠ "" := by
  have hquery (h : ofPayload?.ofQuery? payload = some name) : name ≠ "" := by
    rw [ofPayload?.ofQuery?] at h
    split at h
    · next q _ =>
      split at h
      · exact absurd h (by simp)
      · rw [← Option.some.inj h]
        intro hempty
        exact ofText_ne_nil q.toList (String.ofList_injective hempty)
    · exact absurd h (by simp)
  rw [ofPayload?] at h
  split at h
  · next given _ =>
    split at h
    · exact hquery h
    · next hgiven =>
      rw [← Option.some.inj h]
      simpa using hgiven
  · exact hquery h

theorem ofBody?_ne_empty {limits : Json.Limits} {body : List Encoding.Byte} {name : String}
    (h : ofBody? limits body = .ok (some name)) : name ≠ "" := by
  rw [ofBody?] at h
  split at h
  · exact absurd h (by simp)
  · split at h
    · exact ofPayload?_ne_empty (Except.ok.inj h)
    all_goals exact absurd h (by simp)

/-- The name under which a request is logged is not empty. -/
theorem ofRequestTo?_ne_empty {path : String} {r : Http.Request} {name : String}
    (h : ofRequestTo? path r = .ok (some name)) : name ≠ "" := by
  rw [ofRequestTo?] at h
  split at h
  · exact absurd h (by simp)
  split at h
  · exact ofPayload?_ne_empty (Except.ok.inj h)
  split at h
  · cases hbody : ofBody? (.nested r.room.search) r.body with
    | error e => exact absurd (hbody ▸ h) (by simp [Except.mapError])
    | ok found =>
      rw [hbody] at h
      obtain rfl := Except.ok.inj h
      exact ofBody?_ne_empty hbody
  · exact absurd h (by simp)

/-- A name was found for a request, or none, so its address can be read. -/
theorem exists_urlPath_of_ofRequest? {r : Http.Request} {operation : Option String}
    (h : ofRequest? r = .ok operation) : ∃ path, r.urlPath = .ok path := by
  rw [ofRequest?] at h
  split at h
  · exact absurd h (by simp)
  · next path hpath => exact ⟨path, hpath⟩

end OperationName

/-! ## What an entry is stamped with -/

namespace Log

variable {id : String} {operation : Option String}

/-- The event of a notice is found in its entry. -/
theorem Notice.get?_event (n : Notice) (c : Context) :
    (n.fields c).get? "event" = some (.text n.event) := by
  rw [Notice.fields, Named.get?_filter (p := fun field => !withheld.contains field) (by decide),
    c.get?_stamp (by decide) (by decide), Named.get?_set_ne (by decide),
    Named.get?_set_ne (by decide), Named.get?_set]

/-- Every entry carries the identifier of the context. -/
theorem Notice.get?_requestId (hid : id ≠ "") (n : Notice) :
    (n.fields ⟨some id, operation⟩).get? "request_id" = some (.text id) := by
  have hpresent : (some id).filter (· ≠ "") = some id := by simp [hid]
  rw [Notice.fields, Named.get?_filter (p := fun field => !withheld.contains field) (by decide),
    (Context.stamps _ _).requestId, hpresent]
  rfl

/-- An entry carries the operation of the context, or none when there is none there, unless its
notice names an operation itself. -/
theorem Notice.get?_operation (hoperation : operation ≠ some "") {n : Notice}
    (hn : n.values.get? "graphql_operation" = none) :
    (n.fields ⟨some id, operation⟩).get? "graphql_operation" = operation.map .text := by
  have hpresent : operation.filter (· ≠ "") = operation := by
    cases operation with
    | none => rfl
    | some name => simpa using hoperation
  rw [Notice.fields, Named.get?_filter (p := fun field => !withheld.contains field) (by decide),
    (Context.stamps _ _).operation, Named.get?_set_ne (by decide), Named.get?_set_ne (by decide),
    Named.get?_set_ne (by decide), hn, hpresent, Option.none_or]

end Log

/-! ## The header field of the identifier -/

namespace Http

/-- The values of a header field of a response, by its name. -/
def Response.valuesOf (r : Response) (name : String) : List String :=
  (r.headers.filter fun field => field.1 = name).map (·.2)

theorem Response.valuesOf_setHeader (r : Response) (name value : String) :
    (r.setHeader name value).valuesOf name = [value] := by
  have hothers : (r.headers.filter fun field => field.1 ≠ name).filter
      (fun field => field.1 = name) = [] := by
    simp [List.filter_filter]
  rw [valuesOf, setHeader, List.filter_append, hothers]
  simp

theorem Response.valuesOf_setHeader_ne {name other : String} (h : other ≠ name) (r : Response)
    (value : String) : (r.setHeader other value).valuesOf name = r.valuesOf name := by
  have hkept : (r.headers.filter fun field => field.1 ≠ other).filter
      (fun field => field.1 = name) = r.headers.filter fun field => field.1 = name := by
    rw [List.filter_filter]
    refine List.filter_congr fun field _ => ?_
    by_cases hfield : field.1 = name
    · simp [hfield, h.symm]
    · simp [hfield]
  rw [valuesOf, setHeader, List.filter_append, hkept, valuesOf]
  simp [h]

/-- What a response says about other origins leaves the other header fields alone. -/
theorem Cors.valuesOf_mark {name : String} (hvary : "vary" ≠ name)
    (hcredentials : "access-control-allow-credentials" ≠ name)
    (horigin : "access-control-allow-origin" ≠ name) (origins : List String) (r : Request)
    (response : Response) : (mark origins r response).valuesOf name = response.valuesOf name := by
  simp only [mark]
  split
  · split
    · rfl
    · exact Response.valuesOf_setHeader_ne hvary _ _
  · next origin _ =>
    have hmarked := Response.valuesOf_setHeader_ne hcredentials response "true"
    cases namedOrigin? origins r origin with
    | none =>
      rw [if_neg (by simp)]
      exact (Response.valuesOf_setHeader_ne hvary _ _).trans hmarked
    | some o =>
      have hnamed := (Response.valuesOf_setHeader_ne horigin
        (response.setHeader "access-control-allow-credentials" "true") o).trans hmarked
      split
      · exact hnamed
      · exact (Response.valuesOf_setHeader_ne hvary _ _).trans hnamed

end Http

/-! ## The trace of one request -/

namespace Event

/-- No event of the blog reports under an operation of its own. -/
theorem notice_operation (e : Event) : e.notice.values.get? "graphql_operation" = none := by
  cases e <;> rfl

end Event

namespace Service

open Http

/-- The events that tell of the bounds of a request. -/
def boundaries : List String := ["Request started", "Request completed", "Request failed"]

theorem notice_not_mem_boundaries (e : Event) : e.notice.event ∉ boundaries := by
  cases e <;> simp [Event.notice, boundaries]

/-- The entry tells of an event and is stamped with an identifier, and with an operation or none.
These are the fields that it is written from, as data or as a line. -/
def Stamped (mode : Log.Mode) (id : String) (operation : Option String) (event : String)
    (entry : Log.Entry) : Prop :=
  ∃ (context : Log.Context) (n : Log.Notice), n.entry? mode context = some entry ∧
    (n.fields context).get? "event" = some (.text event) ∧
    (n.fields context).get? "request_id" = some (.text id) ∧
    (n.fields context).get? "graphql_operation" = operation.map .text

/-- **The trace of a request.**  Its entries begin with its arrival and end with its completion or,
after a failure, with that; nothing in between tells of either.  All are stamped alike.  A response
that was not cut off by a failure carries the identifier, and the context is empty afterwards. -/
structure Handled.Traced (h : Handled) (mode : Log.Mode) (id : String)
    (operation : Option String) : Prop where
  entries : ∃ opening between closing, h.entries = opening :: (between ++ [closing]) ∧
    Stamped mode id operation "Request started" opening ∧
    (∀ entry ∈ between, ∃ event, event ∉ boundaries ∧ Stamped mode id operation event entry) ∧
    Stamped mode id operation
      (if h.crash.isSome then "Request failed" else "Request completed") closing
  header : h.crash = none → h.response.valuesOf "x-request-id" = [id]
  context : h.application.journal.context = .empty

variable {mode : Log.Mode} {id : String} {operation : Option String}

/-- A notice that is always written and names no operation leaves a stamped entry. -/
theorem exists_stamped (mode : Log.Mode) (hid : id ≠ "") (hoperation : operation ≠ some "")
    {n : Log.Notice} (hlevel : Log.Level.info.rank ≤ n.level.rank)
    (hn : n.values.get? "graphql_operation" = none) :
    ∃ entry, n.entry? mode ⟨some id, operation⟩ = some entry ∧
      Stamped mode id operation n.event entry := by
  have hleast : mode.least.rank ≤ Log.Level.info.rank := by cases mode <;> decide
  have hwritten : ∃ entry, n.entry? mode ⟨some id, operation⟩ = some entry := by
    have hrank : ¬ n.level.rank < mode.least.rank := by omega
    simp only [if_neg hrank, Log.Notice.entry?]
    cases mode <;> exact ⟨_, rfl⟩
  obtain ⟨entry, hentry⟩ := hwritten
  exact ⟨entry, hentry, _, n, hentry, n.get?_event _, n.get?_requestId hid,
    Log.Notice.get?_operation hoperation hn⟩

/-- Between two notices that are written, the entries of those in between. -/
theorem entries_between {context : Log.Context} {first last : Log.Notice}
    {opening closing : Log.Entry} (hfirst : first.entry? mode context = some opening)
    (hlast : last.entry? mode context = some closing) (inner : List Log.Notice) :
    Log.entries mode context (first :: (inner ++ [last])) =
      opening :: (Log.entries mode context inner ++ [closing]) := by
  simp only [Log.entries, List.filterMap_cons, List.filterMap_append, List.filterMap_nil, hfirst,
    hlast]

/-- Whatever the blog reports leaves stamped entries, and none tells of the bounds of a request. -/
theorem stamped_of_mem_entries (hid : id ≠ "") (hoperation : operation ≠ some "")
    {events : List Event} {entry : Log.Entry}
    (h : entry ∈ Log.entries mode ⟨some id, operation⟩ (events.map Event.notice)) :
    ∃ event, event ∉ boundaries ∧ Stamped mode id operation event entry := by
  obtain ⟨n, hn, hentry⟩ := List.mem_filterMap.1 h
  obtain ⟨e, -, rfl⟩ := List.mem_map.1 hn
  exact ⟨e.notice.event, notice_not_mem_boundaries e, _, e.notice, hentry, e.notice.get?_event _,
    e.notice.get?_requestId hid, Log.Notice.get?_operation hoperation e.notice_operation⟩

namespace Application

variable {identifiers : Log.Identifiers}

/-- The application between two requests: it knows of no request, and this many identifiers were
made for earlier ones. -/
structure Idle (mode : Log.Mode) (made : Nat) (a : Application) : Prop where
  mode : a.journal.mode = mode
  context : a.journal.context = .empty
  made : a.journal.made = made

theorem idle_start (settings : Settings) (mode : Log.Mode) (given : Option Store) :
    (start settings mode given).application.Idle mode 0 :=
  ⟨rfl, rfl, rfl⟩

/-- The journal in which a request is handled that arrives when nothing is being handled. -/
theorem Idle.set {made : Nat} {a : Application} (h : a.Idle mode made)
    (operation : Option String) :
    a.journal.set identifiers none operation =
      ⟨mode, ⟨some (identifiers (made + 1)), operation⟩, made + 1⟩ := by
  obtain ⟨settings, blog, mode', context, made'⟩ := a
  obtain ⟨rfl, rfl, rfl⟩ := h
  rw [Log.Journal.set, Log.Context.set]
  simp [Log.Context.empty]

/-- **A request leaves its trace**, under the next identifier. -/
theorem handleNamed_traced (hids : ∀ n, RequestId.IsMade (identifiers n)) {made : Nat}
    {a : Application} (ha : a.Idle mode made) (path : String) (r : Http.Request)
    (hoperation : operation ≠ some "") :
    (a.handleNamed identifiers path r operation).Traced mode (identifiers (made + 1))
      operation := by
  have hid := (hids (made + 1)).ne_empty
  obtain ⟨opening, hopening, hopens⟩ :=
    exists_stamped mode hid hoperation (n := arrivalNotice path r) (Nat.le_refl _) rfl
  simp only [handleNamed, ha.set]
  cases route a.settings a.blog r with
  | ok answered =>
    obtain ⟨closing, hclosing, hcloses⟩ :=
      exists_stamped mode hid hoperation (n := completionNotice path r
        (answered.response.setHeader "x-request-id" (identifiers (made + 1))).status)
        (Nat.le_refl _) rfl
    refine ⟨⟨opening, _, closing, entries_between hopening hclosing _, hopens, ?_, hcloses⟩, ?_,
      rfl⟩
    · intro entry hentry
      exact stamped_of_mem_entries hid hoperation hentry
    · intro _
      rw [Cors.valuesOf_mark (by decide) (by decide) (by decide), Response.valuesOf_setHeader]
      rfl
  | error crash =>
    have hlevel : Log.Level.info.rank ≤ Log.Level.error.rank := by decide
    obtain ⟨closing, hclosing, hcloses⟩ :=
      exists_stamped mode hid hoperation (n := failureNotice path r crash) hlevel rfl
    exact ⟨⟨opening, [], closing, entries_between hopening hclosing [], hopens, by simp, hcloses⟩,
      fun hnone => absurd hnone (by simp), rfl⟩

/-- A request that is no preflight and has a name or none leaves its trace. -/
theorem Idle.handle_traced (hids : ∀ n, RequestId.IsMade (identifiers n)) {made : Nat}
    {a : Application} (ha : a.Idle mode made) {r : Http.Request}
    (hpreflight : Cors.isPreflight r = false)
    (hname : OperationName.ofRequest? r = .ok operation) :
    (a.handle identifiers r).Traced mode (identifiers (made + 1)) operation := by
  obtain ⟨path, hpath⟩ := OperationName.exists_urlPath_of_ofRequest? hname
  have hoperation : operation ≠ some "" := by
    rintro rfl
    rw [OperationName.ofRequest?_of_urlPath hpath] at hname
    exact OperationName.ofRequestTo?_ne_empty hname rfl
  rw [handle_eq_handleNamed hpreflight hpath hname]
  exact handleNamed_traced hids ha path r hoperation

/-- The request is handled under an identifier of its own: it is no preflight, and the name of its
operation can be told. -/
def reaches (r : Http.Request) : Bool :=
  !Cors.isPreflight r && (OperationName.ofRequest? r).toOption.isSome

/-- **The application is idle again after a request**, whatever came of it. -/
theorem Idle.handle (identifiers : Log.Identifiers) {made : Nat} {a : Application}
    (ha : a.Idle mode made) (r : Http.Request) :
    (a.handle identifiers r).application.Idle mode (made + if reaches r then 1 else 0) := by
  rw [reaches]
  cases hpreflight : Cors.isPreflight r with
  | true =>
    rw [Application.handle, hpreflight]
    exact ha
  | false =>
    cases hname : OperationName.ofRequest? r with
    | error crash =>
      rw [handle_eq_failed hpreflight hname]
      exact ha
    | ok operation =>
      obtain ⟨path, hpath⟩ := OperationName.exists_urlPath_of_ofRequest? hname
      rw [handle_eq_handleNamed hpreflight hpath hname]
      simp only [handleNamed, ha.set]
      cases route a.settings a.blog r <;> exact ⟨rfl, rfl, rfl⟩

/-- Among requests one after the other, each is handled by an application that is idle, and the
number of identifiers made so far is that of the earlier requests that were handled under one. -/
theorem exists_idle_of_getElem? (identifiers : Log.Identifiers) {made : Nat} {a : Application}
    (ha : a.Idle mode made) {requests : List Http.Request} {i : Nat} {r : Http.Request}
    (hr : requests[i]? = some r) :
    ∃ before : Application, before.Idle mode (made + (requests.take i).countP reaches) ∧
      (handleAll identifiers a requests)[i]? = some (before.handle identifiers r) := by
  induction requests generalizing a made i with
  | nil => exact absurd hr (by simp)
  | cons first rest ih =>
    cases i with
    | zero =>
      obtain rfl := Option.some.inj hr
      exact ⟨a, ha, rfl⟩
    | succ i =>
      obtain ⟨before, hbefore, hhandled⟩ := ih (Idle.handle identifiers ha first) hr
      refine ⟨before, ?_, hhandled⟩
      rw [List.take_succ_cons, List.countP_cons]
      rwa [Nat.add_assoc, Nat.add_comm (ite _ _ _)] at hbefore

/-- Among requests to an application that was started over any store, likewise. -/
theorem exists_idle (identifiers : Log.Identifiers) (settings : Settings) (mode : Log.Mode)
    (given : Option Store) {requests : List Http.Request} {i : Nat} {r : Http.Request}
    (hr : requests[i]? = some r) :
    ∃ before : Application, before.Idle mode ((requests.take i).countP reaches) ∧
      (handleAll identifiers (start settings mode given).application requests)[i]? =
        some (before.handle identifiers r) := by
  obtain ⟨before, hidle, hhandled⟩ :=
    exists_idle_of_getElem? identifiers (idle_start settings mode given) hr
  rw [Nat.zero_add] at hidle
  exact ⟨before, hidle, hhandled⟩

/-- The number of the identifier under which the request at this place is handled. -/
def turn (requests : List Http.Request) (i : Nat) : Nat := (requests.take i).countP reaches + 1

/-- A request is handled under a later identifier than every request before it. -/
theorem turn_lt_turn {requests : List Http.Request} {i j : Nat} {r : Http.Request}
    (hij : i < j) (hr : requests[i]? = some r) (hreaches : reaches r = true) :
    turn requests i < turn requests j := by
  have hupTo : requests.take (i + 1) = requests.take i ++ [r] := by
    rw [List.take_add_one, hr]
    rfl
  have hprefix : (requests.take (i + 1)).countP reaches ≤ (requests.take j).countP reaches :=
    (List.take_sublist_take_left hij).countP_le
  rw [hupTo, List.countP_append, List.countP_singleton, if_pos hreaches] at hprefix
  rw [turn, turn]
  omega

/-- **Every request leaves its own trace.**  Take any requests to an application that was started
over any store, and any of them that is no preflight and whose operation has a name or none.  It
leaves its trace under an identifier that is made for it, with the name of its operation or without
one; and that identifier comes later than those of all requests before it. -/
theorem every_request_is_traced (hids : ∀ n, RequestId.IsMade (identifiers n))
    (settings : Settings) (mode : Log.Mode) (given : Option Store) {requests : List Http.Request}
    {i : Nat} {r : Http.Request} (hr : requests[i]? = some r)
    (hpreflight : Cors.isPreflight r = false)
    (hname : OperationName.ofRequest? r = .ok operation) :
    ∃ h, (handleAll identifiers (start settings mode given).application requests)[i]? = some h ∧
      h.Traced mode (identifiers (turn requests i)) operation ∧
      ∀ (j : Nat) (earlier : Http.Request), j < i → requests[j]? = some earlier →
        reaches earlier = true → turn requests j < turn requests i := by
  obtain ⟨before, hidle, hhandled⟩ := exists_idle identifiers settings mode given hr
  exact ⟨_, hhandled, hidle.handle_traced hids hpreflight hname,
    fun j earlier hj hearlier => turn_lt_turn hj hearlier⟩

/-- Identifiers of requests that all arrive in one microsecond. -/
def sampleIdentifiers : Log.Identifiers := fun n =>
  String.ofList (Encoding.Base64.encode
    (RequestId.bytesOf 8 1700000000000000 ++ [UInt8.ofNat (n / 256), UInt8.ofNat n]))

theorem isMade_sampleIdentifiers (n : Nat) : RequestId.IsMade (sampleIdentifiers n) :=
  ⟨.whole 1700000000, [UInt8.ofNat (n / 256), UInt8.ofNat n], rfl⟩

/-- A query with a name, a mutation without one, and the question whether the service is well. -/
def sampleRequests : List Http.Request :=
  [asked "/graphql" "query=query Feed{posts{id}}", posted "/graphql" mutationBody,
    asked "/health" ""]

/-- The last of three requests has no operation, though those before it have. -/
theorem every_request_is_traced_sample :
    (OperationName.ofRequest? (asked "/graphql" "query=query Feed{posts{id}}")).toOption =
      some (some "Feed") ∧
    (OperationName.ofRequest? (posted "/graphql" mutationBody)).toOption =
      some (some "unnamed_operation") ∧
    ∃ h, (handleAll sampleIdentifiers sampleApplication sampleRequests)[2]? = some h ∧
      h.Traced .data "AAYKJBgeQAAAAw" none := by
  have hrequest : sampleRequests[2]? = some (asked "/health" "") := rfl
  have hpreflight : Cors.isPreflight (asked "/health" "") = false := by decide +kernel
  have hname : OperationName.ofRequest? (asked "/health" "") = .ok none := by decide +kernel
  have hturn : turn sampleRequests 2 = 3 := by decide +kernel
  have hid : sampleIdentifiers 3 = "AAYKJBgeQAAAAw" := by decide +kernel
  obtain ⟨h, hhandled, htraced, -⟩ := every_request_is_traced isMade_sampleIdentifiers {} .data
    (some .sample) hrequest hpreflight hname
  rw [hturn, hid] at htraced
  exact ⟨by decide +kernel, by decide +kernel, h, hhandled, htraced⟩

end Application
end Service
end BlogGraph
