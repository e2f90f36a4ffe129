import BlogGraph.Proofs.Blog.History
import BlogGraph.Service.Application

/-!
# What can write to the blog

Only a mutation that is executed changes a blog.  Whatever else is asked for — a query, an
operation that is not there, a document that cannot be read or is not valid, variables without
values — leaves the blog as it was, its records and the number of identifiers made for it alike.
Over HTTP such a mutation comes by one way only, in the body of a `POST` to the endpoint; no other
method and no other path changes anything, and neither does a mutation that comes by `GET`.

A path leads to the endpoint also with a line break behind it, which is the one exception to what
its name says (`line_break_after_path_writes`).

Main statements:

* `GraphQL.perform_request_of_not_mutates`: requests that are not for a mutation change nothing;
* `Service.Application.handle_blog`: what a request over HTTP can do to the blog;
* `Service.Application.only_mutations_write`: both together.
-/

namespace BlogGraph
namespace GraphQL

/-! ## Documents -/

/-- The operation is a mutation of a valid document, and its variables have values. -/
def Prepared.Mutates (p : Prepared) (given : Named Json) : Prop :=
  p.operation.kind = .mutation ∧ p.document.validate blogSchema = [] ∧
    ∃ vars, variableValues blogSchema given p.operation.declarations = .ok vars

/-- The document can be read, and the operation that is selected is a mutation that can be
executed. -/
def Request.Mutates (r : Request) : Prop :=
  ∃ p, r.prepare = .ok (.ok p) ∧ p.Mutates r.given

/-- The kind of the operation that a request selects, if there is one. -/
def Request.selectedKind? (r : Request) : Option OperationKind :=
  match r.prepare with
  | .ok (.ok p) => some p.operation.kind
  | _ => none

theorem Request.Mutates.selectedKind? {r : Request} (h : r.Mutates) :
    r.selectedKind? = some .mutation := by
  obtain ⟨p, hp, hkind, -⟩ := h
  rw [Request.selectedKind?, hp]
  exact congrArg some hkind

variable {p : Prepared} {given : Named Json}

theorem Prepared.mutates_of_carriesOut {c : Command}
    (h : CarriesOut blogSchema p.document given p.operation c) : p.Mutates given := by
  obtain ⟨vars, plan, hvalid, hvars, -, hkind, -⟩ := h
  exact ⟨hkind, hvalid, vars, hvars⟩

/-- An operation that is no mutation, or cannot be executed, changes nothing. -/
theorem executeDocument_blog_of_not_mutates (h : ¬ p.Mutates given) (text : List Char)
    (available : Bool) (b : Blog) :
    (executeDocument blogSchema text p.document given p.operation available b).blog = b := by
  obtain ⟨cs, hcs, hcarries⟩ :=
    executeDocument_blog blogSchema text p.document given p.operation available b
  have hnone : cs = [] := List.eq_nil_iff_forall_not_mem.2 fun c hc =>
    h (Prepared.mutates_of_carriesOut (hcarries c hc))
  rw [hcs, hnone, Command.runEach_nil]

/-- A request that is not for a mutation that can be executed changes nothing. -/
theorem perform_request_of_not_mutates {r : Request} (h : ¬ r.Mutates) (available : Bool)
    (b : Blog) : (Use.request available r).perform b = b := by
  rw [Use.perform, execute]
  cases hprepare : r.prepare with
  | error fault => rfl
  | ok prepared =>
    cases prepared with
    | error response => rfl
    | ok p =>
      exact executeDocument_blog_of_not_mutates (fun hp => h ⟨p, hprepare, hp⟩) _ available b

end GraphQL

/-! ## Requests over HTTP -/

namespace Http

open GraphQL

/-- A document that is executed was prepared as one without a name that is odd. -/
theorem Enquiry.request_prepare {e : Enquiry} {p : Prepared} (h : e.prepare = .ok (.ok p)) :
    e.request.prepare = .ok (.ok p) := by
  rw [Enquiry.prepare] at h
  split at h
  · exact absurd h (by simp)
  · exact absurd h (by simp)
  · exact absurd h (by simp)
  · next q hq =>
    split at h
    · exact absurd h (by simp)
    · rw [hq, Except.ok.inj h]

/-- What answering a document can do to the blog: nothing, unless it is for a mutation and did not
come by `GET`. -/
theorem answerEnquiry_blog {method : String} {b : Blog} {e : Enquiry} {answered : Answered}
    (h : answerEnquiry blogSchema method b e = .ok answered) :
    answered.blog = b ∨ (method ≠ "GET" ∧ e.request.Mutates) := by
  rw [answerEnquiry] at h
  split at h
  · exact absurd h (by simp)
  · obtain rfl := Except.ok.inj h
    exact Or.inl rfl
  · next p hprepare =>
    split at h
    · exact absurd h (by simp)
    · next hget =>
      obtain rfl := Except.ok.inj h
      by_cases hp : p.Mutates e.given
      · refine Or.inr ⟨?_, p, Enquiry.request_prepare hprepare, hp⟩
        rintro rfl
        exact hget (by simp [hp.1])
      · exact Or.inl (executeDocument_blog_of_not_mutates hp _ true b)

theorem endpoint_blog {workbench : Bool} {b : Blog} {r : Request} {answered : Answered}
    (h : endpoint blogSchema workbench b r = .ok answered) :
    answered.blog = b ∨
      (r.method ≠ "GET" ∧ ∃ e, Enquiry.ofRequest r = .ok e ∧ e.request.Mutates) := by
  rw [endpoint] at h
  split at h
  · obtain rfl := Except.ok.inj h
    exact Or.inl rfl
  · split at h
    · exact absurd h (by simp)
    · obtain rfl := Except.ok.inj h
      exact Or.inl rfl
    · next e he =>
      split at h
      · next answered' hanswered =>
        obtain rfl := Except.ok.inj h
        exact (answerEnquiry_blog hanswered).imp_right fun ⟨hmethod, hmutates⟩ =>
          ⟨hmethod, e, he, hmutates⟩
      · obtain rfl := Except.ok.inj h
        exact Or.inl rfl

end Http

namespace Service

open Http GraphQL

/-- The paths that lead to the endpoint. -/
theorem eq_or_eq_of_leadsTo_endpoint {path : String}
    (h : leadsTo OperationName.endpointPath path = true) :
    path = "/graphql" ∨ path = "/graphql\n" := by
  have happend : OperationName.endpointPath ++ "\n" = "/graphql\n" := by decide
  rw [leadsTo, Bool.or_eq_true, decide_eq_true_iff, decide_eq_true_iff, happend] at h
  exact h

/-- What following a path can do to the blog: nothing, unless a `POST` to the endpoint brings a
mutation. -/
theorem route_blog {settings : Settings} {b : Blog} {r : Http.Request} {answered : Answered}
    (h : route settings b r = .ok answered) :
    answered.blog = b ∨ (r.method = "POST" ∧ leadsTo OperationName.endpointPath r.path = true ∧
      ∃ e, Enquiry.ofRequest r = .ok e ∧ e.request.Mutates) := by
  rw [route] at h
  split at h
  · obtain rfl := Except.ok.inj h
    exact Or.inl rfl
  · split at h
    · next hpath =>
      split at h
      · next hmethod =>
        refine (endpoint_blog h).imp_right fun ⟨hget, hmutates⟩ => ⟨?_, hpath, hmutates⟩
        simpa [hget] using hmethod
      · obtain rfl := Except.ok.inj h
        exact Or.inl rfl
    · split at h <;> (obtain rfl := Except.ok.inj h; exact Or.inl rfl)

namespace Application

/-- **What a request can do to the blog**: nothing, unless a `POST` to the endpoint brings a
mutation. -/
theorem handle_blog (identifiers : Log.Identifiers) (a : Application) (r : Http.Request) :
    (a.handle identifiers r).application.blog = a.blog ∨
      (r.method = "POST" ∧ leadsTo OperationName.endpointPath r.path = true ∧
        ∃ e, Enquiry.ofRequest r = .ok e ∧ e.request.Mutates) := by
  rw [handle]
  split
  · exact Or.inl rfl
  split
  · exact Or.inl rfl
  split
  · exact Or.inl rfl
  · simp only [handleNamed]
    split
    · next answered hroute => exact route_blog hroute
    · exact Or.inl rfl

/-- **Only an executed mutation writes.**  A request that does not select a mutation of a readable,
valid document whose variables have values changes nothing of the blog: no record, and no
identifier is made.  Neither does a request over HTTP that is not a `POST` to the endpoint,
whatever else it is, nor one that brings such a document. -/
theorem only_mutations_write :
    (∀ (b : Blog) (available : Bool) (q : GraphQL.Request), ¬ q.Mutates →
      (Use.request available q).perform b = b) ∧
    ∀ (identifiers : Log.Identifiers) (a : Application) (r : Http.Request),
      (¬ (r.method = "POST" ∧ (r.path = "/graphql" ∨ r.path = "/graphql\n")) →
        (a.handle identifiers r).application.blog = a.blog) ∧
      ∀ e, Enquiry.ofRequest r = .ok e → ¬ e.request.Mutates →
        (a.handle identifiers r).application.blog = a.blog := by
  refine ⟨fun b available q hq => perform_request_of_not_mutates hq available b, ?_⟩
  intro identifiers a r
  have hblog := handle_blog identifiers a r
  constructor
  · intro hother
    refine hblog.resolve_right ?_
    rintro ⟨hmethod, hpath, -⟩
    exact hother ⟨hmethod, eq_or_eq_of_leadsTo_endpoint hpath⟩
  · intro e he hidle
    refine hblog.resolve_right ?_
    rintro ⟨-, -, e', he', hmutates⟩
    obtain rfl := Except.ok.inj (he.symm.trans he')
    exact hidle hmutates

/-- A document with a query and a mutation, of which the name chooses one. -/
def queryAndMutation (name : String) : GraphQL.Request where
  query := "query A\x7bme\x7bid\x7d\x7d mutation B\x7bcreateUser(data:\x7bname:\"Ann\"," ++
    "email:\"ann@x.org\"\x7d)\x7bid\x7d\x7d"
  given := []
  operationName := some name

/-- A request with a body of data. -/
def posted (path body : String) : Http.Request where
  method := "POST"
  path := path
  query := ""
  headers := [("content-type", "application/json")]
  body := Encoding.Utf8.encode body.toList
  client := none
  server := "test"

/-- A mutation as a body. -/
def mutationBody : String :=
  "\x7b\"query\":\"mutation\x7bcreateUser(data:\x7bname:\\\"Ann\\\",email:\\\"ann@x.org\\\"\x7d)" ++
    "\x7bid\x7d\x7d\"\x7d"

/-- The application over the sample data. -/
def sampleApplication : Application := (start {} .data (some .sample)).application

/-- The query of the document writes nothing, though its mutation does; and a mutation writes
nothing at another path. -/
theorem only_mutations_write_sample :
    (queryAndMutation "A").selectedKind? = some .query ∧
    (Use.request true (queryAndMutation "A")).perform .sample = .sample ∧
    ((Use.request true (queryAndMutation "B")).perform .sample).store.counts = ⟨4, 3, 4⟩ ∧
    (sampleApplication.handle recordId (posted "/graphql/" mutationBody)).application.blog =
      sampleApplication.blog := by
  have hkind : (queryAndMutation "A").selectedKind? = some .query := by decide +kernel
  have hidle : ¬ (queryAndMutation "A").Mutates := by
    intro hmutates
    rw [hmutates.selectedKind?] at hkind
    exact absurd hkind (by decide)
  have hother : ¬ ((posted "/graphql/" mutationBody).method = "POST" ∧
      ((posted "/graphql/" mutationBody).path = "/graphql" ∨
        (posted "/graphql/" mutationBody).path = "/graphql\n")) := by decide +kernel
  exact ⟨hkind, only_mutations_write.1 .sample true _ hidle, by decide +kernel,
    (only_mutations_write.2 recordId sampleApplication _).1 hother⟩

/-- A mutation that is posted to the endpoint's path with a line break behind it is executed. -/
theorem line_break_after_path_writes :
    ¬ ((posted "/graphql\n" mutationBody).method = "POST" ∧
      (posted "/graphql\n" mutationBody).path = "/graphql") ∧
    sampleApplication.blog.store.counts = ⟨3, 3, 4⟩ ∧
    (sampleApplication.handle recordId
      (posted "/graphql\n" mutationBody)).application.blog.store.counts = ⟨4, 3, 4⟩ := by
  decide +kernel

end Application
end Service
end BlogGraph
