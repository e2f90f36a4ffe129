import BlogGraph.Proofs.Blog.History
import BlogGraph.Proofs.Blog.Inputs
import BlogGraph.Proofs.GraphQL.Reading

/-!
# Queries never fail

Whatever requests a fresh blog has served, its references find their records, and its ages are
numbers that the type `Int` can hold, since no request brings in others.  So a valid query with
values for its variables is answered with an object, without errors and without reports.

There is one exception.  A place whose type demands a value may have a default of its own, and then
the rules let a variable stand there that may be missing; an explicit null for it is only found out
when the field is answered (`null_for_a_default_fails`).  No other explicit null is found out so
late, as long as none takes the place of a variable's own default.

Main statements:

* `Blog.sound_serve`: what requests keep;
* `Blog.queries_never_fail`: queries are answered without errors.
-/

namespace BlogGraph
namespace GraphQL

variable {r : Request} {p : Prepared}

/-! ## Prepared requests -/

theorem of_prepare (h : r.prepare = .ok (.ok p)) :
    p.document.WellRead ∧ p.operation ∈ p.document.operations := by
  obtain ⟨hparse, ho⟩ := Request.parse_of_prepare h
  refine ⟨Document.wellRead_of_parse hparse, ?_⟩
  rw [Document.operation?.eq_def] at ho
  split at ho
  · exact List.mem_of_head? ho
  · exact List.mem_of_find?_eq_some ho

/-- A request is for a valid operation of a kind, with values for its variables that pass a test,
and gives no explicit null in the place of a default. -/
def Request.admits (r : Request) (kind : OperationKind) (test : Prepared → Variables → Bool) :
    Bool :=
  match r.prepare with
  | .ok (.ok p) =>
    match variableValues blogSchema r.given p.operation.declarations with
    | .ok vars => decide (p.operation.kind = kind) && (p.document.validate blogSchema).isEmpty &&
        decide (p.operation.DefaultsKept r.given) && test p vars
    | .error _ => false
  | _ => false

theorem Request.exists_of_admits {kind : OperationKind} {test : Prepared → Variables → Bool}
    (h : r.admits kind test = true) : ∃ p vars, r.prepare = .ok (.ok p) ∧
      p.operation.kind = kind ∧ p.document.validate blogSchema = [] ∧
      variableValues blogSchema r.given p.operation.declarations = .ok vars ∧
      p.operation.DefaultsKept r.given ∧ test p vars = true := by
  rw [admits] at h
  split at h
  · next p hp =>
    split at h
    · next vars hvars =>
      rw [Bool.and_eq_true, Bool.and_eq_true, Bool.and_eq_true, decide_eq_true_iff,
        decide_eq_true_iff, List.isEmpty_iff] at h
      exact ⟨p, vars, hp, h.1.1.1, h.1.1.2, hvars, h.1.2, h.2⟩
    · exact absurd h (by simp)
  · exact absurd h (by simp)

theorem hasAge_of_carriesOut {command : Command} (hp : r.prepare = .ok (.ok p))
    (h : CarriesOut blogSchema p.document r.given p.operation command) : command.HasAge := by
  obtain ⟨vars, plan, hvalid, hvars, hplan, hkind, f, hf, args, hargs, hcommand⟩ := h
  obtain ⟨hread, ho⟩ := of_prepare hp
  have hroot : blogSchema.rootType? p.operation.kind = some "Mutation" := by
    rw [hkind]
    rfl
  obtain ⟨spec, hspec, hconform⟩ := Document.conform_of_plan regular_blogSchema hvalid hread ho
    hvars hroot hplan f hf
  exact Command.hasAge_of_ofField? hspec (hconform args hargs) hcommand

/-- A quiet course comes to its value alone. -/
theorem answerOf_quiet (v : Json) : answerOf ⟨.ok v, []⟩ = (⟨v, []⟩, []) := by
  simp [answerOf, Course.inOrder, errorsOf, eventsOf]

theorem sorted_without_errors (text : List Char) (data : Json) (b : Blog) (events : List Event) :
    (Executed.mk ⟨data, []⟩ b events).sorted text = ⟨⟨data, []⟩, b, events⟩ := by
  simp [Executed.sorted, sortErrors]

end GraphQL

open GraphQL

/-! ## Blogs that served requests -/

/-- The record of an accepted command keeps a store sound, if an age in it is in range. -/
theorem Store.sound_append {command : Command} {id : String} {s s' : Store} (hs : s.Sound)
    (hage : command.HasAge) (haccepted : command.refusal? s = none)
    (h : s.append? (command.record id) = some s') : s'.Sound := by
  refine ⟨linked_append hs.linked haccepted h, ?_⟩
  cases command with
  | createUser input =>
    obtain ⟨-, rfl⟩ := append?_user.1 h
    intro u hu n hn
    rcases List.mem_append.1 hu with hu | hu
    · exact hs.ages u hu n hn
    · obtain rfl := List.mem_singleton.1 hu
      exact hage input rfl n hn
  | createPost input =>
    obtain ⟨-, rfl⟩ := append?_post.1 h
    exact hs.ages
  | createComment input =>
    obtain ⟨-, rfl⟩ := append?_comment.1 h
    exact hs.ages

namespace Blog

/-- The blog after requests one after the other, whatever becomes of each. -/
def serve (b : Blog) (requests : List Request) : Blog := b.run (requests.map (.request true))

variable {b : Blog}

theorem sound_of_fresh (hb : b.IsFresh) : b.store.Sound := by
  rcases hb with hb | hb <;> rw [hb]
  · refine ⟨Store.linked_empty, fun u hu => ?_⟩
    exact absurd hu (by simp [Store.empty, Collection.empty])
  · have hages : ∀ u ∈ Store.sample.users.toList, ∀ n ∈ u.age, Scalar.isInt32 n = true := by
      decide +kernel
    exact ⟨Store.linked_sample, hages⟩

theorem sound_request (r : Request) (h : b.store.Sound) :
    ((Use.request true r).perform b).store.Sound := by
  obtain ⟨cs, hcs, hcarries⟩ := exists_commands_of_request b true r
  rw [hcs]
  refine Command.runEach_keeps Store.Sound cs (fun c hc _ _ _ hs haccepted happend => ?_) b h
  obtain ⟨p, hp, hcarried⟩ := hcarries c hc
  exact Store.sound_append hs (hasAge_of_carriesOut hp hcarried) haccepted happend

/-- **What requests keep**: references find their records, and ages are in range. -/
theorem sound_serve (hs : b.store.Sound) (requests : List Request) :
    (b.serve requests).store.Sound := by
  induction requests generalizing b with
  | nil => exact hs
  | cons r rest ih => exact ih (sound_request r hs)

/-! ## Queries -/

/-- **Queries never fail.**  On whatever blog is left by requests to a fresh one, a query that is
valid and whose variables have values is answered with an object, without errors, and changes and
reports nothing, provided that no variable with a default is given an explicit null and no variable
is null at a place with a default of its own.  In particular, the authors of posts and comments and
the posts of comments are always found, and ages are always 32-bit numbers. -/
theorem queries_never_fail (hb : b.IsFresh) (requests : List Request) {r : Request} {p : Prepared}
    {vars : Variables} (hp : r.prepare = .ok (.ok p)) (hkind : p.operation.kind = .query)
    (hvalid : p.document.validate blogSchema = [])
    (hvars : variableValues blogSchema r.given p.operation.declarations = .ok vars)
    (hdefaults : p.operation.DefaultsKept r.given)
    (hplaces : PlacesKept ((p.document.context blogSchema).usages p.operation) vars) :
    (∃ fields, execute blogSchema true (b.serve requests) r =
      .ok ⟨⟨.object fields, []⟩, b.serve requests, []⟩) ∧
    (∀ q ∈ (b.serve requests).store.posts.toList, ∃ u,
      (Question.authorOf q).answer (some (b.serve requests).store) = .found (.one (.user u))) ∧
    (∀ c ∈ (b.serve requests).store.comments.toList, ∃ u,
      (Question.commenter c).answer (some (b.serve requests).store) = .found (.one (.user u))) ∧
    (∀ c ∈ (b.serve requests).store.comments.toList, ∃ q,
      (Question.postOf c).answer (some (b.serve requests).store) = .found (.one (.post q))) ∧
    ∀ u ∈ (b.serve requests).store.users.toList, ∀ n, u.age = some n → Scalar.isInt32 n = true := by
  have hs := sound_serve (sound_of_fresh hb) requests
  refine ⟨?_, ?_, ?_, ?_, hs.ages⟩
  · obtain ⟨hread, ho⟩ := of_prepare hp
    have hroot : blogSchema.rootType? p.operation.kind = some "Query" := by
      rw [hkind]
      rfl
    obtain ⟨plan, hplan, hready⟩ := Document.exists_plan_of_validate regular_blogSchema hvalid hread
      ho hvars hdefaults hplaces hroot
    have hquery : Node.Sound (b.serve requests).store .query := trivial
    obtain ⟨data, hdata, fields, rfl⟩ := (calm_object hs hquery hready []).start 0
    refine ⟨fields, ?_⟩
    simp only [execute, hp, executeDocument, hvalid, executeOperation, hvars, hplan, hkind,
      executeQuery, if_true, hdata, answerOf_quiet, sorted_without_errors]
  · intro q hq
    obtain ⟨u, -, hanswer⟩ := exists_authorOf hs (Or.inr hq)
    exact ⟨u, hanswer⟩
  · intro c hc
    obtain ⟨u, -, hanswer⟩ := exists_commenter hs hc
    exact ⟨u, hanswer⟩
  · intro c hc
    obtain ⟨q, -, hanswer⟩ := exists_postOf hs hc
    exact ⟨q, hanswer⟩

/-- A query along references, with a fragment and a directive. -/
def sampleQuery : Request where
  query := "query($d:Boolean!)\x7bme\x7b...U\x7d\x7dfragment U on User" ++
    "\x7bposts@include(if:$d)\x7bauthor\x7bage\x7d\x7d\x7d"
  given := [("d", .bool true)]
  operationName := none

/-- A new user and a refused post. -/
def sampleMutation : Request where
  query := "mutation\x7bcreateUser(data:\x7bname:\"Ann\",email:\"ann@x.org\",age:30\x7d)" ++
    "\x7bid\x7dcreatePost(data:\x7btitle:\"T\",body:\"B\",published:true,author:\"9\"\x7d)" ++
    "\x7bid\x7d\x7d"
  given := []
  operationName := none

theorem queries_never_fail_sample : sample.IsFresh ∧ ∃ fields,
    execute blogSchema true (sample.serve [sampleMutation]) sampleQuery =
      .ok ⟨⟨.object fields, []⟩, sample.serve [sampleMutation], []⟩ := by
  have hadmits : sampleQuery.admits .query (fun p vars =>
      decide (PlacesKept ((p.document.context blogSchema).usages p.operation) vars)) = true := by
    decide +kernel
  obtain ⟨p, vars, hp, hkind, hvalid, hvars, hdefaults, hplaces⟩ := Request.exists_of_admits hadmits
  exact ⟨Or.inr rfl, (queries_never_fail (Or.inr rfl) [sampleMutation] hp hkind hvalid hvars
    hdefaults (of_decide_eq_true hplaces)).1⟩

/-- A query with a null variable for an argument that must not be null, but has a default. -/
def nullQuery : Request where
  query := "query($x:Boolean)\x7b__type(name:\"User\")\x7bfields(includeDeprecated:$x)\x7b" ++
    "name\x7d\x7d\x7d"
  given := [("x", .null)]
  operationName := none

/-- The query is valid, and its variable has no default that the null would take away. -/
theorem null_for_a_default_fails : sample.IsFresh ∧ ∃ p vars done,
    nullQuery.prepare = .ok (.ok p) ∧ p.operation.kind = .query ∧
    p.document.validate blogSchema = [] ∧
    variableValues blogSchema nullQuery.given p.operation.declarations = .ok vars ∧
    p.operation.DefaultsKept nullQuery.given ∧
    execute blogSchema true (sample.serve []) nullQuery = .ok done ∧ done.response.errors ≠ [] := by
  have hadmits : nullQuery.admits .query (fun _ _ => true) = true := by decide +kernel
  have hfails : (execute blogSchema true (sample.serve []) nullQuery).toOption.any
      (fun done => !done.response.errors.isEmpty) = true := by decide +kernel
  obtain ⟨p, vars, hp, hkind, hvalid, hvars, hdefaults, -⟩ := Request.exists_of_admits hadmits
  cases hdone : execute blogSchema true (sample.serve []) nullQuery with
  | error f => exact absurd hfails (by simp [hdone, Except.toOption])
  | ok done =>
    refine ⟨Or.inr rfl, p, vars, done, hp, hkind, hvalid, hvars, hdefaults, rfl, ?_⟩
    simpa [hdone, Except.toOption] using hfails

end Blog
end BlogGraph
