import BlogGraph.Proofs.Blog.History
import BlogGraph.Session

/-!
# Reads only grow

Whatever a session does to a store, appending is all there is in the end: a record at a time, the
sample data up to the first identifier that is taken, commands that are accepted, and steps that
fail or only read and so append nothing.  So the records of every kind at one point of a session
are the first ones of the records at any later point (`Store.Grows`).

No record is ever changed, and every read goes through the records in their order.  So what was
found is found again, and a list that was read is the beginning of the list that the same question
brings later, whether it is searched, filtered by a reference or asked for as a whole.

Main statements:

* `Store.grows_seed`: loading the sample data only appends, also when it fails midway;
* `Step.grows_perform`: so does every step of a session;
* `Store.Grows.reads`: the reads of a store that has grown;
* `Step.reads_only_grow`: all reads, at any two points of any session.
-/

namespace BlogGraph

/-! ## Steps only append -/

namespace Store

variable {s s' : Store}

theorem grows_append_item {item : Item} (h : s.append item = .ok s') : s.Grows s' := by
  cases item with
  | other typeName => exact absurd h (by simp [append])
  | record r =>
    rw [append] at h
    split at h
    · next after hafter =>
      obtain rfl := Except.ok.inj h
      exact grows_append hafter
    · exact absurd h (by simp)

/-- Appending records one after the other only adds, however far it comes. -/
theorem grows_appendAll (s : Store) (rs : List Record) : s.Grows (s.appendAll rs).store := by
  induction rs generalizing s with
  | nil => exact Grows.refl s
  | cons r rest ih =>
    rw [appendAll]
    cases h : s.append (.record r) with
    | error e => exact Grows.refl s
    | ok after => exact (grows_append_item h).trans (ih after)

theorem seed_store (s : Store) : s.seed.store = (s.appendAll Seed.records).store := by
  simp only [seed]
  cases (s.appendAll Seed.records).failure <;> rfl

/-- Loading the sample data only adds, also when it stops at an identifier that is taken. -/
theorem grows_seed (s : Store) : s.Grows s.seed.store := by
  rw [seed_store]
  exact grows_appendAll s Seed.records

end Store

namespace Command

theorem grows_run (c : Command) (b : Blog) : b.store.Grows (c.run b).blog.store :=
  grows_runEach b [c]

theorem grows_runAll (b : Blog) (cs : List Command) :
    ∀ o ∈ runAll b cs, b.store.Grows o.blog.store := by
  induction cs generalizing b with
  | nil => simp [runAll]
  | cons c rest ih =>
    intro o ho
    rcases List.mem_cons.1 ho with rfl | ho
    · exact grows_run c b
    · exact (grows_run c b).trans (ih _ o ho)

end Command

namespace Step

theorem asked_blog (b : Blog) (available : Bool) (q : Question) :
    (asked b available q).blog = b := by
  simp only [asked]
  split <;> rfl

theorem perform_run_blog (b : Blog) (available : Bool) (c : Command) :
    ((run available c).perform b).blog = (c.runWhen available b).blog := by
  simp only [perform]
  split <;> rfl

theorem grows_raced (b : Blog) (threads : Nat) (c : Command) :
    b.store.Grows (raced b threads c).blog.store := by
  simp only [raced]
  cases h : (Command.runAll b (List.replicate threads c)).getLast? with
  | none => exact Store.Grows.refl _
  | some o => exact Command.grows_runAll b _ o (List.mem_of_getLast? h)

mutual

/-- **Every step only appends**, whatever becomes of it. -/
theorem grows_perform (b : Blog) : ∀ step : Step, b.store.Grows (step.perform b).blog.store
  | append item => by
    simp only [perform]
    split
    · next happended => exact Store.grows_append_item happended
    · next happended => exact Store.grows_append_item happended
    · exact Store.Grows.refl _
  | seed => by
    simp only [perform]
    split <;> exact Store.grows_seed b.store
  | get _ _ => Store.Grows.refl _
  | all _ => Store.Grows.refl _
  | size _ => Store.Grows.refl _
  | nameOf _ => Store.Grows.refl _
  | counts => Store.Grows.refl _
  | dump => Store.Grows.refl _
  | select kind condition => by
    rw [perform]
    split <;> exact Store.Grows.refl _
  | holdsForSome kind condition => by
    rw [perform]
    split <;> exact Store.Grows.refl _
  | assign _ _ _ => Store.Grows.refl _
  | same _ _ => Store.Grows.refl _
  | race threads input => grows_raced b threads (.createUser input)
  | ask available q => by
    rw [perform, asked_blog]
    exact Store.Grows.refl _
  | relate available r => by
    rw [perform]
    cases r.question? b.store with
    | none => exact Store.Grows.refl _
    | some q =>
      simp only [asked_blog]
      exact Store.Grows.refl _
  | run available c => by
    rw [perform_run_blog]
    cases available with
    | false => exact Store.Grows.refl _
    | true => exact Command.grows_run c b
  | request available r => by
    have hblog : ((request available r).perform b).blog = (Use.request available r).perform b := by
      simp only [perform, Use.perform]
      cases GraphQL.execute GraphQL.blogSchema available b r <;> rfl
    rw [hblog]
    exact Blog.grows_run b [.request available r]
  | transaction steps => grows_performAll b steps

/-- Several steps only append, up to the first that fails. -/
theorem grows_performAll (b : Blog) :
    ∀ steps : List Step, b.store.Grows (performAll b steps).2.2.1.store
  | [] => Store.Grows.refl _
  | step :: rest => by
    have hfirst := grows_perform b step
    rw [performAll]
    cases (step.perform b).result with
    | error e => exact hfirst
    | ok v => exact hfirst.trans (grows_performAll (step.perform b).blog rest)

end

end Step

/-! ## Reads of a store that has grown -/

namespace Collection

variable {α : Type} {c c' : Collection α}

theorem get?_of_prefix [Identified α] (h : c.toList <+: c'.toList) {id : String} {a : α}
    (ha : c.get? id = some a) : c'.get? id = some a :=
  h.find?_eq_some ha

theorem filter_prefix (h : c.toList <+: c'.toList) (p : α → Bool) : c.filter p <+: c'.filter p :=
  h.filter p

end Collection

namespace Question

/-- The question is one for a list. -/
def asksForList : Question → Bool
  | users _ | posts _ | comments | postsOf _ | commentsBy _ | commentsOn _ => true
  | exampleUser | examplePost | authorOf _ | commenter _ | postOf _ => false

end Question

namespace Store

/-- What reads tell of two stores, one earlier and one later: all records of a kind, a record by its
identifier, and the answers to questions for lists. -/
structure ReadsGrow (s s' : Store) : Prop where
  records : ∀ kind, s.records kind <+: s'.records kind
  get? : ∀ kind id r, s.get? kind id = some r → s'.get? kind id = some r
  lists : ∀ q : Question, q.asksForList = true → ∃ rs rs',
    (q.answer (some s)).result = .ok (.many rs) ∧ (q.answer (some s')).result = .ok (.many rs') ∧
      rs <+: rs'

namespace Grows

variable {s s' : Store}

theorem records (h : s.Grows s') (kind : Kind) : s.records kind <+: s'.records kind := by
  cases kind with
  | user => exact h.users.map _
  | post => exact h.posts.map _
  | comment => exact h.comments.map _

theorem get? (h : s.Grows s') {kind : Kind} {id : String} {r : Record}
    (hr : s.get? kind id = some r) : s'.get? kind id = some r := by
  cases kind with
  | user =>
    obtain ⟨u, hu, rfl⟩ := Option.map_eq_some_iff.1 hr
    exact Option.map_eq_some_iff.2 ⟨u, Collection.get?_of_prefix h.users hu, rfl⟩
  | post =>
    obtain ⟨p, hp, rfl⟩ := Option.map_eq_some_iff.1 hr
    exact Option.map_eq_some_iff.2 ⟨p, Collection.get?_of_prefix h.posts hp, rfl⟩
  | comment =>
    obtain ⟨c, hc, rfl⟩ := Option.map_eq_some_iff.1 hr
    exact Option.map_eq_some_iff.2 ⟨c, Collection.get?_of_prefix h.comments hc, rfl⟩

theorem searchUsers (h : s.Grows s') (query : Option String) :
    s.searchUsers query <+: s'.searchUsers query := by
  rw [Store.searchUsers, Store.searchUsers]
  cases searchText query with
  | none => exact h.users
  | some q => exact Collection.filter_prefix h.users _

theorem searchPosts (h : s.Grows s') (query : Option String) :
    s.searchPosts query <+: s'.searchPosts query := by
  rw [Store.searchPosts, Store.searchPosts]
  cases searchText query with
  | none => exact h.posts
  | some q => exact Collection.filter_prefix h.posts _

/-- A list that was read is the beginning of the list that is read later. -/
theorem lists (h : s.Grows s') {q : Question} (hq : q.asksForList = true) :
    ∃ rs rs', (q.answer (some s)).result = .ok (.many rs) ∧
      (q.answer (some s')).result = .ok (.many rs') ∧ rs <+: rs' := by
  cases q with
  | users query => exact ⟨_, _, rfl, rfl, (h.searchUsers query).map _⟩
  | posts query => exact ⟨_, _, rfl, rfl, (h.searchPosts query).map _⟩
  | comments => exact ⟨_, _, rfl, rfl, h.comments.map _⟩
  | postsOf u => exact ⟨_, _, rfl, rfl, (Collection.filter_prefix h.posts _).map _⟩
  | commentsBy u => exact ⟨_, _, rfl, rfl, (Collection.filter_prefix h.comments _).map _⟩
  | commentsOn p => exact ⟨_, _, rfl, rfl, (Collection.filter_prefix h.comments _).map _⟩
  | exampleUser | examplePost | authorOf _ | commenter _ | postOf _ =>
    exact absurd hq Bool.false_ne_true

/-- **Reads of a store that has grown.** -/
theorem reads (h : s.Grows s') : s.ReadsGrow s' :=
  ⟨h.records, fun _ _ _ => h.get?, fun _ => h.lists⟩

end Grows
end Store

/-! ## Points of a session -/

namespace Step

/-- The blog after steps one after the other, whatever becomes of each. -/
def runEach (b : Blog) (steps : List Step) : Blog :=
  steps.foldl (fun b step => (step.perform b).blog) b

/-- The stores at the points of a session: before its first step and after each. -/
def stores (b : Blog) (steps : List Step) : List Store :=
  b.store :: (performEach b steps).map (·.blog.store)

theorem grows_performEach (b : Blog) (steps : List Step) :
    ∀ o ∈ performEach b steps, b.store.Grows o.blog.store := by
  induction steps generalizing b with
  | nil => simp [performEach]
  | cons step rest ih =>
    intro o ho
    rcases List.mem_cons.1 ho with rfl | ho
    · exact grows_perform b step
    · exact (grows_perform b step).trans (ih _ o ho)

/-- **Reads only grow.**  Take any two points of any session on any blog, whichever of its steps
succeed.  The records of every kind at the earlier point are the first of those at the later one; a
record that was found by its identifier is found again, unchanged; and every question for a list,
with any search text and about any record, brings a list that begins with what it brought before. -/
theorem reads_only_grow (b : Blog) (steps : List Step) :
    (stores b steps).Pairwise Store.ReadsGrow := by
  induction steps generalizing b with
  | nil => exact List.pairwise_singleton ..
  | cons step rest ih =>
    refine List.pairwise_cons.2 ⟨?_, ih (step.perform b).blog⟩
    intro s hs
    obtain ⟨o, ho, rfl⟩ := List.mem_map.1 hs
    exact (grows_performEach b (step :: rest) o ho).reads

/-- A user whose identifier is that of a sample user, the sample data, a user with a taken email, a
value that is no record, and a post. -/
def interruptedSteps : List Step := [
  .append (.record (.user ⟨"2", "Ann", "ann@x.org", none⟩)),
  .seed,
  .run true (.createUser ⟨"Bob", "ann@x.org", none⟩),
  .append (.other "dict"),
  .run true (.createPost ⟨"Notes", "", true, "1"⟩)]

/-- The sample data is loaded up to the user whose identifier is taken. -/
example : (stores .empty interruptedSteps).map Store.counts =
    [⟨0, 0, 0⟩, ⟨1, 0, 0⟩, ⟨2, 0, 0⟩, ⟨2, 0, 0⟩, ⟨2, 0, 0⟩, ⟨2, 1, 0⟩] := by
  decide +kernel

end Step
end BlogGraph
