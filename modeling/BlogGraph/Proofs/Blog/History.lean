import BlogGraph.Blog.Question
import BlogGraph.GraphQL.Response
import BlogGraph.Proofs.Store.Integrity

/-!
# Histories of a blog

A blog is used by commands given directly and by requests, in any order and whatever becomes of
each.  All that a request can do to a blog is to carry out commands (`exists_commands_of_request`),
so a whole history comes down to a run of commands (`exists_commands`), and what one accepted
command keeps is kept by every history.

Main statements:

* `linked_run`, `distinct_run`, `gated_run`: what holds of a fresh blog and is kept by commands;
* `references_whole_and_comments_gated`: references find their records, new comments are on
  published posts, and the comments on an unpublished post never change.
-/

namespace BlogGraph

/-! ## Commands one after the other -/

namespace Command

/-- **The three ends of a command**: it is refused, its identifier is taken, or its record is
stored. -/
theorem run_eq (c : Command) (b : Blog) :
    (∃ refusal event, c.refusal? b.store = some (refusal, event) ∧
      c.run b = ⟨.error (.refused refusal), b, [event]⟩) ∨
    c.refusal? b.store = none ∧ ∃ r, r = c.record (b.ids (b.made + 1)) ∧
      ((b.store.append? r = none ∧ c.run b =
          ⟨.error (.append (.duplicate r.kind r.id)), { b with made := b.made + 1 }, []⟩) ∨
        ∃ store, b.store.append? r = some store ∧ c.run b =
          ⟨.ok r, { b with store, made := b.made + 1 },
            [.recordAppended r.kind r.id, c.created (b.ids (b.made + 1))]⟩) := by
  cases hc : c.refusal? b.store with
  | some refused =>
    obtain ⟨refusal, event⟩ := refused
    exact Or.inl ⟨refusal, event, rfl, by simp only [run, hc]⟩
  | none =>
    refine Or.inr ⟨rfl, _, rfl, ?_⟩
    cases happend : b.store.append? (c.record (b.ids (b.made + 1))) with
    | none => exact Or.inl ⟨rfl, by simp only [run, hc, Store.append, happend]⟩
    | some store => exact Or.inr ⟨store, rfl, by simp only [run, hc, Store.append, happend]⟩

/-- All that a command can do to a store: nothing, or to append its record when it is accepted. -/
theorem run_store (c : Command) (b : Blog) :
    (c.run b).blog.store = b.store ∨ (c.refusal? b.store = none ∧
      b.store.append? (c.record (b.ids (b.made + 1))) = some (c.run b).blog.store) := by
  obtain ⟨_, _, -, hrun⟩ | ⟨hc, _, rfl, ⟨-, hrun⟩ | ⟨store, happend, hrun⟩⟩ := run_eq c b
  · exact Or.inl (by rw [hrun])
  · exact Or.inl (by rw [hrun])
  · exact Or.inr ⟨hc, by rw [hrun, happend]⟩

@[simp] theorem run_ids (c : Command) (b : Blog) : (c.run b).blog.ids = b.ids := by
  obtain ⟨_, _, -, hrun⟩ | ⟨-, _, -, ⟨-, hrun⟩ | ⟨_, -, hrun⟩⟩ := run_eq c b <;> rw [hrun]

/-- The blog after commands one after the other, whatever becomes of each. -/
def runEach (b : Blog) (cs : List Command) : Blog := cs.foldl (fun b c => (c.run b).blog) b

@[simp] theorem runEach_nil (b : Blog) : runEach b [] = b := rfl

@[simp] theorem runEach_cons (b : Blog) (c : Command) (cs : List Command) :
    runEach b (c :: cs) = runEach (c.run b).blog cs := rfl

theorem runEach_append (b : Blog) (cs ds : List Command) :
    runEach b (cs ++ ds) = runEach (runEach b cs) ds :=
  List.foldl_append ..

/-- What accepted commands keep, with the identifiers that a blog makes, runs of these commands
keep. -/
theorem runEach_keeps_made (P : Store → Prop) (cs : List Command) (b : Blog)
    (hP : ∀ c ∈ cs, ∀ (n : Nat) (s s' : Store), P s → c.refusal? s = none →
      s.append? (c.record (b.ids n)) = some s' → P s')
    (hb : P b.store) : P (runEach b cs).store := by
  induction cs generalizing b with
  | nil => exact hb
  | cons c cs ih =>
    obtain ⟨hc, hcs⟩ := List.forall_mem_cons.1 hP
    refine ih _ (by rwa [run_ids]) ?_
    rcases run_store c b with hs | ⟨haccepted, hs⟩
    · rw [hs]
      exact hb
    · exact hc _ _ _ hb haccepted hs

/-- What accepted commands keep, whatever identifiers are made, runs of these commands keep. -/
theorem runEach_keeps (P : Store → Prop) (cs : List Command)
    (hP : ∀ c ∈ cs, ∀ (id : String) (s s' : Store), P s → c.refusal? s = none →
      s.append? (c.record id) = some s' → P s')
    (b : Blog) (hb : P b.store) : P (runEach b cs).store :=
  runEach_keeps_made P cs b (fun c hc n => hP c hc (b.ids n)) hb

theorem grows_runEach (b : Blog) (cs : List Command) : b.store.Grows (runEach b cs).store :=
  runEach_keeps b.store.Grows cs (fun _ _ _ _ _ hg _ h => hg.trans (Store.grows_append h)) b
    (Store.Grows.refl _)

end Command

/-! ## Requests carry out commands -/

namespace GraphQL

open Command

@[simp] theorem MutationState.complete_blog (st : MutationState) (key : String)
    (c : Completed Json) : (st.complete key c).blog = st.blog := by
  rw [MutationState.complete]
  cases (c.start 0).result <;> rfl

/-- A planned field stands for a command. -/
def PlannedField.Calls (f : PlannedField) (command : Command) : Prop :=
  ∃ args, f.arguments = .ok args ∧ Command.ofField? f.name args = some command

theorem runField_blog (s : Schema) (available : Bool) (st : MutationState) (f : PlannedField) :
    ∃ cs, (runField s available st f).blog = runEach st.blog cs ∧ ∀ c ∈ cs, f.Calls c := by
  obtain ⟨key, name, type, positions, arguments, fault, inner⟩ := f
  simp only [runField]
  split
  · exact ⟨[], rfl, by simp⟩
  · next args =>
    split
    · exact ⟨[], by rw [MutationState.complete_blog]; rfl, by simp⟩
    · next command hcommand =>
      cases available with
      | false =>
        refine ⟨[], ?_, by simp⟩
        simp [runWhen]
      | true =>
        refine ⟨[command], ?_, List.forall_mem_singleton.2 ⟨args, rfl, hcommand⟩⟩
        simp only [runWhen, if_true]
        split
        · rfl
        · rw [MutationState.complete_blog]
          rfl

theorem runFields_blog (s : Schema) (available : Bool) (st : MutationState) (plan : Plan) :
    ∃ cs, (runFields s available st plan).blog = runEach st.blog cs ∧
      ∀ c ∈ cs, ∃ f ∈ plan, f.Calls c := by
  induction plan generalizing st with
  | nil => exact ⟨[], rfl, by simp⟩
  | cons f rest ih =>
    obtain ⟨cs, hcs, hcalls⟩ := runField_blog s available st f
    have hfirst : ∀ c ∈ cs, ∃ g ∈ f :: rest, g.Calls c := fun c hc =>
      ⟨f, List.mem_cons_self, hcalls c hc⟩
    rw [runFields]
    split
    · exact ⟨cs, hcs, hfirst⟩
    · obtain ⟨ds, hds, hrest⟩ := ih (runField s available st f)
      refine ⟨cs ++ ds, by rw [hds, hcs, runEach_append], fun c hc => ?_⟩
      rcases List.mem_append.1 hc with hc | hc
      · exact hfirst c hc
      · obtain ⟨g, hg, hcall⟩ := hrest c hc
        exact ⟨g, List.mem_cons_of_mem _ hg, hcall⟩

/-- What a prepared request was made of. -/
theorem Request.parse_of_prepare {r : Request} {p : Prepared} (h : r.prepare = .ok (.ok p)) :
    Document.parse r.query = .ok p.document ∧
      p.document.operation? r.operationName = some p.operation := by
  rw [prepare] at h
  split at h
  · exact absurd h (by simp)
  · split at h
    · exact absurd h (by simp)
    · next d hparse =>
      split at h
      · exact absurd h (by simp)
      · next o ho =>
        obtain rfl := Except.ok.inj (Except.ok.inj h)
        exact ⟨hparse, ho⟩

/-- A valid document with values for its variables stands for a command: it plans a field for it. -/
def CarriesOut (s : Schema) (d : Document) (given : Named Json) (o : Operation)
    (command : Command) : Prop :=
  ∃ vars plan, d.validate s = [] ∧ variableValues s given o.declarations = .ok vars ∧
    PlanContext.plan ⟨s, d, vars⟩ o = .ok plan ∧ o.kind = .mutation ∧ ∃ f ∈ plan, f.Calls command

/-- The blog after an operation of a document is the blog after some commands that it stands for. -/
theorem executeDocument_blog (s : Schema) (text : List Char) (d : Document) (given : Named Json)
    (o : Operation) (available : Bool) (b : Blog) :
    ∃ cs, (executeDocument s text d given o available b).blog = runEach b cs ∧
      ∀ c ∈ cs, CarriesOut s d given o c := by
  rw [executeDocument]
  split
  · next hvalid =>
    rw [executeOperation]
    split
    · exact ⟨[], rfl, by simp⟩
    · next vars hvars =>
      simp only
      split
      · exact ⟨[], rfl, by simp⟩
      · next plan hplan =>
        split
        · next hkind =>
          obtain ⟨cs, hcs, hcalls⟩ := runFields_blog s available (.initial b) plan
          refine ⟨cs, ?_, fun c hc => ⟨vars, plan, hvalid, hvars, hplan, hkind, hcalls c hc⟩⟩
          rw [Executed.sorted, MutationState.executed]
          split <;> exact hcs
        · exact ⟨[], rfl, by simp⟩
  · exact ⟨[], rfl, by simp⟩

end GraphQL

/-! ## Histories -/

/-- One use of a blog: a command given directly, or a request with a document. -/
inductive Use where
  | command (available : Bool) (command : Command)
  | request (available : Bool) (request : GraphQL.Request)

namespace Use

/-- The blog after a use. -/
def perform (b : Blog) : Use → Blog
  | command available c => (c.runWhen available b).blog
  | request available r =>
    match GraphQL.execute GraphQL.blogSchema available b r with
    | .ok done => done.blog
    | .error _ => b

end Use

namespace Blog

/-- The blog after uses one after the other, whatever becomes of each. -/
def run (b : Blog) (uses : List Use) : Blog := uses.foldl Use.perform b

theorem run_append (b : Blog) (us vs : List Use) : b.run (us ++ vs) = (b.run us).run vs :=
  List.foldl_append ..

/-- All that a request can do to a blog is to carry out commands that its document stands for. -/
theorem exists_commands_of_request (b : Blog) (available : Bool) (r : GraphQL.Request) :
    ∃ cs, (Use.request available r).perform b = Command.runEach b cs ∧
      ∀ c ∈ cs, ∃ p, r.prepare = .ok (.ok p) ∧
        GraphQL.CarriesOut GraphQL.blogSchema p.document r.given p.operation c := by
  rw [Use.perform, GraphQL.execute]
  cases r.prepare with
  | error f => exact ⟨[], rfl, by simp⟩
  | ok prepared =>
    cases prepared with
    | error response => exact ⟨[], rfl, by simp⟩
    | ok p =>
      obtain ⟨cs, hcs, hcarries⟩ := GraphQL.executeDocument_blog GraphQL.blogSchema r.query.toList
        p.document r.given p.operation available b
      exact ⟨cs, hcs, fun c hc => ⟨p, rfl, hcarries c hc⟩⟩

theorem exists_commands_of_use (b : Blog) (u : Use) :
    ∃ cs, u.perform b = Command.runEach b cs := by
  cases u with
  | command available c =>
    cases available with
    | false => exact ⟨[], rfl⟩
    | true => exact ⟨[c], rfl⟩
  | request available r =>
    obtain ⟨cs, hcs, -⟩ := exists_commands_of_request b available r
    exact ⟨cs, hcs⟩

/-- Every history comes down to commands one after the other. -/
theorem exists_commands (b : Blog) (uses : List Use) :
    ∃ cs, b.run uses = Command.runEach b cs := by
  induction uses generalizing b with
  | nil => exact ⟨[], rfl⟩
  | cons u us ih =>
    obtain ⟨cs, hcs⟩ := exists_commands_of_use b u
    obtain ⟨ds, hds⟩ := ih (u.perform b)
    refine ⟨cs ++ ds, ?_⟩
    rw [Command.runEach_append, ← hcs]
    exact hds

/-- A blog before its first use: without records, or with the sample data. -/
def IsFresh (b : Blog) : Prop := b.store = .empty ∨ b.store = .sample

variable {b : Blog}

theorem grows_run (b : Blog) (uses : List Use) : b.store.Grows (b.run uses).store := by
  obtain ⟨cs, hcs⟩ := exists_commands b uses
  rw [hcs]
  exact Command.grows_runEach b cs

theorem linked_run (hb : b.IsFresh) (uses : List Use) : (b.run uses).store.Linked := by
  obtain ⟨cs, hcs⟩ := exists_commands b uses
  rw [hcs]
  refine Command.runEach_keeps Store.Linked cs (fun _ _ _ _ _ hs => Store.linked_append hs) b ?_
  rcases hb with hb | hb <;> rw [hb]
  · exact Store.linked_empty
  · exact Store.linked_sample

theorem distinct_run (hb : b.IsFresh) (uses : List Use) : (b.run uses).store.Distinct := by
  obtain ⟨cs, hcs⟩ := exists_commands b uses
  rw [hcs]
  refine Command.runEach_keeps Store.Distinct cs
    (fun _ _ _ _ _ hs _ => Store.distinct_append hs) b ?_
  rcases hb with hb | hb <;> rw [hb]
  · exact Store.distinct_empty
  · exact Store.distinct_sample

/-- Whatever the blog was like at the start, comments that come later are on published posts. -/
theorem gated_run (b : Blog) (uses : List Use) :
    Store.Gated b.store.comments.toList (b.run uses).store := by
  obtain ⟨cs, hcs⟩ := exists_commands b uses
  rw [hcs]
  exact Command.runEach_keeps (Store.Gated b.store.comments.toList) cs
    (fun _ _ _ _ _ hs => Store.gated_append hs) b (Store.gated_start b.store)

/-- The comments on a stored unpublished post stay as they are. -/
theorem commentsOn_run (hd : b.store.Distinct) {p : Post} (hp : p ∈ b.store.posts.toList)
    (hpub : p.published = false) (uses : List Use) :
    (b.run uses).store.commentsOn p = b.store.commentsOn p := by
  obtain ⟨cs, hcs⟩ := exists_commands b uses
  rw [hcs]
  have key := Command.runEach_keeps
    (fun s => s.Distinct ∧ p ∈ s.posts.toList ∧ s.commentsOn p = b.store.commentsOn p) cs
    (fun c _ id s s' h hc ha => ⟨Store.distinct_append h.1 ha,
      (Store.grows_append ha).posts.subset h.2.1,
      (Store.commentsOn_append h.1 hc ha h.2.1 hpub).trans h.2.2⟩)
    b ⟨hd, hp, rfl⟩
  exact key.2.2

/-- **References and the gate for comments.**  After any history of a fresh blog, with any source
of identifiers, the author of a post or a comment is a stored user, a comment is on a stored post,
and every comment that was not among the samples at the start is on a published one.  From then on,
the answer to the question for the comments on a stored unpublished post never changes. -/
theorem references_whole_and_comments_gated (hb : b.IsFresh) (uses : List Use) :
    (∀ p ∈ (b.run uses).store.posts.toList,
      ∃ u ∈ (b.run uses).store.users.toList, u.id = p.author) ∧
    (∀ m ∈ (b.run uses).store.comments.toList,
      ∃ u ∈ (b.run uses).store.users.toList, u.id = m.author) ∧
    (∀ m ∈ (b.run uses).store.comments.toList,
      ∃ p ∈ (b.run uses).store.posts.toList, p.id = m.post) ∧
    (∀ m ∈ (b.run uses).store.comments.toList, m ∉ b.store.comments.toList →
      ∃ p ∈ (b.run uses).store.posts.toList, p.id = m.post ∧ p.published = true) ∧
    ∀ p ∈ (b.run uses).store.posts.toList, p.published = false → ∀ later : List Use,
      ((Question.commentsOn p).answer (some (b.run (uses ++ later)).store)).result =
        ((Question.commentsOn p).answer (some (b.run uses).store)).result := by
  have hl := linked_run hb uses
  refine ⟨hl.postAuthor, hl.commentAuthor, hl.commentPost, gated_run b uses, ?_⟩
  intro p hp hpub later
  have hsame := commentsOn_run (distinct_run hb uses) hp hpub later
  rw [run_append]
  simp only [Question.answer, Question.aboutExamples, Question.answerFrom, hsame]

/-- A refused comment, a post by nobody and a new post, on the sample data. -/
def sampleUses : List Use := [
  .command true (.createComment ⟨"Too early", "1", "12"⟩),
  .command true (.createPost ⟨"Lost", "", true, "9"⟩),
  .command true (.createPost ⟨"Draft", "", false, "3"⟩)]

theorem references_whole_and_comments_gated_sample :
    sample.IsFresh ∧
    ⟨"12", "Angular 101", "", false, "2"⟩ ∈ (sample.run sampleUses).store.posts.toList ∧
    (sample.run sampleUses).store.counts = ⟨3, 4, 4⟩ ∧
    ∀ later : List Use,
      ((Question.commentsOn ⟨"12", "Angular 101", "", false, "2"⟩).answer
          (some (sample.run (sampleUses ++ later)).store)).result =
        .ok (.many [.comment ⟨"105",
          "But life still goes on...I want to break free...", "3", "12"⟩]) := by
  have hp : ⟨"12", "Angular 101", "", false, "2"⟩ ∈ (sample.run sampleUses).store.posts.toList := by
    decide +kernel
  refine ⟨Or.inr rfl, hp, by decide +kernel, ?_⟩
  intro later
  rw [(references_whole_and_comments_gated (Or.inr rfl) sampleUses).2.2.2.2 _ hp rfl later]
  decide +kernel

end Blog
end BlogGraph
