import BlogGraph.Proofs.Blog.Growth
import Mathlib.Data.List.Forall2
import Mathlib.Logic.Equiv.Basic

/-!
# What the log tells of people

The log of the blog tells of identifiers, references, titles and whether a post is open, but not of
names, ages, emails and what people write.  That is not for want of looking at them: a new user is
refused when somebody has the email, and the entry then names who has it.  But of emails only their
being equal counts, so that a renaming of all emails that keeps different ones apart goes unnoticed.

Two calls are alike when they differ in such data only, with emails renamed.  Alike calls keep the
stores of two runs alike, record by record (`Store.Alike`), and on alike stores they report the same
events and fail alike.

Main statements:

* `Command.Alike.run`, `Question.Alike.answer`: alike calls on alike stores;
* `Step.Alike.perform`, `Step.alike_performEach`: one call, and any number of them;
* `Step.personal_data_stays_out_of_the_log`: two runs that start from the same fresh blog.
-/

namespace BlogGraph

/-! ## Records, stores and calls that are alike -/

/-- Two users that differ in name and age only, when emails are renamed. -/
structure User.Alike (φ : String → String) (u u' : User) : Prop where
  id : u'.id = u.id
  email : u'.email = φ u.email

/-- Two posts that differ in their bodies only. -/
structure Post.Alike (p p' : Post) : Prop where
  id : p'.id = p.id
  title : p'.title = p.title
  published : p'.published = p.published
  author : p'.author = p.author

/-- Two comments that differ in their texts only. -/
structure Comment.Alike (c c' : Comment) : Prop where
  id : c'.id = c.id
  author : c'.author = c.author
  post : c'.post = c.post

/-- Two records of one kind that are alike. -/
inductive Record.Alike (φ : String → String) : Record → Record → Prop
  | user {u u' : User} (h : u.Alike φ u') : Alike φ (.user u) (.user u')
  | post {p p' : Post} (h : p.Alike p') : Alike φ (.post p) (.post p')
  | comment {c c' : Comment} (h : c.Alike c') : Alike φ (.comment c) (.comment c')

/-- Two stores whose records are alike, one by one. -/
structure Store.Alike (φ : String → String) (s s' : Store) : Prop where
  users : List.Forall₂ (User.Alike φ) s.users.toList s'.users.toList
  posts : List.Forall₂ Post.Alike s.posts.toList s'.posts.toList
  comments : List.Forall₂ Comment.Alike s.comments.toList s'.comments.toList

/-- Two blogs with alike stores that make the same identifiers from now on. -/
structure Blog.Alike (φ : String → String) (b b' : Blog) : Prop where
  store : b.store.Alike φ b'.store
  made : b'.made = b.made
  ids : b'.ids = b.ids

/-- Two commands that differ in names, ages, bodies and texts only, when emails are renamed. -/
inductive Command.Alike (φ : String → String) : Command → Command → Prop
  | createUser {input input' : NewUser} (email : input'.email = φ input.email) :
    Alike φ (.createUser input) (.createUser input')
  | createPost {input input' : NewPost} (title : input'.title = input.title)
    (published : input'.published = input.published) (author : input'.author = input.author) :
    Alike φ (.createPost input) (.createPost input')
  | createComment {input input' : NewComment} (author : input'.author = input.author)
    (post : input'.post = input.post) :
    Alike φ (.createComment input) (.createComment input')

/-- Two questions that agree on identifiers and references.  What is searched for may differ. -/
inductive Question.Alike : Question → Question → Prop
  | users (query query' : Option String) : Alike (.users query) (.users query')
  | posts (query query' : Option String) : Alike (.posts query) (.posts query')
  | comments : Alike .comments .comments
  | exampleUser : Alike .exampleUser .exampleUser
  | examplePost : Alike .examplePost .examplePost
  | postsOf {u u' : User} (id : u'.id = u.id) : Alike (.postsOf u) (.postsOf u')
  | commentsBy {u u' : User} (id : u'.id = u.id) : Alike (.commentsBy u) (.commentsBy u')
  | authorOf {p p' : Post} (id : p'.id = p.id) (author : p'.author = p.author) :
    Alike (.authorOf p) (.authorOf p')
  | commentsOn {p p' : Post} (id : p'.id = p.id) : Alike (.commentsOn p) (.commentsOn p')
  | commenter {c c' : Comment} (h : c.Alike c') : Alike (.commenter c) (.commenter c')
  | postOf {c c' : Comment} (h : c.Alike c') : Alike (.postOf c) (.postOf c')

/-- Two objects of a relation: the stored one with the same identifier, or two given ones that are
alike. -/
inductive Subject.Alike {α : Type} (R : α → α → Prop) : Subject α → Subject α → Prop
  | stored (id : String) : Alike R (.stored id) (.stored id)
  | given {a a' : α} (h : R a a') : Alike R (.given a) (.given a')

/-- The same relation, asked of objects that are alike. -/
inductive Relation.Alike (φ : String → String) : Relation → Relation → Prop
  | postsOf {u u' : Subject User} (h : u.Alike (User.Alike φ) u') :
    Alike φ (.postsOf u) (.postsOf u')
  | commentsBy {u u' : Subject User} (h : u.Alike (User.Alike φ) u') :
    Alike φ (.commentsBy u) (.commentsBy u')
  | authorOf {p p' : Subject Post} (h : p.Alike Post.Alike p') :
    Alike φ (.authorOf p) (.authorOf p')
  | commentsOn {p p' : Subject Post} (h : p.Alike Post.Alike p') :
    Alike φ (.commentsOn p) (.commentsOn p')
  | commenter {c c' : Subject Comment} (h : c.Alike Comment.Alike c') :
    Alike φ (.commenter c) (.commenter c')
  | postOf {c c' : Subject Comment} (h : c.Alike Comment.Alike c') :
    Alike φ (.postOf c) (.postOf c')

/-- Two calls that are alike: questions, relations of an object, or commands. -/
inductive Step.Alike (φ : String → String) : Step → Step → Prop
  | ask (available : Bool) {q q' : Question} (h : q.Alike q') :
    Alike φ (.ask available q) (.ask available q')
  | relate (available : Bool) {r r' : Relation} (h : r.Alike φ r') :
    Alike φ (.relate available r) (.relate available r')
  | run (available : Bool) {c c' : Command} (h : c.Alike φ c') :
    Alike φ (.run available c) (.run available c')

/-- The failure that a result is, if it is one. -/
def failureOf? {ε α : Type} : Except ε α → Option ε
  | .ok _ => none
  | .error e => some e

/-! ## Looking up in alike stores -/

theorem rel_head? {α : Type} {R : α → α → Prop} {l l' : List α} (h : List.Forall₂ R l l') :
    Option.Rel R l.head? l'.head? := by
  cases h with
  | nil => exact .none
  | cons ha _ => exact .some ha

namespace Collection

variable {α : Type} [Identified α] {R : α → α → Prop} {c c' : Collection α}

/-- In collections whose members are alike and have the same identifiers, what is found is alike. -/
theorem alike_get? (hR : ∀ a a', R a a' → Identified.ident a' = Identified.ident a)
    (h : List.Forall₂ R c.toList c'.toList) (id : String) :
    Option.Rel R (c.get? id) (c'.get? id) := by
  obtain ⟨l⟩ := c
  obtain ⟨l'⟩ := c'
  dsimp only at h
  simp only [get?]
  induction h with
  | nil => exact .none
  | @cons a a' _ _ haa' _ ih =>
    rw [List.find?_cons, List.find?_cons, hR a a' haa']
    cases decide (Identified.ident a = id) with
    | true => exact .some haa'
    | false => exact ih

theorem alike_has (hR : ∀ a a', R a a' → Identified.ident a' = Identified.ident a)
    (h : List.Forall₂ R c.toList c'.toList) (id : String) : c'.has id = c.has id := by
  have hget := alike_get? hR h id
  rw [has, has]
  generalize c.get? id = found at hget ⊢
  generalize c'.get? id = found' at hget ⊢
  cases hget <;> rfl

end Collection

theorem User.Alike.ident {φ : String → String} (u u' : User) (h : u.Alike φ u') :
    Identified.ident u' = Identified.ident u := h.id

theorem Post.Alike.ident (p p' : Post) (h : p.Alike p') :
    Identified.ident p' = Identified.ident p := h.id

theorem Comment.Alike.ident (c c' : Comment) (h : c.Alike c') :
    Identified.ident c' = Identified.ident c := h.id

namespace Store.Alike

variable {φ : String → String} {s s' : Store}

theorem user? (h : s.Alike φ s') (id : String) :
    Option.Rel (User.Alike φ) (s.users.get? id) (s'.users.get? id) :=
  Collection.alike_get? User.Alike.ident h.users id

theorem post? (h : s.Alike φ s') (id : String) :
    Option.Rel Post.Alike (s.posts.get? id) (s'.posts.get? id) :=
  Collection.alike_get? Post.Alike.ident h.posts id

theorem comment? (h : s.Alike φ s') (id : String) :
    Option.Rel Comment.Alike (s.comments.get? id) (s'.comments.get? id) :=
  Collection.alike_get? Comment.Alike.ident h.comments id

theorem hasUser (h : s.Alike φ s') (id : String) : s'.users.has id = s.users.has id :=
  Collection.alike_has User.Alike.ident h.users id

theorem isOpen (h : s.Alike φ s') (id : String) :
    Command.isOpen s' id = Command.isOpen s id := by
  have hpost := h.post? id
  rw [Command.isOpen, Command.isOpen]
  generalize s.posts.get? id = found at hpost ⊢
  generalize s'.posts.get? id = found' at hpost ⊢
  cases hpost with
  | none => rfl
  | some hp => exact hp.published

/-- Who has an email in one store has the renamed one in the other, because a renaming keeps
different emails apart. -/
theorem holder? (hφ : Function.Injective φ) (h : s.Alike φ s') (email : String) :
    Option.Rel (User.Alike φ) (Command.holder? s email) (Command.holder? s' (φ email)) := by
  have hfilter : List.Forall₂ (User.Alike φ) (s.users.filter fun u => u.email = email)
      (s'.users.filter fun u => u.email = φ email) := by
    refine List.rel_filter ?_ h.users
    intro u u' hu
    simp only [decide_eq_true_eq, hu.email]
    exact hφ.eq_iff.symm
  exact rel_head? hfilter

theorem append? (h : s.Alike φ s') {r r' : Record} (hr : r.Alike φ r') :
    Option.Rel (Store.Alike φ) (s.append? r) (s'.append? r') := by
  cases hr with
  | @user u u' hu =>
    have hhas := Collection.alike_has User.Alike.ident h.users u.id
    simp only [Store.append?, Collection.add?, Identified.ident, hu.id, hhas]
    cases s.users.has u.id with
    | true => exact .none
    | false => exact .some ⟨List.rel_append h.users (.cons hu .nil), h.posts, h.comments⟩
  | @post p p' hp =>
    have hhas := Collection.alike_has Post.Alike.ident h.posts p.id
    simp only [Store.append?, Collection.add?, Identified.ident, hp.id, hhas]
    cases s.posts.has p.id with
    | true => exact .none
    | false => exact .some ⟨h.users, List.rel_append h.posts (.cons hp .nil), h.comments⟩
  | @comment c c' hc =>
    have hhas := Collection.alike_has Comment.Alike.ident h.comments c.id
    simp only [Store.append?, Collection.add?, Identified.ident, hc.id, hhas]
    cases s.comments.has c.id with
    | true => exact .none
    | false => exact .some ⟨h.users, h.posts, List.rel_append h.comments (.cons hc .nil)⟩

end Store.Alike

/-! ## Alike commands -/

theorem Record.Alike.kind {φ : String → String} {r r' : Record} (h : r.Alike φ r') :
    r'.kind = r.kind := by
  cases h <;> rfl

theorem Record.Alike.id {φ : String → String} {r r' : Record} (h : r.Alike φ r') :
    r'.id = r.id := by
  cases h with
  | user hu => exact hu.id
  | post hp => exact hp.id
  | comment hc => exact hc.id

namespace Command.Alike

variable {φ : String → String} {c c' : Command} {s s' : Store} {b b' : Blog}

/-- Alike commands make alike records. -/
theorem record (h : c.Alike φ c') (id : String) : (c.record id).Alike φ (c'.record id) := by
  cases h with
  | createUser email => exact .user ⟨rfl, email⟩
  | createPost title published author => exact .post ⟨rfl, title, published, author⟩
  | createComment author post => exact .comment ⟨rfl, author, post⟩

theorem created (h : c.Alike φ c') (id : String) : c'.created id = c.created id := by
  cases h with
  | createUser email => rfl
  | createPost title published author => simp only [Command.created, title, author]
  | createComment author post => simp only [Command.created, author, post]

/-- Alike commands are refused alike, and the same is reported then. -/
theorem refusal? (hφ : Function.Injective φ) (h : c.Alike φ c') (hs : s.Alike φ s') :
    c'.refusal? s' = c.refusal? s := by
  cases h with
  | @createUser input input' email =>
    have hholder := hs.holder? hφ input.email
    rw [Command.refusal?, Command.refusal?, email]
    generalize Command.holder? s input.email = holder at hholder ⊢
    generalize Command.holder? s' (φ input.email) = holder' at hholder ⊢
    cases hholder with
    | none => rfl
    | some hu => simp only [Option.map_some, hu.id]
  | createPost title published author =>
    simp only [Command.refusal?, author, hs.hasUser]
  | createComment author post =>
    simp only [Command.refusal?, author, post, hs.hasUser, hs.isOpen]

/-- **Alike commands on alike blogs** report the same events, fail alike and leave alike blogs. -/
theorem run (hφ : Function.Injective φ) (h : c.Alike φ c') (hb : b.Alike φ b') :
    (c'.run b').events = (c.run b).events ∧
      failureOf? (c'.run b').result = failureOf? (c.run b).result ∧
      (c.run b).blog.Alike φ (c'.run b').blog := by
  have hrefusal := h.refusal? hφ hb.store
  rw [Command.run, Command.run, hrefusal]
  cases c.refusal? b.store with
  | some refused => exact ⟨rfl, rfl, hb⟩
  | none =>
    have hid : b'.ids (b'.made + 1) = b.ids (b.made + 1) := by rw [hb.ids, hb.made]
    have hrecord := h.record (b.ids (b.made + 1))
    have happend := hb.store.append? hrecord
    have hmade : b'.made + 1 = b.made + 1 := by rw [hb.made]
    simp only [hid, Store.append]
    generalize b.store.append? (c.record (b.ids (b.made + 1))) = after at happend ⊢
    generalize b'.store.append? (c'.record (b.ids (b.made + 1))) = after' at happend ⊢
    cases happend with
    | none =>
      refine ⟨rfl, ?_, hb.store, hmade, hb.ids⟩
      simp only [failureOf?, hrecord.kind, hrecord.id]
    | some hafter =>
      refine ⟨?_, rfl, hafter, hmade, hb.ids⟩
      simp only [hrecord.kind, hrecord.id, h.created]

end Command.Alike

/-! ## Alike questions -/

/-- A reference dangles in both stores or in neither. -/
theorem Answer.alike_ofReference {α : Type} {R : α → α → Prop} {found found' : Option α}
    (h : Option.Rel R found found') (f : α → Record) (reference : Dangling) (event : Event) :
    (Answer.ofReference (found'.map f) reference event).events =
        (Answer.ofReference (found.map f) reference event).events ∧
      failureOf? (Answer.ofReference (found'.map f) reference event).result =
        failureOf? (Answer.ofReference (found.map f) reference event).result := by
  cases h with
  | none => exact ⟨rfl, rfl⟩
  | some => exact ⟨rfl, rfl⟩

namespace Question.Alike

variable {φ : String → String} {q q' : Question} {s s' : Store}

/-- What is asked about the examples alone has one answer. -/
theorem aboutExamples (h : q.Alike q') : q'.aboutExamples = q.aboutExamples := by
  cases h with
  | authorOf id author => simp only [Question.aboutExamples, id]
  | _ => rfl

theorem answerFrom (h : q.Alike q') (hs : s.Alike φ s') :
    (q'.answerFrom s').events = (q.answerFrom s).events ∧
      failureOf? (q'.answerFrom s').result = failureOf? (q.answerFrom s).result := by
  cases h with
  | @authorOf p p' id author =>
    simp only [Question.answerFrom, Store.authorOf?, id, author]
    exact Answer.alike_ofReference (hs.user? p.author) _ _ _
  | @commenter c c' h =>
    simp only [Question.answerFrom, Store.commenter?, h.id, h.author]
    exact Answer.alike_ofReference (hs.user? c.author) _ _ _
  | @postOf c c' h =>
    simp only [Question.answerFrom, Store.postOf?, h.id, h.post]
    exact Answer.alike_ofReference (hs.post? c.post) _ _ _
  | _ => exact ⟨rfl, rfl⟩

/-- **Alike questions to alike stores** bring the same reports, and fail alike. -/
theorem answer (h : q.Alike q') (hs : s.Alike φ s') (available : Bool) :
    (q'.answer (if available then some s' else none)).events =
        (q.answer (if available then some s else none)).events ∧
      failureOf? (q'.answer (if available then some s' else none)).result =
        failureOf? (q.answer (if available then some s else none)).result := by
  simp only [Question.answer, h.aboutExamples]
  cases q.aboutExamples with
  | some f => exact ⟨rfl, rfl⟩
  | none =>
    cases available with
    | false => exact ⟨rfl, rfl⟩
    | true => exact h.answerFrom hs

end Question.Alike

/-! ## Alike relations -/

/-- The objects of alike relations are alike, or neither is there. -/
theorem Subject.Alike.resolve? {α : Type} [Identified α] {R : α → α → Prop} {x x' : Subject α}
    {c c' : Collection α} (h : x.Alike R x')
    (hget : ∀ id, Option.Rel R (c.get? id) (c'.get? id)) :
    Option.Rel R (x.resolve? c) (x'.resolve? c') := by
  cases h with
  | stored id => exact hget id
  | given h => exact .some h

theorem rel_optionMap {α β : Type} {R : α → α → Prop} {S : β → β → Prop} {f : α → β}
    (hf : ∀ a a', R a a' → S (f a) (f a')) {x x' : Option α} (h : Option.Rel R x x') :
    Option.Rel S (x.map f) (x'.map f) := by
  cases h with
  | none => exact .none
  | some h => exact .some (hf _ _ h)

/-- Alike relations on alike stores are alike questions, or their object is in neither store. -/
theorem Relation.Alike.question? {φ : String → String} {r r' : Relation} {s s' : Store}
    (h : r.Alike φ r') (hs : s.Alike φ s') :
    Option.Rel Question.Alike (r.question? s) (r'.question? s') := by
  cases h with
  | postsOf h => exact rel_optionMap (fun _ _ hu => .postsOf hu.id) (h.resolve? hs.user?)
  | commentsBy h => exact rel_optionMap (fun _ _ hu => .commentsBy hu.id) (h.resolve? hs.user?)
  | authorOf h =>
    exact rel_optionMap (fun _ _ hp => .authorOf hp.id hp.author) (h.resolve? hs.post?)
  | commentsOn h => exact rel_optionMap (fun _ _ hp => .commentsOn hp.id) (h.resolve? hs.post?)
  | commenter h => exact rel_optionMap (fun _ _ hc => .commenter hc) (h.resolve? hs.comment?)
  | postOf h => exact rel_optionMap (fun _ _ hc => .postOf hc) (h.resolve? hs.comment?)

/-! ## Two runs -/

/-- The entries that a call leaves in the log. -/
def StepOutcome.entries (mode : Log.Mode) (context : Log.Context) (o : StepOutcome) :
    List Log.Entry :=
  Log.entries mode context (o.events.map Event.notice)

/-- Two calls had alike outcomes: the same was reported, both succeeded or both failed for the same
reason, and the blogs are alike afterwards. -/
structure StepOutcome.Alike (φ : String → String) (o o' : StepOutcome) : Prop where
  events : o'.events = o.events
  failure : failureOf? o'.result = failureOf? o.result
  blog : o.blog.Alike φ o'.blog

theorem map_eq_map_of_forall₂ {α β : Type} {R : α → α → Prop} {f : α → β} {l l' : List α}
    (h : List.Forall₂ R l l') (hf : ∀ a a', R a a' → f a' = f a) : l'.map f = l.map f := by
  induction h with
  | nil => rfl
  | cons ha _ ih => rw [List.map_cons, List.map_cons, hf _ _ ha, ih]

namespace Step

variable {φ : String → String} {b b' : Blog}

theorem asked_events (b : Blog) (available : Bool) (q : Question) :
    (asked b available q).events =
      (q.answer (if available then some b.store else none)).events := by
  simp only [asked]
  split <;> rfl

theorem failureOf?_asked (b : Blog) (available : Bool) (q : Question) :
    failureOf? (asked b available q).result =
      (failureOf? (q.answer (if available then some b.store else none)).result).map .operation := by
  simp only [asked]
  split <;> (next h => rw [h]; rfl)

theorem alike_asked (hb : b.Alike φ b') (available : Bool) {q q' : Question} (h : q.Alike q') :
    (asked b available q).Alike φ (asked b' available q') := by
  obtain ⟨hevents, hfailure⟩ := h.answer hb.store available
  refine ⟨?_, ?_, ?_⟩
  · rw [asked_events, asked_events, hevents]
  · rw [failureOf?_asked, failureOf?_asked, hfailure]
  · rw [asked_blog, asked_blog]
    exact hb

/-- What carrying out a command comes to, as a step. -/
theorem perform_run (b : Blog) (available : Bool) (c : Command) :
    ((run available c).perform b).events = (c.runWhen available b).events ∧
      failureOf? ((run available c).perform b).result =
        (failureOf? (c.runWhen available b).result).map .operation := by
  simp only [perform]
  split <;> (next h => rw [h]; exact ⟨rfl, rfl⟩)

/-- **Alike calls on alike blogs** have alike outcomes. -/
theorem Alike.perform (hφ : Function.Injective φ) {x x' : Step} (h : x.Alike φ x')
    (hb : b.Alike φ b') : (x.perform b).Alike φ (x'.perform b') := by
  cases h with
  | ask available h => exact alike_asked hb available h
  | @relate available r r' h =>
    have hquestion := h.question? hb.store
    rw [Step.perform, Step.perform]
    generalize r.question? b.store = q? at hquestion ⊢
    generalize r'.question? b'.store = q?' at hquestion ⊢
    cases hquestion with
    | none => exact ⟨rfl, rfl, hb⟩
    | some h => exact alike_asked hb available h
  | @run available c c' h =>
    obtain ⟨hevents, hfailure⟩ := perform_run b available c
    obtain ⟨hevents', hfailure'⟩ := perform_run b' available c'
    have halike : (c'.runWhen available b').events = (c.runWhen available b).events ∧
        failureOf? (c'.runWhen available b').result = failureOf? (c.runWhen available b).result ∧
        (c.runWhen available b).blog.Alike φ (c'.runWhen available b').blog := by
      cases available with
      | false => exact ⟨rfl, rfl, hb⟩
      | true => exact h.run hφ hb
    obtain ⟨hrunEvents, hrunFailure, hrunBlog⟩ := halike
    refine ⟨?_, ?_, ?_⟩
    · rw [hevents, hevents', hrunEvents]
    · rw [hfailure, hfailure', hrunFailure]
    · rw [perform_run_blog, perform_run_blog]
      exact hrunBlog

/-- Any number of alike calls have alike outcomes, one by one. -/
theorem alike_performEach (hφ : Function.Injective φ) {xs xs' : List Step}
    (h : List.Forall₂ (Step.Alike φ) xs xs') (hb : b.Alike φ b') :
    List.Forall₂ (StepOutcome.Alike φ) (performEach b xs) (performEach b' xs') := by
  induction h generalizing b b' with
  | nil => exact .nil
  | cons hx _ ih =>
    have houtcome := hx.perform hφ hb
    exact .cons houtcome (ih houtcome.blog)

/-- A fresh blog is like itself, as long as the emails of the sample users keep their names. -/
theorem alike_of_fresh (hb : b.IsFresh) (hseed : ∀ u ∈ Seed.users, φ u.email = u.email) :
    b.Alike φ b := by
  refine ⟨?_, rfl, rfl⟩
  rcases hb with hb | hb <;> rw [hb]
  · exact ⟨.nil, .nil, .nil⟩
  · rw [Store.sample_eq]
    exact ⟨List.forall₂_same.2 fun u hu => ⟨rfl, (hseed u hu).symm⟩,
      List.forall₂_same.2 fun _ _ => ⟨rfl, rfl, rfl, rfl⟩,
      List.forall₂_same.2 fun _ _ => ⟨rfl, rfl, rfl⟩⟩

/-- **Personal data stays out of the log.**  Take any calls on a fresh blog, with any source of
identifiers, and the same calls with all emails of new users renamed and with other names, ages,
bodies, texts and search texts.  The renaming keeps different emails apart, and the sample users
keep theirs.  Then every call leaves the same entries in the log in both runs, at every level and
however the log is written; and it succeeds in both or fails for the same reason in both. -/
theorem personal_data_stays_out_of_the_log (hφ : Function.Injective φ)
    (hseed : ∀ u ∈ Seed.users, φ u.email = u.email) (hb : b.IsFresh) {calls calls' : List Step}
    (h : List.Forall₂ (Step.Alike φ) calls calls') :
    (∀ mode context, (performEach b calls').map (StepOutcome.entries mode context) =
        (performEach b calls).map (StepOutcome.entries mode context)) ∧
      (performEach b calls').map (fun o => failureOf? o.result) =
        (performEach b calls).map fun o => failureOf? o.result := by
  have houtcomes := alike_performEach hφ h (alike_of_fresh hb hseed)
  constructor
  · intro mode context
    refine map_eq_map_of_forall₂ houtcomes fun o o' ho => ?_
    rw [StepOutcome.entries, StepOutcome.entries, ho.events]
  · exact map_eq_map_of_forall₂ houtcomes fun o o' ho => ho.failure

/-- A renaming that exchanges two emails. -/
def exchanged : String → String := Equiv.swap "ann@x.org" "bob@x.org"

/-- Two new users, one who comes too late, a sample user's email, a search and a post. -/
def plainCalls : List Step := [
  .run true (.createUser ⟨"Ann", "ann@x.org", some 30⟩),
  .run true (.createUser ⟨"Cid", "cid@x.org", none⟩),
  .run true (.createUser ⟨"Anna", "ann@x.org", none⟩),
  .run true (.createUser ⟨"Steve", "steve.jobs@apple.com", none⟩),
  .ask true (.users (some "ann")),
  .relate true (.postsOf (.stored "1")),
  .run true (.createPost ⟨"Notes", "About Ann", false, "2"⟩)]

/-- The same calls with other data of the people in them. -/
def disguisedCalls : List Step := [
  .run true (.createUser ⟨"Bob", "bob@x.org", none⟩),
  .run true (.createUser ⟨"", "cid@x.org", some 7⟩),
  .run true (.createUser ⟨"Rob", "bob@x.org", some 8⟩),
  .run true (.createUser ⟨"Job", "steve.jobs@apple.com", none⟩),
  .ask true (.users none),
  .relate true (.postsOf (.stored "1")),
  .run true (.createPost ⟨"Notes", "", false, "2"⟩)]

theorem plainCalls_alike : List.Forall₂ (Step.Alike exchanged) plainCalls disguisedCalls := by
  refine .cons (.run true (.createUser ?_)) (.cons (.run true (.createUser ?_))
    (.cons (.run true (.createUser ?_)) (.cons (.run true (.createUser ?_))
    (.cons (.ask true (.users _ _)) (.cons (.relate true (.postsOf (.stored "1")))
    (.cons (.run true (.createPost rfl rfl rfl)) .nil))))))
  all_goals decide +kernel

/-- The two runs report the same eight events, of which two name the user who has the email. -/
theorem personal_data_stays_out_of_the_log_sample :
    Function.Injective exchanged ∧ (∀ u ∈ Seed.users, exchanged u.email = u.email) ∧
    Blog.sample.IsFresh ∧ List.Forall₂ (Step.Alike exchanged) plainCalls disguisedCalls ∧
    (performEach .sample plainCalls).flatMap (·.events) = [
      .recordAppended .user "00000000-0000-4000-8000-000000000001",
      .userCreated "00000000-0000-4000-8000-000000000001",
      .recordAppended .user "00000000-0000-4000-8000-000000000002",
      .userCreated "00000000-0000-4000-8000-000000000002",
      .emailTaken "00000000-0000-4000-8000-000000000001",
      .emailTaken "1",
      .recordAppended .post "00000000-0000-4000-8000-000000000003",
      .postCreated "00000000-0000-4000-8000-000000000003" "2" "Notes"] ∧
    (∀ mode context, (performEach .sample disguisedCalls).map (StepOutcome.entries mode context) =
        (performEach .sample plainCalls).map (StepOutcome.entries mode context)) ∧
    (performEach .sample disguisedCalls).map (fun o => failureOf? o.result) =
      (performEach .sample plainCalls).map fun o => failureOf? o.result := by
  have hinjective : Function.Injective exchanged := (Equiv.swap "ann@x.org" "bob@x.org").injective
  have hseed : ∀ u ∈ Seed.users, exchanged u.email = u.email := by decide +kernel
  have hfresh : Blog.sample.IsFresh := Or.inr rfl
  exact ⟨hinjective, hseed, hfresh, plainCalls_alike, by decide +kernel,
    personal_data_stays_out_of_the_log hinjective hseed hfresh plainCalls_alike⟩

end Step
end BlogGraph
