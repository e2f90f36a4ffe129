import BlogGraph.Blog.Reader
import BlogGraph.Proofs.Blog.Acceptance
import BlogGraph.Proofs.Blog.Relations
import BlogGraph.Proofs.GraphQL.Reading

/-!
# The examples stay outside

The example user and the example post are shown to whoever asks for them, but no store holds them.
They are told apart by their identifiers alone, so that it is up to the identifiers that it stays
so: the sample data has others, and those that are made are longer (`Store.apart_run`).  A command
could bring such an identifier in by naming it as an author or as a post, but then it names
somebody who is not there, and is refused.

So nothing that the store is asked for brings an example: the lists bring what is stored, and a
relation of a stored record leads to stored records.

Main statements:

* `Store.Apart.not_isExample`: what is stored is no example;
* `Question.exists_stored`: questions about what is stored bring what is stored;
* `Store.Apart.forbidden`: a command that names an example is forbidden;
* `Blog.examples_stay_outside`: all of it, after every history of a fresh blog.
-/

namespace BlogGraph

/-! ## What counts as an example -/

/-- The record has the identifier of the example of its kind. -/
def Record.IsExample : Record → Prop
  | user u => u.id = exampleUser.id
  | post p => p.id = examplePost.id
  | comment _ => False

/-- The command names the example user as an author, or the example post as what a comment is on. -/
def Command.NamesExample : Command → Prop
  | createUser _ => False
  | createPost input => input.author = exampleUser.id
  | createComment input => input.author = exampleUser.id ∨ input.post = examplePost.id

/-- The question is one for a list, or for a relation of a record that the store holds. -/
structure Question.IsOfStored (s : Store) (q : Question) : Prop where
  noUser : q ≠ .exampleUser
  noPost : q ≠ .examplePost
  subject : ∀ r, q.subject? = some r → r ∈ s.records r.kind

namespace Store

variable {s s' : Store}

/-- No stored record has the identifier of an example. -/
structure Apart (s : Store) : Prop where
  users : ∀ u ∈ s.users.toList, u.id ≠ exampleUser.id
  posts : s.SparesExample

theorem Apart.not_isExample (h : s.Apart) {r : Record} (hr : r ∈ s.records r.kind) :
    ¬ r.IsExample := by
  cases r with
  | user u =>
    obtain ⟨u', hu, heq⟩ := List.mem_map.1 hr
    obtain rfl := Record.user.inj heq
    exact h.users u' hu
  | post p =>
    obtain ⟨p', hp, heq⟩ := List.mem_map.1 hr
    obtain rfl := Record.post.inj heq
    exact h.posts p' hp
  | comment m => exact id

/-! ## Nothing refers to an example -/

theorem Apart.postsOf_exampleUser (h : s.Apart) (hl : s.Linked) : s.postsOf exampleUser = [] := by
  refine List.filter_eq_nil_iff.2 fun p hp hauthor => ?_
  obtain ⟨u, hu, hid⟩ := hl.postAuthor p hp
  exact h.users u hu (hid.trans (of_decide_eq_true hauthor))

theorem Apart.commentsBy_exampleUser (h : s.Apart) (hl : s.Linked) :
    s.commentsBy exampleUser = [] := by
  refine List.filter_eq_nil_iff.2 fun m hm hauthor => ?_
  obtain ⟨u, hu, hid⟩ := hl.commentAuthor m hm
  exact h.users u hu (hid.trans (of_decide_eq_true hauthor))

theorem Apart.commentsOn_examplePost (h : s.Apart) (hl : s.Linked) :
    s.commentsOn examplePost = [] := by
  refine List.filter_eq_nil_iff.2 fun m hm hpost => ?_
  obtain ⟨p, hp, hid⟩ := hl.commentPost m hm
  exact h.posts p hp (hid.trans (of_decide_eq_true hpost))

/-- Whoever names an example names somebody who is not there. -/
theorem Apart.forbidden (h : s.Apart) {c : Command} (hc : c.NamesExample) : c.Forbidden s := by
  cases c with
  | createUser input => exact absurd hc id
  | createPost input =>
    intro u hu hid
    exact h.users u hu (hid.trans hc)
  | createComment input =>
    rcases hc with hauthor | hpost
    · exact Or.inl fun u hu hid => h.users u hu (hid.trans hauthor)
    · exact Or.inr fun p hp hid => absurd (hid.trans hpost) (h.posts p hp)

theorem apart_append {c : Command} {id : String} (hs : s.Apart) (huser : id ≠ exampleUser.id)
    (hpost : id ≠ examplePost.id) (h : s.append? (c.record id) = some s') : s'.Apart := by
  refine ⟨?_, sparesExample_append hs.posts hpost h⟩
  cases c with
  | createUser input =>
    obtain ⟨-, rfl⟩ := append?_user.1 h
    intro u hu
    rcases List.mem_append.1 hu with hu | hu
    · exact hs.users u hu
    · rw [List.mem_singleton.1 hu]
      exact huser
  | createPost input =>
    obtain ⟨-, rfl⟩ := append?_post.1 h
    exact hs.users
  | createComment input =>
    obtain ⟨-, rfl⟩ := append?_comment.1 h
    exact hs.users

end Store

/-! ## Questions about what is stored -/

/-- **Stored records lead to stored records.**  Where every reference finds its record and no post
has the identifier of the example, a question about what is stored is answered by what is stored. -/
theorem Question.exists_stored {s : Store} (hl : s.Linked) (he : s.SparesExample) {q : Question}
    (hq : q.IsOfStored s) :
    ∃ f, q.answer (some s) = .found f ∧ ∀ r ∈ f.records, r ∈ s.records r.kind := by
  have huser {u : User} (hu : u ∈ s.users.toList) : Record.user u ∈ s.records .user :=
    List.mem_map_of_mem hu
  have hpost {p : Post} (hp : p ∈ s.posts.toList) : Record.post p ∈ s.records .post :=
    List.mem_map_of_mem hp
  have hcomment {m : Comment} (hm : m ∈ s.comments.toList) :
      Record.comment m ∈ s.records .comment := List.mem_map_of_mem hm
  cases q with
  | users query =>
    exact ⟨_, rfl, List.forall_mem_map.2 fun u hu => huser (Store.mem_of_mem_searchUsers hu)⟩
  | posts query =>
    exact ⟨_, rfl, List.forall_mem_map.2 fun p hp => hpost (Store.mem_of_mem_searchPosts hp)⟩
  | comments => exact ⟨_, rfl, List.forall_mem_map.2 fun m hm => hcomment hm⟩
  | exampleUser => exact absurd rfl hq.noUser
  | examplePost => exact absurd rfl hq.noPost
  | postsOf u => exact ⟨_, rfl, List.forall_mem_map.2 fun p hp => hpost (List.mem_filter.1 hp).1⟩
  | commentsBy u =>
    exact ⟨_, rfl, List.forall_mem_map.2 fun m hm => hcomment (List.mem_filter.1 hm).1⟩
  | commentsOn p =>
    exact ⟨_, rfl, List.forall_mem_map.2 fun m hm => hcomment (List.mem_filter.1 hm).1⟩
  | authorOf p =>
    obtain ⟨p', hp, heq⟩ := List.mem_map.1 (hq.subject (.post p) rfl)
    obtain rfl := Record.post.inj heq
    obtain ⟨u, hu, hget⟩ := Collection.exists_get? (hl.postAuthor p' hp)
    -- the post is not the example, so that its author is looked up
    have hanswer : (authorOf p').answer (some s) = .found (.one (.user u)) := by
      simp only [answer, aboutExamples, if_neg (he p' hp), answerFrom, Store.authorOf?, hget,
        Option.map_some, Answer.ofReference]
    exact ⟨_, hanswer, List.forall_mem_singleton.2 (huser hu)⟩
  | commenter c =>
    obtain ⟨c', hc, heq⟩ := List.mem_map.1 (hq.subject (.comment c) rfl)
    obtain rfl := Record.comment.inj heq
    obtain ⟨u, hu, hanswer⟩ := hl.exists_commenter hc
    exact ⟨_, hanswer, List.forall_mem_singleton.2 (huser hu)⟩
  | postOf c =>
    obtain ⟨c', hc, heq⟩ := List.mem_map.1 (hq.subject (.comment c) rfl)
    obtain rfl := Record.comment.inj heq
    obtain ⟨p, hp, hanswer⟩ := hl.exists_postOf hc
    exact ⟨_, hanswer, List.forall_mem_singleton.2 (hpost hp)⟩

/-! ## Histories -/

/-- The blog's own identifiers are as long as those of any source: thirty-six characters. -/
theorem thirtySix_le_length_recordId (n : Nat) : 36 ≤ (recordId n).length := by
  have hfirst : "00000000-0000-4000-8000-".length = 24 := by decide +kernel
  have hdigits : 12 ≤ (Text.hexLower 12 n).length := by
    rw [Text.hexLower, String.length_ofList, Text.hexFixed_length]
    exact Nat.le_max_left ..
  have hlength : (recordId n).length = 24 + (Text.hexLower 12 n).length := by
    rw [← hfirst]
    exact String.length_append _ _
  omega

namespace Blog

variable {b : Blog}

/-- What the examples are to a blog.  They are shown, the one as the author of the other, but
nothing else belongs to them; no list and no relation of a stored record brings one; and a command
that names one is refused, without any change. -/
structure ExamplesOutside (b : Blog) : Prop where
  user : Question.exampleUser.answer (some b.store) = .found (.one (.user exampleUser))
  post : Question.examplePost.answer (some b.store) = .found (.one (.post examplePost))
  postsOf : (Question.postsOf exampleUser).answer (some b.store) = .found (.many [])
  commentsBy : (Question.commentsBy exampleUser).answer (some b.store) = .found (.many [])
  commentsOn : (Question.commentsOn examplePost).answer (some b.store) = .found (.many [])
  authorOf : (Question.authorOf examplePost).answer (some b.store) =
    .found (.one (.user exampleUser))
  stored : ∀ q : Question, q.IsOfStored b.store →
    ∃ f, q.answer (some b.store) = .found f ∧ ∀ r ∈ f.records, ¬ r.IsExample
  refused : ∀ c : Command, c.NamesExample →
    (∃ refusal, (c.run b).result = .error (.refused refusal) ∧ refusal.kind = .notFound) ∧
      (c.run b).blog = b

theorem apart_of_fresh (hb : b.IsFresh) : b.store.Apart := by
  rcases hb with hb | hb <;> rw [hb]
  · constructor <;> simp [Store.empty, Collection.empty, Store.SparesExample]
  · rw [Store.sample_eq]
    constructor
    · decide
    · unfold Store.SparesExample
      decide

/-- A source that does not make the identifiers of the examples keeps them from stored records. -/
theorem apart_run (hb : b.IsFresh) (huser : ∀ n, b.ids n ≠ exampleUser.id)
    (hpost : ∀ n, b.ids n ≠ examplePost.id) (uses : List Use) : (b.run uses).store.Apart := by
  obtain ⟨cs, hcs⟩ := exists_commands b uses
  rw [hcs]
  exact Command.runEach_keeps_made Store.Apart cs b
    (fun _ _ n _ _ hs _ => Store.apart_append hs (huser n) (hpost n)) (apart_of_fresh hb)

theorem examplesOutside (hd : b.store.Distinct) (hl : b.store.Linked) (ha : b.store.Apart) :
    b.ExamplesOutside where
  user := rfl
  post := rfl
  postsOf := by
    simp only [Question.answer, Question.aboutExamples, Question.answerFrom,
      ha.postsOf_exampleUser hl, List.map_nil]
  commentsBy := by
    simp only [Question.answer, Question.aboutExamples, Question.answerFrom,
      ha.commentsBy_exampleUser hl, List.map_nil]
  commentsOn := by
    simp only [Question.answer, Question.aboutExamples, Question.answerFrom,
      ha.commentsOn_examplePost hl, List.map_nil]
  authorOf := by simp only [Question.answer, Question.aboutExamples, if_true]
  stored q hq := by
    obtain ⟨f, hanswer, hrecords⟩ := Question.exists_stored hl ha.posts hq
    exact ⟨f, hanswer, fun r hr => ha.not_isExample (hrecords r hr)⟩
  refused c hc := by
    obtain ⟨hresult, hblog⟩ := Command.run_of_forbidden hd (ha.forbidden hc)
    refine ⟨⟨_, hresult, ?_⟩, hblog⟩
    rw [c.kind_ownRefusal]
    cases c with
    | createUser input => exact absurd hc id
    | createPost input => rfl
    | createComment input => rfl

/-- **The examples stay outside.**  After any history of a fresh blog, from any source whose
identifiers have at least thirty-six characters: nothing belongs to the example user and nothing to
the example post but its author, who is the example user; no question about what is stored brings
either of them; and a post or a comment that names one of them is refused as not found and changes
nothing. -/
theorem examples_stay_outside (hb : b.IsFresh) (hids : ∀ n, 36 ≤ (b.ids n).length)
    (uses : List Use) : (b.run uses).ExamplesOutside := by
  have hne {id : String} (hshort : id.length < 36) (n : Nat) : b.ids n ≠ id := by
    intro heq
    have hlong := hids n
    rw [heq] at hlong
    omega
  refine examplesOutside (distinct_run hb uses) (linked_run hb uses) ?_
  exact apart_run hb (hne (by decide +kernel)) (hne (by decide +kernel)) uses

/-- A post and two comments that name the examples, a new user, and a comment that is stored. -/
def exampleUses : List Use := [
  .command true (.createPost ⟨"Mine", "", true, "123abc"⟩),
  .command true (.createComment ⟨"Hello", "1", "q2ewqw"⟩),
  .command true (.createComment ⟨"Hello", "123abc", "10"⟩),
  .command true (.createUser ⟨"John", "john@doe.com", none⟩),
  .command true (.createComment ⟨"Well said", "3", "10"⟩)]

theorem examples_stay_outside_sample :
    sample.IsFresh ∧ (∀ n, 36 ≤ (sample.ids n).length) ∧
    (sample.run exampleUses).store.counts = ⟨4, 3, 5⟩ ∧
    (sample.run exampleUses).ExamplesOutside := by
  have hids : ∀ n, 36 ≤ (sample.ids n).length := by
    intro n
    show 36 ≤ (recordId n).length
    exact thirtySix_le_length_recordId n
  refine ⟨Or.inr rfl, hids, by decide +kernel, ?_⟩
  exact examples_stay_outside (Or.inr rfl) hids exampleUses

end Blog
end BlogGraph
