import BlogGraph.Blog.Command
import BlogGraph.Blog.Relation
import Mathlib.Data.List.Nodup

/-!
# What a store keeps

Appending is the one way to change a store, and it only adds at the end (`Grows`).  Nothing in it
looks at references: that they find their records (`Linked`), that identifiers are not repeated
(`Distinct`) and that new comments are on published posts (`Gated`) has to be carried from store
to store by whoever appends.  This file says what each of these properties needs of a new record.

Main statements:

* `linked_append`, `distinct_append`, `gated_append`: a record that an accepted command makes
  keeps them;
* `linked_sample`, `distinct_sample`: the sample data has the first two, although one of its
  comments is on an unpublished post.
-/

namespace BlogGraph

/-! ## Collections -/

/-- One more value at the end keeps a list of keys without repetitions if its key is new. -/
theorem nodup_map_snoc {α β : Type} {key : α → β} {l : List α} {a : α} (h : (l.map key).Nodup)
    (hn : ∀ b ∈ l, key b ≠ key a) : ((l ++ [a]).map key).Nodup := by
  rw [List.map_append, List.nodup_append]
  refine ⟨h, List.nodup_singleton _, ?_⟩
  intro x hx y hy hxy
  obtain ⟨b, hb, rfl⟩ := List.mem_map.1 hx
  rw [List.map_singleton, List.mem_singleton] at hy
  exact hn b hb (hxy.trans hy)

namespace Collection

variable {α : Type} [Identified α] {c c' : Collection α} {a : α} {id : String}

theorem mem_of_get? (h : c.get? id = some a) : a ∈ c.toList ∧ Identified.ident a = id := by
  refine ⟨List.mem_of_find?_eq_some h, ?_⟩
  simpa using List.find?_some h

theorem has_eq_true_iff : c.has id = true ↔ ∃ a ∈ c.toList, Identified.ident a = id := by
  rw [has, get?, List.find?_isSome]
  simp

theorem has_eq_false_iff : c.has id = false ↔ ∀ a ∈ c.toList, Identified.ident a ≠ id := by
  rw [← Bool.not_eq_true, has_eq_true_iff]
  push Not
  rfl

theorem add?_eq_some_iff :
    c.add? a = some c' ↔ c.has (Identified.ident a) = false ∧ c' = ⟨c.toList ++ [a]⟩ := by
  rw [add?]
  cases c.has (Identified.ident a) <;> simp [eq_comm]

/-- The identifiers of a collection are not repeated. -/
def Distinct (c : Collection α) : Prop := (c.toList.map Identified.ident).Nodup

theorem Distinct.snoc (h : c.Distinct) (hn : c.has (Identified.ident a) = false) :
    Distinct ⟨c.toList ++ [a]⟩ :=
  nodup_map_snoc h (has_eq_false_iff.1 hn)

/-- Two members with one identifier are one member. -/
theorem Distinct.eq_of_ident_eq (h : c.Distinct) {a b : α} (ha : a ∈ c.toList) (hb : b ∈ c.toList)
    (hab : Identified.ident a = Identified.ident b) : a = b :=
  List.inj_on_of_nodup_map h ha hb hab

/-- Where identifiers are not repeated, looking one up finds the member that has it. -/
theorem Distinct.get?_eq_some_iff (h : c.Distinct) :
    c.get? id = some a ↔ a ∈ c.toList ∧ Identified.ident a = id := by
  refine ⟨mem_of_get?, ?_⟩
  rintro ⟨ha, rfl⟩
  obtain ⟨b, hb⟩ := Option.isSome_iff_exists.1 (has_eq_true_iff.2 ⟨a, ha, rfl⟩)
  obtain ⟨hmem, hident⟩ := mem_of_get? hb
  rw [hb, h.eq_of_ident_eq hmem ha hident]

end Collection

namespace Store

variable {s s' : Store}

/-! ## Appending -/

theorem append?_user {u : User} : s.append? (.user u) = some s' ↔
    s.users.has u.id = false ∧ s' = { s with users := ⟨s.users.toList ++ [u]⟩ } := by
  rw [append?, Option.map_eq_some_iff]
  constructor
  · rintro ⟨c, hc, rfl⟩
    obtain ⟨hn, rfl⟩ := Collection.add?_eq_some_iff.1 hc
    exact ⟨hn, rfl⟩
  · rintro ⟨hn, rfl⟩
    exact ⟨_, Collection.add?_eq_some_iff.2 ⟨hn, rfl⟩, rfl⟩

theorem append?_post {p : Post} : s.append? (.post p) = some s' ↔
    s.posts.has p.id = false ∧ s' = { s with posts := ⟨s.posts.toList ++ [p]⟩ } := by
  rw [append?, Option.map_eq_some_iff]
  constructor
  · rintro ⟨c, hc, rfl⟩
    obtain ⟨hn, rfl⟩ := Collection.add?_eq_some_iff.1 hc
    exact ⟨hn, rfl⟩
  · rintro ⟨hn, rfl⟩
    exact ⟨_, Collection.add?_eq_some_iff.2 ⟨hn, rfl⟩, rfl⟩

theorem append?_comment {m : Comment} : s.append? (.comment m) = some s' ↔
    s.comments.has m.id = false ∧ s' = { s with comments := ⟨s.comments.toList ++ [m]⟩ } := by
  rw [append?, Option.map_eq_some_iff]
  constructor
  · rintro ⟨c, hc, rfl⟩
    obtain ⟨hn, rfl⟩ := Collection.add?_eq_some_iff.1 hc
    exact ⟨hn, rfl⟩
  · rintro ⟨hn, rfl⟩
    exact ⟨_, Collection.add?_eq_some_iff.2 ⟨hn, rfl⟩, rfl⟩

/-- One store holds all that the other holds, and what is new stands at the ends. -/
structure Grows (s s' : Store) : Prop where
  users : s.users.toList <+: s'.users.toList
  posts : s.posts.toList <+: s'.posts.toList
  comments : s.comments.toList <+: s'.comments.toList

theorem Grows.refl (s : Store) : Grows s s :=
  ⟨List.prefix_rfl, List.prefix_rfl, List.prefix_rfl⟩

theorem Grows.trans {s'' : Store} (h : Grows s s') (h' : Grows s' s'') : Grows s s'' :=
  ⟨h.users.trans h'.users, h.posts.trans h'.posts, h.comments.trans h'.comments⟩

theorem grows_append {r : Record} (h : s.append? r = some s') : Grows s s' := by
  cases r with
  | user u =>
    obtain ⟨-, rfl⟩ := append?_user.1 h
    exact ⟨List.prefix_append .., List.prefix_rfl, List.prefix_rfl⟩
  | post p =>
    obtain ⟨-, rfl⟩ := append?_post.1 h
    exact ⟨List.prefix_rfl, List.prefix_append .., List.prefix_rfl⟩
  | comment m =>
    obtain ⟨-, rfl⟩ := append?_comment.1 h
    exact ⟨List.prefix_rfl, List.prefix_rfl, List.prefix_append ..⟩

/-! ## Accepted commands -/

theorem refusal?_post {input : NewPost} (h : (Command.createPost input).refusal? s = none) :
    ∃ u ∈ s.users.toList, u.id = input.author := by
  rw [Command.refusal?] at h
  split at h
  · next hu => exact Collection.has_eq_true_iff.1 hu
  · exact absurd h (by simp)

theorem isOpen_eq_true_iff {id : String} : Command.isOpen s id = true ↔
    ∃ p, s.posts.get? id = some p ∧ p.published = true := by
  rw [Command.isOpen]
  split <;> simp_all

theorem refusal?_comment {input : NewComment}
    (h : (Command.createComment input).refusal? s = none) :
    (∃ u ∈ s.users.toList, u.id = input.author) ∧
      ∃ p ∈ s.posts.toList, p.id = input.post ∧ p.published = true := by
  simp only [Command.refusal?] at h
  split at h
  · next ho =>
    rw [Bool.and_eq_true] at ho
    obtain ⟨p, hp, hpub⟩ := isOpen_eq_true_iff.1 ho.2
    obtain ⟨hmem, hid⟩ := Collection.mem_of_get? hp
    exact ⟨Collection.has_eq_true_iff.1 ho.1, p, hmem, hid, hpub⟩
  · exact absurd h (by simp)

/-! ## References -/

/-- Every reference of a stored record finds its record. -/
structure Linked (s : Store) : Prop where
  postAuthor : ∀ p ∈ s.posts.toList, ∃ u ∈ s.users.toList, u.id = p.author
  commentAuthor : ∀ m ∈ s.comments.toList, ∃ u ∈ s.users.toList, u.id = m.author
  commentPost : ∀ m ∈ s.comments.toList, ∃ p ∈ s.posts.toList, p.id = m.post

/-- A new record keeps the references of a store whole if the command that makes it was
accepted. -/
theorem linked_append {c : Command} {id : String} (hs : Linked s) (hc : c.refusal? s = none)
    (h : s.append? (c.record id) = some s') : Linked s' := by
  obtain ⟨hu, hp, -⟩ := grows_append h
  -- references that were whole stay whole, so only the new record is left to look at
  have oldUser : ∀ {i : String}, (∃ u ∈ s.users.toList, u.id = i) →
      ∃ u ∈ s'.users.toList, u.id = i := fun ⟨u, hm, hi⟩ => ⟨u, hu.subset hm, hi⟩
  have oldPost : ∀ {i : String}, (∃ p ∈ s.posts.toList, p.id = i) →
      ∃ p ∈ s'.posts.toList, p.id = i := fun ⟨p, hm, hi⟩ => ⟨p, hp.subset hm, hi⟩
  cases c with
  | createUser input =>
    obtain ⟨-, rfl⟩ := append?_user.1 h
    exact ⟨fun p hm => oldUser (hs.postAuthor p hm), fun m hm => oldUser (hs.commentAuthor m hm),
      hs.commentPost⟩
  | createPost input =>
    obtain ⟨-, rfl⟩ := append?_post.1 h
    refine ⟨?_, hs.commentAuthor, fun m hm => oldPost (hs.commentPost m hm)⟩
    intro p hm
    rcases List.mem_append.1 hm with hm | hm
    · exact hs.postAuthor p hm
    · rw [List.mem_singleton.1 hm]
      exact refusal?_post hc
  | createComment input =>
    obtain ⟨-, rfl⟩ := append?_comment.1 h
    obtain ⟨hauthor, p, hpm, hpi, -⟩ := refusal?_comment hc
    refine ⟨hs.postAuthor, ?_, ?_⟩
    · intro m hm
      rcases List.mem_append.1 hm with hm | hm
      · exact hs.commentAuthor m hm
      · rw [List.mem_singleton.1 hm]
        exact hauthor
    · intro m hm
      rcases List.mem_append.1 hm with hm | hm
      · exact hs.commentPost m hm
      · rw [List.mem_singleton.1 hm]
        exact ⟨p, hpm, hpi⟩

/-! ## Identifiers -/

/-- No identifier is repeated among the records of one kind. -/
structure Distinct (s : Store) : Prop where
  users : s.users.Distinct
  posts : s.posts.Distinct
  comments : s.comments.Distinct

theorem distinct_append {r : Record} (hs : Distinct s) (h : s.append? r = some s') :
    Distinct s' := by
  cases r with
  | user u =>
    obtain ⟨hn, rfl⟩ := append?_user.1 h
    exact ⟨hs.users.snoc hn, hs.posts, hs.comments⟩
  | post p =>
    obtain ⟨hn, rfl⟩ := append?_post.1 h
    exact ⟨hs.users, hs.posts.snoc hn, hs.comments⟩
  | comment m =>
    obtain ⟨hn, rfl⟩ := append?_comment.1 h
    exact ⟨hs.users, hs.posts, hs.comments.snoc hn⟩

/-! ## Comments on published posts -/

/-- Every comment that is not among the given ones is on a published post. -/
def Gated (old : List Comment) (s : Store) : Prop :=
  ∀ m ∈ s.comments.toList, m ∉ old → ∃ p ∈ s.posts.toList, p.id = m.post ∧ p.published = true

theorem gated_start (s : Store) : Gated s.comments.toList s :=
  fun _ hm hold => absurd hm hold

theorem gated_append {old : List Comment} {c : Command} {id : String} (hs : Gated old s)
    (hc : c.refusal? s = none) (h : s.append? (c.record id) = some s') : Gated old s' := by
  have hp := (grows_append h).posts
  intro m hm hold
  have keep : (∃ p ∈ s.posts.toList, p.id = m.post ∧ p.published = true) →
      ∃ p ∈ s'.posts.toList, p.id = m.post ∧ p.published = true :=
    fun ⟨p, hpm, hpi⟩ => ⟨p, hp.subset hpm, hpi⟩
  refine keep ?_
  cases c with
  | createUser input =>
    obtain ⟨-, rfl⟩ := append?_user.1 h
    exact hs m hm hold
  | createPost input =>
    obtain ⟨-, rfl⟩ := append?_post.1 h
    exact hs m hm hold
  | createComment input =>
    obtain ⟨-, rfl⟩ := append?_comment.1 h
    rcases List.mem_append.1 hm with hm | hm
    · exact hs m hm hold
    · rw [List.mem_singleton.1 hm]
      exact (refusal?_comment hc).2

/-- A command leaves the comments on an unpublished post as they are. -/
theorem commentsOn_append {c : Command} {id : String} {p : Post} (hd : Distinct s)
    (hc : c.refusal? s = none) (h : s.append? (c.record id) = some s') (hp : p ∈ s.posts.toList)
    (hpub : p.published = false) : s'.commentsOn p = s.commentsOn p := by
  cases c with
  | createUser input =>
    obtain ⟨-, rfl⟩ := append?_user.1 h
    rfl
  | createPost input =>
    obtain ⟨-, rfl⟩ := append?_post.1 h
    rfl
  | createComment input =>
    obtain ⟨-, rfl⟩ := append?_comment.1 h
    obtain ⟨-, q, hq, hqi, hqpub⟩ := refusal?_comment hc
    have hne : input.post ≠ p.id := by
      intro hi
      have hqp : q = p := hd.posts.eq_of_ident_eq hq hp (hqi.trans hi)
      rw [hqp, hpub] at hqpub
      exact Bool.false_ne_true hqpub
    simp [commentsOn, Collection.filter, hne]

/-! ## Fresh stores -/

theorem linked_empty : Linked empty := by
  constructor <;> simp [empty, Collection.empty]

theorem distinct_empty : Distinct empty :=
  ⟨List.nodup_nil, List.nodup_nil, List.nodup_nil⟩

theorem sample_eq : sample = ⟨⟨Seed.users⟩, ⟨Seed.posts⟩, ⟨Seed.comments⟩⟩ := by decide +kernel

theorem linked_sample : Linked sample := by
  rw [sample_eq]
  constructor <;> decide

theorem distinct_sample : Distinct sample := by
  rw [sample_eq]
  constructor <;> (unfold Collection.Distinct; decide)

end Store
end BlogGraph
