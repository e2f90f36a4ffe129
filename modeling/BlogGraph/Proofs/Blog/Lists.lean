import BlogGraph.Proofs.Blog.Relations

/-!
# What a new record changes in the lists

The posts of a user, the comments by a user and the comments on a post are found anew for each
question, by going through all records.  A new record is the last one that is gone through.  So it
comes last in the lists of the records that it refers to, and no other list can tell that it is
there.

Two things are not so plain.  That a post or a comment changes the list of *one* user or post takes
identifiers that are not repeated (`Store.Distinct`).  And that nothing is found for a user or a
post who is new takes references that are whole (`Store.Linked`): the identifier is new among users,
or among posts, so no older record can refer to it.

Main statements:

* `Reference.ReadsFrom.grows`, `Reference.ReadsFrom.nothing`: lists for one reference, when one part
  more is gone through, and for a new owner;
* `Store.listsChange_append`: all lists of a store, when an accepted command appends its record;
* `Blog.lists_change_by_the_new_record`: so it is after every history of a fresh blog.
-/

namespace BlogGraph

namespace Reference

variable {α β : Type} [Identified α] {r : Reference α β} {s s' : Store} {key : β → String}
  {held : Collection β}

/-! ## Lists for one reference -/

/-- What the question for the parts of an owner brings. -/
def listed (r : Reference α β) (s : Store) (a : α) : Except Failure Found :=
  ((r.partsOf a).answer (some s)).result

/-- The list of one owner has one part more, at its end, and those of all other owners are as they
were. -/
structure GrowsBy (r : Reference α β) (s s' : Store) (owners : List α) (a : α) (b : β) : Prop where
  owner : a ∈ owners
  list : ∃ parts, r.listed s a = .ok (.many parts) ∧
    r.listed s' a = .ok (.many (parts ++ [r.part b]))
  others : ∀ a' ∈ owners, a' ≠ a → r.listed s' a' = r.listed s a'

/-- The lists of all owners are as they were. -/
def Stays (r : Reference α β) (s s' : Store) (owners : List α) : Prop :=
  ∀ a ∈ owners, r.listed s' a = r.listed s a

/-- The list of an owner is empty. -/
def Nothing (r : Reference α β) (s : Store) (a : α) : Prop := r.listed s a = .ok (.many [])

/-- The lists are found by going through a collection, for a reference by identifier. -/
def ReadsFrom (r : Reference α β) (s : Store) (key : β → String) (held : Collection β) : Prop :=
  ∀ a, r.listed s a = .ok (.many ((held.filter fun b => key b = Identified.ident a).map r.part))

theorem ReadsFrom.stays (h : r.ReadsFrom s key held) (h' : r.ReadsFrom s' key held)
    (owners : List α) : r.Stays s s' owners := fun a _ => (h' a).trans (h a).symm

/-- When one part more is gone through, it comes last in the list of its owner and in no other. -/
theorem ReadsFrom.grows {c : Collection α} {a : α} {b : β} (h : r.ReadsFrom s key held)
    (h' : r.ReadsFrom s' key ⟨held.toList ++ [b]⟩) (hc : c.Distinct) (ha : a ∈ c.toList)
    (hkey : Identified.ident a = key b) : r.GrowsBy s s' c.toList a b where
  owner := ha
  list := by
    refine ⟨_, h a, ?_⟩
    rw [h' a]
    simp [Collection.filter, hkey]
  others a' ha' hne := by
    have hother : key b ≠ Identified.ident a' := by
      intro hb
      exact hne (hc.eq_of_ident_eq ha' ha (hb.symm.trans hkey.symm))
    rw [h' a', h a']
    simp [Collection.filter, hother]

/-- No part is found for an owner whose identifier is new, as long as all parts refer to others. -/
theorem ReadsFrom.nothing {c : Collection α} {a : α} (h : r.ReadsFrom s key held)
    (hkey : ∀ b ∈ held.toList, ∃ a ∈ c.toList, Identified.ident a = key b)
    (hnew : c.has (Identified.ident a) = false) : r.Nothing s a := by
  have hnone : (held.filter fun b => key b = Identified.ident a) = [] := by
    refine List.filter_eq_nil_iff.2 fun b hb => ?_
    rw [decide_eq_true_iff]
    intro hba
    obtain ⟨a', ha', hident⟩ := hkey b hb
    exact Collection.has_eq_false_iff.1 hnew a' ha' (hident.trans hba)
  rw [Nothing, h a, hnone]
  rfl

theorem postAuthor_readsFrom (s : Store) : postAuthor.ReadsFrom s Post.author s.posts :=
  fun _ => rfl

theorem commentAuthor_readsFrom (s : Store) : commentAuthor.ReadsFrom s Comment.author s.comments :=
  fun _ => rfl

theorem commentPost_readsFrom (s : Store) : commentPost.ReadsFrom s Comment.post s.comments :=
  fun _ => rfl

end Reference

/-! ## All lists of a store -/

namespace Store

open Reference

variable {s s' : Store}

/-- No list has changed, whichever stored record it belongs to. -/
structure ListsStay (s s' : Store) : Prop where
  posts : postAuthor.Stays s s' s.users.toList
  comments : commentAuthor.Stays s s' s.users.toList
  postComments : commentPost.Stays s s' s.posts.toList

theorem ListsStay.refl (s : Store) : s.ListsStay s :=
  ⟨fun _ _ => rfl, fun _ _ => rfl, fun _ _ => rfl⟩

/-- What a new record changes in the lists.  A new user changes none and has nothing.  A new post
comes last among the posts of its author, and has no comments.  A new comment comes last among those
by its author and among those on its post. -/
inductive ListsChange (s : Store) : Record → Store → Prop
  | user {u : User} {s' : Store} (stay : s.ListsStay s') (noPosts : postAuthor.Nothing s' u)
    (noComments : commentAuthor.Nothing s' u) : ListsChange s (.user u) s'
  | post {p : Post} {author : User} {s' : Store} (authorId : author.id = p.author)
    (posts : postAuthor.GrowsBy s s' s.users.toList author p)
    (comments : commentAuthor.Stays s s' s.users.toList)
    (postComments : commentPost.Stays s s' s.posts.toList)
    (noComments : commentPost.Nothing s' p) : ListsChange s (.post p) s'
  | comment {c : Comment} {author : User} {post : Post} {s' : Store}
    (authorId : author.id = c.author) (postId : post.id = c.post)
    (posts : postAuthor.Stays s s' s.users.toList)
    (comments : commentAuthor.GrowsBy s s' s.users.toList author c)
    (postComments : commentPost.GrowsBy s s' s.posts.toList post c) : ListsChange s (.comment c) s'

/-- **The record of an accepted command in the lists.** -/
theorem listsChange_append {c : Command} {id : String} (hd : s.Distinct) (hl : s.Linked)
    (hc : c.refusal? s = none) (h : s.append? (c.record id) = some s') :
    s.ListsChange (c.record id) s' := by
  have hposts := postAuthor_readsFrom s
  have hcomments := commentAuthor_readsFrom s
  have hpostComments := commentPost_readsFrom s
  have hposts' := postAuthor_readsFrom s'
  have hcomments' := commentAuthor_readsFrom s'
  have hpostComments' := commentPost_readsFrom s'
  cases c with
  | createUser input =>
    obtain ⟨hnew, rfl⟩ := append?_user.1 h
    exact .user ⟨hposts.stays hposts' _, hcomments.stays hcomments' _,
        hpostComments.stays hpostComments' _⟩
      (hposts'.nothing hl.postAuthor hnew) (hcomments'.nothing hl.commentAuthor hnew)
  | createPost input =>
    obtain ⟨hnew, rfl⟩ := append?_post.1 h
    obtain ⟨author, hauthor, hid⟩ := refusal?_post hc
    exact .post hid (hposts.grows hposts' hd.users hauthor hid) (hcomments.stays hcomments' _)
      (hpostComments.stays hpostComments' _) (hpostComments'.nothing hl.commentPost hnew)
  | createComment input =>
    obtain ⟨-, rfl⟩ := append?_comment.1 h
    obtain ⟨⟨author, hauthor, hid⟩, post, hpost, hpostId, -⟩ := refusal?_comment hc
    exact .comment hid hpostId (hposts.stays hposts' _)
      (hcomments.grows hcomments' hd.users hauthor hid)
      (hpostComments.grows hpostComments' hd.posts hpost hpostId)

end Store

/-! ## Histories -/

namespace Blog

variable {b : Blog}

/-- **Lists change by the new record.**  After any history of a fresh blog, with any source of
identifiers, let one command more be given.  If it is accepted, its record comes last in the lists
of the records that it refers to, a new user or post has empty lists, and the lists of all other
stored users and posts are as they were.  If it fails, no list changes. -/
theorem lists_change_by_the_new_record (hb : b.IsFresh) (uses : List Use) (c : Command) :
    (∀ r, (c.run (b.run uses)).result = .ok r →
      r = c.record ((b.run uses).ids ((b.run uses).made + 1)) ∧
      (b.run uses).store.ListsChange r (c.run (b.run uses)).blog.store) ∧
    ∀ f, (c.run (b.run uses)).result = .error f →
      (b.run uses).store.ListsStay (c.run (b.run uses)).blog.store := by
  have hd := distinct_run hb uses
  have hl := linked_run hb uses
  obtain ⟨_, _, -, hrun⟩ | ⟨hc, r, hr, ⟨-, hrun⟩ | ⟨s, happend, hrun⟩⟩ := c.run_eq (b.run uses)
  · rw [hrun]
    exact ⟨fun _ h => absurd h (by simp), fun _ _ => Store.ListsStay.refl _⟩
  · rw [hrun]
    exact ⟨fun _ h => absurd h (by simp), fun _ _ => Store.ListsStay.refl _⟩
  · subst hr
    rw [hrun]
    refine ⟨fun r h => ?_, fun _ h => absurd h (by simp)⟩
    obtain rfl := Except.ok.inj h
    exact ⟨rfl, Store.listsChange_append hd hl hc happend⟩

/-- A post by a sample user and a comment on a sample post. -/
def listUses : List Use := [
  .command true (.createPost ⟨"Notes", "", true, "3"⟩),
  .command true (.createComment ⟨"Well said", "3", "10"⟩)]

/-- A comment by another sample user on that post. -/
def thanks : Command := .createComment ⟨"Thanks", "2", "00000000-0000-4000-8000-000000000001"⟩

theorem lists_change_by_the_new_record_sample :
    sample.IsFresh ∧
    (thanks.run (sample.run listUses)).result = .ok (.comment
      ⟨"00000000-0000-4000-8000-000000000003", "Thanks", "2",
        "00000000-0000-4000-8000-000000000001"⟩) ∧
    (sample.run listUses).store.ListsChange (.comment
        ⟨"00000000-0000-4000-8000-000000000003", "Thanks", "2",
          "00000000-0000-4000-8000-000000000001"⟩)
      (thanks.run (sample.run listUses)).blog.store := by
  have hresult : (thanks.run (sample.run listUses)).result = .ok (.comment
      ⟨"00000000-0000-4000-8000-000000000003", "Thanks", "2",
        "00000000-0000-4000-8000-000000000001"⟩) := by decide +kernel
  exact ⟨Or.inr rfl, hresult,
    ((lists_change_by_the_new_record (Or.inr rfl) listUses thanks).1 _ hresult).2⟩

end Blog
end BlogGraph
