import BlogGraph.Proofs.Blog.Identifiers
import Mathlib.Data.List.Dedup
import Mathlib.Data.List.Nodup

/-!
# Relations from both ends

A reference between two records can be asked about from either end.  From the record that is
referred to, all records of the other kind are gone through and those kept that have its identifier;
from the record that refers, one identifier is looked up.  The two ways agree because no identifier
is repeated (`Store.Distinct`) and every reference finds its record (`Store.Linked`), and then the
lists at the one end share out all records at the other.

The author of a post has one more way to be found: a post with the identifier of the example post
has the example user for its author, wherever the post comes from.  So no stored post may have that
identifier, and that is up to the source of identifiers (`Store.sparesExample_run`).

Main statements:

* `Collection.mem_filter_key_iff`: keeping by a reference and looking it up are inverse;
* `Collection.flatMap_filter_key_perm`: the lists kept for all identifiers share out the records;
* `Blog.relations_are_inverse`: so it is for the three references, after every history of a fresh
  blog.
-/

namespace BlogGraph

/-! ## Records kept by an identifier -/

namespace Collection

variable {α β : Type} [Identified α] {c : Collection α} {held : Collection β} {key : β → String}

theorem mem_filter_key {a : α} {b : β} :
    (b ∈ held.filter fun b => key b = Identified.ident a) ↔
      b ∈ held.toList ∧ key b = Identified.ident a := by
  rw [filter, List.mem_filter, decide_eq_true_iff]

/-- A record is kept for the identifier of another one just when what it refers to is found to be
that one. -/
theorem mem_filter_key_iff (hc : c.Distinct) {a : α} {b : β} (ha : a ∈ c.toList)
    (hb : b ∈ held.toList) :
    (b ∈ held.filter fun b => key b = Identified.ident a) ↔ c.get? (key b) = some a := by
  rw [mem_filter_key, hc.get?_eq_some_iff]
  constructor
  · rintro ⟨-, hkey⟩
    exact ⟨ha, hkey.symm⟩
  · rintro ⟨-, hkey⟩
    exact ⟨hb, hkey.symm⟩

/-- The records kept for the identifiers of a collection are all records there are, each once. -/
theorem flatMap_filter_key_perm (hc : c.Distinct) (hheld : held.toList.Nodup)
    (hkey : ∀ b ∈ held.toList, ∃ a ∈ c.toList, Identified.ident a = key b) :
    (c.toList.flatMap fun a => held.filter fun b => key b = Identified.ident a).Perm
      held.toList := by
  have hapart : c.toList.Pairwise (Function.onFun List.Disjoint fun a =>
      held.filter fun b => key b = Identified.ident a) := by
    refine (List.pairwise_map.1 hc).imp ?_
    intro a a' hne b hb hb'
    exact hne ((mem_filter_key.1 hb).2.symm.trans (mem_filter_key.1 hb').2)
  refine (List.perm_ext_iff_of_nodup
    (List.nodup_flatMap.2 ⟨fun a _ => hheld.filter _, hapart⟩) hheld).2 fun b => ?_
  rw [List.mem_flatMap]
  constructor
  · rintro ⟨a, -, hb⟩
    exact (mem_filter_key.1 hb).1
  · intro hb
    obtain ⟨a, ha, hident⟩ := hkey b hb
    exact ⟨a, ha, mem_filter_key.2 ⟨hb, hident.symm⟩⟩

end Collection

/-! ## References -/

/-- A reference of records of one kind to records of another, and the questions about it: for the
records that refer to one, and for the one that a record refers to. -/
structure Reference (α β : Type) where
  owner : α → Record
  part : β → Record
  partsOf : α → Question
  ownerOf : β → Question

namespace Reference

/-- A post refers to its author. -/
def postAuthor : Reference User Post := ⟨.user, .post, .postsOf, .authorOf⟩

/-- A comment refers to its author. -/
def commentAuthor : Reference User Comment := ⟨.user, .comment, .commentsBy, .commenter⟩

/-- A comment refers to its post. -/
def commentPost : Reference Post Comment := ⟨.post, .comment, .commentsOn, .postOf⟩

variable {α β : Type}

/-- The two questions about a reference have inverse answers.  The one for a list is answered for
every owner, with some of the parts, in their order and without repetitions; a part is in the list
of an owner just when the other question finds that owner; it is in the list of one owner only; and
the lists of all owners together are the parts, each once. -/
structure Inverse (r : Reference α β) (s : Store) (owners : List α) (parts : List β)
    (listOf : α → List β) : Prop where
  list : ∀ a ∈ owners,
    ((r.partsOf a).answer (some s)).result = .ok (.many ((listOf a).map r.part))
  sublist : ∀ a ∈ owners, (listOf a).Sublist parts
  nodup : ∀ a ∈ owners, (listOf a).Nodup
  mem_iff : ∀ a ∈ owners, ∀ b ∈ parts,
    b ∈ listOf a ↔ ((r.ownerOf b).answer (some s)).result = .ok (.one (r.owner a))
  unique : ∀ b ∈ parts, ∃! a, a ∈ owners ∧ b ∈ listOf a
  partition : (owners.flatMap listOf).Perm parts

/-- Questions that are answered by keeping and by looking up have inverse answers. -/
theorem inverse_of_key [Identified α] [Identified β] {r : Reference α β} {s : Store}
    {c : Collection α} {held : Collection β} (key : β → String) (hc : c.Distinct)
    (hheld : held.Distinct) (hkey : ∀ b ∈ held.toList, ∃ a ∈ c.toList, Identified.ident a = key b)
    (hlist : ∀ a, ((r.partsOf a).answer (some s)).result =
      .ok (.many ((held.filter fun b => key b = Identified.ident a).map r.part)))
    (howner : ∀ b ∈ held.toList, ∀ a,
      ((r.ownerOf b).answer (some s)).result = .ok (.one (r.owner a)) ↔
        c.get? (key b) = some a) :
    r.Inverse s c.toList held.toList fun a => held.filter fun b => key b = Identified.ident a where
  list a _ := hlist a
  sublist _ _ := List.filter_sublist
  nodup _ _ := (List.Nodup.of_map _ hheld).filter _
  mem_iff a ha b hb := by rw [Collection.mem_filter_key_iff hc ha hb, howner b hb a]
  unique b hb := by
    obtain ⟨a, ha, hident⟩ := hkey b hb
    refine ⟨a, ⟨ha, Collection.mem_filter_key.2 ⟨hb, hident.symm⟩⟩, ?_⟩
    rintro a' ⟨ha', hmem⟩
    exact hc.eq_of_ident_eq ha' ha
      ((Collection.mem_filter_key.1 hmem).2.symm.trans hident.symm)
  partition := Collection.flatMap_filter_key_perm hc (List.Nodup.of_map _ hheld) hkey

end Reference

/-! ## The three references of a store -/

theorem Answer.result_ofReference_eq_one_iff {found : Option Record} {reference : Dangling}
    {event : Event} {r : Record} :
    (Answer.ofReference found reference event).result = .ok (.one r) ↔ found = some r := by
  cases found with
  | none => simp [Answer.ofReference, Answer.failed]
  | some r' => simp [Answer.ofReference, Answer.found]

namespace Store

variable {s : Store}

/-- No stored post has the identifier of the example post. -/
def SparesExample (s : Store) : Prop := ∀ p ∈ s.posts.toList, p.id ≠ examplePost.id

/-- All references of a store have inverse answers from both ends. -/
structure RelationsInverse (s : Store) : Prop where
  postAuthor : Reference.postAuthor.Inverse s s.users.toList s.posts.toList s.postsOf
  commentAuthor : Reference.commentAuthor.Inverse s s.users.toList s.comments.toList s.commentsBy
  commentPost : Reference.commentPost.Inverse s s.posts.toList s.comments.toList s.commentsOn

theorem relationsInverse (hd : s.Distinct) (hl : s.Linked) (he : s.SparesExample) :
    s.RelationsInverse where
  postAuthor := by
    refine Reference.inverse_of_key Post.author hd.users hd.posts hl.postAuthor
      (fun _ => rfl) fun p hp u => ?_
    -- the example post is told apart by its identifier before the store is asked
    have hstored : (Question.authorOf p).aboutExamples = none := by
      rw [Question.aboutExamples, if_neg (he p hp)]
    simp only [Reference.postAuthor, Question.answer, hstored, Question.answerFrom,
      Answer.result_ofReference_eq_one_iff, Store.authorOf?]
    simp
  commentAuthor := by
    refine Reference.inverse_of_key Comment.author hd.users hd.comments hl.commentAuthor
      (fun _ => rfl) fun c _ u => ?_
    simp only [Reference.commentAuthor, Question.answer, Question.aboutExamples,
      Question.answerFrom, Answer.result_ofReference_eq_one_iff, Store.commenter?]
    simp
  commentPost := by
    refine Reference.inverse_of_key Comment.post hd.posts hd.comments hl.commentPost
      (fun _ => rfl) fun c _ p => ?_
    simp only [Reference.commentPost, Question.answer, Question.aboutExamples,
      Question.answerFrom, Answer.result_ofReference_eq_one_iff, Store.postOf?]
    simp

theorem sparesExample_append {s' : Store} {c : Command} {id : String} (hs : s.SparesExample)
    (hid : id ≠ examplePost.id) (h : s.append? (c.record id) = some s') : s'.SparesExample := by
  cases c with
  | createUser input =>
    obtain ⟨-, rfl⟩ := append?_user.1 h
    exact hs
  | createPost input =>
    obtain ⟨-, rfl⟩ := append?_post.1 h
    intro p hp
    rcases List.mem_append.1 hp with hp | hp
    · exact hs p hp
    · rw [List.mem_singleton.1 hp]
      exact hid
  | createComment input =>
    obtain ⟨-, rfl⟩ := append?_comment.1 h
    exact hs

end Store

/-- The blog's own identifiers are longer than that of the example post. -/
theorem recordId_ne_examplePost (n : Nat) : recordId n ≠ examplePost.id := by
  intro h
  have hlong := le_length_recordId n
  rw [h] at hlong
  exact absurd hlong (by decide +kernel)

namespace Blog

variable {b : Blog}

/-- A source that does not make the identifier of the example post keeps it from stored posts. -/
theorem sparesExample_run (hb : b.IsFresh) (hids : ∀ n, b.ids n ≠ examplePost.id)
    (uses : List Use) : (b.run uses).store.SparesExample := by
  obtain ⟨cs, hcs⟩ := exists_commands b uses
  rw [hcs]
  refine Command.runEach_keeps_made Store.SparesExample cs b
    (fun _ _ n _ _ hs _ => Store.sparesExample_append hs (hids n)) ?_
  rcases hb with hb | hb <;> rw [hb] <;> (unfold Store.SparesExample; decide +kernel)

/-- **Relations from both ends.**  After any history of a fresh blog, from any source that does not
make the identifier of the example post, each of the three references has inverse answers from its
two ends: a stored post is among the posts of a stored user just when its author is found to be
that user, and so for comments, their authors and their posts; and every stored record that refers
to others is in exactly one list, once. -/
theorem relations_are_inverse (hb : b.IsFresh) (hids : ∀ n, b.ids n ≠ examplePost.id)
    (uses : List Use) : (b.run uses).store.RelationsInverse :=
  Store.relationsInverse (distinct_run hb uses) (linked_run hb uses)
    (sparesExample_run hb hids uses)

/-- A post by a sample user, a comment that is refused, and one that is not. -/
def relationUses : List Use := [
  .command true (.createPost ⟨"Notes", "", true, "3"⟩),
  .command true (.createComment ⟨"Too early", "1", "12"⟩),
  .command true (.createComment ⟨"Well said", "3", "10"⟩)]

theorem relations_are_inverse_sample :
    sample.IsFresh ∧ (∀ n, sample.ids n ≠ examplePost.id) ∧
    (sample.run relationUses).store.counts = ⟨3, 4, 5⟩ ∧
    (sample.run relationUses).store.RelationsInverse :=
  ⟨Or.inr rfl, recordId_ne_examplePost, by decide +kernel,
    relations_are_inverse (Or.inr rfl) recordId_ne_examplePost relationUses⟩

/-- A blog that gives its first post the identifier of the example post. -/
def blogOfExample : Blog := .ofStore .sample fun _ => examplePost.id

/-- That post is among the posts of its author, but the example user is found to be its author. -/
example :
    let s := (blogOfExample.run relationUses).store
    let u : User := ⟨"3", "Elon", "elon.musk@tesla.com", none⟩
    let p : Post := ⟨examplePost.id, "Notes", "", true, "3"⟩
    p ∈ s.postsOf u ∧
      ((Question.authorOf p).answer (some s)).result = .ok (.one (.user exampleUser)) := by
  decide +kernel

end Blog
end BlogGraph
