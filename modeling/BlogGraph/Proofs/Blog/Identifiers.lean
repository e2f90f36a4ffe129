import BlogGraph.Proofs.Blog.History
import BlogGraph.Proofs.Text.Hex

/-!
# New identifiers

The source of identifiers stands for one that never repeats itself and knows nothing of the store.
As long as that is so (`Blog.FreshIds`), an identifier is free when it is made, and a command has
only two ways to go: it is refused and leaves the blog as it was, or its record is stored
(`Command.run_cases`).  Appending compares a new identifier with those of one kind only; that it
differs from all others too is due to the source alone.

Main statements:

* `recordId_injective`: the blog's own identifiers tell numbers apart, as numerals do;
* `Blog.freshIds_run`: identifiers stay new through every history;
* `Store.idents_append`: appending adds one identifier to those of all records;
* `Blog.identifiers_never_collide`: no command of a run meets an identifier that is taken, and no
  two records have one identifier.
-/

namespace BlogGraph

/-! ## The identifiers of the blog -/

theorem recordId_injective : Function.Injective recordId := by
  intro m n h
  exact Text.hexLower_injective 12 ((String.append_right_inj _).1 h)

theorem le_length_recordId (n : Nat) : 24 ≤ (recordId n).length := by
  have hfirst : "00000000-0000-4000-8000-".length = 24 := by decide +kernel
  have hlength : (recordId n).length = 24 + (Text.hexLower 12 n).length := by
    rw [← hfirst]
    exact String.length_append _ _
  omega

/-! ## Free identifiers -/

theorem Collection.has_snoc_eq_false {α : Type} [Identified α] {c : Collection α} {a : α}
    {id : String} (hc : c.has id = false) (ha : Identified.ident a ≠ id) :
    Collection.has ⟨c.toList ++ [a]⟩ id = false := by
  rw [Collection.has_eq_false_iff] at hc ⊢
  intro x hx
  rcases List.mem_append.1 hx with hx | hx
  · exact hc x hx
  · rw [List.mem_singleton.1 hx]
    exact ha

namespace Store

variable {s s' : Store} {r : Record} {id : String}

/-- No record of any kind has the identifier. -/
structure Free (s : Store) (id : String) : Prop where
  users : s.users.has id = false
  posts : s.posts.has id = false
  comments : s.comments.has id = false

/-- A record with a free identifier can be appended. -/
theorem exists_append? (h : s.Free r.id) : ∃ s', s.append? r = some s' := by
  cases r with
  | user u => exact ⟨_, append?_user.2 ⟨h.users, rfl⟩⟩
  | post p => exact ⟨_, append?_post.2 ⟨h.posts, rfl⟩⟩
  | comment c => exact ⟨_, append?_comment.2 ⟨h.comments, rfl⟩⟩

/-- An identifier stays free when a record with another one is appended. -/
theorem free_append (h : s.append? r = some s') (hfree : s.Free id) (hne : r.id ≠ id) :
    s'.Free id := by
  cases r with
  | user u =>
    obtain ⟨-, rfl⟩ := append?_user.1 h
    exact ⟨Collection.has_snoc_eq_false hfree.users hne, hfree.posts, hfree.comments⟩
  | post p =>
    obtain ⟨-, rfl⟩ := append?_post.1 h
    exact ⟨hfree.users, Collection.has_snoc_eq_false hfree.posts hne, hfree.comments⟩
  | comment c =>
    obtain ⟨-, rfl⟩ := append?_comment.1 h
    exact ⟨hfree.users, hfree.posts, Collection.has_snoc_eq_false hfree.comments hne⟩

end Store

/-! ## Sources of new identifiers -/

@[simp] theorem Command.record_id (c : Command) (id : String) : (c.record id).id = id := by
  cases c <;> rfl

/-- The identifiers that are still to be made are new: the source does not repeat itself, and no
record has one of them. -/
structure Blog.FreshIds (b : Blog) : Prop where
  injective : Function.Injective b.ids
  free : ∀ n, b.made < n → b.store.Free (b.ids n)

namespace Command

variable {b : Blog}

/-- **What a command comes to**: it is refused and nothing changes, or its record is stored. -/
theorem run_cases (c : Command) (hb : b.FreshIds) :
    (∃ refusal event, c.refusal? b.store = some (refusal, event) ∧
      c.run b = ⟨.error (.refused refusal), b, [event]⟩) ∨
    ∃ s, c.refusal? b.store = none ∧
      b.store.append? (c.record (b.ids (b.made + 1))) = some s ∧
      (c.run b).result = .ok (c.record (b.ids (b.made + 1))) ∧
      (c.run b).blog = { b with store := s, made := b.made + 1 } := by
  obtain ⟨refusal, event, hrefused, hrun⟩ | ⟨hc, r, rfl, ⟨htaken, -⟩ | ⟨s, hs, hrun⟩⟩ := run_eq c b
  · exact Or.inl ⟨refusal, event, hrefused, hrun⟩
  · have hfree : b.store.Free (c.record (b.ids (b.made + 1))).id := by
      rw [record_id]
      exact hb.free _ (Nat.lt_succ_self _)
    obtain ⟨s, hs⟩ := Store.exists_append? hfree
    exact absurd (htaken.symm.trans hs) (by simp)
  · exact Or.inr ⟨s, hc, hs, by rw [hrun], by rw [hrun]⟩

theorem freshIds_run (c : Command) (hb : b.FreshIds) : (c.run b).blog.FreshIds := by
  rcases run_cases c hb with ⟨refusal, event, -, hrun⟩ | ⟨s, -, hs, -, hrun⟩
  · rw [hrun]
    exact hb
  · rw [hrun]
    refine ⟨hb.injective, fun n hn => ?_⟩
    simp only at hn ⊢
    refine Store.free_append hs (hb.free n (by omega)) ?_
    rw [record_id]
    exact hb.injective.ne (by omega)

theorem freshIds_runEach (cs : List Command) (hb : b.FreshIds) : (runEach b cs).FreshIds := by
  induction cs generalizing b with
  | nil => exact hb
  | cons c cs ih => exact ih (freshIds_run c hb)

end Command

namespace Blog

variable {b : Blog}

/-- **Identifiers stay new through every history.** -/
theorem freshIds_run (hb : b.FreshIds) (uses : List Use) : (b.run uses).FreshIds := by
  obtain ⟨cs, hcs⟩ := exists_commands b uses
  rw [hcs]
  exact Command.freshIds_runEach cs hb

/-- The blog's own identifiers are longer than those of the sample data, so they are new to every
fresh blog. -/
theorem freshIds_of_recordId (hb : b.IsFresh) (hids : b.ids = recordId) : b.FreshIds := by
  refine ⟨hids ▸ recordId_injective, fun n _ => ?_⟩
  have hfree {α : Type} [Identified α] {c : Collection α}
      (hc : ∀ a ∈ c.toList, (Identified.ident a).length < 24) : c.has (recordId n) = false := by
    refine Collection.has_eq_false_iff.2 fun a ha heq => ?_
    have hshort := hc a ha
    have hlong := le_length_recordId n
    rw [heq] at hshort
    omega
  rw [hids]
  rcases hb with hb | hb <;> rw [hb] <;>
    exact ⟨hfree (by decide +kernel), hfree (by decide +kernel), hfree (by decide +kernel)⟩

theorem freshIds_sample : sample.FreshIds := freshIds_of_recordId (Or.inr rfl) rfl

end Blog

/-! ## The identifiers of all records -/

namespace Store

variable {s s' : Store} {r : Record} {id : String}

/-- The identifiers of all records, of whatever kind. -/
def idents (s : Store) : List String :=
  s.users.toList.map User.id ++ s.posts.toList.map Post.id ++ s.comments.toList.map Comment.id

theorem Free.not_mem_idents (h : s.Free id) : id ∉ s.idents := by
  have hnone {α : Type} [Identified α] {c : Collection α} (hc : c.has id = false) :
      id ∉ c.toList.map Identified.ident := by
    rw [List.mem_map]
    rintro ⟨a, ha, hid⟩
    exact Collection.has_eq_false_iff.1 hc a ha hid
  rw [idents, List.mem_append, List.mem_append]
  exact not_or.2 ⟨not_or.2 ⟨hnone h.users, hnone h.posts⟩, hnone h.comments⟩

/-- Appending a record adds its identifier to those of all records. -/
theorem idents_append (h : s.append? r = some s') : s'.idents.Perm (r.id :: s.idents) := by
  cases r with
  | user u =>
    obtain ⟨-, rfl⟩ := append?_user.1 h
    simp only [idents, List.map_append, List.map_cons, List.map_nil, List.append_assoc,
      List.singleton_append]
    exact List.perm_middle
  | post p =>
    obtain ⟨-, rfl⟩ := append?_post.1 h
    simp only [idents, List.map_append, List.map_cons, List.map_nil]
    rw [← List.append_assoc, List.append_assoc _ [p.id], List.singleton_append]
    exact List.perm_middle
  | comment m =>
    obtain ⟨-, rfl⟩ := append?_comment.1 h
    simp only [idents, List.map_append, List.map_cons, List.map_nil]
    rw [← List.append_assoc]
    exact List.perm_append_singleton m.id _

theorem nodup_idents_append (hs : s.idents.Nodup) (h : s.append? r = some s')
    (hfree : s.Free r.id) : s'.idents.Nodup :=
  (idents_append h).nodup_iff.2 (List.nodup_cons.2 ⟨hfree.not_mem_idents, hs⟩)

end Store

/-! ## Runs of commands -/

namespace Command

variable {b : Blog}

/-- The one refusal that a command can meet. -/
def ownRefusal : Command → Refusal
  | createUser _ => .emailTaken
  | createPost _ => .unknownAuthor
  | createComment _ => .closedPost

theorem eq_ownRefusal {s : Store} {c : Command} {refusal : Refusal} {event : Event}
    (h : c.refusal? s = some (refusal, event)) : refusal = c.ownRefusal := by
  cases c with
  | createUser input =>
    obtain ⟨u, -, hu⟩ := Option.map_eq_some_iff.1 h
    exact (congrArg Prod.fst hu).symm
  | createPost input =>
    simp only [refusal?, Option.ite_none_left_eq_some] at h
    exact (congrArg Prod.fst (Option.some.inj h.2)).symm
  | createComment input =>
    simp only [refusal?, Option.ite_none_left_eq_some] at h
    exact (congrArg Prod.fst (Option.some.inj h.2)).symm

/-- As long as identifiers are new, a command fails by its own refusal only. -/
theorem eq_refused_of_error (c : Command) (hb : b.FreshIds) {f : Failure}
    (h : (c.run b).result = .error f) : f = .refused c.ownRefusal := by
  rcases run_cases c hb with ⟨refusal, event, hrefused, hrun⟩ | ⟨s, -, -, hresult, -⟩
  · rw [hrun] at h
    rw [← Except.error.inj h, eq_ownRefusal hrefused]
  · exact absurd (hresult.symm.trans h) (by simp)

theorem nodup_idents_run (c : Command) (hb : b.FreshIds) (hs : b.store.idents.Nodup) :
    (c.run b).blog.store.idents.Nodup := by
  rcases run_cases c hb with ⟨refusal, event, -, hrun⟩ | ⟨s, -, happend, -, hblog⟩
  · rw [hrun]
    exact hs
  · rw [hblog]
    refine Store.nodup_idents_append hs happend ?_
    rw [record_id]
    exact hb.free _ (Nat.lt_succ_self _)

/-- In a run of commands each fails by its own refusal only. -/
theorem eq_refused_runAll (cs : List Command) (hb : b.FreshIds) :
    List.Forall₂ (fun c o => ∀ f, o.result = .error f → f = .refused c.ownRefusal) cs
      (runAll b cs) := by
  induction cs generalizing b with
  | nil => exact .nil
  | cons c cs ih => exact .cons (fun f => eq_refused_of_error c hb) (ih (freshIds_run c hb))

theorem nodup_idents_runEach (cs : List Command) (hb : b.FreshIds) (hs : b.store.idents.Nodup) :
    (runEach b cs).store.idents.Nodup := by
  induction cs generalizing b with
  | nil => exact hs
  | cons c cs ih => exact ih (freshIds_run c hb) (nodup_idents_run c hb hs)

end Command

namespace Blog

/-- **Identifiers never collide.**  The blog's own identifiers are new to every fresh blog, however
many are made.  From any source of new identifiers and in any run of commands on a fresh blog, a
command that fails does so by its own refusal, so that no identifier is ever found to be taken; and
the identifiers of all records of all kinds, the samples included, are different from each other. -/
theorem identifiers_never_collide :
    (∀ b : Blog, b.IsFresh → b.ids = recordId → b.FreshIds) ∧
    ∀ b : Blog, b.IsFresh → b.FreshIds → ∀ cs : List Command,
      List.Forall₂ (fun c o => ∀ f, o.result = .error f → f = .refused c.ownRefusal) cs
        (Command.runAll b cs) ∧
      (Command.runEach b cs).store.idents.Nodup := by
  refine ⟨fun b => freshIds_of_recordId, ?_⟩
  intro b hb hids cs
  have hstart : b.store.idents.Nodup := by
    rcases hb with hb | hb <;> rw [hb] <;> decide +kernel
  exact ⟨Command.eq_refused_runAll cs hids, Command.nodup_idents_runEach cs hids hstart⟩

/-- A new user, a user with that email, a post and a comment by nobody, and a post by a sample
user. -/
def numberedCommands : List Command := [
  .createUser ⟨"Ann", "ann@x.org", none⟩,
  .createUser ⟨"Bob", "ann@x.org", none⟩,
  .createPost ⟨"Lost", "", true, "9"⟩,
  .createComment ⟨"Too early", "1", "12"⟩,
  .createPost ⟨"Notes", "", true, "1"⟩]

/-- Two of five commands are accepted, and the identifiers made for them are the first two. -/
theorem identifiers_never_collide_sample :
    sample.IsFresh ∧ sample.FreshIds ∧
    (Command.runAll sample numberedCommands).map (fun o => o.result.toOption.map Record.id) =
      [some "00000000-0000-4000-8000-000000000001", none, none, none,
        some "00000000-0000-4000-8000-000000000002"] ∧
    (Command.runEach sample numberedCommands).store.idents.Nodup := by
  have hids : sample.FreshIds := identifiers_never_collide.1 sample (Or.inr rfl) rfl
  exact ⟨Or.inr rfl, hids, by decide +kernel,
    (identifiers_never_collide.2 sample (Or.inr rfl) hids numberedCommands).2⟩

end Blog
end BlogGraph
