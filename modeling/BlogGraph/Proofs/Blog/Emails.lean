import BlogGraph.Proofs.Blog.Calls
import BlogGraph.Proofs.Blog.Identifiers

/-!
# Emails stay unique

Appending looks at identifiers only, so that no two users have one email is up to the command that
makes new users: it is accepted only when its look over all users finds nobody with the email
(`Store.email_ne_of_accepted`), and no user is ever lost.  Conversely, as long as identifiers are
new, a new user is refused for one reason only, that somebody has the email already.  So every
email that a history asked for is somebody's in the end.

Main statements:

* `Store.emailsDistinct_append`: accepted commands keep emails apart;
* `Command.exists_holder_run`, `Command.exists_holder_runEach`: an email that was asked for is
  somebody's;
* `Blog.emails_stay_unique`: both, for every history of a fresh blog.
-/

namespace BlogGraph

namespace Store

variable {s s' : Store} {email : String}

/-- No two users have one email. -/
def EmailsDistinct (s : Store) : Prop := (s.users.toList.map User.email).Nodup

/-- Some user has the email. -/
def HasHolder (s : Store) (email : String) : Prop := ∃ u ∈ s.users.toList, u.email = email

theorem HasHolder.mono (h : s.HasHolder email) (hgrows : s.Grows s') : s'.HasHolder email := by
  obtain ⟨u, hu, hemail⟩ := h
  exact ⟨u, hgrows.users.subset hu, hemail⟩

theorem hasHolder_of_holder? {u : User} (h : Command.holder? s email = some u) :
    s.HasHolder email := by
  have hmem : u ∈ s.users.toList.filter fun u => u.email = email := List.mem_of_head? h
  obtain ⟨hu, hemail⟩ := List.mem_filter.1 hmem
  exact ⟨u, hu, of_decide_eq_true hemail⟩

/-- A new user is accepted only when nobody has the email. -/
theorem email_ne_of_accepted {input : NewUser}
    (h : (Command.createUser input).refusal? s = none) :
    ∀ u ∈ s.users.toList, u.email ≠ input.email := by
  rw [Command.refusal?, Option.map_eq_none_iff, Command.holder?, List.head?_eq_none_iff,
    Collection.filter, List.filter_eq_nil_iff] at h
  intro u hu hemail
  exact h u hu (decide_eq_true hemail)

/-- The record of an accepted command keeps emails apart. -/
theorem emailsDistinct_append {c : Command} {id : String} (hs : s.EmailsDistinct)
    (hc : c.refusal? s = none) (h : s.append? (c.record id) = some s') : s'.EmailsDistinct := by
  cases c with
  | createUser input =>
    obtain ⟨-, rfl⟩ := append?_user.1 h
    exact nodup_map_snoc hs (email_ne_of_accepted hc)
  | createPost input =>
    obtain ⟨-, rfl⟩ := append?_post.1 h
    exact hs
  | createComment input =>
    obtain ⟨-, rfl⟩ := append?_comment.1 h
    exact hs

theorem emailsDistinct_empty : EmailsDistinct empty := List.nodup_nil

theorem emailsDistinct_sample : EmailsDistinct sample := by
  rw [sample_eq]
  unfold EmailsDistinct
  decide

/-- Where emails are apart, looking for an email that somebody has finds one user. -/
theorem exists_filter_email_eq (hs : s.EmailsDistinct) (h : s.HasHolder email) :
    ∃ u, (s.users.filter fun u => u.email = email) = [u] := by
  obtain ⟨u, hu, rfl⟩ := h
  refine ⟨u, ?_⟩
  obtain ⟨before, after, hsplit⟩ := List.append_of_mem hu
  rw [EmailsDistinct, hsplit, List.map_append, List.map_cons, List.nodup_middle,
    List.nodup_cons, List.mem_append, not_or, List.mem_map, List.mem_map] at hs
  obtain ⟨⟨hbefore, hafter⟩, -⟩ := hs
  -- nobody before or after has the email
  have hb : before.filter (fun v => v.email = u.email) = [] :=
    List.filter_eq_nil_iff.2 fun v hv heq => hbefore ⟨v, hv, of_decide_eq_true heq⟩
  have ha : after.filter (fun v => v.email = u.email) = [] :=
    List.filter_eq_nil_iff.2 fun v hv heq => hafter ⟨v, hv, of_decide_eq_true heq⟩
  rw [Collection.filter, hsplit, List.filter_append, hb, List.nil_append]
  simp [ha]

end Store

namespace Command

variable {b : Blog}

/-- After a new user was asked for, somebody has the email: the new user, or whoever had it. -/
theorem exists_holder_run (hb : b.FreshIds) (input : NewUser) :
    ((createUser input).run b).blog.store.HasHolder input.email := by
  rcases run_cases (createUser input) hb with
    ⟨refusal, event, hrefused, hrun⟩ | ⟨s, -, happend, -, hblog⟩
  · rw [hrun]
    rw [refusal?, Option.map_eq_some_iff] at hrefused
    obtain ⟨u, hu, -⟩ := hrefused
    exact Store.hasHolder_of_holder? hu
  · rw [hblog]
    obtain ⟨-, rfl⟩ := Store.append?_user.1 happend
    exact ⟨_, List.mem_append_right _ (List.mem_singleton_self _), rfl⟩

/-- Every email that was asked for in a run of commands is somebody's at its end. -/
theorem exists_holder_runEach (hb : b.FreshIds) {cs : List Command} {input : NewUser}
    (h : createUser input ∈ cs) : (runEach b cs).store.HasHolder input.email := by
  induction cs generalizing b with
  | nil => exact absurd h (by simp)
  | cons c rest ih =>
    rcases List.mem_cons.1 h with rfl | h
    · exact (exists_holder_run hb input).mono (grows_runEach _ rest)
    · exact ih (freshIds_run c hb) h

end Command

namespace Blog

variable {b : Blog}

theorem emailsDistinct_run (hb : b.IsFresh) (uses : List Use) :
    (b.run uses).store.EmailsDistinct := by
  rw [run_eq_runEach_calls]
  refine Command.runEach_keeps Store.EmailsDistinct _
    (fun _ _ _ _ _ hs => Store.emailsDistinct_append hs) b ?_
  rcases hb with hb | hb <;> rw [hb]
  · exact Store.emailsDistinct_empty
  · exact Store.emailsDistinct_sample

/-- **Emails stay unique.**  After any history of a fresh blog, with any source of identifiers, no
two users have one email.  If the identifiers are new, then for every new user that was asked for
in the history, directly or by a mutation, accepted or refused, exactly one user has the email. -/
theorem emails_stay_unique (hb : b.IsFresh) (uses : List Use) :
    ((b.run uses).store.users.toList.map User.email).Nodup ∧
    (b.FreshIds → ∀ input, .createUser input ∈ b.calls uses →
      ∃ u, ((b.run uses).store.users.filter fun u => u.email = input.email) = [u]) := by
  have hdistinct := emailsDistinct_run hb uses
  refine ⟨hdistinct, fun hids input hcall => ?_⟩
  refine Store.exists_filter_email_eq hdistinct ?_
  rw [run_eq_runEach_calls]
  exact Command.exists_holder_runEach hids hcall

/-- A mutation that asks for two new users with one email, and then for a post. -/
def twiceAsked : GraphQL.Request where
  query := "mutation\x7ba:createUser(data:\x7bname:\"Ann\",email:\"ann@x.org\"\x7d)\x7bid\x7d" ++
    "b:createUser(data:\x7bname:\"Bob\",email:\"ann@x.org\"\x7d)\x7bid\x7d" ++
    "c:createPost(data:\x7btitle:\"T\",body:\"\",published:true,author:\"1\"\x7d)\x7bid\x7d\x7d"
  given := []
  operationName := none

/-- A sample user's email is asked for, then a new one, by two mutations and once more directly. -/
def emailUses : List Use := [
  .command true (.createUser ⟨"Steven", "steve.jobs@apple.com", some 4⟩),
  .request true twiceAsked,
  .command true (.createUser ⟨"Cid", "ann@x.org", none⟩)]

/-- Four new users are asked for, one is stored. -/
theorem emails_stay_unique_sample : sample.IsFresh ∧ sample.FreshIds ∧
    sample.calls emailUses = [
      .createUser ⟨"Steven", "steve.jobs@apple.com", some 4⟩,
      .createUser ⟨"Ann", "ann@x.org", none⟩,
      .createUser ⟨"Bob", "ann@x.org", none⟩,
      .createUser ⟨"Cid", "ann@x.org", none⟩] ∧
    (sample.run emailUses).store.counts = ⟨4, 3, 4⟩ ∧
    ∃ u, ((sample.run emailUses).store.users.filter fun u => u.email = "ann@x.org") = [u] := by
  have hcalls : sample.calls emailUses = [
      .createUser ⟨"Steven", "steve.jobs@apple.com", some 4⟩,
      .createUser ⟨"Ann", "ann@x.org", none⟩,
      .createUser ⟨"Bob", "ann@x.org", none⟩,
      .createUser ⟨"Cid", "ann@x.org", none⟩] := by decide +kernel
  have hcounts : (sample.run emailUses).store.counts = ⟨4, 3, 4⟩ := by
    rw [run_eq_runEach_calls, hcalls]
    decide +kernel
  refine ⟨Or.inr rfl, freshIds_sample, hcalls, hcounts, ?_⟩
  have hasked : Command.createUser ⟨"Cid", "ann@x.org", none⟩ ∈ sample.calls emailUses := by
    rw [hcalls]
    simp
  exact (emails_stay_unique (Or.inr rfl) emailUses).2 freshIds_sample ⟨"Cid", "ann@x.org", none⟩
    hasked

end Blog
end BlogGraph
