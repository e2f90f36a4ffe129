import BlogGraph.Proofs.Blog.Acceptance

/-!
# The log as a trail

The store keeps the records, and the log tells of them, but neither knows of the other: a command
appends its record in one place and reports it in another, and it may fail before it does either.
Still the two never part.  Whatever becomes of a call, it leaves one of three things
(`Outcome.Accounted`): a new record and the entry of its creation; a refusal and one entry that
gives the reason; or, when the identifier that was made is taken, neither record nor entry.

The reason that an entry gives is checked against the store that the call found
(`Command.RefusedFor`).  A user who is named as the holder of an email is the earliest one who has
it.  What is said of the author and the post of a comment holds of the store.  For the post this
takes identifiers that are not repeated, so that the post that was looked up is the only one that
could be meant.

Main statements:

* `Command.refusedFor_of_refusal?`: the reason that is reported;
* `Command.accounted_run`, `Command.trail_runAll`: one call, and any number of them;
* `Command.creations_runAll`, `Command.records_runEach`: the log and the store after a run;
* `IndexedBlog.log_is_a_faithful_trail`: so it is on every store that was built by writes.
-/

namespace BlogGraph

/-! ## What the log says -/

/-- The entry that tells of a new record. -/
def Record.creation : Record → Log.Notice
  | user u => ⟨Event.userLogger, .info, "User created", [("user_id", .text u.id)]⟩
  | post p =>
    ⟨Event.postLogger, .info, "Post created",
      [("post_id", .text p.id), ("author_id", .text p.author), ("title", .text p.title)]⟩
  | comment c =>
    ⟨Event.commentLogger, .info, "Comment created",
      [("comment_id", .text c.id), ("author_id", .text c.author), ("post_id", .text c.post)]⟩

/-- What the entries of new records say. -/
def creationTexts : List String := ["User created", "Post created", "Comment created"]

/-- What the entries of refused commands say. -/
def refusalTexts : List String := [
  "User creation rejected: email taken",
  "Post creation rejected: author not found",
  "Comment creation rejected: author or post invalid"]

/-- The entries among those of some events that tell of new records. -/
def creations (events : List Event) : List Log.Notice :=
  (events.map Event.notice).filter fun n => n.event ∈ creationTexts

/-- The entries among those of some events that tell of refused commands. -/
def refusals (events : List Event) : List Log.Notice :=
  (events.map Event.notice).filter fun n => n.event ∈ refusalTexts

/-- An entry gives the reason for which a store has to refuse a command. -/
inductive Command.RefusedFor (s : Store) : Command → Log.Notice → Prop
  | email {input : NewUser} {earlier later : List User} {holder : User}
    (users : s.users.toList = earlier ++ holder :: later) (same : holder.email = input.email)
    (first : ∀ u ∈ earlier, u.email ≠ input.email) :
    RefusedFor s (.createUser input) ⟨Event.userLogger, .info,
      "User creation rejected: email taken", [("existing_user_id", .text holder.id)]⟩
  | author {input : NewPost} (unknown : ∀ u ∈ s.users.toList, u.id ≠ input.author) :
    RefusedFor s (.createPost input) ⟨Event.postLogger, .info,
      "Post creation rejected: author not found", [("author_id", .text input.author)]⟩
  | reference {input : NewComment} {authorExists postOpen : Bool}
    (author : authorExists = true ↔ ∃ u ∈ s.users.toList, u.id = input.author)
    (post : postOpen = true ↔ ∃ p ∈ s.posts.toList, p.id = input.post ∧ p.published = true)
    (wrong : authorExists = false ∨ postOpen = false) :
    RefusedFor s (.createComment input) ⟨Event.commentLogger, .info,
      "Comment creation rejected: author or post invalid",
      [("author_id", .text input.author), ("post_id", .text input.post),
        ("author_exists", .bool authorExists), ("post_open", .bool postOpen)]⟩

/-- A call on a store left a record and its entry, a refusal and its reason, or, where its record
had the identifier of a stored one, neither. -/
inductive Outcome.Accounted (s : Store) (c : Command) (o : Outcome) : Prop
  | created {r : Record} (result : o.result = .ok r) (made : ∃ id, r = c.record id)
    (stored : ∀ kind,
      o.blog.store.records kind = s.records kind ++ if r.kind = kind then [r] else [])
    (entries : creations o.events = [r.creation]) (others : refusals o.events = [])
  | refused {refusal : Refusal} {reason : Log.Notice}
    (result : o.result = .error (.refused refusal)) (stored : o.blog.store = s)
    (entries : refusals o.events = [reason]) (reasoned : c.RefusedFor s reason)
    (others : creations o.events = [])
  | taken {r : Record} (result : o.result = .error (.append (.duplicate r.kind r.id)))
    (made : ∃ id, r = c.record id) (held : ∃ old ∈ s.records r.kind, old.id = r.id)
    (stored : o.blog.store = s) (entries : creations o.events = [])
    (others : refusals o.events = [])

/-- The calls of a run, each accounted for on the store that it found. -/
inductive Trail : Store → List Command → List Outcome → Prop
  | nil (s : Store) : Trail s [] []
  | cons {s : Store} {c : Command} {cs : List Command} {o : Outcome} {os : List Outcome}
    (call : o.Accounted s c) (rest : Trail o.blog.store cs os) : Trail s (c :: cs) (o :: os)

/-- The records that calls made, in their order. -/
def recordsOf (os : List Outcome) : List Record := os.filterMap (·.result.toOption)

/-- The log and the store of a blog tell the same of a run of commands.  Every call is accounted
for; the entries of new records are those of the records that the calls made, one by one and in
their order; and these records are what the store has more than before, at the end of each kind. -/
structure Blog.FaithfullyLogged (b : Blog) (cs : List Command) : Prop where
  calls : Trail b.store cs (Command.runAll b cs)
  entries : creations ((Command.runAll b cs).flatMap (·.events)) =
    (recordsOf (Command.runAll b cs)).map Record.creation
  stored : ∀ kind, (Command.runEach b cs).store.records kind =
    b.store.records kind ++ (recordsOf (Command.runAll b cs)).filter fun r => r.kind = kind

/-! ## One call -/

theorem Store.records_append? {s s' : Store} {r : Record} (h : s.append? r = some s')
    (kind : Kind) : s'.records kind = s.records kind ++ if r.kind = kind then [r] else [] := by
  cases r with
  | user u =>
    obtain ⟨-, rfl⟩ := append?_user.1 h
    cases kind <;> simp [records, Record.kind]
  | post p =>
    obtain ⟨-, rfl⟩ := append?_post.1 h
    cases kind <;> simp [records, Record.kind]
  | comment m =>
    obtain ⟨-, rfl⟩ := append?_comment.1 h
    cases kind <;> simp [records, Record.kind]

theorem Collection.exists_of_add?_eq_none {α : Type} [Identified α] {c : Collection α} {a : α}
    (h : c.add? a = none) : ∃ old ∈ c.toList, Identified.ident old = Identified.ident a := by
  rw [add?] at h
  split at h
  · next hhas => exact has_eq_true_iff.1 hhas
  · cases h

/-- A record that cannot be appended has the identifier of a stored one of its kind. -/
theorem Store.exists_of_append?_eq_none {s : Store} {r : Record} (h : s.append? r = none) :
    ∃ old ∈ s.records r.kind, old.id = r.id := by
  cases r with
  | user u =>
    obtain ⟨old, hold, hid⟩ := Collection.exists_of_add?_eq_none (Option.map_eq_none_iff.1 h)
    exact ⟨.user old, List.mem_map_of_mem hold, hid⟩
  | post p =>
    obtain ⟨old, hold, hid⟩ := Collection.exists_of_add?_eq_none (Option.map_eq_none_iff.1 h)
    exact ⟨.post old, List.mem_map_of_mem hold, hid⟩
  | comment m =>
    obtain ⟨old, hold, hid⟩ := Collection.exists_of_add?_eq_none (Option.map_eq_none_iff.1 h)
    exact ⟨.comment old, List.mem_map_of_mem hold, hid⟩

namespace Command

variable {s : Store} {b : Blog} {c : Command}

theorem notice_created (c : Command) (id : String) :
    (c.created id).notice = (c.record id).creation := by
  cases c <;> rfl

/-- The holder of an email is the earliest user who has it. -/
theorem earliest_of_holder? {email : String} {u : User} (h : holder? s email = some u) :
    u.email = email ∧ ∃ earlier later, s.users.toList = earlier ++ u :: later ∧
      ∀ v ∈ earlier, v.email ≠ email := by
  rw [holder?, Collection.filter, List.head?_filter, List.find?_eq_some_iff_append] at h
  obtain ⟨hu, earlier, later, hlist, hearlier⟩ := h
  refine ⟨of_decide_eq_true hu, earlier, later, hlist, fun v hv => ?_⟩
  simpa using hearlier v hv

/-- **The reason that is reported** is the one for which the store has to refuse. -/
theorem refusedFor_of_refusal? {refusal : Refusal} {event : Event} (hs : s.Distinct)
    (h : c.refusal? s = some (refusal, event)) : c.RefusedFor s event.notice := by
  cases c with
  | createUser input =>
    obtain ⟨u, hu, heq⟩ := Option.map_eq_some_iff.1 h
    obtain ⟨-, rfl⟩ := Prod.mk.inj heq
    obtain ⟨hemail, earlier, later, hlist, hearlier⟩ := earliest_of_holder? hu
    exact .email hlist hemail hearlier
  | createPost input =>
    simp only [refusal?, Option.ite_none_left_eq_some, Option.some.injEq, Prod.mk.injEq] at h
    obtain ⟨hunknown, -, rfl⟩ := h
    exact .author (Collection.has_eq_false_iff.1 (eq_false_of_ne_true hunknown))
  | createComment input =>
    simp only [refusal?, Option.ite_none_left_eq_some, Option.some.injEq, Prod.mk.injEq,
      Bool.and_eq_true, not_and_or, Bool.not_eq_true] at h
    obtain ⟨hwrong, -, rfl⟩ := h
    exact .reference Collection.has_eq_true_iff (isOpen_iff hs) hwrong

theorem RefusedFor.texts {n : Log.Notice} (h : c.RefusedFor s n) :
    n.event ∈ refusalTexts ∧ n.event ∉ creationTexts := by
  cases h <;> simp [refusalTexts, creationTexts]

theorem creation_texts (r : Record) :
    r.creation.event ∈ creationTexts ∧ r.creation.event ∉ refusalTexts := by
  cases r <;> simp [Record.creation, refusalTexts, creationTexts]

theorem recordAppended_texts (kind : Kind) (id : String) :
    (Event.recordAppended kind id).notice.event ∉ creationTexts ∧
      (Event.recordAppended kind id).notice.event ∉ refusalTexts := by
  simp [Event.notice, refusalTexts, creationTexts]

/-- **Every call is accounted for.** -/
theorem accounted_run (hs : b.store.Distinct) (c : Command) : (c.run b).Accounted b.store c := by
  obtain ⟨refusal, event, hrefused, hrun⟩ | ⟨-, r, hr, ⟨happend, hrun⟩ | ⟨store, happend, hrun⟩⟩ :=
    c.run_eq b
  · have hreason := refusedFor_of_refusal? hs hrefused
    obtain ⟨hrefusal, hcreation⟩ := hreason.texts
    rw [hrun]
    refine .refused rfl rfl ?_ hreason ?_
    · simp [refusals, hrefusal]
    · simp [creations, hcreation]
  · rw [hrun]
    exact .taken rfl ⟨_, hr⟩ (Store.exists_of_append?_eq_none happend) rfl rfl rfl
  · have hentry := notice_created c (b.ids (b.made + 1))
    rw [hrun]
    refine .created rfl ⟨_, hr⟩ (Store.records_append? happend) ?_ ?_
    · simp [creations, hentry, hr, (creation_texts _).1, (recordAppended_texts _ _).1]
    · simp [refusals, hentry, (creation_texts _).2, (recordAppended_texts _ _).2]

end Command

/-! ## Any number of calls -/

theorem creations_append (es fs : List Event) :
    creations (es ++ fs) = creations es ++ creations fs := by
  simp [creations]

theorem recordsOf_cons (o : Outcome) (os : List Outcome) :
    recordsOf (o :: os) = recordsOf [o] ++ recordsOf os := by
  rw [recordsOf, recordsOf, recordsOf, ← List.filterMap_append, List.singleton_append]

namespace Outcome.Accounted

variable {s : Store} {c : Command} {o : Outcome}

theorem creations_eq (h : o.Accounted s c) :
    creations o.events = (recordsOf [o]).map Record.creation := by
  cases h with
  | created result made stored entries others => simp [recordsOf, result, entries, Except.toOption]
  | refused result stored entries reasoned others =>
    simp [recordsOf, result, others, Except.toOption]
  | taken result made held stored entries others =>
    simp [recordsOf, result, entries, Except.toOption]

theorem records_eq (h : o.Accounted s c) (kind : Kind) : o.blog.store.records kind =
    s.records kind ++ (recordsOf [o]).filter fun r => r.kind = kind := by
  cases h with
  | @created r result made stored entries others =>
    rw [stored kind]
    by_cases hr : r.kind = kind <;> simp [recordsOf, result, Except.toOption, hr]
  | refused result stored entries reasoned others =>
    simp [recordsOf, result, stored, Except.toOption]
  | taken result made held stored entries others =>
    simp [recordsOf, result, stored, Except.toOption]

end Outcome.Accounted

namespace Command

variable {b : Blog}

theorem distinct_run (hs : b.store.Distinct) (c : Command) : (c.run b).blog.store.Distinct := by
  rcases run_store c b with hsame | ⟨-, happend⟩
  · rwa [hsame]
  · exact Store.distinct_append hs happend

theorem trail_runAll (hs : b.store.Distinct) (cs : List Command) :
    Trail b.store cs (runAll b cs) := by
  induction cs generalizing b with
  | nil => exact .nil _
  | cons c rest ih => exact .cons (accounted_run hs c) (ih (distinct_run hs c))

/-- The entries of new records are those of the records that the calls made. -/
theorem creations_runAll (hs : b.store.Distinct) (cs : List Command) :
    creations ((runAll b cs).flatMap (·.events)) =
      (recordsOf (runAll b cs)).map Record.creation := by
  induction cs generalizing b with
  | nil => rfl
  | cons c rest ih =>
    rw [runAll, List.flatMap_cons, creations_append, recordsOf_cons, List.map_append,
      (accounted_run hs c).creations_eq, ih (distinct_run hs c)]

/-- The records that the calls made are what the store has more than before. -/
theorem records_runEach (hs : b.store.Distinct) (cs : List Command) (kind : Kind) :
    (runEach b cs).store.records kind =
      b.store.records kind ++ (recordsOf (runAll b cs)).filter fun r => r.kind = kind := by
  induction cs generalizing b with
  | nil => exact (List.append_nil _).symm
  | cons c rest ih =>
    rw [runEach_cons, ih (distinct_run hs c), runAll, recordsOf_cons, List.filter_append,
      (accounted_run hs c).records_eq, List.append_assoc]

theorem faithfullyLogged (hs : b.store.Distinct) (cs : List Command) : b.FaithfullyLogged cs :=
  ⟨trail_runAll hs cs, creations_runAll hs cs, records_runEach hs cs⟩

end Command

namespace IndexedBlog

/-- **The log is a faithful trail** of every run of commands, on every store that was built by
writes, whatever records were appended to it and whatever identifiers are made. -/
theorem log_is_a_faithful_trail (ids : RecordIds) (writes : List Write) (cs : List Command) :
    (after ids writes).view.FaithfullyLogged cs := by
  have hagrees : (after ids writes).store.Agrees :=
    keeps_after agrees_keptByAppending IndexedStore.agrees_empty ids writes
  exact Command.faithfullyLogged hagrees.distinct_view cs

/-- A source that always makes the identifier of a sample user.  Nothing is reported of the new
user, and the comment is refused for its post alone. -/
example : (Command.runAll (after (fun _ => "1") [.seed]).view [
      .createUser ⟨"Ann", "ann@x.org", none⟩, .createUser ⟨"Bob", "steve.jobs@apple.com", none⟩,
      .createPost ⟨"Notes", "", false, "2"⟩, .createComment ⟨"Mine", "2", "1"⟩]).map (·.events) = [
    [],
    [.emailTaken "1"],
    [.recordAppended .post "1", .postCreated "1" "2" "Notes"],
    [.commentRefused "2" "1" true false]] := by
  decide +kernel

end IndexedBlog
end BlogGraph
