import BlogGraph.Proofs.Blog.Trail

/-!
# Loading the sample data

The sample data can be loaded into any store, not only into a new one.  It is appended a record at a
time, users first, then posts, then comments; nothing is looked up beforehand, and what was appended
stays when a later record fails.  Still the outcome can be told from the store as it was.  No two
sample records of a kind share an identifier, so none of them gets in the way of another, and the
loading stops at the first one whose identifier was taken before (`Store.appendAll_free`,
`Store.appendAll_taken`).

Since records are never taken back, a store that was loaded once refuses the first sample user ever
after.

Main statements:

* `Store.appendAll_free`, `Store.appendAll_taken`: records one after the other, on any store;
* `IndexedBlog.seeding_stops_at_first_taken`: the sample data, on every store built by writes.
-/

namespace BlogGraph

/-! ## Records one after the other -/

/-- Two records of one kind with one identifier. -/
def Record.Clashes (q r : Record) : Prop := q.kind = r.kind ∧ q.id = r.id

namespace Store

variable {s s' : Store} {q r : Record} {before rest : List Record}

/-- A stored record of the same kind has the identifier of a record. -/
def Takes (s : Store) (r : Record) : Prop := ∃ old ∈ s.records r.kind, old.id = r.id

theorem append?_eq_none_iff : s.append? r = none ↔ s.Takes r := by
  refine ⟨exists_of_append?_eq_none, fun htaken => ?_⟩
  by_contra hne
  obtain ⟨s', happend⟩ := Option.ne_none_iff_exists'.1 hne
  obtain ⟨old, hold, hid⟩ := htaken
  cases r with
  | user u =>
    obtain ⟨v, hv, rfl⟩ := List.mem_map.1 hold
    exact Collection.has_eq_false_iff.1 (append?_user.1 happend).1 v hv hid
  | post p =>
    obtain ⟨v, hv, rfl⟩ := List.mem_map.1 hold
    exact Collection.has_eq_false_iff.1 (append?_post.1 happend).1 v hv hid
  | comment m =>
    obtain ⟨v, hv, rfl⟩ := List.mem_map.1 hold
    exact Collection.has_eq_false_iff.1 (append?_comment.1 happend).1 v hv hid

/-- After one record more, what was taken is taken, and the identifier of the new record is. -/
theorem takes_append? (h : s.append? q = some s') : s'.Takes r ↔ s.Takes r ∨ q.Clashes r := by
  rw [Takes, records_append? h, Takes, Record.Clashes]
  by_cases hkind : q.kind = r.kind
  · simp [hkind, or_and_right, exists_or]
  · simp [hkind]

/-- Loading stops at a record whose identifier is taken. -/
theorem appendAll_taken (h : s.Takes r) (rest : List Record) :
    s.appendAll (r :: rest) = ⟨s, [], some (.duplicate r.kind r.id)⟩ := by
  rw [appendAll, append, append?_eq_none_iff.2 h]

/-- Records whose identifiers are free, and that share none among themselves, are appended all of
them, and loading goes on with the rest. -/
theorem appendAll_free (hfree : ∀ q ∈ before, ¬ s.Takes q)
    (hapart : before.Pairwise fun q r => ¬ q.Clashes r) (rest : List Record) :
    ∃ s' : Store,
      (∀ kind, s'.records kind = s.records kind ++ before.filter fun r => r.kind = kind) ∧
      (s.appendAll (before ++ rest)).store = (s'.appendAll rest).store ∧
      (s.appendAll (before ++ rest)).failure = (s'.appendAll rest).failure := by
  induction before generalizing s with
  | nil => exact ⟨s, fun kind => (List.append_nil _).symm, rfl, rfl⟩
  | cons q before ih =>
    obtain ⟨hq, hapart⟩ := List.pairwise_cons.1 hapart
    have hfirst : s.append? q ≠ none :=
      fun hnone => hfree q List.mem_cons_self (append?_eq_none_iff.1 hnone)
    obtain ⟨after, happend⟩ := Option.ne_none_iff_exists'.1 hfirst
    -- the new record clashes with none of those to come, so their identifiers are still free
    have hstill : ∀ r ∈ before, ¬ after.Takes r := by
      intro r hr htaken
      rcases (takes_append? happend).1 htaken with htaken | hclash
      · exact hfree r (List.mem_cons_of_mem _ hr) htaken
      · exact hq r hr hclash
    obtain ⟨s', hrecords, hstore, hfailure⟩ := ih hstill hapart
    refine ⟨s', fun kind => ?_, ?_, ?_⟩
    · rw [hrecords, records_append? happend, List.append_assoc]
      by_cases hkind : q.kind = kind <;> simp [hkind]
    · rw [List.cons_append, appendAll, append, happend]
      exact hstore
    · rw [List.cons_append, appendAll, append, happend]
      exact hfailure

end Store

/-! ## The sample data -/

/-- The sample records share no identifier among those of a kind. -/
theorem Seed.records_apart : Seed.records.Pairwise fun q r => ¬ q.Clashes r := by
  unfold Record.Clashes
  decide

/-- What loading the sample data returns, or why it fails. -/
theorem Step.perform_seed_result (b : Blog) : (Step.seed.perform b).result =
    match (b.store.appendAll Seed.records).failure with
    | some e => .error (.append e)
    | none => .ok (.counts (b.store.appendAll Seed.records).store.counts) := by
  have hfailure : b.store.seed.failure = (b.store.appendAll Seed.records).failure := by
    rw [Store.seed]
    cases h : (b.store.appendAll Seed.records).failure with
    | some e => exact h
    | none => rfl
  rw [← Store.seed_store, ← hfailure]
  simp only [Step.perform]
  cases b.store.seed.failure <;> rfl

namespace IndexedStore

/-- No identifier of a sample record is that of a stored record of its kind. -/
structure SparesSamples (s : IndexedStore) : Prop where
  users : ∀ u ∈ Seed.users, ∀ old ∈ s.users.toList, old.id ≠ u.id
  posts : ∀ p ∈ Seed.posts, ∀ old ∈ s.posts.toList, old.id ≠ p.id
  comments : ∀ m ∈ Seed.comments, ∀ old ∈ s.comments.toList, old.id ≠ m.id

/-- A store is another with the sample records after its own, kind by kind. -/
structure HoldsSamplesAfter (s' s : IndexedStore) : Prop where
  users : s'.users.toList = s.users.toList ++ Seed.users
  posts : s'.posts.toList = s.posts.toList ++ Seed.posts
  comments : s'.comments.toList = s.comments.toList ++ Seed.comments

theorem sparesSamples_iff {s : IndexedStore} :
    s.SparesSamples ↔ ∀ r ∈ Seed.records, ¬ s.view.Takes r := by
  constructor
  · rintro ⟨husers, hposts, hcomments⟩ r hr ⟨old, hold, hid⟩
    rw [Seed.records, List.mem_append, List.mem_append] at hr
    rcases hr with (hr | hr) | hr
    · obtain ⟨u, hu, rfl⟩ := List.mem_map.1 hr
      obtain ⟨v, hv, rfl⟩ := List.mem_map.1 hold
      exact husers u hu v hv hid
    · obtain ⟨p, hp, rfl⟩ := List.mem_map.1 hr
      obtain ⟨v, hv, rfl⟩ := List.mem_map.1 hold
      exact hposts p hp v hv hid
    · obtain ⟨m, hm, rfl⟩ := List.mem_map.1 hr
      obtain ⟨v, hv, rfl⟩ := List.mem_map.1 hold
      exact hcomments m hm v hv hid
  · intro hfree
    refine ⟨fun u hu old hold hid => ?_, fun p hp old hold hid => ?_, fun m hm old hold hid => ?_⟩
    · exact hfree (.user u) (by simp [Seed.records, hu]) ⟨.user old, List.mem_map_of_mem hold, hid⟩
    · exact hfree (.post p) (by simp [Seed.records, hp]) ⟨.post old, List.mem_map_of_mem hold, hid⟩
    · exact hfree (.comment m) (by simp [Seed.records, hm])
        ⟨.comment old, List.mem_map_of_mem hold, hid⟩

theorem holdsSamplesAfter_of_records {s s' : IndexedStore} (h : ∀ kind, s'.view.records kind =
    s.view.records kind ++ Seed.records.filter fun r => r.kind = kind) :
    s'.HoldsSamplesAfter s := by
  have hinjective {α : Type} {f : α → Record} (hf : ∀ a b, f a = f b → a = b) {l own new : List α}
      (heq : l.map f = own.map f ++ new.map f) : l = own ++ new := by
    rw [← List.map_append] at heq
    exact List.map_injective_iff.2 (fun a b => hf a b) heq
  refine ⟨hinjective (fun _ _ => Record.user.inj) (h .user), ?_, ?_⟩
  · exact hinjective (fun _ _ => Record.post.inj) (h .post)
  · exact hinjective (fun _ _ => Record.comment.inj) (h .comment)

end IndexedStore

/-! ## Stores built by writes -/

namespace IndexedBlog

variable {b : IndexedBlog}

/-- Loading the sample data goes through it in its order and stops at the first record whose
identifier is taken.  It succeeds just when there is none, and then the sample records stand after
the own ones.  Otherwise it fails with that record, and those before it have been appended.  In
either case list and index agree.  A store that was loaded once fails with the first sample user
ever after, whatever was written in between, and is left as it is. -/
structure SeedsInTurn (b : IndexedBlog) : Prop where
  succeeds_iff : (∃ v, (Step.seed.perform b.view).result = .ok v) ↔ b.store.SparesSamples
  loaded : b.store.SparesSamples → (b.perform .seed).store.HoldsSamplesAfter b.store
  stopped : ¬ b.store.SparesSamples → ∃ before r rest, Seed.records = before ++ r :: rest ∧
    (∀ q ∈ before, ¬ b.view.store.Takes q) ∧ b.view.store.Takes r ∧
    (Step.seed.perform b.view).result = .error (.append (.duplicate r.kind r.id)) ∧
    ∀ kind, (b.perform .seed).store.records kind =
      b.store.records kind ++ before.filter fun r => r.kind = kind
  agrees : (b.perform .seed).store.Agrees
  view : (Step.seed.perform b.view).blog = (b.perform .seed).view
  again : b.store.SparesSamples → ∀ writes : List Write,
    let later := writes.foldl perform (b.perform .seed)
    (later.perform .seed).store = later.store ∧
      (Step.seed.perform later.view).result = .error (.append (.duplicate .user "1"))

theorem view_seed (h : b.store.Agrees) :
    (b.perform .seed).store.view = (b.store.view.appendAll Seed.records).store :=
  (congrArg Blog.store (appendAll_view Seed.records h)).symm

/-- Where no identifier of a sample record is taken, all of them are appended. -/
theorem seed_of_spares (h : b.store.Agrees) (hspares : b.store.SparesSamples) :
    (b.store.view.appendAll Seed.records).failure = none ∧
      (b.perform .seed).store.HoldsSamplesAfter b.store := by
  obtain ⟨s', hrecords, hstore, hfailure⟩ := Store.appendAll_free
    (IndexedStore.sparesSamples_iff.1 hspares) Seed.records_apart []
  rw [List.append_nil] at hstore hfailure
  refine ⟨hfailure, IndexedStore.holdsSamplesAfter_of_records fun kind => ?_⟩
  rw [view_seed h, hstore]
  exact hrecords kind

/-- Where one is taken, there is a first sample record of which that is so. -/
theorem exists_first_taken {s : IndexedStore} (h : ¬ s.SparesSamples) :
    ∃ before r rest, Seed.records = before ++ r :: rest ∧ (∀ q ∈ before, ¬ s.view.Takes q) ∧
      s.view.Takes r := by
  classical
  rw [IndexedStore.sparesSamples_iff] at h
  push Not at h
  obtain ⟨r, hr, htaken⟩ := h
  have hfound : (Seed.records.find? fun r => s.view.Takes r).isSome :=
    List.find?_isSome.2 ⟨r, hr, decide_eq_true htaken⟩
  obtain ⟨first, hfirst⟩ := Option.isSome_iff_exists.1 hfound
  obtain ⟨hfirst, before, rest, hsplit, hbefore⟩ := List.find?_eq_some_iff_append.1 hfirst
  exact ⟨before, first, rest, hsplit, fun q hq => by simpa using hbefore q hq,
    of_decide_eq_true hfirst⟩

/-- Loading stops at the first sample record whose identifier is taken. -/
theorem seed_of_taken (h : b.store.Agrees) {before rest : List Record} {r : Record}
    (hsplit : Seed.records = before ++ r :: rest) (hfree : ∀ q ∈ before, ¬ b.store.view.Takes q)
    (htaken : b.store.view.Takes r) :
    (b.store.view.appendAll Seed.records).failure = some (.duplicate r.kind r.id) ∧
      ∀ kind, (b.perform .seed).store.records kind =
        b.store.records kind ++ before.filter fun r => r.kind = kind := by
  have hapart : before.Pairwise fun q r => ¬ q.Clashes r := by
    have happart := Seed.records_apart
    rw [hsplit] at happart
    exact (List.pairwise_append.1 happart).1
  obtain ⟨s', hrecords, hstore, hfailure⟩ := Store.appendAll_free hfree hapart (r :: rest)
  have hstays : s'.Takes r := by
    obtain ⟨old, hold, hid⟩ := htaken
    exact ⟨old, by rw [hrecords]; exact List.mem_append_left _ hold, hid⟩
  rw [← hsplit, Store.appendAll_taken hstays] at hstore hfailure
  refine ⟨hfailure, fun kind => ?_⟩
  rw [IndexedStore.records_eq_view, view_seed h, hstore]
  exact hrecords kind

/-- A user has the identifier of the first sample user. -/
def HasFirstSample (s : IndexedStore) : Prop := ∃ u ∈ s.users.toList, u.id = "1"

theorem hasFirstSample_keptByAppending : KeptByAppending fun s _ => HasFirstSample s := by
  rintro s attempts item ⟨u, hu, hid⟩
  obtain ⟨r, s', rfl, happend, heq⟩ | ⟨e, heq⟩ := IndexedStore.append_cases s item
  · have hrecords := IndexedStore.records_append? happend .user
    have hmem : Record.user u ∈ s'.records .user := by
      rw [hrecords]
      exact List.mem_append_left _ (List.mem_map_of_mem hu)
    obtain ⟨v, hv, heqv⟩ := List.mem_map.1 hmem
    obtain rfl := Record.user.inj heqv
    rw [heq]
    exact ⟨v, hv, hid⟩
  · rw [heq]
    exact ⟨u, hu, hid⟩

/-- A blog that has the first sample user refuses the sample data and is left as it is. -/
theorem seed_of_hasFirstSample (h : b.store.Agrees) (hfirst : HasFirstSample b.store) :
    (b.perform .seed).store = b.store ∧
      (Step.seed.perform b.view).result = .error (.append (.duplicate .user "1")) := by
  obtain ⟨u, hu, hid⟩ := hfirst
  obtain ⟨first, rest, hrecords, hkind, hfirstId⟩ : ∃ r rest, Seed.records = r :: rest ∧
      r.kind = .user ∧ r.id = "1" := ⟨_, _, rfl, rfl, rfl⟩
  have htaken : ∃ old ∈ b.store.records first.kind, old.id = first.id := by
    rw [hkind, hfirstId]
    exact ⟨.user u, List.mem_map_of_mem hu, hid⟩
  constructor
  · have happend := IndexedStore.append_of_taken h htaken
    rw [perform, hrecords, appendAll, happend]
    exact congrArg Prod.fst happend
  · have hview : b.store.view.Takes first := htaken
    have hstops : b.store.view.appendAll Seed.records = _ :=
      (congrArg _ hrecords).trans (Store.appendAll_taken hview rest)
    rw [Step.perform_seed_result, view, hstops, hkind, hfirstId]

/-- **The sample data is loaded up to the first record whose identifier is taken**, into every store
that was built by writes. -/
theorem seeding_stops_at_first_taken (ids : RecordIds) (writes : List Write) :
    (after ids writes).SeedsInTurn := by
  have h : (after ids writes).store.Agrees :=
    keeps_after agrees_keptByAppending IndexedStore.agrees_empty ids writes
  have hagrees : ((after ids writes).perform .seed).store.Agrees :=
    keeps_perform agrees_keptByAppending .seed h
  refine ⟨⟨?_, fun hspares => ?_⟩, fun hspares => (seed_of_spares h hspares).2, fun hnot => ?_,
    hagrees, perform_view h .seed, fun hspares more => ?_⟩
  · -- a failed loading has stopped at a record, so one that succeeded has met none
    rintro ⟨v, hv⟩
    by_contra hnot
    obtain ⟨before, r, rest, hsplit, hfree, htaken⟩ := exists_first_taken hnot
    have hfailure := (seed_of_taken h hsplit hfree htaken).1
    rw [Step.perform_seed_result, view, hfailure] at hv
    cases hv
  · have hfailure := (seed_of_spares h hspares).1
    refine ⟨.counts ((after ids writes).store.view.appendAll Seed.records).store.counts, ?_⟩
    rw [Step.perform_seed_result, view, hfailure]
  · obtain ⟨before, r, rest, hsplit, hfree, htaken⟩ := exists_first_taken hnot
    obtain ⟨hfailure, hrecords⟩ := seed_of_taken h hsplit hfree htaken
    refine ⟨before, r, rest, hsplit, hfree, htaken, ?_, hrecords⟩
    rw [Step.perform_seed_result, view, hfailure]
  · have hfirst : HasFirstSample ((after ids writes).perform .seed).store := by
      refine ⟨⟨"1", "Steve", "steve.jobs@apple.com", some 55⟩, ?_, rfl⟩
      rw [(seed_of_spares h hspares).2.users]
      exact List.mem_append_right _ List.mem_cons_self
    exact seed_of_hasFirstSample (keeps_foldl agrees_keptByAppending more hagrees)
      (keeps_foldl hasFirstSample_keptByAppending more hfirst)

/-- A post that has the identifier of a sample user is not in the way, one with that of the second
sample post is: the users and the first sample post are loaded. -/
example : ((after recordId [.append (.record (.post ⟨"1", "", "", true, ""⟩)),
    .append (.record (.post ⟨"11", "", "", true, ""⟩))]).perform .seed).store.view.counts =
      ⟨3, 3, 0⟩ := by
  decide +kernel

end IndexedBlog
end BlogGraph
