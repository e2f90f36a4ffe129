import BlogGraph.Proofs.Blog.Identifiers
import BlogGraph.Proofs.Blog.Indexed

/-!
# Which commands are accepted, and what they change

A command is refused for what the store says at that moment and for nothing else: a new user for an
email that somebody has, a post for an author whom nobody knows, a comment for such an author or for
a post that is not there or not published (`Command.Forbidden`).  That a look at lists and indexes
finds exactly this out rests on identifiers that are not repeated, so that a post that is looked up
is the only one with its identifier; references may dangle.

Only a command that is not refused makes an identifier.  The record under it is stored at the end of
those of its kind, in the list and in the index, or its identifier is taken and nothing is stored.

Main statements:

* `Command.exists_refusal_iff`: the checks of a command find out whether it is forbidden;
* `IndexedStore.extendedBy_append?`: what a store is after one record more;
* `IndexedBlog.commands_are_exact`: all that a command can come to, after every run of writes.
-/

namespace BlogGraph

/-! ## What the rules forbid -/

namespace Command

/-- The rules of the blog forbid a command: the email of the new user is taken, the author of the
post is nobody, or the author of the comment is nobody or its post is none that is published. -/
def Forbidden (s : Store) : Command → Prop
  | createUser input => ∃ u ∈ s.users.toList, u.email = input.email
  | createPost input => ∀ u ∈ s.users.toList, u.id ≠ input.author
  | createComment input =>
    (∀ u ∈ s.users.toList, u.id ≠ input.author) ∨
      ∀ p ∈ s.posts.toList, p.id = input.post → p.published = false

/-- What a forbidden command is refused as. -/
def refusalKind : Command → RefusalKind
  | createUser _ => .conflict
  | createPost _ => .notFound
  | createComment _ => .notFound

theorem kind_ownRefusal (c : Command) : c.ownRefusal.kind = c.refusalKind := by
  cases c <;> rfl

variable {s : Store}

theorem isSome_holder?_iff {email : String} :
    (holder? s email).isSome = true ↔ ∃ u ∈ s.users.toList, u.email = email := by
  rw [holder?, Collection.filter, List.head?_filter, List.find?_isSome]
  simp

/-- Where identifiers are not repeated, a post is open just when a published post has the
identifier. -/
theorem isOpen_iff (hs : s.Distinct) {post : String} : isOpen s post = true ↔
    ∃ p ∈ s.posts.toList, p.id = post ∧ p.published = true := by
  rw [Store.isOpen_eq_true_iff]
  constructor
  · rintro ⟨p, hfound, hpub⟩
    obtain ⟨hp, hid⟩ := Collection.mem_of_get? hfound
    exact ⟨p, hp, hid, hpub⟩
  · rintro ⟨p, hp, hid, hpub⟩
    exact ⟨p, hs.posts.get?_eq_some_iff.2 ⟨hp, hid⟩, hpub⟩

theorem isOpen_eq_false_iff (hs : s.Distinct) {post : String} : isOpen s post = false ↔
    ∀ p ∈ s.posts.toList, p.id = post → p.published = false := by
  rw [← Bool.not_eq_true, isOpen_iff hs]
  simp

/-- **The checks of a command find out whether it is forbidden.** -/
theorem exists_refusal_iff (hs : s.Distinct) (c : Command) :
    (∃ refusal event, c.refusal? s = some (refusal, event)) ↔ c.Forbidden s := by
  cases c with
  | createUser input =>
    rw [Forbidden, ← isSome_holder?_iff, refusal?]
    cases holder? s input.email <;> simp
  | createPost input =>
    have hknown : s.users.has input.author = false ↔ ∀ u ∈ s.users.toList, u.id ≠ input.author :=
      Collection.has_eq_false_iff
    rw [Forbidden, ← hknown, refusal?]
    cases s.users.has input.author <;> simp
  | createComment input =>
    have hknown : s.users.has input.author = false ↔ ∀ u ∈ s.users.toList, u.id ≠ input.author :=
      Collection.has_eq_false_iff
    rw [Forbidden, ← hknown, ← isOpen_eq_false_iff hs, refusal?]
    cases s.users.has input.author <;> cases isOpen s input.post <;> simp

theorem refusal?_of_not_forbidden (hs : s.Distinct) {c : Command} (h : ¬ c.Forbidden s) :
    c.refusal? s = none := by
  rw [Option.eq_none_iff_forall_ne_some]
  rintro ⟨refusal, event⟩ hrefused
  exact h ((exists_refusal_iff hs c).1 ⟨refusal, event, hrefused⟩)

/-- A forbidden command is refused, and leaves the blog as it was. -/
theorem run_of_forbidden {c : Command} {b : Blog} (hs : b.store.Distinct)
    (h : c.Forbidden b.store) :
    (c.run b).result = .error (.refused c.ownRefusal) ∧ (c.run b).blog = b := by
  obtain ⟨refusal, event, hrefused⟩ := (exists_refusal_iff hs c).2 h
  have hown : refusal = c.ownRefusal := eq_ownRefusal hrefused
  rw [run, hrefused, hown]
  exact ⟨rfl, rfl⟩

/-- A command that is not forbidden ends as the appending of its record does. -/
theorem result_of_not_forbidden {c : Command} {b : Blog} (hs : b.store.Distinct)
    (h : ¬ c.Forbidden b.store) : (c.run b).result =
      match b.store.append (.record (c.record (b.ids (b.made + 1)))) with
      | .ok _ => .ok (c.record (b.ids (b.made + 1)))
      | .error e => .error (.append e) := by
  rw [run, refusal?_of_not_forbidden hs h]
  dsimp only
  cases b.store.append (.record (c.record (b.ids (b.made + 1)))) <;> rfl

end Command

/-- A caller gets the record that was stored. -/
theorem Step.result_perform_run (c : Command) (b : Blog) (r : Record)
    (h : (c.run b).result = .ok r) : ((run true c).perform b).result = .ok (.object r) := by
  simp only [perform, Command.runWhen, if_true]
  rw [h]

/-! ## One record more -/

theorem IndexedCollection.get?_add? {α : Type} [Identified α] {c c' : IndexedCollection α} {a : α}
    (h : c.add? a = some c') (id : String) :
    c'.get? id = if id = Identified.ident a then some a else c.get? id := by
  obtain ⟨-, rfl⟩ := add?_eq_some_iff.1 h
  by_cases hid : id = Identified.ident a
  · subst hid
    rw [if_pos rfl]
    exact Named.get?_set ..
  · rw [if_neg hid]
    exact Named.get?_set_ne hid ..

namespace IndexedStore

variable {s s' : IndexedStore} {r : Record}

/-- One store is another with one record more: it stands at the end of the list of its kind, the
index of its kind finds it, and all else is as it was. -/
structure ExtendedBy (s : IndexedStore) (r : Record) (s' : IndexedStore) : Prop where
  records : s'.records r.kind = s.records r.kind ++ [r]
  get? : ∀ id, s'.get? r.kind id = if id = r.id then some r else s.get? r.kind id
  otherRecords : ∀ kind, kind ≠ r.kind → s'.records kind = s.records kind
  otherGet? : ∀ kind, kind ≠ r.kind → ∀ id, s'.get? kind id = s.get? kind id

/-- The list and the index of a kind after one record more. -/
theorem extendedBy_append? (h : s.append? r = some s') : s.ExtendedBy r s' where
  records := by simp [records_append? h]
  otherRecords kind hkind := by simp [records_append? h, Ne.symm hkind]
  get? id := by
    cases r with
    | user u =>
      obtain ⟨c, hc, rfl⟩ := Option.map_eq_some_iff.1 h
      have hget := IndexedCollection.get?_add? hc id
      by_cases hid : id = u.id <;> simp_all [get?, Record.kind, Record.id, Identified.ident]
    | post p =>
      obtain ⟨c, hc, rfl⟩ := Option.map_eq_some_iff.1 h
      have hget := IndexedCollection.get?_add? hc id
      by_cases hid : id = p.id <;> simp_all [get?, Record.kind, Record.id, Identified.ident]
    | comment m =>
      obtain ⟨c, hc, rfl⟩ := Option.map_eq_some_iff.1 h
      have hget := IndexedCollection.get?_add? hc id
      by_cases hid : id = m.id <;> simp_all [get?, Record.kind, Record.id, Identified.ident]
  otherGet? kind hkind id := by
    cases r <;>
      (obtain ⟨c, -, rfl⟩ := Option.map_eq_some_iff.1 h
       cases kind <;> simp_all [get?, Record.kind])

/-- A record whose identifier is taken among its kind is not stored. -/
theorem append_of_taken (h : s.Agrees) (htaken : ∃ old ∈ s.records r.kind, old.id = r.id) :
    s.append (.record r) = (s, some (.duplicate r.kind r.id)) := by
  obtain ⟨old, hmem, hid⟩ := htaken
  have hrefused : (s.append (.record r)).2 = some (.duplicate r.kind r.id) :=
    (refuses_iff h _ _).2 (.taken hmem hid)
  exact Prod.ext (append_unchanged hrefused) hrefused

/-- Any other record is stored. -/
theorem append_of_free (h : s.Agrees) (hfree : ¬ ∃ old ∈ s.records r.kind, old.id = r.id) :
    ∃ s', s.ExtendedBy r s' ∧ s.append (.record r) = (s', none) := by
  obtain ⟨r', s', hitem, happend, heq⟩ | ⟨e, heq⟩ := append_cases s (.record r)
  · obtain rfl := Item.record.inj hitem
    exact ⟨s', extendedBy_append? happend, heq⟩
  · have hrefuses : s.Refuses (.record r) e := (refuses_iff h _ _).1 (congrArg Prod.snd heq)
    cases hrefuses with
    | taken hmem hid => exact absurd ⟨_, hmem, hid⟩ hfree

end IndexedStore

/-! ## Commands on a store with indexes -/

namespace IndexedBlog

variable {b : IndexedBlog} {c : Command}

/-- The record that a command makes under the next identifier. -/
def nextRecord (b : IndexedBlog) (c : Command) : Record := c.record (b.ids (b.made + 1))

/-- A record of the same kind has the next identifier already. -/
def NextTaken (b : IndexedBlog) (c : Command) : Prop :=
  ∃ old ∈ b.store.records (b.nextRecord c).kind, old.id = (b.nextRecord c).id

theorem run_of_forbidden (h : b.store.Agrees) (hc : c.Forbidden b.view.store) : b.run c = b := by
  obtain ⟨refusal, event, hrefused⟩ := (Command.exists_refusal_iff h.distinct_view c).2 hc
  have hview : refusal? b.store c = some refusal := by
    rw [← refusal?_view h]
    exact congrArg (Option.map Prod.fst) hrefused
  rw [run, hview]

theorem run_of_not_forbidden (h : b.store.Agrees) (hc : ¬ c.Forbidden b.view.store) :
    b.run c = append { b with made := b.made + 1 } (.record (b.nextRecord c)) := by
  have hview : refusal? b.store c = none := by
    rw [← refusal?_view h]
    exact congrArg (Option.map Prod.fst) (Command.refusal?_of_not_forbidden h.distinct_view hc)
  rw [run, hview]
  rfl

theorem result_of_not_forbidden (h : b.store.Agrees) (hc : ¬ c.Forbidden b.view.store) :
    (c.run b.view).result =
      match (b.store.append (.record (b.nextRecord c))).2 with
      | none => .ok (b.nextRecord c)
      | some e => .error (.append e) := by
  have hresult := Command.result_of_not_forbidden h.distinct_view hc
  have happend : b.view.store.append (.record (c.record (b.view.ids (b.view.made + 1)))) = _ :=
    IndexedStore.append_view h (.record (b.nextRecord c))
  rw [happend] at hresult
  rw [hresult]
  cases (b.store.append (.record (b.nextRecord c))).2 <;> rfl

/-- **All that a command can come to**: it is refused, its identifier is taken, or its record is
stored. -/
theorem run_cases (h : b.store.Agrees) (c : Command) :
    (c.Forbidden b.view.store ∧ b.run c = b ∧
      (c.run b.view).result = .error (.refused c.ownRefusal)) ∨
    (¬ c.Forbidden b.view.store ∧ (b.run c).made = b.made + 1 ∧
      ((b.NextTaken c ∧ (b.run c).store = b.store ∧ (c.run b.view).result =
          .error (.append (.duplicate (b.nextRecord c).kind (b.nextRecord c).id))) ∨
        (¬ b.NextTaken c ∧ b.store.ExtendedBy (b.nextRecord c) (b.run c).store ∧
          (c.run b.view).result = .ok (b.nextRecord c)))) := by
  by_cases hc : c.Forbidden b.view.store
  · exact Or.inl ⟨hc, run_of_forbidden h hc, (Command.run_of_forbidden h.distinct_view hc).1⟩
  · have hrun := run_of_not_forbidden h hc
    have hresult := result_of_not_forbidden h hc
    refine Or.inr ⟨hc, by rw [hrun]; rfl, ?_⟩
    by_cases htaken : b.NextTaken c
    · have happend := IndexedStore.append_of_taken h htaken
      rw [happend] at hresult
      exact Or.inl ⟨htaken, by rw [hrun, append_store, happend], hresult⟩
    · obtain ⟨s', hextended, happend⟩ := IndexedStore.append_of_free h htaken
      rw [happend] at hresult
      exact Or.inr ⟨htaken, by rw [hrun, append_store, happend]; exact hextended, hresult⟩

/-- A command goes by the rules: it is refused just when they forbid it, and then makes no
identifier and changes nothing.  Otherwise it makes one; if a record of its kind has that, this is
the failure, and if none has, the new record is the result.  Whatever the failure, the store is as
it was; a result extends it by the new record, and is what the caller gets. -/
structure GoesByTheRules (b : IndexedBlog) (c : Command) : Prop where
  refused_iff : (∃ refusal, (c.run b.view).result = .error (.refused refusal) ∧
    refusal.kind = c.refusalKind) ↔ c.Forbidden b.view.store
  refused : c.Forbidden b.view.store → b.run c = b
  made : ¬ c.Forbidden b.view.store → (b.run c).made = b.made + 1
  taken : ¬ c.Forbidden b.view.store → b.NextTaken c → (c.run b.view).result =
    .error (.append (.duplicate (b.nextRecord c).kind (b.nextRecord c).id))
  accepted : ¬ c.Forbidden b.view.store → ¬ b.NextTaken c →
    (c.run b.view).result = .ok (b.nextRecord c)
  failed : ∀ f, (c.run b.view).result = .error f → (b.run c).store = b.store
  stored : ∀ r, (c.run b.view).result = .ok r →
    r = b.nextRecord c ∧ b.store.ExtendedBy r (b.run c).store
  returned : ∀ r, (c.run b.view).result = .ok r →
    ((Step.run true c).perform b.view).result = .ok (.object r)
  view : (c.run b.view).blog = (b.run c).view

theorem run_view (h : b.store.Agrees) (c : Command) : (c.run b.view).blog = (b.run c).view := by
  have hperform := perform_view h (.command c)
  rw [Write.step, Step.perform_run_blog] at hperform
  exact hperform

/-- **Commands are exact**, after every run of writes to a new store, whatever records were appended
and whatever identifiers are made. -/
theorem commands_are_exact (ids : RecordIds) (writes : List Write) (c : Command) :
    (after ids writes).GoesByTheRules c := by
  have h : (after ids writes).store.Agrees :=
    keeps_after agrees_keptByAppending IndexedStore.agrees_empty ids writes
  have hreturned := fun r => Step.result_perform_run c (after ids writes).view r
  have hview := run_view h c
  rcases run_cases h c with ⟨hc, hsame, hresult⟩ |
    ⟨hc, hmade, ⟨htaken, hsame, hresult⟩ | ⟨hfree, hextended, hresult⟩⟩
  · -- refused: the result is no record, and the blog is the one from before
    refine ⟨⟨fun _ => hc, fun _ => ⟨_, hresult, c.kind_ownRefusal⟩⟩, fun _ => hsame,
      fun hn => absurd hc hn, fun hn => absurd hc hn, fun hn => absurd hc hn, ?_, ?_, hreturned,
      hview⟩
    · intro f _
      rw [hsame]
    · intro r hr
      exact absurd (hresult.symm.trans hr) (by simp)
  · -- the identifier is taken: the failure is no refusal, and the store is the one from before
    refine ⟨⟨?_, fun hforbidden => absurd hforbidden hc⟩, fun hforbidden => absurd hforbidden hc,
      fun _ => hmade, fun _ _ => hresult, fun _ hn => absurd htaken hn, fun _ _ => hsame, ?_,
      hreturned, hview⟩
    · rintro ⟨refusal, hr, -⟩
      exact absurd (hresult.symm.trans hr) (by simp)
    · intro r hr
      exact absurd (hresult.symm.trans hr) (by simp)
  · -- the record is stored
    refine ⟨⟨?_, fun hforbidden => absurd hforbidden hc⟩, fun hforbidden => absurd hforbidden hc,
      fun _ => hmade, fun _ htaken => absurd htaken hfree, fun _ _ => hresult, ?_, ?_, hreturned,
      hview⟩
    · rintro ⟨refusal, hr, -⟩
      exact absurd (hresult.symm.trans hr) (by simp)
    · intro f hf
      exact absurd (hresult.symm.trans hf) (by simp)
    · intro r hr
      obtain rfl := Except.ok.inj (hresult.symm.trans hr)
      exact ⟨rfl, hextended⟩

/-- A post by nobody, a user, and a source that always makes their identifier. -/
def crowdedBlog : IndexedBlog := after (fun _ => "1") [
  .append (.record (.post ⟨"1", "Lost", "", true, "9"⟩)),
  .append (.record (.user ⟨"1", "Ann", "ann@x.org", none⟩))]

/-- The identifier is taken among users and posts, and free among comments. -/
example : ([.createUser ⟨"Bob", "bob@x.org", none⟩, .createPost ⟨"Notes", "", true, "1"⟩,
      .createComment ⟨"Found", "1", "1"⟩].map fun c =>
        ((crowdedBlog.run c).made, (crowdedBlog.run c).store.view.counts)) =
    [(1, ⟨1, 1, 0⟩), (1, ⟨1, 1, 0⟩), (1, ⟨1, 1, 1⟩)] := by
  decide +kernel

end IndexedBlog
end BlogGraph
