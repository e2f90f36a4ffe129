import BlogGraph.Blog.Indexed
import BlogGraph.Proofs.Blog.Growth

/-!
# List and index agree

A collection is kept twice, as a list and as an index.  That the two tell the same (`Agrees`) is
nowhere checked; it holds because appending asks the index whether an identifier is taken and then
writes to both.  As long as it holds, a store with indexes does what the store without them does,
value by value (`IndexedStore.append_view`), and so does a blog, write by write
(`IndexedBlog.perform_view`).

Everything a write does to the records, it does by attempts to append.  So what one attempt keeps,
every run of writes keeps (`IndexedBlog.keeps_after`): among it, that the records of a kind are
those that the attempts stored.

Main statements:

* `IndexedStore.agrees_append?`, `IndexedStore.append_view`: one record more;
* `IndexedBlog.perform_view`: a write with and without indexes;
* `IndexedBlog.records_are_kept`: lists, index and attempts after any run of writes.
-/

namespace BlogGraph

/-! ## Collections -/

namespace IndexedCollection

variable {α : Type} [Identified α] {c c' : IndexedCollection α} {a : α}

/-- The identifiers of the list are not repeated, and the index finds what the list has. -/
structure Agrees (c : IndexedCollection α) : Prop where
  distinct : c.view.Distinct
  get?_view : ∀ id, c.view.get? id = c.get? id

theorem agrees_empty : (empty : IndexedCollection α).Agrees := ⟨List.nodup_nil, fun _ => rfl⟩

theorem add?_eq_some_iff : c.add? a = some c' ↔ c.get? (Identified.ident a) = none ∧
    c' = ⟨c.toList ++ [a], c.index.set (Identified.ident a) a⟩ := by
  rw [add?]
  cases c.get? (Identified.ident a) <;> simp [eq_comm]

/-- Adding with an index is adding without one. -/
theorem add?_view (h : c.Agrees) (a : α) : (c.add? a).map view = c.view.add? a := by
  rw [add?, Collection.add?, Collection.has, h.get?_view]
  split <;> rfl

theorem agrees_add? (h : c.Agrees) (hadd : c.add? a = some c') : c'.Agrees := by
  obtain ⟨hfree, rfl⟩ := add?_eq_some_iff.1 hadd
  have hnone : c.view.has (Identified.ident a) = false := by
    rw [Collection.has, h.get?_view, hfree]
    rfl
  refine ⟨h.distinct.snoc hnone, fun id => ?_⟩
  have hlist : Collection.get? ⟨c.toList ++ [a]⟩ id =
      (c.get? id).or ([a].find? fun a => Identified.ident a = id) := by
    rw [← h.get?_view]
    exact List.find?_append
  rw [view, hlist, get?, get?]
  by_cases hid : Identified.ident a = id
  · subst hid
    rw [Named.get?_set, ← get?, hfree]
    simp
  · rw [Named.get?_set_ne (Ne.symm hid)]
    simp [hid]

end IndexedCollection

/-! ## Stores -/

namespace IndexedStore

variable {s s' : IndexedStore} {r : Record}

/-- List and index agree in every collection. -/
structure Agrees (s : IndexedStore) : Prop where
  users : s.users.Agrees
  posts : s.posts.Agrees
  comments : s.comments.Agrees

theorem agrees_empty : empty.Agrees :=
  ⟨IndexedCollection.agrees_empty, IndexedCollection.agrees_empty, IndexedCollection.agrees_empty⟩

theorem agrees_append? (h : s.Agrees) (happend : s.append? r = some s') : s'.Agrees := by
  cases r with
  | user u =>
    obtain ⟨c, hc, rfl⟩ := Option.map_eq_some_iff.1 happend
    exact ⟨IndexedCollection.agrees_add? h.users hc, h.posts, h.comments⟩
  | post p =>
    obtain ⟨c, hc, rfl⟩ := Option.map_eq_some_iff.1 happend
    exact ⟨h.users, IndexedCollection.agrees_add? h.posts hc, h.comments⟩
  | comment m =>
    obtain ⟨c, hc, rfl⟩ := Option.map_eq_some_iff.1 happend
    exact ⟨h.users, h.posts, IndexedCollection.agrees_add? h.comments hc⟩

theorem append?_view (h : s.Agrees) (r : Record) : (s.append? r).map view = s.view.append? r := by
  cases r <;> simp only [append?, Store.append?, view, ← IndexedCollection.add?_view h.users,
    ← IndexedCollection.add?_view h.posts, ← IndexedCollection.add?_view h.comments,
    Option.map_map] <;> rfl

/-- An appended record stands at the end of those of its kind, and the other kinds stay as they
are. -/
theorem records_append? (happend : s.append? r = some s') (kind : Kind) :
    s'.records kind = s.records kind ++ if r.kind = kind then [r] else [] := by
  cases r <;>
    (obtain ⟨c, hc, rfl⟩ := Option.map_eq_some_iff.1 happend
     obtain ⟨-, rfl⟩ := IndexedCollection.add?_eq_some_iff.1 hc
     cases kind <;> simp [records, Record.kind])

/-- All that an attempt to append can do: it stores a record, or it fails and changes nothing. -/
theorem append_cases (s : IndexedStore) (item : Item) :
    (∃ r s', item = .record r ∧ s.append? r = some s' ∧ s.append item = (s', none)) ∨
      ∃ e, s.append item = (s, some e) := by
  cases item with
  | other typeName => exact Or.inr ⟨_, rfl⟩
  | record r =>
    cases happend : s.append? r with
    | some s' => exact Or.inl ⟨r, s', rfl, happend, by simp only [append, happend]⟩
    | none => exact Or.inr ⟨.duplicate r.kind r.id, by simp only [append, happend]⟩

/-- A failed attempt changes nothing. -/
theorem append_unchanged {item : Item} {e : AppendError} (h : (s.append item).2 = some e) :
    (s.append item).1 = s := by
  obtain ⟨r, s', -, -, heq⟩ | ⟨e', heq⟩ := append_cases s item
  · rw [heq] at h
    cases h
  · rw [heq]

theorem agrees_append (h : s.Agrees) (item : Item) : (s.append item).1.Agrees := by
  obtain ⟨r, s', -, happend, heq⟩ | ⟨e, heq⟩ := append_cases s item
  · rw [heq]
    exact agrees_append? h happend
  · rw [heq]
    exact h

/-- Appending with indexes is appending without them. -/
theorem append_view (h : s.Agrees) (item : Item) : s.view.append item =
    match (s.append item).2 with
    | none => .ok (s.append item).1.view
    | some e => .error e := by
  cases item with
  | other typeName => rfl
  | record r =>
    rw [Store.append, append, ← append?_view h]
    cases s.append? r <;> rfl

/-! ### What is found -/

theorem Agrees.distinct_view (h : s.Agrees) : s.view.Distinct :=
  ⟨h.users.distinct, h.posts.distinct, h.comments.distinct⟩

theorem records_eq_view (s : IndexedStore) (kind : Kind) :
    s.records kind = s.view.records kind := by
  cases kind <;> rfl

theorem get?_view (h : s.Agrees) (kind : Kind) (id : String) :
    s.view.get? kind id = s.get? kind id := by
  cases kind with
  | user => exact congrArg (Option.map Record.user) (h.users.get?_view id)
  | post => exact congrArg (Option.map Record.post) (h.posts.get?_view id)
  | comment => exact congrArg (Option.map Record.comment) (h.comments.get?_view id)

theorem size_eq (s : IndexedStore) (kind : Kind) : s.size kind = (s.records kind).length := by
  cases kind <;> simp [size, records, IndexedCollection.size]

end IndexedStore

namespace Store

variable {s : Store}

/-- The first record of a kind with an identifier is the one that is looked up. -/
theorem get?_eq_head? (s : Store) (kind : Kind) (id : String) :
    s.get? kind id = ((s.records kind).filter fun r => r.id = id).head? := by
  have hmap {α : Type} [Identified α] (f : α → Record)
      (hf : ∀ a, (f a).id = Identified.ident a) (c : Collection α) :
      (c.get? id).map f = ((c.toList.map f).filter fun r => r.id = id).head? := by
    rw [List.head?_filter, List.find?_map, Collection.get?]
    congr 2
    funext a
    simp [hf]
  cases kind with
  | user => exact hmap Record.user (fun _ => rfl) s.users
  | post => exact hmap Record.post (fun _ => rfl) s.posts
  | comment => exact hmap Record.comment (fun _ => rfl) s.comments

theorem Distinct.nodup_records (h : s.Distinct) (kind : Kind) :
    ((s.records kind).map Record.id).Nodup := by
  cases kind <;> rw [records, List.map_map]
  · exact h.users
  · exact h.posts
  · exact h.comments

/-- Where identifiers are not repeated, the record of a kind with an identifier is found. -/
theorem Distinct.get?_eq_some_iff (h : s.Distinct) {kind : Kind} {id : String} {r : Record} :
    s.get? kind id = some r ↔ r ∈ s.records kind ∧ r.id = id := by
  have hmap {α : Type} [Identified α] (f : α → Record)
      (hf : ∀ a, (f a).id = Identified.ident a) {c : Collection α} (hc : c.Distinct) :
      (c.get? id).map f = some r ↔ r ∈ c.toList.map f ∧ r.id = id := by
    rw [Option.map_eq_some_iff, List.mem_map]
    constructor
    · rintro ⟨a, ha, rfl⟩
      obtain ⟨hmem, hid⟩ := hc.get?_eq_some_iff.1 ha
      exact ⟨⟨a, hmem, rfl⟩, (hf a).trans hid⟩
    · rintro ⟨⟨a, hmem, rfl⟩, hid⟩
      exact ⟨a, hc.get?_eq_some_iff.2 ⟨hmem, (hf a).symm.trans hid⟩, rfl⟩
  cases kind with
  | user => exact hmap Record.user (fun _ => rfl) h.users
  | post => exact hmap Record.post (fun _ => rfl) h.posts
  | comment => exact hmap Record.comment (fun _ => rfl) h.comments

end Store

/-! ## Kept stores -/

namespace IndexedStore

variable {s : IndexedStore}

/-- The causes for which a store refuses a value.  Only records of its own kind stand in the way of
a record. -/
inductive Refuses (s : IndexedStore) : Item → AppendError → Prop
  | taken {r old : Record} (hmem : old ∈ s.records r.kind) (hid : old.id = r.id) :
    s.Refuses (.record r) (.duplicate r.kind r.id)
  | unsupported (typeName : String) : s.Refuses (.other typeName) (.unsupported typeName)

theorem append?_eq_none_iff (s : IndexedStore) (r : Record) :
    s.append? r = none ↔ (s.get? r.kind r.id).isSome := by
  cases r <;> simp [append?, get?, IndexedCollection.add?, Record.kind, Record.id,
    Identified.ident, Option.isSome_iff_ne_none]

theorem get?_eq_some_iff (h : s.Agrees) {kind : Kind} {id : String} {r : Record} :
    s.get? kind id = some r ↔ r ∈ s.records kind ∧ r.id = id := by
  rw [← get?_view h, records_eq_view]
  exact h.distinct_view.get?_eq_some_iff

theorem refuses_iff (h : s.Agrees) (item : Item) (e : AppendError) :
    (s.append item).2 = some e ↔ s.Refuses item e := by
  cases item with
  | other typeName =>
    constructor
    · rintro ⟨⟩
      exact .unsupported typeName
    · rintro ⟨⟩
      rfl
  | record r =>
    have htaken : s.append? r = none ↔ ∃ old ∈ s.records r.kind, old.id = r.id := by
      rw [append?_eq_none_iff, Option.isSome_iff_exists]
      exact exists_congr fun _ => get?_eq_some_iff h
    rw [append]
    constructor
    · intro heq
      split at heq
      · cases heq
      · next hnone =>
        cases heq
        obtain ⟨old, hmem, hid⟩ := htaken.1 hnone
        exact .taken hmem hid
    · rintro ⟨hmem, hid⟩
      rw [htaken.2 ⟨_, hmem, hid⟩]

/-- The records of a kind are those that the attempts stored, in their order. -/
def Holds (s : IndexedStore) (attempts : List Attempt) : Prop :=
  ∀ kind, s.records kind = (attempts.filterMap Attempt.stored?).filter fun r => r.kind = kind

/-- What a store is after attempts to append: for each kind, the list has the records that they
stored, the index has what the list has, and both tell what the next attempt will come to. -/
structure Kept (s : IndexedStore) (attempts : List Attempt) : Prop where
  holds : s.Holds attempts
  distinct : ∀ kind, ((s.records kind).map Record.id).Nodup
  size : ∀ kind, s.size kind = attempts.countP (Attempt.stores kind)
  get?_iff : ∀ kind id r, s.get? kind id = some r ↔ r ∈ s.records kind ∧ r.id = id
  get?_eq_head? : ∀ kind id,
    s.get? kind id = ((s.records kind).filter fun r => r.id = id).head?
  refuses : ∀ item e, (s.append item).2 = some e ↔ s.Refuses item e
  unchanged : ∀ item e, (s.append item).2 = some e → (s.append item).1 = s

/-- A store with indexes stands for one without: it has the same records, finds the same by their
identifiers and comes to the same when a value is appended. -/
structure Implements (s : IndexedStore) (t : Store) : Prop where
  records : ∀ kind, s.records kind = t.records kind
  get? : ∀ kind id, s.get? kind id = t.get? kind id
  append : ∀ item, t.append item =
    match (s.append item).2 with
    | none => .ok (s.append item).1.view
    | some e => .error e

theorem implements_view (h : s.Agrees) : s.Implements s.view :=
  ⟨records_eq_view s, fun kind id => (get?_view h kind id).symm, append_view h⟩

theorem holds_empty : empty.Holds [] := by
  intro kind
  cases kind <;> rfl

theorem holds_append {attempts : List Attempt} (h : s.Holds attempts) (item : Item) :
    (s.append item).1.Holds (attempts ++ [⟨item, (s.append item).2⟩]) := by
  intro kind
  obtain ⟨r, s', rfl, happend, heq⟩ | ⟨e, heq⟩ := append_cases s item
  · rw [heq, records_append? happend, h kind, List.filterMap_append, List.filter_append]
    congr 1
    by_cases hr : r.kind = kind <;> simp [Attempt.stored?, hr]
  · have hnone : Attempt.stored? ⟨item, some e⟩ = none := by cases item <;> rfl
    rw [heq, h kind, List.filterMap_append]
    simp [hnone]

theorem Holds.size {attempts : List Attempt} (h : s.Holds attempts) (kind : Kind) :
    s.size kind = attempts.countP (Attempt.stores kind) := by
  rw [size_eq, h kind, ← List.countP_eq_length_filter, List.countP_filterMap]
  congr 1
  funext a
  cases ha : a.stored? <;> simp [Attempt.stores, ha]

theorem kept_of_holds {attempts : List Attempt} (hagrees : s.Agrees) (hholds : s.Holds attempts) :
    s.Kept attempts where
  holds := hholds
  distinct kind := by
    rw [records_eq_view]
    exact hagrees.distinct_view.nodup_records kind
  size := hholds.size
  get?_iff _ _ _ := get?_eq_some_iff hagrees
  get?_eq_head? kind id := by
    rw [← get?_view hagrees, records_eq_view]
    exact s.view.get?_eq_head? kind id
  refuses := refuses_iff hagrees
  unchanged _ _ := append_unchanged

end IndexedStore

/-! ## Writes without indexes -/

/-- The blog after an attempt to append. -/
def Blog.append (b : Blog) (item : Item) : Blog :=
  match b.store.append item with
  | .ok store => { b with store }
  | .error _ => b

theorem Step.perform_append_blog (b : Blog) (item : Item) :
    ((Step.append item).perform b).blog = b.append item := by
  simp only [Step.perform, Blog.append]
  cases item with
  | record r => cases b.store.append (.record r) <;> rfl
  | other typeName => cases b.store.append (.other typeName) <;> rfl

theorem Step.perform_seed_blog (b : Blog) : (Step.seed.perform b).blog =
    { b with store := (b.store.appendAll Seed.records).store } := by
  rw [← Store.seed_store]
  simp only [Step.perform]
  split <;> rfl

theorem Command.run_blog (c : Command) (b : Blog) : (c.run b).blog =
    match c.refusal? b.store with
    | some _ => b
    | none =>
      Blog.append { b with made := b.made + 1 } (.record (c.record (b.ids (b.made + 1)))) := by
  rw [Command.run]
  cases c.refusal? b.store with
  | some _ => rfl
  | none =>
    simp only [Blog.append]
    cases b.store.append (.record (c.record (b.ids (b.made + 1)))) <;> rfl

/-! ## Runs of writes -/

namespace IndexedBlog

variable {b : IndexedBlog}

@[simp] theorem append_store (b : IndexedBlog) (item : Item) :
    (b.append item).store = (b.store.append item).1 := rfl

@[simp] theorem append_attempts (b : IndexedBlog) (item : Item) :
    (b.append item).attempts = b.attempts ++ [⟨item, (b.store.append item).2⟩] := rfl

/-- An attempt to append keeps a property of the store and the attempts so far. -/
def KeptByAppending (P : IndexedStore → List Attempt → Prop) : Prop :=
  ∀ s attempts item, P s attempts → P (s.append item).1 (attempts ++ [⟨item, (s.append item).2⟩])

/-- What an attempt to append keeps, a write keeps. -/
theorem keeps_perform {P : IndexedStore → List Attempt → Prop} (hP : KeptByAppending P)
    (w : Write) (hb : P b.store b.attempts) : P (b.perform w).store (b.perform w).attempts := by
  have happendAll (rs : List Record) (b : IndexedBlog) (hb : P b.store b.attempts) :
      P (b.appendAll rs).store (b.appendAll rs).attempts := by
    induction rs generalizing b with
    | nil => exact hb
    | cons r rest ih =>
      have hone : P (b.append (.record r)).store (b.append (.record r)).attempts :=
        hP _ _ (.record r) hb
      rw [appendAll]
      split
      · exact hone
      · exact ih _ hone
  cases w with
  | append item => exact hP _ _ item hb
  | seed => exact happendAll _ _ hb
  | command c =>
    rw [perform, run]
    split
    · exact hb
    · rw [append_store, append_attempts]
      exact hP _ _ _ hb

/-- What an attempt to append keeps, every run of writes keeps. -/
theorem keeps_foldl {P : IndexedStore → List Attempt → Prop} (hP : KeptByAppending P)
    (writes : List Write) (hb : P b.store b.attempts) :
    P (writes.foldl perform b).store (writes.foldl perform b).attempts := by
  induction writes generalizing b with
  | nil => exact hb
  | cons w rest ih => exact ih (keeps_perform hP w hb)

theorem keeps_after {P : IndexedStore → List Attempt → Prop} (hP : KeptByAppending P)
    (h0 : P .empty []) (ids : RecordIds) (writes : List Write) :
    P (after ids writes).store (after ids writes).attempts :=
  keeps_foldl (b := empty ids) hP writes h0

/-! ## Writes with and without indexes -/

theorem hasUser_view {s : IndexedStore} (h : s.Agrees) (id : String) :
    s.view.users.has id = (s.users.get? id).isSome :=
  congrArg Option.isSome (h.users.get?_view id)

theorem isOpen_view {s : IndexedStore} (h : s.Agrees) (post : String) :
    Command.isOpen s.view post = isOpen s post := by
  rw [Command.isOpen, isOpen, ← h.posts.get?_view]
  rfl

/-- A command is refused for what the lists and indexes tell. -/
theorem refusal?_view {s : IndexedStore} (h : s.Agrees) (c : Command) :
    (c.refusal? s.view).map Prod.fst = refusal? s c := by
  cases c with
  | createUser input =>
    have hholders : s.view.users.filter (fun u => u.email = input.email) =
        s.users.toList.filter fun u => u.email = input.email := rfl
    rw [Command.refusal?, refusal?, Command.holder?, hholders]
    cases s.users.toList.filter fun u => u.email = input.email <;> rfl
  | createPost input =>
    rw [Command.refusal?, refusal?, hasUser_view h]
    split <;> rfl
  | createComment input =>
    simp only [Command.refusal?, refusal?, hasUser_view h, isOpen_view h]
    split <;> rfl

theorem append_view (h : b.store.Agrees) (item : Item) :
    b.view.append item = (b.append item).view := by
  have hstore := IndexedStore.append_view h item
  cases he : (b.store.append item).2 with
  | none =>
    rw [Blog.append, view, hstore, he]
    rfl
  | some e =>
    rw [Blog.append, view, hstore, he, view, append_store, IndexedStore.append_unchanged he]
    rfl

theorem appendAll_view (rs : List Record) (h : b.store.Agrees) :
    { b.view with store := (b.view.store.appendAll rs).store } = (b.appendAll rs).view := by
  induction rs generalizing b with
  | nil => rfl
  | cons r rest ih =>
    have hstore := IndexedStore.append_view h (.record r)
    rw [appendAll, Store.appendAll]
    cases he : (b.store.append (.record r)).2 with
    | none =>
      rw [← ih (IndexedStore.agrees_append h (.record r)), view, hstore, he]
      rfl
    | some e =>
      rw [← append_view h, Blog.append, view, hstore, he]

/-- A write to a blog with indexes is the step of a session on the blog without them. -/
theorem perform_view (h : b.store.Agrees) (w : Write) :
    (w.step.perform b.view).blog = (b.perform w).view := by
  cases w with
  | append item => exact (Step.perform_append_blog b.view item).trans (append_view h item)
  | seed => exact (Step.perform_seed_blog b.view).trans (appendAll_view Seed.records h)
  | command c =>
    rw [Write.step, Step.perform_run_blog, Command.runWhen, if_pos rfl, Command.run_blog, perform,
      run, ← refusal?_view h]
    show (match Command.refusal? b.store.view c with | some _ => _ | none => _) = _
    cases c.refusal? b.store.view with
    | some _ => rfl
    | none => exact append_view (b := { b with made := b.made + 1 }) h _

theorem agrees_keptByAppending : KeptByAppending fun s _ => s.Agrees :=
  fun _ _ item h => IndexedStore.agrees_append h item

theorem holds_keptByAppending : KeptByAppending IndexedStore.Holds :=
  fun _ _ item h => IndexedStore.holds_append h item

theorem runEach_view (h : b.store.Agrees) (writes : List Write) :
    Step.runEach b.view (writes.map Write.step) = (writes.foldl perform b).view := by
  induction writes generalizing b with
  | nil => rfl
  | cons w rest ih =>
    have hw : (b.perform w).store.Agrees := keeps_perform agrees_keptByAppending w h
    rw [List.foldl_cons, ← ih hw, ← perform_view h w]
    rfl

/-- A user, a post and a comment may share an identifier. -/
theorem exists_shared (ids : RecordIds) (id : String) :
    ∃ writes, ∀ kind, ((after ids writes).store.get? kind id).isSome := by
  refine ⟨[.append (.record (.user ⟨id, "", "", none⟩)),
    .append (.record (.post ⟨id, "", "", false, ""⟩)),
    .append (.record (.comment ⟨id, "", "", ""⟩))], fun kind => ?_⟩
  cases kind <;> simp [after, perform, empty, IndexedStore.empty, IndexedStore.append,
    IndexedStore.append?, IndexedStore.get?, IndexedCollection.empty, IndexedCollection.add?,
    IndexedCollection.get?, Named.get?, Named.set, Identified.ident]

/-- **Lists and indexes keep the same records**, after every run of writes to a new store: the
records that the attempts to append stored, whichever of them failed.  The store goes on as one
without indexes does after the same steps.  Records of different kinds may share an identifier. -/
theorem records_are_kept (ids : RecordIds) :
    (∀ writes, (after ids writes).store.Kept (after ids writes).attempts ∧
      (after ids writes).store.Implements
        (Step.runEach (.ofStore .empty ids) (writes.map Write.step)).store) ∧
      ∀ id, ∃ writes, ∀ kind, ((after ids writes).store.get? kind id).isSome := by
  refine ⟨fun writes => ?_, exists_shared ids⟩
  have hagrees : (after ids writes).store.Agrees :=
    keeps_after agrees_keptByAppending IndexedStore.agrees_empty ids writes
  have hholds : (after ids writes).store.Holds (after ids writes).attempts :=
    keeps_after holds_keptByAppending IndexedStore.holds_empty ids writes
  have hview : Step.runEach (.ofStore .empty ids) (writes.map Write.step) =
      (after ids writes).view := runEach_view (b := empty ids) IndexedStore.agrees_empty writes
  rw [hview]
  exact ⟨IndexedStore.kept_of_holds hagrees hholds, IndexedStore.implements_view hagrees⟩

/-- A second user `1` is refused, a post `1` is not. -/
example : (after recordId [.append (.record (.user ⟨"1", "Ada", "ada@x.org", none⟩)),
    .append (.record (.post ⟨"1", "Notes", "", true, "1"⟩)), .seed]).attempts.map Attempt.error =
      [none, none, some (.duplicate .user "1")] := by
  decide +kernel

end IndexedBlog
end BlogGraph
