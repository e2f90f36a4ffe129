import BlogGraph.Proofs.Blog.Alone

/-!
# Picking records and asking for one

Both ways of scanning a collection put a test to its records in their order.  Picking goes through
all of them; asking whether there is one stops at the first that passes.  The test may fail on a
record, and either way of scanning then fails with it.  So what asking comes to hangs on the first
record that is not turned down (`existsM_cases`), what picking comes to on the first on which the
test fails (`filterM_cases`), and how the two go together on which of these stands in front.

Main statements: `existsM_eq_false_iff`, `existsM_eq_true_iff`, `existsM_eq_error_iff`,
`filterM_eq_ok_iff` and `filterM_eq_error_iff` for each way of scanning on its own, and
`filter_and_exists_agree`, also for threads that scan the records of a blog.
-/

namespace BlogGraph

namespace Collection

variable {α ε : Type} {p : α → Except ε Bool} {c : Collection α} {e : ε}

/-! ## The record that decides -/

/-- A record of the collection that a scan gets to if it goes on after the records of some sort. -/
def Reaches (c : Collection α) (goesOn : α → Prop) (a : α) : Prop :=
  ∃ before after, c.toList = before ++ a :: after ∧ ∀ b ∈ before, goesOn b

theorem Reaches.mono {q q' : α → Prop} {a : α} (h : c.Reaches q a) (hq : ∀ b, q b → q' b) :
    c.Reaches q' a := by
  obtain ⟨before, after, heq, hbefore⟩ := h
  exact ⟨before, after, heq, fun b hb => hq b (hbefore b hb)⟩

theorem Reaches.mem {q : α → Prop} {a : α} (h : c.Reaches q a) : a ∈ c.toList := by
  obtain ⟨before, after, heq, -⟩ := h
  rw [heq]
  exact List.mem_append_right _ List.mem_cons_self

/-- A scan that goes on after records of some sort gets through, or to a record of another sort. -/
theorem forall_or_reaches (c : Collection α) (goesOn : α → Prop) :
    (∀ a ∈ c.toList, goesOn a) ∨ ∃ a, c.Reaches goesOn a ∧ ¬goesOn a := by
  obtain ⟨l⟩ := c
  induction l with
  | nil => exact Or.inl (by simp)
  | cons a rest ih =>
    by_cases ha : goesOn a
    · rcases ih with hall | ⟨r, ⟨before, after, heq, hbefore⟩, hr⟩
      · exact Or.inl (List.forall_mem_cons.2 ⟨ha, hall⟩)
      · have hrest : rest = before ++ r :: after := heq
        refine Or.inr ⟨r, ⟨a :: before, after, ?_, List.forall_mem_cons.2 ⟨ha, hbefore⟩⟩, hr⟩
        rw [hrest, List.cons_append]
    · exact Or.inr ⟨a, ⟨[], rest, rfl, by simp⟩, ha⟩

/-! ## Asking for a record -/

/-- Records that are turned down do not matter. -/
theorem existsM_go_append {before : List α} (h : ∀ b ∈ before, p b = .ok false) (rest : List α) :
    existsM.go p (before ++ rest) = existsM.go p rest := by
  induction before with
  | nil => rfl
  | cons b before ih =>
    obtain ⟨hb, hbefore⟩ := List.forall_mem_cons.1 h
    rw [List.cons_append, existsM.go, hb]
    exact ih hbefore

theorem existsM_of_forall (h : ∀ a ∈ c.toList, p a = .ok false) : c.existsM p = .ok false := by
  have hgo := existsM_go_append h []
  rwa [List.append_nil] at hgo

theorem existsM_of_error {a : α} (ha : c.Reaches (fun b => p b = .ok false) a)
    (he : p a = .error e) : c.existsM p = .error e := by
  obtain ⟨before, after, heq, hbefore⟩ := ha
  rw [existsM, heq, existsM_go_append hbefore, existsM.go, he]

theorem existsM_of_true {a : α} (ha : c.Reaches (fun b => p b = .ok false) a)
    (ht : p a = .ok true) : c.existsM p = .ok true := by
  obtain ⟨before, after, heq, hbefore⟩ := ha
  rw [existsM, heq, existsM_go_append hbefore, existsM.go, ht]

/-- All records are turned down, or the first that is not decides. -/
theorem existsM_cases (p : α → Except ε Bool) (c : Collection α) :
    c.existsM p = .ok false ∧ (∀ a ∈ c.toList, p a = .ok false) ∨
      ∃ a, c.Reaches (fun b => p b = .ok false) a ∧
        (c.existsM p = .ok true ∧ p a = .ok true ∨
          ∃ e, c.existsM p = .error e ∧ p a = .error e) := by
  rcases c.forall_or_reaches fun b => p b = .ok false with hall | ⟨a, ha, hne⟩
  · exact Or.inl ⟨existsM_of_forall hall, hall⟩
  · refine Or.inr ⟨a, ha, ?_⟩
    cases hp : p a with
    | error e => exact Or.inr ⟨e, existsM_of_error ha hp, rfl⟩
    | ok passes =>
      cases passes with
      | true => exact Or.inl ⟨existsM_of_true ha hp, rfl⟩
      | false => exact absurd hp hne

/-- There is no record to be found exactly if every one is turned down. -/
theorem existsM_eq_false_iff : c.existsM p = .ok false ↔ ∀ a ∈ c.toList, p a = .ok false := by
  refine ⟨fun h => ?_, existsM_of_forall⟩
  rcases existsM_cases p c with ⟨-, hall⟩ | ⟨a, -, ⟨hr, -⟩ | ⟨e, hr, -⟩⟩
  · exact hall
  · rw [hr] at h; cases h
  · rw [hr] at h; cases h

/-- A record is found exactly if one passes and those before it are turned down. -/
theorem existsM_eq_true_iff :
    c.existsM p = .ok true ↔ ∃ a, c.Reaches (fun b => p b = .ok false) a ∧ p a = .ok true := by
  refine ⟨fun h => ?_, fun ⟨a, ha, ht⟩ => existsM_of_true ha ht⟩
  rcases existsM_cases p c with ⟨hr, -⟩ | ⟨a, ha, ⟨-, ht⟩ | ⟨e, hr, -⟩⟩
  · rw [hr] at h; cases h
  · exact ⟨a, ha, ht⟩
  · rw [hr] at h; cases h

/-- Asking fails exactly if the test fails on a record and turns down those before it. -/
theorem existsM_eq_error_iff :
    c.existsM p = .error e ↔ ∃ a, c.Reaches (fun b => p b = .ok false) a ∧ p a = .error e := by
  refine ⟨fun h => ?_, fun ⟨a, ha, he⟩ => existsM_of_error ha he⟩
  rcases existsM_cases p c with ⟨hr, -⟩ | ⟨a, ha, ⟨hr, -⟩ | ⟨e', hr, he⟩⟩
  · rw [hr] at h; cases h
  · rw [hr] at h; cases h
  · rw [hr] at h
    cases h
    exact ⟨a, ha, he⟩

/-! ## Picking records -/

/-- The test tells whether the record passes. -/
def Tells (p : α → Except ε Bool) (a : α) : Prop := ∃ passes, p a = .ok passes

/-- The record passes the test. -/
def passes (p : α → Except ε Bool) (a : α) : Bool := (p a).toOption.getD false

theorem passes_eq_true_iff {a : α} : passes p a = true ↔ p a = .ok true := by
  unfold passes
  cases p a <;> simp [Except.toOption]

theorem Tells.of_turnedDown {a : α} (h : p a = .ok false) : Tells p a := ⟨false, h⟩

/-- Records that the test decides add those that pass. -/
theorem filterM_go_append {before : List α} (h : ∀ b ∈ before, Tells p b) (rest : List α) :
    filterM.go p (before ++ rest) = (filterM.go p rest).map (before.filter (passes p) ++ ·) := by
  induction before with
  | nil => cases hrest : filterM.go p rest <;> simp [hrest, Except.map]
  | cons b before ih =>
    obtain ⟨⟨v, hb⟩, hbefore⟩ := List.forall_mem_cons.1 h
    have hpasses : passes p b = v := by simp [passes, hb, Except.toOption]
    rw [List.cons_append, filterM.go, hb, ih hbefore, List.filter_cons, hpasses]
    cases filterM.go p rest with
    | error e => rfl
    | ok kept => cases v <;> rfl

/-- The test decides all records, and those that pass are picked, or it fails on a first one. -/
theorem filterM_cases (p : α → Except ε Bool) (c : Collection α) :
    c.filterM p = .ok (c.filter (passes p)) ∧ (∀ a ∈ c.toList, Tells p a) ∨
      ∃ a e, c.Reaches (Tells p) a ∧ p a = .error e ∧ c.filterM p = .error e := by
  rcases c.forall_or_reaches (Tells p) with hall | ⟨a, ha, hnot⟩
  · have hgo := filterM_go_append hall []
    rw [List.append_nil, filterM.go, Except.map, List.append_nil] at hgo
    exact Or.inl ⟨hgo, hall⟩
  · cases he : p a with
    | ok v => exact absurd ⟨v, he⟩ hnot
    | error e =>
      refine Or.inr ⟨a, e, ha, he, ?_⟩
      obtain ⟨before, after, heq, hbefore⟩ := ha
      rw [filterM, heq, filterM_go_append hbefore, filterM.go, he]
      rfl

/-- Picking fails exactly if the test fails on a record and decides those before it. -/
theorem filterM_eq_error_iff :
    c.filterM p = .error e ↔ ∃ a, c.Reaches (Tells p) a ∧ p a = .error e := by
  constructor
  · intro h
    rcases filterM_cases p c with ⟨hr, -⟩ | ⟨a, e', ha, he, hr⟩
    · rw [hr] at h; cases h
    · rw [hr] at h
      cases h
      exact ⟨a, ha, he⟩
  · rintro ⟨a, ⟨before, after, heq, hbefore⟩, he⟩
    rw [filterM, heq, filterM_go_append hbefore, filterM.go, he]
    rfl

/-- Picking succeeds exactly if the test decides all records, and brings those that pass. -/
theorem filterM_eq_ok_iff {kept : List α} :
    c.filterM p = .ok kept ↔ (∀ a ∈ c.toList, Tells p a) ∧ kept = c.filter (passes p) := by
  rcases filterM_cases p c with ⟨hr, hall⟩ | ⟨a, e, ha, he, hr⟩
  · rw [hr, Except.ok.injEq]
    exact ⟨fun h => ⟨hall, h.symm⟩, fun h => h.2.symm⟩
  · rw [hr]
    refine ⟨fun h => (by cases h), fun ⟨hall, _⟩ => ?_⟩
    obtain ⟨v, hv⟩ := hall a ha.mem
    rw [he] at hv
    cases hv

/-! ## Both scans -/

/-- The test fails on a record, decides those before it, and one of them passes. -/
def PassesBeforeFailing (p : α → Except ε Bool) (c : Collection α) (e : ε) : Prop :=
  ∃ before a between r after, c.toList = before ++ a :: (between ++ r :: after) ∧
    p a = .ok true ∧ (∀ b ∈ before ++ a :: between, Tells p b) ∧ p r = .error e

/-- How picking records and asking for one go together.

* `picked`: where records are picked, asking brings an answer, and it is yes exactly if some were;
* `askingFailed`: where asking fails, picking fails in the same way, because of the first record on
  which the test fails;
* `pickingFailed`: where picking fails, asking fails in the same way, or it has found a record
  before the one on which the test fails;
* `withoutRecords`: neither fails where there are no records. -/
structure ScansAgree (p : α → Except ε Bool) (c : Collection α) : Prop where
  picked : ∀ kept, c.filterM p = .ok kept → c.existsM p = .ok !kept.isEmpty
  askingFailed : ∀ e, c.existsM p = .error e →
    c.filterM p = .error e ∧ ∃ a, c.Reaches (Tells p) a ∧ p a = .error e
  pickingFailed : ∀ e, c.filterM p = .error e →
    c.existsM p = .error e ∨ c.existsM p = .ok true ∧ PassesBeforeFailing p c e
  withoutRecords : c.toList = [] → c.filterM p = .ok [] ∧ c.existsM p = .ok false

theorem existsM_of_picked {kept : List α} (h : c.filterM p = .ok kept) :
    c.existsM p = .ok !kept.isEmpty := by
  obtain ⟨hall, rfl⟩ := filterM_eq_ok_iff.1 h
  rcases existsM_cases p c with ⟨hr, hdown⟩ | ⟨a, ha, ⟨hr, ht⟩ | ⟨e, -, he⟩⟩
  · have hnone : c.filter (passes p) = [] := by
      refine List.filter_eq_nil_iff.2 fun a ha => ?_
      rw [passes_eq_true_iff, hdown a ha]
      simp
    rw [hr, hnone]
    rfl
  · have hmem : a ∈ c.filter (passes p) :=
      List.mem_filter.2 ⟨ha.mem, passes_eq_true_iff.2 ht⟩
    rw [hr, List.isEmpty_eq_false_iff.2 (List.ne_nil_of_mem hmem)]
    rfl
  · obtain ⟨v, hv⟩ := hall a ha.mem
    rw [he] at hv
    cases hv

theorem existsM_of_pickingFailed (h : c.filterM p = .error e) :
    c.existsM p = .error e ∨ c.existsM p = .ok true ∧ PassesBeforeFailing p c e := by
  obtain ⟨r, ⟨before, after, heq, hbefore⟩, hr⟩ := filterM_eq_error_iff.1 h
  -- what counts is whether all the records before the failure are turned down
  rcases forall_or_reaches ⟨before⟩ (fun b => p b = .ok false) with
    hdown | ⟨a, ⟨earlier, between, hsplit, hearlier⟩, ha⟩
  · exact Or.inl (existsM_of_error ⟨before, after, heq, hdown⟩ hr)
  · have hsplit : before = earlier ++ a :: between := hsplit
    subst hsplit
    have hlist : c.toList = earlier ++ a :: (between ++ r :: after) := by
      rw [heq, List.append_assoc, List.cons_append]
    have ht : p a = .ok true := by
      obtain ⟨v, hv⟩ := hbefore a (List.mem_append_right _ List.mem_cons_self)
      cases v with
      | true => exact hv
      | false => exact absurd hv ha
    exact Or.inr ⟨existsM_of_true ⟨earlier, _, hlist, hearlier⟩ ht,
      earlier, a, between, r, after, hlist, ht, hbefore, hr⟩

theorem scansAgree (p : α → Except ε Bool) (c : Collection α) : ScansAgree p c where
  picked _ := existsM_of_picked
  askingFailed e h := by
    obtain ⟨a, ha, he⟩ := existsM_eq_error_iff.1 h
    have hreached : c.Reaches (Tells p) a := ha.mono fun _ => Tells.of_turnedDown
    exact ⟨filterM_eq_error_iff.2 ⟨a, hreached, he⟩, a, hreached, he⟩
  pickingFailed _ := existsM_of_pickingFailed
  withoutRecords h := by
    rw [filterM, existsM, h]
    exact ⟨rfl, rfl⟩

end Collection

/-! ## Scans of a blog -/

namespace Shared

/-- A thread that comes to a look, and has all turns to itself, goes on after it with what the look
brings, or with its failure.  The blog and the lock are then what they were. -/
def Reading.ChangesNothing (r : Reading) : Prop :=
  ∀ (w : State) (i : Nat) (t : Thread) (rest : List Code), State.Ready w i t →
    t.ahead = (Operation.read r).code :: rest →
    ∃ d exits, State.Reaches i w ⟨w.blog, w.lock, w.threads.set i (t.after rest d), exits⟩ ∧
      Does d t.notes (failureOf (r.value w.blog.store)) (given (r.value w.blog.store)) w.blog

theorem Reading.changesNothing (r : Reading) : r.ChangesNothing := by
  intro w i t rest hready hahead
  obtain ⟨exits, hreaches⟩ := State.Ready.ends_code _ hready hahead
  have hdoes := @does_read w.blog t.notes r
  rw [hdoes.blog] at hreaches
  exact ⟨_, exits, hreaches, hdoes⟩

end Shared

/-- **Picking records and asking for one agree**, also where the test fails on some of them, and
neither changes what is scanned. -/
theorem filter_and_exists_agree {α ε : Type} (p : α → Except ε Bool) (c : Collection α) :
    Collection.ScansAgree p c ∧
    ∀ (kind : Kind) (test : Record → Except StepError Bool),
      (Shared.Reading.filter kind test).ChangesNothing ∧
      (Shared.Reading.any kind test).ChangesNothing :=
  ⟨Collection.scansAgree p c, fun _ _ =>
    ⟨Shared.Reading.changesNothing _, Shared.Reading.changesNothing _⟩⟩

/-- A number that passes, before one on which the test fails: it is found, but nothing is picked. -/
example :
    let test : Nat → Except Nat Bool := fun n => if n = 3 then .error n else .ok (n = 2)
    (⟨[1, 2, 3]⟩ : Collection Nat).existsM test = .ok true ∧
      (⟨[1, 2, 3]⟩ : Collection Nat).filterM test = .error 3 :=
  ⟨rfl, rfl⟩

end BlogGraph
