import BlogGraph.Blog.Reader
import BlogGraph.Proofs.Blog.Linearization
import BlogGraph.Proofs.GraphQL.Reading
import Mathlib.Data.List.Forall2

/-!
# A reader sees one snapshot after the other

Between two questions of a reader the callers beside it may change the store, so the answers tell of
different stores.  But each answer tells of one that was there between two commands, never of the
middle of one; later answers tell of later stores; and since records are only added, and only with
references that find their records, no reference that an answer brings ever dangles.

There are two invariants.  One is about the lock (`Watched.Steady`): a lock that the reader holds
is nobody else's, and if it were free, the race would be as the callers know it.  So whoever looks
at the store finds it as the finished commands left it.  The other is about the answers
(`Reader.Informed`), and only grows with the finished commands.

Main statements:

* `Race.finished_prefix_step`: a step takes back no finished command;
* `Reader.Informed.mono`, `Reader.Informed.hear`: what the reader was told remains so;
* `Watched.steady_run`: both invariants at every moment;
* `Watched.answers_are_snapshots`: what the reader is told.
-/

namespace BlogGraph

/-! ## The stores of a run -/

namespace Command

/-- The stores after none, one, two and more accepted commands of a run. -/
def versions (b : Blog) : List Command → List Store
  | [] => [b.store]
  | c :: cs =>
    match (c.run b).result with
    | .ok _ => b.store :: versions (c.run b).blog cs
    | .error _ => versions (c.run b).blog cs

variable {b : Blog} {c : Command} {cs ds : List Command}

/-- A command that fails leaves the store as it was. -/
theorem run_store_of_error {e : Failure} (h : (c.run b).result = .error e) :
    (c.run b).blog.store = b.store := by
  obtain ⟨_, _, -, hrun⟩ | ⟨-, _, -, ⟨-, hrun⟩ | ⟨_, -, hrun⟩⟩ := run_eq c b
  · rw [hrun]
  · rw [hrun]
  · rw [hrun] at h
    exact absurd h (by simp)

theorem exists_versions_eq_cons (b : Blog) (cs : List Command) :
    ∃ later, versions b cs = b.store :: later := by
  induction cs generalizing b with
  | nil => exact ⟨[], rfl⟩
  | cons c cs ih =>
    cases hresult : (c.run b).result with
    | ok r => exact ⟨_, by rw [versions, hresult]⟩
    | error e =>
      obtain ⟨later, hlater⟩ := ih (c.run b).blog
      refine ⟨later, ?_⟩
      rw [versions, hresult]
      dsimp only
      rw [hlater, run_store_of_error hresult]

/-- More commands only add versions. -/
theorem versions_prefix_append (b : Blog) (cs ds : List Command) :
    versions b cs <+: versions b (cs ++ ds) := by
  induction cs generalizing b with
  | nil =>
    obtain ⟨later, hlater⟩ := exists_versions_eq_cons b ds
    rw [List.nil_append, hlater]
    exact ⟨later, rfl⟩
  | cons c cs ih =>
    rw [List.cons_append, versions, versions]
    cases (c.run b).result with
    | ok r => exact List.cons_prefix_cons.2 ⟨rfl, ih _⟩
    | error e => exact ih _

/-- The last version is the store after the run. -/
theorem getLast?_versions (b : Blog) (cs : List Command) :
    (versions b cs).getLast? = some (runEach b cs).store := by
  induction cs generalizing b with
  | nil => rfl
  | cons c cs ih =>
    rw [versions, runEach_cons]
    cases (c.run b).result with
    | ok r =>
      obtain ⟨later, hlater⟩ := exists_versions_eq_cons (c.run b).blog cs
      rw [← ih, hlater]
      exact List.getLast?_cons_cons
    | error e => exact ih _

theorem linked_runEach (hb : b.store.Linked) (cs : List Command) :
    (runEach b cs).store.Linked :=
  runEach_keeps Store.Linked cs (fun _ _ _ _ _ hs => Store.linked_append hs) b hb

end Command

/-! ## Finished commands -/

/-- The command of a caller who is done. -/
def Caller.finished? (k : Caller) : Option Command :=
  if k.ahead.isEmpty then some k.command else none

namespace Race

variable {b b' : Blog} {cs : List Command} {r : Race}

/-- The commands of those among the callers named who are done. -/
def finishedOf (callers : List Caller) (turns : List Nat) : List Command :=
  turns.filterMap fun i => callers[i]?.bind Caller.finished?

/-- The finished commands, in the order in which their callers first took the lock. -/
def finished (r : Race) : List Command := finishedOf r.callers r.turns

theorem finishedOf_append (callers : List Caller) (turns turns' : List Nat) :
    finishedOf callers (turns ++ turns') = finishedOf callers turns ++ finishedOf callers turns' :=
  List.filterMap_append

theorem finishedOf_congr {callers callers' : List Caller} {turns : List Nat}
    (h : ∀ i ∈ turns, callers'[i]? = callers[i]?) :
    finishedOf callers' turns = finishedOf callers turns := by
  refine List.filterMap_congr fun i hi => ?_
  rw [h i hi]

/-- The callers whose story is told have finished, and the story ends with their commands' blog. -/
theorem Told.eq_runEach_finishedOf {callers : List Caller} {turns : List Nat}
    (h : Told b callers turns b') : b' = Command.runEach b (finishedOf callers turns) := by
  induction h with
  | nil => rfl
  | @snoc turns b' i k h hk hdone hr ih =>
    have hi : finishedOf callers [i] = [k.command] := by
      simp [finishedOf, hk, Caller.finished?, hdone]
    rw [finishedOf_append, hi, Command.runEach_append, ← ih]
    rfl

/-- While the lock is free, the blog is as the finished commands left it. -/
theorem Serial.blog_of_free (h : Serial b cs r) (hfree : r.lock = none) :
    r.blog = Command.runEach b r.finished :=
  (h.free hfree).eq_runEach_finishedOf

/-- A step takes back no finished command. -/
theorem finished_prefix_step (h : Serial b cs r) (i : Nat) :
    r.finished <+: (r.step i).finished := by
  rcases step_cases r i with hstep | ⟨k, m, rest, lock, hk, hm, hlock, hstep⟩
  · exact ⟨[], by rw [hstep, List.append_nil]⟩
  rw [hstep]
  cases hl : r.lock with
  | none =>
    -- a caller that enters has not finished anything, and nobody else changes
    obtain ⟨hi, hw⟩ := h.enters hl hk hm
    have hsame : finishedOf (r.moved i k m rest lock).callers r.turns = r.finished :=
      finishedOf_congr fun j hj => moved_other fun hij => hi (hij ▸ hj)
    rw [hw] at hm
    obtain ⟨rfl, -⟩ := List.cons.inj hm
    have hturns : (r.moved i k .take rest lock).turns = r.turns ++ [i] := by
      simp [moved, hi]
    rw [finished, finished, hturns, finishedOf_append]
    exact ⟨_, congrArg (· ++ _) hsame.symm⟩
  | some holder =>
    obtain ⟨j, d⟩ := holder
    obtain rfl := h.holds hl hk hm hlock
    obtain ⟨turns, b', k', hturns, htold, hk', -, -, -, -⟩ := h.held i d hl
    have hi : i ∈ r.turns := by
      rw [hturns]
      exact List.mem_append_right _ (List.mem_singleton_self i)
    have hsame : finishedOf (r.moved i k m rest lock).callers turns = finishedOf r.callers turns :=
      finishedOf_congr fun j hj => moved_other (h.ne_of_mem_earlier hturns hj)
    have hopen : finishedOf r.callers [i] = [] := by
      simp [finishedOf, hk, Caller.finished?, hm]
    have hmoved : (r.moved i k m rest lock).turns = turns ++ [i] := by
      rw [← hturns]
      simp [moved, hi]
    rw [finished, finished, hturns, hmoved, finishedOf_append, finishedOf_append, hopen,
      List.append_nil, hsame]
    exact List.prefix_append _ _

end Race

/-! ## What an answer brings -/

open GraphQL (Node)

/-- Growing keeps objects sound. -/
theorem GraphQL.Node.Sound.mono {s s' : Store} {node : Node} (h : node.Sound s)
    (hg : s.Grows s') : node.Sound s' := by
  cases node with
  | query => trivial
  | part p => trivial
  | record r =>
    cases r with
    | user u => exact h.imp_right fun hu => hg.users.subset hu
    | post p => exact h.imp_right fun hp => hg.posts.subset hp
    | comment c => exact hg.comments.subset h

/-- A store whose references find their records answers every question about a record that it holds,
with records that it holds. -/
theorem Question.exists_found {s : Store} (hs : s.Linked) (q : Question)
    (h : ∀ r, q.subject? = some r → (Node.record r).Sound s) :
    ∃ f, q.answer (some s) = .found f ∧ ∀ r ∈ f.records, (Node.record r).Sound s := by
  cases q with
  | users query =>
    refine ⟨_, rfl, List.forall_mem_map.2 fun u hu => ?_⟩
    exact Or.inr (Store.mem_of_mem_searchUsers hu)
  | posts query =>
    refine ⟨_, rfl, List.forall_mem_map.2 fun p hp => ?_⟩
    exact Or.inr (Store.mem_of_mem_searchPosts hp)
  | comments => exact ⟨_, rfl, List.forall_mem_map.2 fun c hc => hc⟩
  | exampleUser => exact ⟨_, rfl, List.forall_mem_singleton.2 (Or.inl rfl)⟩
  | examplePost => exact ⟨_, rfl, List.forall_mem_singleton.2 (Or.inl rfl)⟩
  | postsOf u =>
    exact ⟨_, rfl, List.forall_mem_map.2 fun p hp => Or.inr (List.mem_filter.1 hp).1⟩
  | commentsBy u =>
    exact ⟨_, rfl, List.forall_mem_map.2 fun c hc => (List.mem_filter.1 hc).1⟩
  | commentsOn p =>
    exact ⟨_, rfl, List.forall_mem_map.2 fun c hc => (List.mem_filter.1 hc).1⟩
  | authorOf p =>
    obtain ⟨u, hu, hanswer⟩ := hs.exists_authorOf (h (.post p) rfl)
    exact ⟨_, hanswer, List.forall_mem_singleton.2 hu⟩
  | commenter c =>
    obtain ⟨u, hu, hanswer⟩ := hs.exists_commenter (h (.comment c) rfl)
    exact ⟨_, hanswer, List.forall_mem_singleton.2 (Or.inr hu)⟩
  | postOf c =>
    obtain ⟨p, hp, hanswer⟩ := hs.exists_postOf (h (.comment c) rfl)
    exact ⟨_, hanswer, List.forall_mem_singleton.2 (Or.inr hp)⟩

/-! ## The answers of a reader -/

namespace Reader

variable {b : Blog} {done done' : List Command} {k : Reader}

/-- The answer is the one that a version of the store gives. -/
def ToldAt (b : Blog) (done : List Command) (h : Question × Answer) (n : Nat) : Prop :=
  ∃ s, (Command.versions b done)[n]? = some s ∧ h.2 = h.1.answer (some s)

/-- What is so of the answers when some commands are finished: they tell of versions of the store,
one after the other, and bring records that the store still holds. -/
structure Informed (b : Blog) (done : List Command) (k : Reader) : Prop where
  told : ∃ moments : List Nat, moments.Pairwise (· ≤ ·) ∧
    (∀ n ∈ moments, n < (Command.versions b done).length) ∧
    List.Forall₂ (ToldAt b done) k.heard moments
  found : ∀ h ∈ k.heard, ∃ f, h.2 = .found f ∧
    ∀ r ∈ f.records, (Node.record r).Sound (Command.runEach b done).store

theorem informed_fresh (b : Blog) : Informed b [] fresh where
  told := ⟨[], List.Pairwise.nil, by simp, List.Forall₂.nil⟩
  found := by simp [fresh]

/-- How far the reader is with a question does not matter. -/
theorem Informed.stage (h : Informed b done k) (stage : ReaderStage) :
    Informed b done { k with stage := stage } :=
  ⟨h.told, h.found⟩

theorem ToldAt.mono {h : Question × Answer} {n : Nat} (ht : ToldAt b done h n)
    (hmore : done <+: done') : ToldAt b done' h n := by
  obtain ⟨rest, rfl⟩ := hmore
  obtain ⟨s, hs, hanswer⟩ := ht
  obtain ⟨later, hlater⟩ := Command.versions_prefix_append b done rest
  have hn : n < (Command.versions b done).length := (List.getElem?_eq_some_iff.1 hs).1
  refine ⟨s, ?_, hanswer⟩
  rw [← hlater, List.getElem?_append_left hn]
  exact hs

/-- What the reader was told remains so when more commands are finished. -/
theorem Informed.mono (h : Informed b done k) (hmore : done <+: done') :
    Informed b done' k := by
  obtain ⟨moments, hsorted, hbound, hall⟩ := h.told
  refine ⟨⟨moments, hsorted, fun n hn => ?_, hall.imp fun _ _ ht => ht.mono hmore⟩, ?_⟩
  · obtain ⟨rest, rfl⟩ := hmore
    exact (hbound n hn).trans_le (Command.versions_prefix_append b done rest).length_le
  · intro heard hheard
    obtain ⟨f, hf, hrecords⟩ := h.found heard hheard
    obtain ⟨rest, rfl⟩ := hmore
    refine ⟨f, hf, fun r hr => (hrecords r hr).mono ?_⟩
    rw [Command.runEach_append]
    exact Command.grows_runEach _ rest

/-- A question may only be asked about a record that the store holds. -/
theorem Informed.sound_of_mayAsk (h : Informed b done k) {q : Question} (hq : k.mayAsk q = true)
    (r : Record) (hr : q.subject? = some r) :
    (Node.record r).Sound (Command.runEach b done).store := by
  rw [mayAsk, hr] at hq
  obtain ⟨heard, hheard, hmem⟩ := List.any_eq_true.1 hq
  obtain ⟨f, hf, hrecords⟩ := h.found heard hheard
  rw [hf] at hmem
  exact hrecords r (List.contains_iff_mem.1 hmem)

/-- An answer from the store as the finished commands left it. -/
theorem Informed.hear (h : Informed b done k) (hb : b.store.Linked) {q : Question}
    (hq : k.mayAsk q = true) :
    Informed b done (k.hear q (q.answer (some (Command.runEach b done).store))) := by
  obtain ⟨moments, hsorted, hbound, hall⟩ := h.told
  obtain ⟨f, hanswer, hrecords⟩ :=
    q.exists_found (Command.linked_runEach hb done) (h.sound_of_mayAsk hq)
  have hlast := Command.getLast?_versions b done
  rw [List.getLast?_eq_getElem?] at hlast
  have hnow : ToldAt b done (q, q.answer (some (Command.runEach b done).store))
      ((Command.versions b done).length - 1) := ⟨_, hlast, rfl⟩
  refine ⟨⟨moments ++ [(Command.versions b done).length - 1], ?_, ?_, ?_⟩, ?_⟩
  · refine List.pairwise_append.2 ⟨hsorted, List.pairwise_singleton _ _, fun n hn m hm => ?_⟩
    rw [List.mem_singleton.1 hm]
    exact Nat.le_sub_one_of_lt (hbound n hn)
  · refine List.forall_mem_append.2 ⟨hbound, List.forall_mem_singleton.2 ?_⟩
    exact (List.getElem?_eq_some_iff.1 hlast).1
  · exact List.rel_append hall (List.Forall₂.cons hnow List.Forall₂.nil)
  · refine List.forall_mem_append.2 ⟨h.found, List.forall_mem_singleton.2 ?_⟩
    exact ⟨f, hanswer, hrecords⟩

end Reader

/-! ## The reader and the lock -/

namespace Watched

variable {b : Blog} {cs : List Command} {w : Watched}

/-- The race as the callers know it: a lock that the reader holds is none of theirs. -/
def callersView (w : Watched) : Race :=
  if w.reader.holds then { w.race with lock := none } else w.race

/-- What is so of callers and a reader at any moment. -/
structure Steady (b : Blog) (cs : List Command) (w : Watched) : Prop where
  serial : Race.Serial b cs w.callersView
  held : w.reader.holds = true → w.race.lock = some (w.self, 1)
  asked : ∀ q, w.reader.question? = some q → q.aboutExamples = none ∧ w.reader.mayAsk q = true
  looked : ∀ q a, w.reader.stage = .leaving q a → a = q.answer (some w.race.blog.store)
  informed : w.reader.Informed b w.race.finished

theorem steady_start (b : Blog) (cs : List Command) : Steady b cs (start b cs) where
  serial := Race.serial_start b cs
  held := by simp [start, Reader.fresh, Reader.holds]
  asked := by simp [start, Reader.fresh, Reader.question?]
  looked := by simp [start, Reader.fresh]
  informed := Reader.informed_fresh b

theorem Steady.serial_of_not_holds (h : Steady b cs w) (hw : w.reader.holds = false) :
    Race.Serial b cs w.race := by
  have hview : w.callersView = w.race := by simp [callersView, hw]
  exact hview ▸ h.serial

theorem Steady.serial_of_holds (h : Steady b cs w) (hw : w.reader.holds = true) :
    Race.Serial b cs { w.race with lock := none } := by
  have hview : w.callersView = { w.race with lock := none } := by simp [callersView, hw]
  exact hview ▸ h.serial

/-- Whoever looks at the store finds it as the finished commands left it. -/
theorem Steady.blog_of_holds (h : Steady b cs w) (hw : w.reader.holds = true) :
    w.race.blog = Command.runEach b w.race.finished :=
  (h.serial_of_holds hw).blog_of_free rfl

/-- No caller goes on while the reader holds the lock. -/
theorem Steady.race_step_of_holds (h : Steady b cs w) (hw : w.reader.holds = true) (i : Nat) :
    w.race.step i = w.race := by
  rcases Race.step_cases w.race i with hstep | ⟨k, m, rest, lock, hk, hm, hlock, -⟩
  · exact hstep
  · -- the caller has not begun, and its first step is to take the lock
    have hk' : ({ w.race with lock := none } : Race).callers[i]? = some k := hk
    obtain ⟨-, hwaiting⟩ := (h.serial_of_holds hw).enters rfl hk' hm
    rw [hwaiting] at hm
    obtain ⟨rfl, -⟩ := List.cons.inj hm
    have hother : w.self ≠ i := (List.getElem?_eq_some_iff.1 hk).1.ne'
    rw [h.held hw, Lock.after, if_neg hother] at hlock
    exact absurd hlock (by simp)

/-- The reader finds the lock free, or somebody else holds it. -/
theorem Steady.lock_cases (h : Steady b cs w) (hw : w.reader.holds = false) :
    w.race.lock = none ∨ w.race.lock.after w.self .take = none := by
  cases hl : w.race.lock with
  | none => exact Or.inl rfl
  | some holder =>
    obtain ⟨i, d⟩ := holder
    obtain ⟨-, -, k, -, -, hk, -⟩ := (h.serial_of_not_holds hw).held i d hl
    have hother : i ≠ w.self := (List.getElem?_eq_some_iff.1 hk).1.ne
    exact Or.inr (if_neg hother)

/-! ## One turn -/

theorem steady_caller (h : Steady b cs w) (i : Nat) : Steady b cs (w.step (.caller i)) := by
  cases hw : w.reader.holds with
  | true =>
    rw [step, h.race_step_of_holds hw]
    exact h
  | false =>
    have hserial := h.serial_of_not_holds hw
    have hview : (w.step (.caller i)).callersView = w.race.step i := by
      simp [callersView, step, hw]
    refine ⟨?_, ?_, h.asked, ?_, ?_⟩
    · rw [hview]
      exact Race.serial_step hserial i
    · exact fun hholds => absurd (hw.symm.trans hholds) (by simp)
    · intro q a hstage
      have hholds : w.reader.holds = true := by
        simp only [step] at hstage
        rw [Reader.holds, hstage]
      exact absurd (hw.symm.trans hholds) (by simp)
    · exact h.informed.mono (Race.finished_prefix_step hserial i)

/-- A reader without a question under way, or waiting for the lock, is in nobody's way. -/
theorem steady_of_reader {k : Reader} (h : Steady b cs w) (hw : w.reader.holds = false)
    (hk : k.holds = false)
    (hasked : ∀ q, k.question? = some q → q.aboutExamples = none ∧ k.mayAsk q = true)
    (hinformed : k.Informed b w.race.finished) : Steady b cs { w with reader := k } where
  serial := by
    have hview : ({ w with reader := k } : Watched).callersView = w.race := by
      simp [callersView, hk]
    rw [hview]
    exact h.serial_of_not_holds hw
  held := fun hholds => absurd (hk.symm.trans hholds) (by simp)
  asked := hasked
  looked := by
    intro q a hstage
    have hholds : k.holds = true := by rw [Reader.holds, hstage]
    exact absurd (hk.symm.trans hholds) (by simp)
  informed := hinformed

theorem steady_ask (h : Steady b cs w) (hb : b.store.Linked) (q : Question) :
    Steady b cs (w.ask q) := by
  rw [ask]
  split
  · next hidle =>
    have hw : w.reader.holds = false := by rw [Reader.holds, hidle]
    by_cases hmay : w.reader.mayAsk q = true
    · rw [if_pos hmay]
      cases hexample : q.aboutExamples with
      | some f =>
        -- such an answer does not depend on the store, so it tells of the present one
        have hanswer : q.answer (some (Command.runEach b w.race.finished).store) = .found f := by
          simp only [Question.answer, hexample]
        have hheard := h.informed.hear hb hmay
        rw [hanswer] at hheard
        exact steady_of_reader h hw rfl (by simp [Reader.hear, Reader.question?]) hheard
      | none =>
        refine steady_of_reader h hw rfl (fun q' hq' => ?_) (h.informed.stage _)
        obtain rfl : q = q' := by simpa [Reader.question?] using hq'
        exact ⟨hexample, hmay⟩
    · rw [if_neg hmay]
      exact h
  · exact h

theorem go_of_idle (hstage : w.reader.stage = .idle) : w.go = w := by
  rw [go, hstage]

/-- A reader that finds the lock free takes it. -/
theorem go_of_waiting {q : Question} (hstage : w.reader.stage = .waiting q)
    (hfree : w.race.lock = none) :
    w.go = ⟨{ w.race with lock := some (w.self, 1) }, { w.reader with stage := .inside q }⟩ := by
  have htake : w.race.lock.after w.self .take = some (some (w.self, 1)) := by
    rw [hfree]
    rfl
  rw [go, hstage, htake]

theorem go_of_inside {q : Question} (hstage : w.reader.stage = .inside q) :
    w.go = { w with reader :=
      { w.reader with stage := .leaving q (q.answer (some w.race.blog.store)) } } := by
  rw [go, hstage]

/-- A reader that leaves gives up the lock for good. -/
theorem Steady.go_of_leaving (h : Steady b cs w) {q : Question} {a : Answer}
    (hstage : w.reader.stage = .leaving q a) :
    w.go = ⟨{ w.race with lock := none }, w.reader.hear q a⟩ := by
  have hw : w.reader.holds = true := by rw [Reader.holds, hstage]
  have hrelease : w.race.lock.after w.self .release = some none := by
    rw [h.held hw, Lock.after, if_pos rfl, if_pos (Nat.le_refl 1)]
  rw [go, hstage, hrelease]

theorem steady_go (h : Steady b cs w) (hb : b.store.Linked) : Steady b cs w.go := by
  cases hstage : w.reader.stage with
  | idle =>
    rw [go_of_idle hstage]
    exact h
  | waiting q =>
    have hw : w.reader.holds = false := by rw [Reader.holds, hstage]
    rcases h.lock_cases hw with hfree | hwait
    · rw [go_of_waiting hstage hfree]
      refine ⟨?_, fun _ => rfl, ?_, by simp, h.informed.stage _⟩
      · -- without the reader's lock the race is the one before
        have hview : { w.race with lock := none } = w.race := by rw [← hfree]
        change Race.Serial b cs { w.race with lock := none }
        rw [hview]
        exact h.serial_of_not_holds hw
      · intro q' hq'
        obtain rfl : q = q' := by simpa [Reader.question?] using hq'
        exact h.asked q (by rw [Reader.question?, hstage])
    · rw [go, hstage, hwait]
      exact h
  | inside q =>
    have hw : w.reader.holds = true := by rw [Reader.holds, hstage]
    rw [go_of_inside hstage]
    refine ⟨h.serial_of_holds hw, fun _ => h.held hw, ?_, ?_, h.informed.stage _⟩
    · intro q' hq'
      obtain rfl : q = q' := by simpa [Reader.question?] using hq'
      exact h.asked q (by rw [Reader.question?, hstage])
    · intro q' a hleaving
      obtain ⟨rfl, rfl⟩ := ReaderStage.leaving.inj hleaving
      rfl
  | leaving q a =>
    have hw : w.reader.holds = true := by rw [Reader.holds, hstage]
    obtain ⟨-, hmay⟩ := h.asked q (by rw [Reader.question?, hstage])
    have hanswer : a = q.answer (some (Command.runEach b w.race.finished).store) := by
      rw [← h.blog_of_holds hw]
      exact h.looked q a hstage
    rw [h.go_of_leaving hstage]
    refine ⟨h.serial_of_holds hw, by simp [Reader.hear, Reader.holds],
      by simp [Reader.hear, Reader.question?], by simp [Reader.hear], ?_⟩
    rw [hanswer]
    exact h.informed.hear hb hmay

/-- Whoever's turn it is, the invariants are kept. -/
theorem steady_step (h : Steady b cs w) (hb : b.store.Linked) (t : Turn) :
    Steady b cs (w.step t) := by
  cases t with
  | caller i => exact steady_caller h i
  | ask q => exact steady_ask h hb q
  | go => exact steady_go h hb

/-- The invariants hold at every moment. -/
theorem steady_run (h : Steady b cs w) (hb : b.store.Linked) (turns : List Turn) :
    Steady b cs (w.run turns) := by
  induction turns generalizing w with
  | nil => exact h
  | cons t rest ih => exact ih (steady_step h hb t)

/-! ## Every question is answered -/

theorem go_callers (w : Watched) : w.go.race.callers = w.race.callers := by
  rw [go]
  split
  · rfl
  · split <;> rfl
  · rfl
  · split <;> rfl

/-- Going on asks nothing new, and forgets no question. -/
theorem asked_go (w : Watched) : w.go.asked = w.asked := by
  rw [go]
  split
  · rfl
  · next q hstage =>
    split
    · rfl
    · simp [asked, Reader.question?, hstage]
  · next q hstage => simp [asked, Reader.question?, hstage]
  · next q a hstage =>
    split
    · rfl
    · simp [asked, Reader.question?, Reader.hear, hstage]

theorem run_go (n : Nat) (w : Watched) :
    (w.run (List.replicate n .go)).race.callers = w.race.callers ∧
      (w.run (List.replicate n .go)).asked = w.asked := by
  induction n generalizing w with
  | zero => exact ⟨rfl, rfl⟩
  | succ n ih =>
    obtain ⟨hcallers, hasked⟩ := ih w.go
    exact ⟨hcallers.trans (go_callers w), hasked.trans (asked_go w)⟩

/-- A reader that no caller keeps out is done with its question after three steps. -/
theorem Steady.exists_idle (h : Steady b cs w) (hb : b.store.Linked)
    (hfree : w.reader.holds = true ∨ w.race.lock = none) :
    ∃ n, (w.run (List.replicate n .go)).reader.stage = .idle := by
  have hleaving {w : Watched} (h : Steady b cs w) {q : Question} {a : Answer}
      (hstage : w.reader.stage = .leaving q a) : w.go.reader.stage = .idle := by
    rw [h.go_of_leaving hstage]
    rfl
  have hinside {w : Watched} (h : Steady b cs w) {q : Question}
      (hstage : w.reader.stage = .inside q) : w.go.go.reader.stage = .idle :=
    hleaving (steady_go h hb) (by rw [go_of_inside hstage])
  cases hstage : w.reader.stage with
  | idle => exact ⟨0, hstage⟩
  | waiting q =>
    have hw : w.reader.holds = false := by rw [Reader.holds, hstage]
    have hlock : w.race.lock = none := hfree.resolve_left (by rw [hw]; exact Bool.false_ne_true)
    have hnext : w.go.reader.stage = .inside q := by rw [go_of_waiting hstage hlock]
    exact ⟨3, hinside (steady_go h hb) hnext⟩
  | inside q => exact ⟨2, hinside h hstage⟩
  | leaving q a => exact ⟨1, hleaving h hstage⟩

theorem run_append (w : Watched) (turns rest : List Turn) :
    w.run (turns ++ rest) = (w.run turns).run rest :=
  List.foldl_append

theorem run_callers (w : Watched) (schedule : List Nat) :
    w.run (schedule.map .caller) = { w with race := w.race.run schedule } := by
  induction schedule generalizing w with
  | nil => rfl
  | cons i rest ih => exact ih _

/-- Nobody gets stuck: some further turns finish all commands and answer the question under way. -/
theorem Steady.exists_finish (h : Steady b cs w) (hb : b.store.Linked) :
    ∃ rest, (w.run rest).race.isOver = true ∧
      (w.run rest).reader.heard.map (·.1) = w.asked := by
  -- the reader gives up the lock, the callers finish, and then the reader does
  obtain ⟨n, hn⟩ : ∃ n, (w.run (List.replicate n .go)).reader.holds = false := by
    cases hw : w.reader.holds with
    | false => exact ⟨0, hw⟩
    | true =>
      obtain ⟨n, hidle⟩ := h.exists_idle hb (Or.inl hw)
      exact ⟨n, by rw [Reader.holds, hidle]⟩
  have h₁ := steady_run h hb (List.replicate n .go)
  obtain ⟨schedule, hover⟩ := (h₁.serial_of_not_holds hn).exists_finish _ rfl
  have h₂ := steady_run h₁ hb (schedule.map .caller)
  rw [run_callers] at h₂
  have hfree := (h₂.serial_of_not_holds hn).lock_of_over hover
  obtain ⟨m, hidle⟩ := h₂.exists_idle hb (Or.inr hfree)
  refine ⟨List.replicate n .go ++ (schedule.map .caller ++ List.replicate m .go), ?_, ?_⟩
  · rw [run_append, run_append, run_callers, Race.isOver, (run_go m _).1]
    exact hover
  · have hasked := (run_go m ⟨(w.run (List.replicate n .go)).race.run schedule,
      (w.run (List.replicate n .go)).reader⟩).2
    rw [Watched.asked, Reader.question?, hidle, Option.toList_none, List.append_nil] at hasked
    rw [run_append, run_append, run_callers, hasked]
    exact (run_go n w).2

/-- **A reader sees one snapshot after the other.**  Beside any callers on a used blog, and
whoever's turn it is when, each question about a record that an answer brought, or about none, is
answered without a failure: no reference dangles.  Each answer is the one that the store gives
after some number of the accepted commands, and these numbers do not decrease.  Nobody gets stuck,
so the question under way is answered too. -/
theorem answers_are_snapshots {b : Blog} (hb : b.IsFresh) (uses : List Use) (cs : List Command)
    (turns : List Turn) :
    (∀ h ∈ ((start (b.run uses) cs).run turns).reader.heard, ∃ f, h.2 = .found f) ∧
    (∃ moments : List Nat, moments.Pairwise (· ≤ ·) ∧
      List.Forall₂ (fun (h : Question × Answer) n =>
        ∃ s, (Command.versions (b.run uses)
          ((start (b.run uses) cs).run turns).race.finished)[n]? = some s ∧
          h.2 = h.1.answer (some s))
        ((start (b.run uses) cs).run turns).reader.heard moments) ∧
    ∃ rest, ((start (b.run uses) cs).run (turns ++ rest)).race.isOver = true ∧
      ((start (b.run uses) cs).run (turns ++ rest)).reader.heard.map (·.1) =
        ((start (b.run uses) cs).run turns).asked := by
  have hlinked : (b.run uses).store.Linked := Blog.linked_run hb uses
  have h := steady_run (steady_start (b.run uses) cs) hlinked turns
  refine ⟨fun heard hheard => ?_, ?_, ?_⟩
  · obtain ⟨f, hf, -⟩ := h.informed.found heard hheard
    exact ⟨f, hf⟩
  · obtain ⟨moments, hsorted, -, hall⟩ := h.informed.told
    exact ⟨moments, hsorted, hall⟩
  · obtain ⟨rest, hover, hheard⟩ := h.exists_finish hlinked
    exact ⟨rest, by rw [run_append]; exact hover, by rw [run_append]; exact hheard⟩

/-- A comment of the sample data. -/
def sampleComment : Comment :=
  ⟨"104", "I used to love her...But I had to kill her...", "2", "11"⟩

/-- A user who is new to the sample data. -/
def sampleNewUser : Command := .createUser ⟨"Ann", "ann@x.org", none⟩

/-- The comments are asked for, then who wrote one of them, then the users.  The caller begins in
between and keeps the reader waiting for a while. -/
def sampleTurns : List Turn :=
  [.ask .comments, .go, .go, .caller 0, .go, .caller 0, .caller 0, .ask (.commenter sampleComment),
    .go] ++ List.replicate 8 (.caller 0) ++ [.go, .go, .go, .ask (.users none), .go, .go, .go]

/-- The reader and the caller at the sample data after these turns. -/
def sampleWatch : Watched := (start (Blog.run .sample []) [sampleNewUser]).run sampleTurns

theorem answers_are_snapshots_sample :
    Blog.sample.IsFresh ∧ sampleWatch.race.finished = [sampleNewUser] ∧
    sampleWatch.reader.heard.map (·.1) = [.comments, .commenter sampleComment, .users none] ∧
    (∀ h ∈ sampleWatch.reader.heard, ∃ f, h.2 = .found f) ∧
    ∃ moments : List Nat, moments.Pairwise (· ≤ ·) ∧
      List.Forall₂ (fun (h : Question × Answer) n =>
        ∃ s, (Command.versions (Blog.run .sample []) sampleWatch.race.finished)[n]? = some s ∧
          h.2 = h.1.answer (some s)) sampleWatch.reader.heard moments := by
  have hfresh : Blog.sample.IsFresh := Or.inr rfl
  have h := answers_are_snapshots hfresh [] [sampleNewUser] sampleTurns
  exact ⟨hfresh, by decide +kernel, by decide +kernel, h.1, h.2.1⟩

end Watched
end BlogGraph
