import BlogGraph.Blog.Shared

/-!
# How threads hold the lock

However the turns of several threads come, each block gives the lock back as it was found, nobody
but its holder gets at the store, and somebody can always go on.

The invariant (`State.Sound`) counts: the lock is held by a thread as often as there are blocks
around that thread which hold it, and each of these blocks remembers how many there were around it.
Work outside all of them makes no access (`Code.Sheltered`).  One lemma says all that a turn can do
(`stepped_of_step?`), one that it keeps the invariant (`Sound.step`), one that a schedule does
(`Sound.run`).

Main statements:

* `State.Sound.run`: the invariant at every moment;
* `State.Sound.isSome_go?`: who may go on;
* `State.Sound.step?_withBlog`: the turns of others, while a thread is behind the lock;
* `State.locking_is_disciplined`: the discipline of every schedule.
-/

namespace BlogGraph.Shared

/-! ## The lock -/

/-- A lock that someone holds was taken. -/
def Taken (l : Lock) : Prop := ∀ i n, l = some (i, n) → 0 < n

/-- How often a block holds the lock. -/
def Purpose.weight : Purpose → Nat
  | hold => 1
  | attempt => 0

/-- What a thread's beginning or leaving of a block does to the lock: it counts as it should for
that thread and as before for all others. -/
structure Tallies (l l' : Lock) (i count : Nat) : Prop where
  taken : Taken l'
  self : depth l' i = count
  other : ∀ j, j ≠ i → depth l' j = depth l j

theorem depth_self (i n : Nat) : depth (some (i, n)) i = n := if_pos rfl

theorem depth_other {i j : Nat} (n : Nat) (h : j ≠ i) : depth (some (i, n)) j = 0 :=
  if_neg (Ne.symm h)

theorem taken_some {i n : Nat} (h : 0 < n) : Taken (some (i, n)) := by
  rintro j m ⟨⟩
  exact h

theorem taken_none : Taken none := by
  intro i n h
  exact absurd h (by simp)

variable {l l' : Lock} {i j : Nat} {p : Purpose}

/-- Only the holder of the lock has any depth. -/
theorem eq_some_of_depth_pos (h : 0 < depth l i) : ∃ n, l = some (i, n) := by
  unfold depth at h
  split at h
  · next k n =>
    split at h
    · next hk => exact ⟨n, by rw [hk]⟩
    · exact absurd h (Nat.lt_irrefl 0)
  · exact absurd h (Nat.lt_irrefl 0)

/-- Whoever takes the lock finds it free or holds it already. -/
theorem take_cases (h : l.after i .take = some l') : (l = none ∧ l' = some (i, 1)) ∨
    ∃ n, l = some (i, n) ∧ l' = some (i, n + 1) := by
  unfold Lock.after at h
  cases l with
  | none => exact .inl ⟨rfl, (Option.some.inj h).symm⟩
  | some holder =>
    obtain ⟨k, n⟩ := holder
    by_cases hk : k = i
    · subst hk
      exact .inr ⟨n, rfl, by simpa using h.symm⟩
    · simp [hk] at h

/-- Whoever releases the lock holds it. -/
theorem release_cases (h : l.after i .release = some l') :
    ∃ n, l = some (i, n) ∧ l' = if n ≤ 1 then none else some (i, n - 1) := by
  unfold Lock.after at h
  cases l with
  | none => exact absurd h (by simp)
  | some holder =>
    obtain ⟨k, n⟩ := holder
    by_cases hk : k = i
    · subst hk
      exact ⟨n, rfl, by simpa using h.symm⟩
    · simp [hk] at h

theorem tallies_lock (hl : Taken l) (h : p.lock l i = some l') :
    Tallies l l' i (depth l i + p.weight) := by
  cases p with
  | attempt =>
    obtain rfl : l = l' := Option.some.inj h
    exact ⟨hl, rfl, fun _ _ => rfl⟩
  | hold =>
    obtain ⟨rfl, rfl⟩ | ⟨n, rfl, rfl⟩ := take_cases h
    · exact ⟨taken_some Nat.one_pos, depth_self i 1, fun j hj => depth_other 1 hj⟩
    · refine ⟨taken_some (Nat.succ_pos n), ?_, fun j hj => ?_⟩
      · rw [depth_self, depth_self]
        rfl
      · rw [depth_other _ hj, depth_other _ hj]

theorem tallies_unlock (hl : Taken l) (h : p.unlock l i = some l') :
    Tallies l l' i (depth l i - p.weight) := by
  cases p with
  | attempt =>
    obtain rfl : l = l' := Option.some.inj h
    exact ⟨hl, rfl, fun _ _ => rfl⟩
  | hold =>
    obtain ⟨n, rfl, rfl⟩ := release_cases h
    rw [depth_self]
    by_cases hn : n ≤ 1
    · rw [if_pos hn]
      refine ⟨taken_none, ?_, fun j hj => (depth_other n hj).symm⟩
      show 0 = n - 1
      omega
    · rw [if_neg hn]
      refine ⟨taken_some (by omega), depth_self i (n - 1), fun j hj => ?_⟩
      rw [depth_other _ hj, depth_other _ hj]

/-- Nobody else holds the lock. -/
def Within (l : Lock) (i : Nat) : Prop := l = none ∨ ∃ n, l = some (i, n)

theorem isSome_lock (h : Within l i) : (p.lock l i).isSome := by
  cases p with
  | attempt => rfl
  | hold =>
    obtain rfl | ⟨n, rfl⟩ := h
    · rfl
    · simp [Purpose.lock, Lock.after]

theorem isSome_unlock (h : p.weight ≤ depth l i) : (p.unlock l i).isSome := by
  cases p with
  | attempt => rfl
  | hold =>
    obtain ⟨n, rfl⟩ := eq_some_of_depth_pos h
    simp [Purpose.unlock, Lock.after]

/-! ## Blocks around a thread -/

/-- How often the blocks around a thread hold the lock. -/
def held : List Block → Nat
  | [] => 0
  | block :: outer => block.purpose.weight + held outer

theorem held_cons (block : Block) (outer : List Block) :
    held (block :: outer) = block.purpose.weight + held outer := rfl

/-- Work that makes no access, unless behind the lock. -/
inductive Code.Sheltered : Code → Prop where
  | hold (body : List Code) : Sheltered (.block .hold body)
  | attempt {body : List Code} (h : ∀ c ∈ body, Sheltered c) : Sheltered (.block .attempt body)

/-- Work ahead that makes no access, unless the blocks around it hold the lock. -/
def Covered (ahead : List Code) (blocks : List Block) : Prop :=
  held blocks = 0 → ∀ c ∈ ahead, c.Sheltered

/-- Work ahead, and the work after each of the blocks around, is covered; each block remembers how
often the blocks around it hold the lock. -/
def Nested (ahead : List Code) : List Block → Prop
  | [] => Covered ahead []
  | block :: outer =>
    Covered ahead (block :: outer) ∧ block.before = held outer ∧ Nested block.next outer

variable {ahead rest body next : List Code} {blocks outer : List Block} {block : Block}

theorem Nested.covered (h : Nested ahead blocks) : Covered ahead blocks := by
  cases blocks with
  | nil => exact h
  | cons block outer => exact h.1

/-- Work may be dropped. -/
theorem Nested.drop (h : Nested ahead blocks) (hsub : rest ⊆ ahead) : Nested rest blocks := by
  have hcovered : Covered rest blocks := fun hzero c hc => h.covered hzero c (hsub hc)
  cases blocks with
  | nil => exact hcovered
  | cons block outer => exact ⟨hcovered, h.2⟩

theorem Nested.nil (h : Nested ahead blocks) : Nested [] blocks := h.drop (List.nil_subset ahead)

/-- A block may be begun. -/
theorem Nested.enter (h : Nested (.block p body :: next) blocks) :
    Nested body (⟨p, held blocks, next⟩ :: blocks) := by
  refine ⟨fun hzero c hc => ?_, rfl, h.drop (List.subset_cons_self _ _)⟩
  rw [held_cons] at hzero
  cases p with
  | hold => exact absurd hzero (by simp [Purpose.weight])
  | attempt =>
    have houter : held blocks = 0 := by simpa [Purpose.weight] using hzero
    cases h.covered houter _ List.mem_cons_self with
    | attempt hbody => exact hbody c hc

/-- Accesses are made behind the lock only. -/
theorem Nested.held_pos_of_access {a : Access} (h : Nested (.access a :: rest) blocks) :
    0 < held blocks := by
  refine Nat.pos_of_ne_zero fun hzero => ?_
  cases h.covered hzero _ List.mem_cons_self

mutual

/-- Every operation takes the lock for its accesses. -/
theorem sheltered_code : ∀ o : Operation, o.code.Sheltered
  | .read _ => .hold _
  | .append _ => .hold _
  | .counts => .hold _
  | .create _ => .hold _
  | .transaction _ => .hold _
  | .attempt body => .attempt (sheltered_codes body)

theorem sheltered_codes : ∀ ops : List Operation, ∀ c ∈ Operation.codes ops, c.Sheltered
  | [], _, hc => absurd hc List.not_mem_nil
  | o :: rest, c, hc => by
    rcases List.mem_cons.1 hc with rfl | hrest
    · exact sheltered_code o
    · exact sheltered_codes rest c hrest

end

namespace State

variable {w w' : State} {t : Thread} {turn : Turn} {lock : Lock}

/-! ## What a turn can do -/

/-- The steps of a thread: an access, the beginning and the end of a block, and a failure that
strikes it. -/
inductive Stepped (w : State) (i : Nat) : State → Prop where
  | access {t : Thread} {a : Access} {rest : List Code} (ht : w.threads[i]? = some t)
      (ha : t.ahead = .access a :: rest) :
      Stepped w i { w with
        blog := (a.perform w.blog t.notes).2
        threads := w.threads.set i (t.told rest (a.perform w.blog t.notes).1) }
  | enter {t : Thread} {p : Purpose} {body next : List Code} {lock : Lock}
      (ht : w.threads[i]? = some t) (ha : t.ahead = .block p body :: next)
      (hl : p.lock w.lock i = some lock) :
      Stepped w i { w with
        lock, threads := w.threads.set i (t.enter p (depth w.lock i) body next) }
  | leave {t : Thread} {block : Block} {outer : List Block} {lock : Lock}
      (ht : w.threads[i]? = some t) (ha : t.ahead = []) (hb : t.blocks = block :: outer)
      (hl : block.purpose.unlock w.lock i = some lock) :
      Stepped w i { w with
        lock
        threads := w.threads.set i (t.leave block outer)
        exits := w.exits ++ [⟨i, block.before, depth lock i, t.failure.isSome⟩] }
  | fail {t : Thread} {e : StepError} (ht : w.threads[i]? = some t) :
      Stepped w i { w with threads := w.threads.set i (t.failing e) }

/-- Every turn is one of these steps. -/
theorem stepped_of_step? (h : w.step? turn = some w') : Stepped w turn.thread w' := by
  cases turn with
  | go i =>
    simp only [step?, go?] at h
    split at h
    · exact absurd h (by simp)
    · next t ht =>
      split at h
      · next a rest ha =>
        obtain rfl := Option.some.inj h
        exact .access ht ha
      · next p body next ha =>
        obtain ⟨lock, hl, rfl⟩ := Option.map_eq_some_iff.1 h
        exact .enter ht ha hl
      · next block outer ha hb =>
        obtain ⟨lock, hl, rfl⟩ := Option.map_eq_some_iff.1 h
        exact .leave ht ha hb hl
      · exact absurd h (by simp)
  | fail i e =>
    simp only [step?, fail?] at h
    split at h
    · exact absurd h (by simp)
    · next t ht =>
      split at h
      · exact absurd h (by simp)
      · obtain rfl := Option.some.inj h
        exact .fail ht

/-! ## The invariant -/

/-- How often the blocks around the thread with a number hold the lock. -/
def held (w : State) (i : Nat) : Nat :=
  match w.threads[i]? with
  | some t => Shared.held t.blocks
  | none => 0

theorem held_of_get (ht : w.threads[i]? = some t) : w.held i = Shared.held t.blocks := by
  rw [held, ht]

/-- What is so of threads at any moment. -/
structure Sound (w : State) : Prop where
  nested : ∀ (i : Nat) (t : Thread), w.threads[i]? = some t → Nested t.ahead t.blocks
  counted : ∀ i, depth w.lock i = w.held i
  taken : Taken w.lock
  returned : ∀ e ∈ w.exits, e.after = e.before

/-- A thread may be replaced by one that is as well nested, together with the lock that counts its
blocks. -/
theorem Sound.replace (h : Sound w) (ht : w.threads[i]? = some t) (t' : Thread)
    (hnested : Nested t'.ahead t'.blocks)
    (htallies : Tallies w.lock lock i (Shared.held t'.blocks)) {exits : List Exit}
    (hexits : ∀ e ∈ exits, e.after = e.before) (blog : Blog) :
    Sound ⟨blog, lock, w.threads.set i t', exits⟩ := by
  have hself : (w.threads.set i t')[i]? = some t' :=
    List.getElem?_set_self (List.getElem?_eq_some_iff.1 ht).1
  have hother : ∀ j, j ≠ i → (w.threads.set i t')[j]? = w.threads[j]? :=
    fun j hj => List.getElem?_set_ne (Ne.symm hj)
  refine ⟨fun j u hu => ?_, fun j => ?_, htallies.taken, hexits⟩
  · by_cases hj : j = i
    · subst hj
      obtain rfl : t' = u := Option.some.inj (hself.symm.trans hu)
      exact hnested
    · exact h.nested j u ((hother j hj).symm.trans hu)
  · by_cases hj : j = i
    · subst hj
      rw [held_of_get hself]
      exact htallies.self
    · show depth lock j = _
      rw [htallies.other j hj, h.counted j, held, held]
      simp only [hother j hj]

/-- The lock as it is counts the blocks around a thread. -/
theorem Sound.tallies (h : Sound w) (ht : w.threads[i]? = some t) :
    Tallies w.lock w.lock i (Shared.held t.blocks) :=
  ⟨h.taken, (h.counted i).trans (held_of_get ht), fun _ _ => rfl⟩

/-- A thread may drop work and change what it has learnt, and the blog may change, as long as the
blocks stay. -/
theorem Sound.keep (h : Sound w) (ht : w.threads[i]? = some t) (t' : Thread)
    (hblocks : t'.blocks = t.blocks) (hsub : t'.ahead ⊆ t.ahead) (blog : Blog) :
    Sound { w with blog, threads := w.threads.set i t' } := by
  have hnested : Nested t'.ahead t'.blocks := by
    rw [hblocks]
    exact (h.nested i t ht).drop hsub
  have htallies : Tallies w.lock w.lock i (Shared.held t'.blocks) := by
    rw [hblocks]
    exact h.tallies ht
  exact h.replace ht t' hnested htallies h.returned blog

theorem Sound.step (h : Sound w) (hs : Stepped w i w') : Sound w' := by
  cases hs with
  | @access t a rest ht ha =>
    cases (a.perform w.blog t.notes).1 with
    | ok notes =>
      refine h.keep ht (t.told rest (.ok notes)) rfl ?_ _
      rw [ha]
      exact List.subset_cons_self _ _
    | error e => exact h.keep ht (t.failing e) rfl (List.nil_subset _) _
  | @enter t p body next lock ht ha hl =>
    have hnested := h.nested i t ht
    rw [ha] at hnested
    have hdepth : depth w.lock i = Shared.held t.blocks := (h.tallies ht).self
    have htallies := tallies_lock h.taken hl
    rw [hdepth, Nat.add_comm, ← held_cons ⟨p, Shared.held t.blocks, next⟩] at htallies
    rw [hdepth]
    exact h.replace ht _ hnested.enter htallies h.returned _
  | @leave t block outer lock ht ha hb hl =>
    have hnested := h.nested i t ht
    rw [hb] at hnested
    obtain ⟨-, hbefore, hnext⟩ := hnested
    -- one block less: the lock is held as often as before that block
    have htallies := tallies_unlock h.taken hl
    rw [(h.tallies ht).self, hb, held_cons, Nat.add_sub_cancel_left] at htallies
    have hexits : ∀ e ∈ w.exits ++ [⟨i, block.before, depth lock i, t.failure.isSome⟩],
        e.after = e.before := by
      intro e he
      rcases List.mem_append.1 he with hold | hnew
      · exact h.returned e hold
      · rw [List.mem_singleton.1 hnew]
        exact htallies.self.trans hbefore.symm
    by_cases hfails : t.failure.isSome ∧ block.purpose = .hold
    · rw [Thread.leave, if_pos hfails]
      refine h.replace ht _ ?_ htallies hexits _
      show Nested t.ahead outer
      rw [ha]
      exact hnext.nil
    · rw [Thread.leave, if_neg hfails]
      exact h.replace ht _ hnext htallies hexits _
  | @fail t e ht => exact h.keep ht (t.failing e) rfl (List.nil_subset _) _

/-- The invariant holds at every moment of a schedule. -/
theorem Sound.run (h : Sound w) (schedule : List Turn) : Sound (w.run schedule) := by
  induction schedule generalizing w with
  | nil => exact h
  | cons turn rest ih =>
    refine ih (w := (w.step? turn).getD w) ?_
    cases hs : w.step? turn with
    | none => exact h
    | some w' => exact h.step (stepped_of_step? hs)

theorem sound_start (b : Blog) (programs : List (List Operation)) : Sound (start b programs) := by
  have hstart : ∀ (i : Nat) (t : Thread), (start b programs).threads[i]? = some t →
      ∃ ops, t = .ofOperations ops := by
    intro i t ht
    obtain ⟨ops, -, rfl⟩ := List.mem_map.1 (List.mem_of_getElem? ht)
    exact ⟨ops, rfl⟩
  refine ⟨fun i t ht => ?_, fun i => ?_, taken_none, ?_⟩
  · obtain ⟨ops, rfl⟩ := hstart i t ht
    exact fun _ => sheltered_codes ops
  · show 0 = _
    unfold held
    split
    · next t ht =>
      obtain ⟨ops, rfl⟩ := hstart i t ht
      rfl
    · rfl
  · simp [start]

/-! ## Behind the lock -/

/-- A thread is in a block that holds the lock. -/
def Inside (w : State) (i : Nat) : Prop := 0 < w.held i

theorem Sound.lock_of_inside (h : Sound w) (hi : w.Inside i) : ∃ n, w.lock = some (i, n) := by
  refine eq_some_of_depth_pos ?_
  rw [h.counted i]
  exact hi

theorem Sound.eq_of_inside (h : Sound w) (hi : w.Inside i) (hj : w.Inside j) : i = j := by
  obtain ⟨n, hn⟩ := h.lock_of_inside hi
  obtain ⟨m, hm⟩ := h.lock_of_inside hj
  rw [hn] at hm
  cases hm
  rfl

theorem exists_thread_of_inside (hi : w.Inside i) :
    ∃ t, w.threads[i]? = some t ∧ t.isOver = false := by
  unfold Inside held at hi
  split at hi
  · next t ht =>
    refine ⟨t, ht, ?_⟩
    cases hb : t.blocks with
    | nil => exact absurd hi (by simp [hb, Shared.held])
    | cons block outer => simp [Thread.isOver, hb]
  · exact absurd hi (Nat.lt_irrefl 0)

/-- A thread that is not over can go on, unless another one holds the lock. -/
theorem Sound.isSome_go? (h : Sound w) (ht : w.threads[i]? = some t) (hover : t.isOver = false)
    (hwithin : Within w.lock i) : (w.go? i).isSome := by
  unfold go?
  rw [ht]
  dsimp only
  split
  · rfl
  · rw [Option.isSome_map]
    exact isSome_lock hwithin
  · next block outer ha hb =>
    rw [Option.isSome_map]
    apply isSome_unlock
    rw [(h.tallies ht).self, hb, held_cons]
    exact Nat.le_add_right _ _
  · next ha hb => exact absurd hover (by simp [Thread.isOver, ha, hb])

theorem Sound.isSome_go?_of_inside (h : Sound w) (hi : w.Inside i) : (w.go? i).isSome := by
  obtain ⟨t, ht, hover⟩ := exists_thread_of_inside hi
  exact h.isSome_go? ht hover (.inr (h.lock_of_inside hi))

/-- Unless all threads are over, one of them can go on. -/
theorem Sound.exists_go? (h : Sound w) (hover : w.isOver = false) : ∃ i, (w.go? i).isSome := by
  cases hl : w.lock with
  | none =>
    -- the lock is free, so whoever is not over can go on
    obtain ⟨t, hmem, hnot⟩ := List.all_eq_false.1 hover
    obtain ⟨i, ht⟩ := List.getElem?_of_mem hmem
    exact ⟨i, h.isSome_go? ht (by simpa using hnot) (.inl hl)⟩
  | some holder =>
    obtain ⟨i, n⟩ := holder
    refine ⟨i, h.isSome_go?_of_inside ?_⟩
    show 0 < w.held i
    rw [← h.counted i, hl, depth_self]
    exact h.taken i n hl

/-- The same threads over another blog. -/
def withBlog (blog : Blog) (w : State) : State := { w with blog }

/-- A turn of a thread that makes no access is the same over any blog, and leaves the blog as it
is. -/
theorem step?_withBlog_of_no_access (hno : ∀ t a rest, w.threads[turn.thread]? = some t →
    t.ahead ≠ .access a :: rest) (blog : Blog) :
    (w.withBlog blog).step? turn = (w.step? turn).map (withBlog blog) := by
  cases turn with
  | go i =>
    simp only [step?, go?, withBlog]
    cases ht : w.threads[i]? with
    | none => rfl
    | some t =>
      cases ha : t.ahead with
      | nil =>
        cases hb : t.blocks with
        | nil => simp only [ha, hb]; rfl
        | cons block outer =>
          simp only [ha, hb, Option.map_map]
          rfl
      | cons c rest =>
        cases c with
        | access a => exact absurd ha (hno t a rest ht)
        | block p body =>
          simp only [ha, Option.map_map]
          rfl
  | fail i e =>
    simp only [step?, fail?, withBlog]
    cases w.threads[i]? with
    | none => rfl
    | some t =>
      cases hover : t.isOver with
      | true => simp only [hover]; rfl
      | false => simp only [hover]; rfl

/-- While a thread is behind the lock, the turns of others are the same over any blog, and leave the
blog as it is. -/
theorem Sound.step?_withBlog (h : Sound w) (hi : w.Inside i) (hturn : turn.thread ≠ i)
    (blog : Blog) : (w.withBlog blog).step? turn = (w.step? turn).map (withBlog blog) := by
  apply step?_withBlog_of_no_access
  intro t a rest ht ha
  have hnested := h.nested _ t ht
  rw [ha] at hnested
  have hinside : w.Inside turn.thread := by
    rw [Inside, held_of_get ht]
    exact hnested.held_pos_of_access
  exact hturn (h.eq_of_inside hinside hi)

/-- The discipline of threads at one moment. -/
structure Disciplined (w : State) : Prop where
  /-- At most one thread is behind the lock. -/
  alone : ∀ i j, w.Inside i → w.Inside j → i = j
  /-- The lock is held by each thread as often as the blocks around that thread hold it. -/
  counted : ∀ i, depth w.lock i = w.held i
  /-- Whoever left a block, for a failure or not, holds the lock as often as before the block. -/
  returned : ∀ e ∈ w.exits, e.after = e.before
  /-- A thread behind the lock is not stopped by anything that it does there. -/
  unstopped : ∀ i, w.Inside i → (w.step? (.go i)).isSome
  /-- While a thread is behind the lock, no turn of another one reads the blog or changes it. -/
  untouched : ∀ i turn, w.Inside i → turn.thread ≠ i → ∀ blog,
    (w.withBlog blog).step? turn = (w.step? turn).map (withBlog blog)
  /-- Unless all threads are over, one of them can go on. -/
  onward : w.isOver = false → ∃ i, (w.step? (.go i)).isSome

theorem Sound.disciplined (h : Sound w) : Disciplined w where
  alone := fun _ _ => h.eq_of_inside
  counted := h.counted
  returned := h.returned
  unstopped := fun _ => h.isSome_go?_of_inside
  untouched := fun _ _ => h.step?_withBlog
  onward := h.exists_go?

/-- **The discipline of the lock.**  Whatever operations several threads carry out on a blog, and
in whatever order their turns and failures come, the lock is held with discipline at every
moment. -/
theorem locking_is_disciplined (b : Blog) (programs : List (List Operation))
    (schedule : List Turn) : ((start b programs).run schedule).Disciplined :=
  ((sound_start b programs).run schedule).disciplined

/-- A transaction that counts and then fails to append: its blocks, innermost first, each left with
the lock as it was before. -/
example : ((start .sample [[.transaction [.counts, .append (.other "dict")]]]).run
    (List.replicate 20 (.go 0))).exits =
    [⟨0, 2, 2, false⟩, ⟨0, 2, 2, false⟩, ⟨0, 2, 2, false⟩, ⟨0, 1, 1, false⟩, ⟨0, 1, 1, true⟩,
      ⟨0, 0, 0, true⟩] := by
  decide +kernel

end State
end BlogGraph.Shared
