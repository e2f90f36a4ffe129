import BlogGraph.Proofs.Blog.Linearization
import BlogGraph.Proofs.Blog.Locking

/-!
# A thread that nobody disturbs

A thread among others that finds the lock free, and has all turns to itself until it is over, does
what a session with the same operations does: the same becomes of the blog, it is given the same
values, and it ends with the same failure.

`Code.done` tells what some work does on its own, without a lock.  The steps of a thread come to
that (`reaches_of_code`, by induction on the work), and so do the steps of a session
(`performed_of_operation?`, by induction on the steps).

Main statement: `State.undisturbed_thread_does_as_session`.
-/

namespace BlogGraph.Shared

/-! ## What work does on its own -/

/-- How some work ended: with a failure or without, with these notes and this blog. -/
structure Done where
  failure : Option StepError
  notes : Notes
  blog : Blog

/-- How a block ends with work that ended so. -/
def Done.out (d : Done) : Purpose → Done
  | .hold => d
  | .attempt => { d with failure := none }

@[simp] theorem Done.blog_out (d : Done) (p : Purpose) : (d.out p).blog = d.blog := by
  cases p <;> rfl

mutual

/-- What some work does on its own. -/
def Code.done (b : Blog) (n : Notes) : Code → Done
  | .access a =>
    match a.perform b n with
    | (.ok notes, blog) => ⟨none, notes, blog⟩
    | (.error e, blog) => ⟨some e, n, blog⟩
  | .block p body => (doneAll b n body).out p

/-- What pieces of work one after the other do, up to the first failure. -/
def doneAll (b : Blog) (n : Notes) : List Code → Done
  | [] => ⟨none, n, b⟩
  | c :: rest =>
    let d := c.done b n
    match d.failure with
    | some _ => d
    | none => doneAll d.blog d.notes rest

end

/-- A thread after some work in its innermost block. -/
def Thread.after (t : Thread) (rest : List Code) (d : Done) : Thread where
  ahead := if d.failure.isSome then [] else rest
  blocks := t.blocks
  failure := d.failure
  notes := d.notes

variable {b : Blog} {n : Notes} {l l' : Lock} {i : Nat} {p : Purpose}

theorem doneAll_append (xs ys : List Code) : doneAll b n (xs ++ ys) =
    match (doneAll b n xs).failure with
    | some _ => doneAll b n xs
    | none => doneAll (doneAll b n xs).blog (doneAll b n xs).notes ys := by
  induction xs generalizing b n with
  | nil => simp [doneAll]
  | cons c rest ih =>
    simp only [List.cons_append, doneAll]
    cases hf : (c.done b n).failure with
    | some e => simp only [hf]
    | none => simp only [ih]

theorem doneAll_cons_of_failure {c : Code} {rest : List Code} {e : StepError}
    (h : (c.done b n).failure = some e) : doneAll b n (c :: rest) = c.done b n := by
  simp only [doneAll, h]

theorem doneAll_cons_of_no_failure {c : Code} {rest : List Code}
    (h : (c.done b n).failure = none) :
    doneAll b n (c :: rest) = doneAll (c.done b n).blog (c.done b n).notes rest := by
  simp only [doneAll, h]

theorem doneAll_singleton (c : Code) : doneAll b n [c] = c.done b n := by
  cases hf : (c.done b n).failure with
  | some e => exact doneAll_cons_of_failure hf
  | none =>
    rw [doneAll_cons_of_no_failure hf, doneAll, ← hf]

theorem done_locked (a : Access) : (Code.locked a).done b n = (Code.access a).done b n :=
  doneAll_singleton (.access a)

/-! ## The steps of a thread -/

/-- Whoever leaves a block finds the lock as it was before the block. -/
theorem unlock_of_lock (hl : Taken l) (h : p.lock l i = some l') : p.unlock l' i = some l := by
  cases p with
  | attempt => exact congrArg some (Option.some.inj h).symm
  | hold =>
    obtain ⟨rfl, rfl⟩ | ⟨m, rfl, rfl⟩ := take_cases h
    · simp [Purpose.unlock, Lock.after]
    · have hpos : 0 < m := hl i m rfl
      have hmany : ¬ m + 1 ≤ 1 := by omega
      simp [Purpose.unlock, Lock.after, hmany]

/-- Nobody else holds the lock inside a block either. -/
theorem Within.of_lock (hl : Within l i) (h : p.lock l i = some l') : Within l' i := by
  cases p with
  | attempt =>
    obtain rfl : l = l' := Option.some.inj h
    exact hl
  | hold =>
    obtain ⟨-, rfl⟩ | ⟨m, -, rfl⟩ := take_cases h
    · exact .inr ⟨1, rfl⟩
    · exact .inr ⟨m + 1, rfl⟩

namespace State

/-- A thread gets from one state to another, with all turns to itself. -/
def Reaches (i : Nat) (w w' : State) : Prop := ∃ k, w.run (List.replicate k (.go i)) = w'

variable {w w' w'' : State} {t : Thread} {rest : List Code}

theorem Reaches.refl (w : State) : Reaches i w w := ⟨0, rfl⟩

theorem Reaches.trans (h : Reaches i w w') (h' : Reaches i w' w'') : Reaches i w w'' := by
  obtain ⟨k, rfl⟩ := h
  obtain ⟨m, rfl⟩ := h'
  refine ⟨k + m, ?_⟩
  rw [List.replicate_add, run, run, run, List.foldl_append]

theorem reaches_of_go? (h : w.go? i = some w') : Reaches i w w' := by
  refine ⟨1, ?_⟩
  show ((w.step? (.go i)).getD w) = w'
  rw [step?, h, Option.getD_some]

/-- A thread is under way, and nobody else holds the lock. -/
structure Ready (w : State) (i : Nat) (t : Thread) : Prop where
  thread : w.threads[i]? = some t
  calm : t.failure = none
  within : Within w.lock i
  taken : Taken w.lock

/-- A thread comes to the end of some work, which leaves it with the rest and the lock as it was. -/
def Ends (w : State) (i : Nat) (t : Thread) (rest : List Code) (d : Done) : Prop :=
  ∃ exits, Reaches i w ⟨d.blog, w.lock, w.threads.set i (t.after rest d), exits⟩

theorem Ready.ends_access (h : Ready w i t) {a : Access} (ha : t.ahead = .access a :: rest) :
    Ends w i t rest ((Code.access a).done w.blog t.notes) := by
  refine ⟨w.exits, reaches_of_go? ?_⟩
  simp only [go?, h.thread, ha]
  cases hr : a.perform w.blog t.notes with
  | mk r blog =>
    cases r with
    | ok notes => simp [Code.done, hr, Thread.told, Thread.after, h.calm]
    | error e => simp [Code.done, hr, Thread.told, Thread.failing, Thread.after]

theorem go?_enter {body : List Code} {lock : Lock} (ht : w.threads[i]? = some t)
    (ha : t.ahead = .block p body :: rest) (hl : p.lock w.lock i = some lock) :
    w.go? i = some { w with
      lock, threads := w.threads.set i (t.enter p (depth w.lock i) body rest) } := by
  simp only [go?, ht, ha, hl, Option.map_some]

theorem go?_leave {block : Block} {outer : List Block} {lock : Lock}
    (ht : w.threads[i]? = some t) (ha : t.ahead = []) (hb : t.blocks = block :: outer)
    (hl : block.purpose.unlock w.lock i = some lock) :
    w.go? i = some { w with
      lock
      threads := w.threads.set i (t.leave block outer)
      exits := w.exits ++ [⟨i, block.before, depth lock i, t.failure.isSome⟩] } := by
  simp only [go?, ht, ha, hb, hl, Option.map_some]

/-- A thread that has come through a block is where the block ends. -/
theorem leave_after (t : Thread) (before : Nat) (body : List Code) (d : Done) :
    ((t.enter p before body rest).after [] d).leave ⟨p, before, rest⟩ t.blocks =
      t.after rest (d.out p) := by
  obtain ⟨failure, notes, blog⟩ := d
  cases p with
  | attempt => simp [Thread.leave, Thread.after, Done.out]
  | hold => cases failure <;> simp [Thread.leave, Thread.after, Done.out]

theorem Ready.ends_block (h : Ready w i t) {body : List Code}
    (ha : t.ahead = .block p body :: rest)
    (hbody : ∀ {w' : State} {t' : Thread}, Ready w' i t' → t'.ahead = body →
      Ends w' i t' [] (doneAll w'.blog t'.notes body)) :
    Ends w i t rest ((Code.block p body).done w.blog t.notes) := by
  obtain ⟨lock, hlock⟩ := Option.isSome_iff_exists.1 (isSome_lock (p := p) h.within)
  have hlt : i < w.threads.length := (List.getElem?_eq_some_iff.1 h.thread).1
  have hin := go?_enter h.thread ha hlock
  have hready : Ready { w with
      lock, threads := w.threads.set i (t.enter p (depth w.lock i) body rest) } i
      (t.enter p (depth w.lock i) body rest) :=
    ⟨List.getElem?_set_self hlt, h.calm, h.within.of_lock hlock, (tallies_lock h.taken hlock).taken⟩
  obtain ⟨exits, hthrough⟩ := hbody hready rfl
  rw [List.set_set] at hthrough
  -- out of the block, which gives the lock back
  have hthread : (w.threads.set i ((t.enter p (depth w.lock i) body rest).after []
      (doneAll w.blog t.notes body)))[i]? = some ((t.enter p (depth w.lock i) body rest).after []
      (doneAll w.blog t.notes body)) := List.getElem?_set_self hlt
  have hblocks : ((t.enter p (depth w.lock i) body rest).after []
      (doneAll w.blog t.notes body)).blocks = ⟨p, depth w.lock i, rest⟩ :: t.blocks := rfl
  have hout := go?_leave (w := ⟨(doneAll w.blog t.notes body).blog, lock, _, exits⟩)
    hthread (ite_self _) hblocks (unlock_of_lock h.taken hlock)
  rw [List.set_set, leave_after t _ _ (doneAll w.blog t.notes body)] at hout
  rw [Code.done, Ends, Done.blog_out]
  exact ⟨_, (reaches_of_go? hin).trans (hthrough.trans (reaches_of_go? hout))⟩

mutual

/-- The steps of a thread come to what its work does on its own. -/
theorem Ready.ends_code : ∀ (c : Code) {w : State} {t : Thread} {rest : List Code},
    Ready w i t → t.ahead = c :: rest → Ends w i t rest (c.done w.blog t.notes)
  | .access _, _, _, _, h, ha => h.ends_access ha
  | .block _ body, _, _, _, h, ha => h.ends_block ha fun h' ha' =>
    Ready.ends_codes body h' (ha'.trans (List.append_nil body).symm)

theorem Ready.ends_codes : ∀ (cs : List Code) {w : State} {t : Thread} {rest : List Code},
    Ready w i t → t.ahead = cs ++ rest → Ends w i t rest (doneAll w.blog t.notes cs)
  | [], w, t, rest, h, ha => by
    obtain ⟨hthread, hcalm, -, -⟩ := h
    obtain ⟨ahead, blocks, failure, notes⟩ := t
    obtain rfl : ahead = rest := ha
    obtain rfl : failure = none := hcalm
    have hsame : w.threads.set i ⟨ahead, blocks, none, notes⟩ = w.threads := by
      obtain ⟨hlt, hget⟩ := List.getElem?_eq_some_iff.1 hthread
      rw [← hget]
      exact List.set_getElem_self hlt
    refine ⟨w.exits, ?_⟩
    show Reaches i w ⟨w.blog, w.lock, w.threads.set i ⟨ahead, blocks, none, notes⟩, w.exits⟩
    rw [hsame]
    exact Reaches.refl w
  | c :: cs, w, t, rest, h, ha => by
    obtain ⟨exits, hfirst⟩ := Ready.ends_code c h ha
    cases hf : (c.done w.blog t.notes).failure with
    | some e =>
      have hafter : t.after rest (c.done w.blog t.notes) =
          t.after (cs ++ rest) (c.done w.blog t.notes) := by
        simp [Thread.after, hf]
      rw [doneAll_cons_of_failure hf, Ends, hafter]
      exact ⟨exits, hfirst⟩
    | none =>
      have hlt : i < w.threads.length := (List.getElem?_eq_some_iff.1 h.thread).1
      have hready : Ready ⟨(c.done w.blog t.notes).blog, w.lock,
          w.threads.set i (t.after (cs ++ rest) (c.done w.blog t.notes)), exits⟩ i
          (t.after (cs ++ rest) (c.done w.blog t.notes)) :=
        ⟨List.getElem?_set_self hlt, hf, h.within, h.taken⟩
      have hahead : (t.after (cs ++ rest) (c.done w.blog t.notes)).ahead = cs ++ rest := by
        simp [Thread.after, hf]
      obtain ⟨exits', hothers⟩ := Ready.ends_codes cs hready hahead
      rw [List.set_set] at hothers
      rw [doneAll_cons_of_no_failure hf]
      exact ⟨exits', hfirst.trans hothers⟩

end

end State

/-! ## The steps of a session -/

mutual

/-- The operation that a step of a session is, if it is one. A transaction of a session keeps the
failure that ends it to itself. -/
def operationOf? : Step → Option Operation
  | .append item => some (.append item)
  | .get kind id => some (.read (.get kind id))
  | .all kind => some (.read (.all kind))
  | .size kind => some (.read (.size kind))
  | .counts => some .counts
  | .select kind condition =>
    some (.read (.filter kind fun r => (condition.test r).mapError .condition))
  | .holdsForSome kind condition =>
    some (.read (.any kind fun r => (condition.test r).mapError .condition))
  | .run true c => some (.create c)
  | .transaction steps => (operationsOf? steps).map fun ops => .attempt [.transaction ops]
  | _ => none

/-- The operations that steps of a session are, if all of them are one. -/
def operationsOf? : List Step → Option (List Operation)
  | [] => some []
  | s :: rest => do
    let o ← operationOf? s
    let os ← operationsOf? rest
    return o :: os

end

mutual

/-- The values of the single operations in what a step came to. -/
def parts : StepValue → List StepValue
  | .counts c => [.number c.users, .number c.posts, .number c.comments]
  | .transaction done _ => partsAll done
  | v => [v]

/-- The values of the single operations in what steps came to. -/
def partsAll : List StepValue → List StepValue
  | [] => []
  | v :: rest => parts v ++ partsAll rest

end

/-- Some work ends with a failure or without, was given values, and leaves a blog. -/
structure Does (d : Done) (n : Notes) (failure : Option StepError) (values : List StepValue)
    (b : Blog) : Prop where
  failure : d.failure = failure
  seen : d.notes.seen = n.seen ++ values
  blog : d.blog = b

/-- The failure of a step. -/
def failureOf {α β : Type} : Except α β → Option α
  | .ok _ => none
  | .error e => some e

/-- The values of the single operations in the result of a step. -/
def given : Except StepError StepValue → List StepValue
  | .ok v => parts v
  | .error _ => []

theorem parts_of_map {α : Type} {f : α → StepValue} (hf : ∀ a, parts (f a) = [f a])
    {x : Except StepError α} {v : StepValue} (h : x.map f = .ok v) : parts v = [v] := by
  cases x with
  | error e => cases h
  | ok a =>
    cases h
    exact hf a

theorem parts_of_value {r : Reading} {s : Store} {v : StepValue} (h : r.value s = .ok v) :
    parts v = [v] := by
  cases r with
  | filter kind test => exact parts_of_map (fun _ => rfl) h
  | any kind test => exact parts_of_map (fun _ => rfl) h
  | _ =>
    cases h
    rfl

theorem does_read (r : Reading) : Does ((Operation.read r).code.done b n) n
    (failureOf (r.value b.store)) (given (r.value b.store)) b := by
  rw [Operation.code, done_locked, Code.done, Access.perform]
  cases hr : r.value b.store with
  | ok v =>
    refine ⟨rfl, ?_, rfl⟩
    rw [given, parts_of_value hr]
    rfl
  | error e => exact ⟨rfl, (List.append_nil _).symm, rfl⟩

theorem does_append (item : Item) : Does ((Operation.append item).code.done b n) n
    (failureOf (Step.perform b (.append item)).result)
    (given (Step.perform b (.append item)).result) (Step.perform b (.append item)).blog := by
  rw [Operation.code, done_locked, Code.done, Access.perform]
  cases item with
  | record r =>
    simp only [Step.perform]
    cases b.store.append (.record r) with
    | ok store => exact ⟨rfl, rfl, rfl⟩
    | error e => exact ⟨rfl, (List.append_nil _).symm, rfl⟩
  | other typeName => exact ⟨rfl, (List.append_nil _).symm, rfl⟩

theorem does_counts : Does (Operation.counts.code.done b n) n none (parts (.counts b.store.counts))
    b := by
  refine ⟨rfl, ?_, rfl⟩
  simp only [Operation.code, Code.done, Done.out, doneAll, done_locked, Access.perform,
    Reading.value, Except.map, Notes.see, List.append_assoc, parts, Store.counts, Store.records,
    List.length_map, Collection.size]
  rfl

theorem doneAll_looks (checks : List Check) : doneAll b n (checks.map fun k => .locked (.look k)) =
    ⟨none, { n with passed := n.passed && checks.all (Check.holds b.store) }, b⟩ := by
  induction checks generalizing n with
  | nil => simp [doneAll]
  | cons k rest ih =>
    rw [List.map_cons, doneAll_cons_of_no_failure (by rw [done_locked]; rfl), done_locked]
    simp only [Code.done, Access.perform, ih, List.all_cons, Bool.and_assoc]

/-- What a command does once its checks are made. -/
theorem done_create (c : Command) : (Operation.create c).code.done b n =
    doneAll b { n with passed := c.checks.all (Check.holds b.store) }
      [.access (.decide c), .access .makeId, .locked (.appendNew c)] := by
  have hbegin : ((Code.access .begin).done b n) = ⟨none, { n with passed := true }, b⟩ := rfl
  rw [Operation.code, Code.done, Done.out, doneAll_cons_of_no_failure (by rw [hbegin]), hbegin,
    doneAll_append, doneAll_looks]
  rfl

theorem does_create (c : Command) : Does ((Operation.create c).code.done b n) n
    (failureOf (Step.perform b (.run true c)).result) (given (Step.perform b (.run true c)).result)
    (Step.perform b (.run true c)).blog := by
  have hrun : c.runWhen true b = c.run b := rfl
  rw [done_create]
  simp only [Step.perform, hrun]
  cases hp : c.checks.all (Check.holds b.store) with
  | false =>
    obtain ⟨hr, hb⟩ := Command.run_of_not_passed hp
    rw [hr, hb]
    exact ⟨rfl, (List.append_nil _).symm, rfl⟩
  | true =>
    cases ha : b.store.append (.record (c.record (b.ids (b.made + 1)))) with
    | error e =>
      obtain ⟨hr, hb⟩ := Command.run_of_append_error hp ha
      rw [hr, hb]
      simp only [doneAll, Code.done, Access.perform, done_locked, if_true, ha]
      exact ⟨rfl, (List.append_nil _).symm, rfl⟩
    | ok store =>
      obtain ⟨hr, hb⟩ := Command.run_of_append_ok hp ha
      rw [hr, hb]
      simp only [doneAll, Code.done, Access.perform, done_locked, if_true, ha]
      exact ⟨rfl, rfl, rfl⟩

theorem filterM_mapError {ε ε' α : Type} (f : ε → ε') (test : α → Except ε Bool)
    (c : Collection α) :
    c.filterM (fun a => (test a).mapError f) = (c.filterM test).mapError f := by
  unfold Collection.filterM
  induction c.toList with
  | nil => rfl
  | cons a rest ih =>
    simp only [Collection.filterM.go, ih]
    cases test a with
    | error e => rfl
    | ok holds => cases Collection.filterM.go test rest <;> rfl

theorem existsM_mapError {ε ε' α : Type} (f : ε → ε') (test : α → Except ε Bool)
    (c : Collection α) :
    c.existsM (fun a => (test a).mapError f) = (c.existsM test).mapError f := by
  unfold Collection.existsM
  induction c.toList with
  | nil => rfl
  | cons a rest ih =>
    simp only [Collection.existsM.go, ih]
    cases test a with
    | error e => rfl
    | ok holds => cases holds <;> rfl

mutual

/-- An operation that is a step of a session does what that step does. -/
theorem does_step : ∀ (s : Step) {o : Operation}, operationOf? s = some o →
    ∀ (b : Blog) (n : Notes), Does (o.code.done b n) n (failureOf (s.perform b).result)
      (given (s.perform b).result) (s.perform b).blog := by
  intro s o h b n
  cases s with
  | append item =>
    cases Option.some.inj h
    exact does_append item
  | get kind id =>
    cases Option.some.inj h
    exact does_read (.get kind id)
  | all kind =>
    cases Option.some.inj h
    exact does_read (.all kind)
  | size kind =>
    cases Option.some.inj h
    exact does_read (.size kind)
  | counts =>
    cases Option.some.inj h
    exact does_counts
  | select kind condition =>
    cases Option.some.inj h
    have hread := @does_read b n
      (.filter kind fun r => (condition.test r).mapError StepError.condition)
    simp only [Reading.value, filterM_mapError] at hread
    simp only [Step.perform, Store.select]
    cases hr : Collection.filterM condition.test ⟨b.store.records kind⟩ with
    | ok rs => rw [hr] at hread; exact hread
    | error e => rw [hr] at hread; exact hread
  | holdsForSome kind condition =>
    cases Option.some.inj h
    have hread := @does_read b n
      (.any kind fun r => (condition.test r).mapError StepError.condition)
    simp only [Reading.value, existsM_mapError] at hread
    simp only [Step.perform, Store.holdsForSome]
    cases hr : Collection.existsM condition.test ⟨b.store.records kind⟩ with
    | ok holds => rw [hr] at hread; exact hread
    | error e => rw [hr] at hread; exact hread
  | run available c =>
    cases available with
    | false => exact absurd h (by simp [operationOf?])
    | true =>
      cases Option.some.inj h
      exact does_create c
  | transaction steps =>
    obtain ⟨ops, hops, rfl⟩ := Option.map_eq_some_iff.1 h
    obtain ⟨-, hseen, hblog⟩ := does_steps steps hops b n
    rw [Operation.code, Operation.codes, Operation.codes, Code.done, doneAll_singleton,
      Operation.code, Code.done]
    exact ⟨rfl, hseen, hblog⟩
  | _ => exact absurd h (by simp [operationOf?])

theorem does_steps : ∀ (steps : List Step) {ops : List Operation}, operationsOf? steps = some ops →
    ∀ (b : Blog) (n : Notes), Does (doneAll b n (Operation.codes ops)) n
      (Step.performAll b steps).2.1 (partsAll (Step.performAll b steps).1)
      (Step.performAll b steps).2.2.1 := by
  intro steps ops h b n
  cases steps with
  | nil =>
    cases Option.some.inj h
    exact ⟨rfl, (List.append_nil _).symm, rfl⟩
  | cons s rest =>
    obtain ⟨o, ho, os, hos, rfl⟩ : ∃ o, operationOf? s = some o ∧
        ∃ os, operationsOf? rest = some os ∧ o :: os = ops := by
      simpa [operationsOf?, Option.bind_eq_some_iff] using h
    obtain ⟨hfailure, hseen, hblog⟩ := does_step s ho b n
    rw [Operation.codes, Step.performAll]
    cases hr : (s.perform b).result with
    | error e =>
      rw [hr] at hfailure hseen
      rw [doneAll_cons_of_failure hfailure]
      exact ⟨hfailure, hseen, hblog⟩
    | ok v =>
      rw [hr] at hfailure hseen
      obtain ⟨hfailure', hseen', hblog'⟩ :=
        does_steps rest hos (s.perform b).blog (o.code.done b n).notes
      rw [doneAll_cons_of_no_failure hfailure, hblog]
      refine ⟨hfailure', ?_, hblog'⟩
      rw [hseen', hseen, List.append_assoc]
      rfl

end

/-! ## An undisturbed thread -/

namespace State

/-- **A thread that nobody disturbs does as a session.**  A thread that stands before operations
which are steps of a session, and finds the lock free, comes to its end when it has all turns to
itself; then the blog, the failure that ended it and the values of its operations are those of the
session, and the lock is free again. -/
theorem undisturbed_thread_does_as_session {w : State} {steps : List Step} {ops : List Operation}
    (hops : operationsOf? steps = some ops) (ht : w.threads[i]? = some (.ofOperations ops))
    (hlock : w.lock = none) : ∃ k notes exits,
      w.run (List.replicate k (.go i)) = ⟨(Step.performAll w.blog steps).2.2.1, none,
        w.threads.set i ⟨[], [], (Step.performAll w.blog steps).2.1, notes⟩, exits⟩ ∧
      notes.seen = partsAll (Step.performAll w.blog steps).1 := by
  have hready : Ready w i (.ofOperations ops) :=
    ⟨ht, rfl, .inl hlock, by rw [hlock]; exact taken_none⟩
  have hahead : (Thread.ofOperations ops).ahead = Operation.codes ops ++ [] :=
    (List.append_nil _).symm
  obtain ⟨exits, k, hrun⟩ := Ready.ends_codes (Operation.codes ops) hready hahead
  obtain ⟨hfailure, hseen, hblog⟩ := does_steps steps hops w.blog ⟨[], true, ""⟩
  refine ⟨k, (doneAll w.blog ⟨[], true, ""⟩ (Operation.codes ops)).notes, exits, ?_, hseen⟩
  rw [hrun, hlock, ← hfailure, ← hblog]
  simp only [Thread.after, ite_self]
  rfl

end State
end BlogGraph.Shared
