import BlogGraph.Blog.Race
import BlogGraph.Proofs.Blog.History
import Mathlib.Algebra.GroupWithZero.Nat
import Mathlib.Data.List.Range

/-!
# Commands at the same time come one after the other

However the steps of several callers are interleaved, the outcomes and the blog afterwards are
those of carrying out the commands one after the other, in the order in which their callers first
took the lock.

The invariant (`Race.Serial`) has two sides.  While the lock is free, every caller has either not
begun or is done, and those who are done tell the story of a run of commands (`Told`).  While it is
held, the same is so of everyone but the holder, whose steps ahead would, on their own, finish the
command from the blog where the story ends (`Finishes`).

Main statements:

* `Caller.finishes_of_entry`: a caller left alone behind the lock does what its command does;
* `Race.serial_step`, `Race.serial_run`: the invariant of a race;
* `Race.exists_finish`: no race gets stuck;
* `Race.outcomes_of_a_serial_order`: the outcomes and the blog of a race that is over.
-/

namespace BlogGraph

/-! ## The checks of a command -/

namespace Command

/-- A command is refused when a look tells that one of its checks is not passed. -/
theorem refusal?_eq (c : Command) (s : Store) : (c.refusal? s).map Prod.fst =
    if c.checks.all (Check.holds s) then none else some c.objection := by
  cases c with
  | createUser input =>
    simp only [refusal?, checks, List.all_cons, List.all_nil, Bool.and_true, Check.holds, objection]
    cases holder? s input.email <;> rfl
  | createPost input =>
    simp only [refusal?, checks, List.all_cons, List.all_nil, Bool.and_true, Check.holds, objection]
    split <;> rfl
  | createComment input =>
    simp only [refusal?, checks, List.all_cons, List.all_nil, Bool.and_true, Check.holds, objection]
    split <;> rfl

theorem refusal?_eq_none {c : Command} {s : Store} (h : c.checks.all (Check.holds s) = true) :
    c.refusal? s = none := by
  have hr := refusal?_eq c s
  rwa [h, if_pos rfl, Option.map_eq_none_iff] at hr

theorem run_of_append_ok {c : Command} {b : Blog} {store : Store}
    (h : c.checks.all (Check.holds b.store) = true)
    (ha : b.store.append (.record (c.record (b.ids (b.made + 1)))) = .ok store) :
    (c.run b).result = .ok (c.record (b.ids (b.made + 1))) ∧
      (c.run b).blog = { b with store, made := b.made + 1 } := by
  simp [run, refusal?_eq_none h, ha]

theorem run_of_append_error {c : Command} {b : Blog} {e : AppendError}
    (h : c.checks.all (Check.holds b.store) = true)
    (ha : b.store.append (.record (c.record (b.ids (b.made + 1)))) = .error e) :
    (c.run b).result = .error (.append e) ∧ (c.run b).blog = { b with made := b.made + 1 } := by
  simp [run, refusal?_eq_none h, ha]

theorem run_of_not_passed {c : Command} {b : Blog}
    (h : c.checks.all (Check.holds b.store) = false) :
    (c.run b).result = .error (.refused c.objection) ∧ (c.run b).blog = b := by
  have hr := refusal?_eq c b.store
  rw [h, if_neg Bool.false_ne_true, Option.map_eq_some_iff] at hr
  obtain ⟨⟨refusal, event⟩, hr, rfl⟩ := hr
  rw [run, hr]
  exact ⟨rfl, rfl⟩

/-! ## Commands one after the other -/

theorem runAll_append (b : Blog) (cs ds : List Command) :
    runAll b (cs ++ ds) = runAll b cs ++ runAll (runEach b cs) ds := by
  induction cs generalizing b with
  | nil => rfl
  | cons c cs ih =>
    rw [List.cons_append, runAll, runAll, ih]
    rfl

/-- Once someone has the email, no other user gets it. -/
theorem runAll_emailTaken {b : Blog} {email : String} (hb : holder? b.store email ≠ none)
    (inputs : List NewUser) (hi : ∀ input ∈ inputs, input.email = email) :
    runEach b (inputs.map .createUser) = b ∧
    (runAll b (inputs.map .createUser)).map Outcome.result =
      List.replicate inputs.length (.error (.refused .emailTaken)) := by
  induction inputs with
  | nil => exact ⟨rfl, rfl⟩
  | cons input rest ih =>
    obtain ⟨hmail, hrest⟩ := List.forall_mem_cons.1 hi
    obtain ⟨hbrest, hrrest⟩ := ih hrest
    have hpassed : (createUser input).checks.all (Check.holds b.store) = false := by
      simpa [checks, Check.holds, hmail, Option.isSome_iff_ne_none] using hb
    obtain ⟨hr, hbl⟩ := run_of_not_passed hpassed
    rw [List.map_cons, runEach_cons, runAll, List.map_cons, hbl, hr, hbrest, hrrest]
    exact ⟨rfl, rfl⟩

/-- Of several new users with one email that nobody has, the first is stored. -/
theorem runAll_one_email {b : Blog} {email : String} (hb : holder? b.store email = none)
    (hid : b.store.users.has (b.ids (b.made + 1)) = false) {inputs : List NewUser}
    (hne : inputs ≠ []) (hi : ∀ input ∈ inputs, input.email = email) :
    ∃ u : User, u.email = email ∧ u.id = b.ids (b.made + 1) ∧
      (runEach b (inputs.map .createUser)).store =
        { b.store with users := ⟨b.store.users.toList ++ [u]⟩ } ∧
      (runAll b (inputs.map .createUser)).map Outcome.result =
        .ok (.user u) :: List.replicate (inputs.length - 1) (.error (.refused .emailTaken)) := by
  obtain ⟨input, rest, rfl⟩ := List.exists_cons_of_ne_nil hne
  obtain ⟨rfl, hrest⟩ := List.forall_mem_cons.1 hi
  have hpassed : (createUser input).checks.all (Check.holds b.store) = true := by
    simp [checks, Check.holds, hb]
  have happend : b.store.append (.record ((createUser input).record (b.ids (b.made + 1)))) =
      .ok { b.store with users := ⟨b.store.users.toList ++
        [⟨b.ids (b.made + 1), input.name, input.email, input.age⟩]⟩ } := by
    rw [Store.append, record, Store.append?_user.2 ⟨hid, rfl⟩]
  obtain ⟨hr, hbl⟩ := run_of_append_ok hpassed happend
  have htaken : holder? ((createUser input).run b).blog.store input.email ≠ none := by
    rw [hbl, holder?, Collection.filter, List.filter_append]
    simp
  obtain ⟨hbrest, hrrest⟩ := runAll_emailTaken htaken rest hrest
  refine ⟨⟨b.ids (b.made + 1), input.name, input.email, input.age⟩, rfl, rfl, ?_, ?_⟩
  · rw [List.map_cons, runEach_cons, hbrest, hbl]
  · rw [List.map_cons, runAll, List.map_cons, hr, hrrest]
    rfl

end Command

/-! ## A caller behind the lock -/

namespace Caller

/-- The steps ahead of a caller, on their own, finish its command with an outcome and a blog. -/
inductive Finishes (r : Except Failure Record) (b' : Blog) : Caller → Blog → Prop where
  | done {k : Caller} (hk : k.ahead = []) (hr : k.outcome = some r) : Finishes r b' k b'
  | step {k : Caller} {b : Blog} {m : Move} {rest : List Move} (hk : k.ahead = m :: rest)
      (h : Finishes r b' (act { k with ahead := rest } b m).1
        (act { k with ahead := rest } b m).2) :
      Finishes r b' k b

variable {r : Except Failure Record} {b b' : Blog} {k : Caller}

theorem Finishes.of_nil (h : Finishes r b' k b) (hk : k.ahead = []) :
    k.outcome = some r ∧ b = b' := by
  cases h with
  | done _ hr => exact ⟨hr, rfl⟩
  | step hk' _ => rw [hk] at hk'; exact absurd hk' (by simp)

theorem Finishes.of_cons {m : Move} {rest : List Move} (h : Finishes r b' k b)
    (hk : k.ahead = m :: rest) :
    Finishes r b' (act { k with ahead := rest } b m).1 (act { k with ahead := rest } b m).2 := by
  cases h with
  | done hk' _ => rw [hk] at hk'; exact absurd hk' (by simp)
  | step hk' h =>
    obtain ⟨rfl, rfl⟩ := List.cons.inj (hk'.symm.trans hk)
    exact h

/-- The steps ahead that only release the lock change nothing any more. -/
theorem finishes_of_releases (n : Nat) (hk : k.ahead = List.replicate n .release)
    (hr : k.outcome = some r) : Finishes r b k b := by
  induction n generalizing k with
  | zero => exact .done hk hr
  | succ n ih => exact .step hk (ih rfl hr)

/-- Looks at the store only add up whether the checks are passed. -/
theorem finishes_of_checks (checks : List Check) {tail : List Move}
    (hk : k.ahead = checks.flatMap (fun x => [.take, .look x, .release]) ++ tail)
    (h : Finishes r b'
      { k with ahead := tail, passed := k.passed && checks.all (Check.holds b.store) } b) :
    Finishes r b' k b := by
  induction checks generalizing k with
  | nil =>
    obtain ⟨command, ahead, depth, passed, id, outcome⟩ := k
    simp only [List.flatMap_nil, List.nil_append] at hk
    subst hk
    simpa using h
  | cons x rest ih =>
    simp only [List.flatMap_cons, List.cons_append, List.nil_append] at hk
    refine .step hk (.step rfl (.step rfl (ih rfl ?_)))
    simpa [act, Bool.and_assoc] using h

/-- **Alone behind the lock.**  A caller that has just taken the lock does, left alone, what its
command does. -/
theorem finishes_of_entry (c : Command) (b : Blog) :
    Finishes (c.run b).result (c.run b).blog
      { waiting c with ahead := c.moves.tail, depth := 1 } b := by
  refine finishes_of_checks c.checks rfl ?_
  cases hp : c.checks.all (Check.holds b.store) with
  | false =>
    obtain ⟨hr, hb⟩ := Command.run_of_not_passed hp
    rw [hr, hb]
    exact .step rfl (finishes_of_releases 1 rfl rfl)
  | true =>
    -- one step to decide, one for the identifier, one to take the lock again, one to append
    refine .step rfl (.step rfl (.step rfl (.step rfl ?_)))
    cases ha : b.store.append (.record (c.record (b.ids (b.made + 1)))) with
    | error e =>
      obtain ⟨hr, hb⟩ := Command.run_of_append_error hp ha
      rw [hr, hb]
      simp only [act, waiting, Bool.and_true, if_true, ha]
      exact finishes_of_releases 2 rfl rfl
    | ok store =>
      obtain ⟨hr, hb⟩ := Command.run_of_append_ok hp ha
      rw [hr, hb]
      simp only [act, waiting, Bool.and_true, if_true, ha]
      exact finishes_of_releases 2 rfl rfl

/-! ## Taking and releasing -/

/-- Steps that, after `d` takes, release the lock for good with the last of them. -/
def Releases : Nat → List Move → Prop
  | d, [] => d = 0
  | d, .take :: rest => 0 < d ∧ Releases (d + 1) rest
  | d, .release :: rest => 0 < d ∧ Releases (d - 1) rest
  | d, _ :: rest => 0 < d ∧ Releases d rest

theorem Releases.pos {d : Nat} {m : Move} {rest : List Move} (h : Releases d (m :: rest)) :
    0 < d := by
  cases m <;> exact h.1

theorem Releases.eq_nil {l : List Move} (h : Releases 0 l) : l = [] := by
  cases l with
  | nil => rfl
  | cons m rest => exact absurd h.pos (Nat.lt_irrefl 0)

theorem releases_replicate (d : Nat) : Releases d (List.replicate d .release) := by
  induction d with
  | zero => rfl
  | succ d ih => exact ⟨Nat.succ_pos d, ih⟩

theorem Releases.le_length {d : Nat} {l : List Move} (h : Releases d l) : d ≤ l.length := by
  induction l generalizing d with
  | nil => exact Nat.le_of_eq h
  | cons m rest ih =>
    rw [List.length_cons]
    cases m with
    | take => exact Nat.le_of_lt (Nat.lt_succ_of_lt (ih h.2))
    | release => exact Nat.le_add_of_sub_le (ih h.2)
    | _ => exact Nat.le_succ_of_le (ih h.2)

theorem releases_of_checks (checks : List Check) {tail : List Move} (h : Releases 1 tail) :
    Releases 1 (checks.flatMap (fun x => [.take, .look x, .release]) ++ tail) := by
  induction checks with
  | nil => exact h
  | cons x rest ih => exact ⟨Nat.one_pos, Nat.two_pos, Nat.two_pos, ih⟩

theorem releases_moves (c : Command) : Releases 1 c.moves.tail :=
  releases_of_checks c.checks (by simp [Releases])

/-- A step of the holder leaves steps that release the lock. -/
theorem releases_act {m : Move} {rest : List Move} (h : Releases k.depth (m :: rest)) (b : Blog) :
    Releases (act { k with ahead := rest } b m).1.depth
      (act { k with ahead := rest } b m).1.ahead := by
  cases m with
  | take => exact h.2
  | release => exact h.2
  | look check => exact h.2
  | makeId => exact h.2
  | decide =>
    simp only [act]
    split
    · exact h.2
    · exact releases_replicate k.depth
  | append =>
    simp only [act]
    split
    · exact releases_replicate k.depth
    · exact h.2

/-- A step leaves no more steps than there were after it. -/
theorem length_act_le {m : Move} {rest : List Move} (h : Releases k.depth (m :: rest)) (b : Blog) :
    (act { k with ahead := rest } b m).1.ahead.length ≤ rest.length := by
  cases m with
  | decide =>
    simp only [act]
    split
    · exact Nat.le_refl _
    · simpa [failing] using Releases.le_length h.2
  | append =>
    simp only [act]
    split
    · simpa [failing] using Releases.le_length h.2
    · exact Nat.le_refl _
  | _ => exact Nat.le_refl _

theorem act_depth (k : Caller) (b : Blog) {m : Move} (ht : m ≠ .take) (hr : m ≠ .release) :
    (act k b m).1.depth = k.depth := by
  cases m with
  | take => exact absurd rfl ht
  | release => exact absurd rfl hr
  | decide => simp only [act]; split <;> rfl
  | append => simp only [act]; split <;> rfl
  | _ => rfl

/-- The lock counts the blocks around its holder. -/
theorem after_act {m : Move} {rest : List Move} {i : Nat} (h : Releases k.depth (m :: rest))
    (b : Blog) : Lock.after (some (i, k.depth)) i m =
      some (if (act { k with ahead := rest } b m).1.depth = 0 then none
        else some (i, (act { k with ahead := rest } b m).1.depth)) := by
  have hpos := h.pos
  by_cases ht : m = .take
  · subst ht
    simp [Lock.after, act]
  · by_cases hr : m = .release
    · subst hr
      rw [Lock.after, if_pos rfl]
      exact congrArg some (if_congr (by simp only [act]; omega) rfl rfl)
    · rw [act_depth _ b ht hr, if_neg hpos.ne']
      cases m with
      | take => exact absurd rfl ht
      | release => exact absurd rfl hr
      | _ => rfl

@[simp] theorem act_command (k : Caller) (b : Blog) (m : Move) :
    (act k b m).1.command = k.command := by
  cases m with
  | decide => simp only [act]; split <;> rfl
  | append => simp only [act]; split <;> rfl
  | _ => rfl

end Caller

/-! ## The invariant of a race -/

namespace Race

variable {b : Blog} {cs : List Command} {r : Race}

/-- The callers named, each of them done, tell of their commands one after the other, from one blog
to another. -/
inductive Told (b : Blog) (callers : List Caller) : List Nat → Blog → Prop where
  | nil : Told b callers [] b
  | snoc {turns : List Nat} {b' : Blog} {i : Nat} {k : Caller} (h : Told b callers turns b')
      (hk : callers[i]? = some k) (hdone : k.ahead = [])
      (hr : k.outcome = some (k.command.run b').result) :
      Told b callers (turns ++ [i]) (k.command.run b').blog

theorem Told.congr {callers callers' : List Caller} {turns : List Nat} {b' : Blog}
    (h : Told b callers turns b') (hsame : ∀ i ∈ turns, callers'[i]? = callers[i]?) :
    Told b callers' turns b' := by
  induction h with
  | nil => exact .nil
  | snoc h hk hdone hr ih =>
    refine .snoc (ih fun i hi => hsame i (List.mem_append_left _ hi)) ?_ hdone hr
    rw [hsame _ (List.mem_append_right _ (List.mem_singleton_self _))]
    exact hk

theorem Told.done {callers : List Caller} {turns : List Nat} {b' : Blog}
    (h : Told b callers turns b') {i : Nat} (hi : i ∈ turns) :
    ∃ k, callers[i]? = some k ∧ k.ahead = [] := by
  induction h with
  | nil => exact absurd hi (by simp)
  | snoc h hk hdone hr ih =>
    rcases List.mem_append.1 hi with hi | hi
    · exact ih hi
    · rw [List.mem_singleton.1 hi]
      exact ⟨_, hk, hdone⟩

/-- Callers who are done tell of a run of commands. -/
theorem Told.runEach {callers : List Caller} {turns : List Nat} {b' : Blog}
    (h : Told b callers turns b') :
    b' = Command.runEach b (turns.filterMap ((callers.map Caller.command)[·]?)) ∧
    turns.map (fun i => callers[i]?.bind Caller.outcome) =
      (Command.runAll b (turns.filterMap ((callers.map Caller.command)[·]?))).map
        (fun o => some o.result) := by
  induction h with
  | nil => exact ⟨rfl, rfl⟩
  | @snoc turns b' i k h hk hdone hr ih =>
    have hi : [i].filterMap ((callers.map Caller.command)[·]?) = [k.command] := by
      simp [List.getElem?_map, hk]
    rw [List.filterMap_append, hi, Command.runEach_append, Command.runAll_append, ← ih.1,
      List.map_append, List.map_append, ih.2]
    refine ⟨rfl, ?_⟩
    simp [Command.runAll, hk, hr]

/-- What is so of a race at any moment. -/
structure Serial (b : Blog) (cs : List Command) (r : Race) : Prop where
  commands : r.callers.map Caller.command = cs
  nodup : r.turns.Nodup
  begun : ∀ i ∈ r.turns, i < r.callers.length
  waiting : ∀ i k, r.callers[i]? = some k → i ∉ r.turns → k = .waiting k.command
  free : r.lock = none → Told b r.callers r.turns r.blog
  held : ∀ i d, r.lock = some (i, d) → ∃ turns b' k,
    r.turns = turns ++ [i] ∧ Told b r.callers turns b' ∧ r.callers[i]? = some k ∧
    k.depth = d ∧ 0 < d ∧ Caller.Releases d k.ahead ∧
    Caller.Finishes (k.command.run b').result (k.command.run b').blog k r.blog

theorem serial_start (b : Blog) (cs : List Command) : Serial b cs (start b cs) where
  commands := by
    rw [start, List.map_map]
    exact List.map_id _
  nodup := List.nodup_nil
  begun := by simp [start]
  waiting := by
    intro i k hk _
    obtain ⟨c, _, rfl⟩ := List.mem_map.1 (List.mem_of_getElem? hk)
    rfl
  free := fun _ => .nil
  held := by simp [start]

/-! ## One step -/

/-- The race after a caller's step that nothing stops. -/
def moved (r : Race) (i : Nat) (k : Caller) (m : Move) (rest : List Move) (lock : Lock) : Race where
  blog := (Caller.act { k with ahead := rest } r.blog m).2
  lock := lock
  callers := r.callers.set i (Caller.act { k with ahead := rest } r.blog m).1
  turns := if m = .take && !r.turns.contains i then r.turns ++ [i] else r.turns

theorem step_eq_moved {i : Nat} {k : Caller} {m : Move} {rest : List Move} {lock : Lock}
    (hk : r.callers[i]? = some k) (hm : k.ahead = m :: rest)
    (hlock : r.lock.after i m = some lock) : r.step i = r.moved i k m rest lock := by
  simp only [step, hk, hm, hlock, moved]

/-- All that a step can be: nothing, or what the next move of the caller does. -/
theorem step_cases (r : Race) (i : Nat) : r.step i = r ∨ ∃ k m rest lock,
    r.callers[i]? = some k ∧ k.ahead = m :: rest ∧ r.lock.after i m = some lock ∧
    r.step i = r.moved i k m rest lock := by
  rw [step]
  split
  · exact Or.inl rfl
  · next k hk =>
    split
    · exact Or.inl rfl
    · next m rest hahead =>
      split
      · exact Or.inl rfl
      · next lock hlock => exact Or.inr ⟨k, m, rest, lock, hk, hahead, hlock, rfl⟩

theorem moved_commands {i : Nat} {k : Caller} {m : Move} {rest : List Move} {lock : Lock}
    (hk : r.callers[i]? = some k) :
    (r.moved i k m rest lock).callers.map Caller.command = r.callers.map Caller.command := by
  refine List.ext_getElem? fun j => ?_
  simp only [moved, List.getElem?_map, List.getElem?_set]
  split
  · next hij =>
    subst hij
    rw [hk, if_pos (List.getElem?_eq_some_iff.1 hk).1]
    simp
  · rfl

theorem moved_other {i j : Nat} {k : Caller} {m : Move} {rest : List Move} {lock : Lock}
    (hij : i ≠ j) : (r.moved i k m rest lock).callers[j]? = r.callers[j]? :=
  List.getElem?_set_ne hij

theorem moved_self {i : Nat} {k : Caller} {m : Move} {rest : List Move} {lock : Lock}
    (hk : r.callers[i]? = some k) : (r.moved i k m rest lock).callers[i]? =
      some (Caller.act { k with ahead := rest } r.blog m).1 :=
  List.getElem?_set_self (List.getElem?_eq_some_iff.1 hk).1

/-- Whoever took the lock last is none of those before. -/
theorem Serial.ne_of_mem_earlier (h : Serial b cs r) {turns : List Nat} {i j : Nat}
    (hturns : r.turns = turns ++ [i]) (hj : j ∈ turns) : i ≠ j := by
  rintro rfl
  have hn := h.nodup
  rw [hturns, List.nodup_append] at hn
  exact hn.2.2 i hj i (List.mem_singleton_self i) rfl

/-- Whoever finds the lock free has not begun. -/
theorem Serial.enters (h : Serial b cs r) (hfree : r.lock = none) {i : Nat} {k : Caller} {m : Move}
    {rest : List Move} (hk : r.callers[i]? = some k) (hm : k.ahead = m :: rest) :
    i ∉ r.turns ∧ k = .waiting k.command := by
  have hi : i ∉ r.turns := by
    intro hi
    obtain ⟨k', hk', hdone⟩ := (h.free hfree).done hi
    rw [hk] at hk'
    rw [← Option.some.inj hk', hm] at hdone
    exact absurd hdone (by simp)
  exact ⟨hi, h.waiting i k hk hi⟩

/-- Whoever moves while the lock is held, holds it. -/
theorem Serial.holds (h : Serial b cs r) {i j d : Nat} (hheld : r.lock = some (j, d)) {k : Caller}
    {m : Move} {rest : List Move} {lock : Lock} (hk : r.callers[i]? = some k)
    (hm : k.ahead = m :: rest) (hlock : r.lock.after i m = some lock) : i = j := by
  obtain ⟨turns, b', -, hturns, htold, -⟩ := h.held j d hheld
  by_contra hij
  have hi : i ∉ r.turns := by
    rw [hturns, List.mem_append, List.mem_singleton]
    rintro (hi | hi)
    · obtain ⟨k', hk', hdone⟩ := htold.done hi
      rw [hk] at hk'
      rw [← Option.some.inj hk', hm] at hdone
      exact absurd hdone (by simp)
    · exact hij hi
  -- so the caller waits with its first step, which is to take the lock
  rw [h.waiting i k hk hi] at hm
  obtain ⟨rfl, -⟩ := List.cons.inj hm
  rw [hheld, Lock.after, if_neg (Ne.symm hij)] at hlock
  exact absurd hlock (by simp)

/-- The first step of a caller, which finds the lock free. -/
theorem serial_enter (h : Serial b cs r) (hfree : r.lock = none) {i : Nat} {c : Command}
    (hk : r.callers[i]? = some (.waiting c)) (hi : i ∉ r.turns) :
    Serial b cs (r.moved i (.waiting c) .take c.moves.tail (some (i, 1))) := by
  have hturns : (r.moved i (.waiting c) .take c.moves.tail (some (i, 1))).turns =
      r.turns ++ [i] := by
    simp [moved, hi]
  have hlt : i < r.callers.length := (List.getElem?_eq_some_iff.1 hk).1
  refine ⟨(moved_commands hk).trans h.commands, ?_, ?_, ?_, ?_, ?_⟩
  · rw [hturns, List.nodup_append]
    refine ⟨h.nodup, List.nodup_singleton i, ?_⟩
    rintro j hj j' hj' rfl
    exact hi (List.mem_singleton.1 hj' ▸ hj)
  · rw [hturns]
    intro j hj
    rw [moved, List.length_set]
    rcases List.mem_append.1 hj with hj | hj
    · exact h.begun j hj
    · rw [List.mem_singleton.1 hj]
      exact hlt
  · intro j k hj hjt
    rw [hturns, List.mem_append, List.mem_singleton, not_or] at hjt
    rw [moved_other (Ne.symm hjt.2)] at hj
    exact h.waiting j k hj hjt.1
  · exact fun hlock => absurd hlock (by simp [moved])
  · intro j d hlock
    obtain ⟨rfl, rfl⟩ : i = j ∧ 1 = d := by simpa [moved] using hlock
    refine ⟨r.turns, r.blog, _, hturns, ?_, moved_self hk, rfl, Nat.one_pos,
      Caller.releases_moves c, Caller.finishes_of_entry c r.blog⟩
    exact (h.free hfree).congr fun j hj => moved_other fun hij => hi (hij ▸ hj)

/-- A step of the holder: on with its command, or the last step of it. -/
theorem serial_hold (h : Serial b cs r) {i d : Nat} (hheld : r.lock = some (i, d)) {k : Caller}
    {m : Move} {rest : List Move} {lock : Lock} (hk : r.callers[i]? = some k)
    (hm : k.ahead = m :: rest) (hlock : r.lock.after i m = some lock) :
    Serial b cs (r.moved i k m rest lock) := by
  obtain ⟨turns, b', k', hturns, htold, hk', rfl, -, hreleases, hfinishes⟩ := h.held i d hheld
  obtain rfl : k = k' := Option.some.inj (hk.symm.trans hk')
  rw [hm] at hreleases
  rw [hheld, Caller.after_act hreleases r.blog] at hlock
  have hlock := (Option.some.inj hlock).symm
  have hnext := Caller.releases_act hreleases r.blog
  have hrest := hfinishes.of_cons hm
  have hi : i ∈ r.turns := by
    rw [hturns]
    exact List.mem_append_right _ (List.mem_singleton_self i)
  have hsame : (r.moved i k m rest lock).turns = r.turns := by
    simp [moved, hi]
  have htold' : Told b (r.moved i k m rest lock).callers turns b' :=
    htold.congr fun j hj => moved_other (h.ne_of_mem_earlier hturns hj)
  refine ⟨(moved_commands hk).trans h.commands, ?_, ?_, ?_, ?_, ?_⟩
  · rw [hsame]
    exact h.nodup
  · rw [hsame, moved, List.length_set]
    exact h.begun
  · intro j k' hj hjt
    rw [hsame] at hjt
    rw [moved_other (ne_of_mem_of_not_mem hi hjt)] at hj
    exact h.waiting j k' hj hjt
  · intro hfree
    -- the last release: nothing is ahead any more, so the outcome is that of the command
    change lock = none at hfree
    have hzero : (Caller.act { k with ahead := rest } r.blog m).1.depth = 0 := by
      by_contra hne
      rw [hlock, if_neg hne] at hfree
      exact absurd hfree (by simp)
    rw [hzero] at hnext
    obtain ⟨hr, hb⟩ := hrest.of_nil hnext.eq_nil
    have hcommand := Caller.act_command { k with ahead := rest } r.blog m
    have hsnoc := htold'.snoc (moved_self hk) hnext.eq_nil (by rw [hcommand]; exact hr)
    rw [hcommand] at hsnoc
    rw [hsame, hturns]
    exact (congrArg (Told b _ _) hb).mpr hsnoc
  · intro j e hj
    change lock = some (j, e) at hj
    have hne : (Caller.act { k with ahead := rest } r.blog m).1.depth ≠ 0 := by
      intro hzero
      rw [hlock, if_pos hzero] at hj
      exact absurd hj (by simp)
    rw [hlock, if_neg hne] at hj
    obtain ⟨rfl, rfl⟩ := Prod.mk.inj (Option.some.inj hj)
    refine ⟨turns, b', _, hsame.trans hturns, htold', moved_self hk, rfl,
      Nat.pos_of_ne_zero hne, hnext, ?_⟩
    rw [Caller.act_command]
    exact hrest

/-- Whatever caller comes next, its step keeps the invariant. -/
theorem serial_step (h : Serial b cs r) (i : Nat) : Serial b cs (r.step i) := by
  rcases step_cases r i with hstep | ⟨k, m, rest, lock, hk, hm, hlock, hstep⟩
  · rw [hstep]
    exact h
  · rw [hstep]
    cases hl : r.lock with
    | none =>
      obtain ⟨hi, hw⟩ := h.enters hl hk hm
      rw [hw] at hm hk ⊢
      obtain ⟨rfl, rfl⟩ := List.cons.inj hm
      rw [hl] at hlock
      obtain rfl := Option.some.inj hlock
      exact serial_enter h hl hk hi
    | some holder =>
      obtain ⟨j, d⟩ := holder
      obtain rfl := h.holds hl hk hm hlock
      exact serial_hold h hl hk hm hlock

/-- The invariant holds at every moment of a race. -/
theorem serial_run (h : Serial b cs r) (schedule : List Nat) : Serial b cs (r.run schedule) := by
  induction schedule generalizing r with
  | nil => exact h
  | cons i rest ih => exact ih (serial_step h i)

/-! ## No race gets stuck -/

/-- How many steps are ahead of all callers. -/
def remaining (r : Race) : Nat := (r.callers.map fun k => k.ahead.length).sum

theorem sum_map_set_lt {α : Type} {f : α → Nat} {l : List α} {i : Nat} {a a' : α}
    (h : l[i]? = some a) (hlt : f a' < f a) : ((l.set i a').map f).sum < (l.map f).sum := by
  induction l generalizing i with
  | nil => exact absurd h (by simp)
  | cons x l ih =>
    cases i with
    | zero =>
      obtain rfl : x = a := by simpa using h
      simpa using hlt
    | succ i =>
      have := ih (i := i) (by simpa using h)
      simpa using this

theorem remaining_moved_lt {i : Nat} {k : Caller} {m : Move} {rest : List Move} {lock : Lock}
    (hk : r.callers[i]? = some k) (hm : k.ahead = m :: rest)
    (hle : (Caller.act { k with ahead := rest } r.blog m).1.ahead.length ≤ rest.length) :
    (r.moved i k m rest lock).remaining < r.remaining := by
  refine sum_map_set_lt hk ?_
  rw [hm, List.length_cons]
  exact Nat.lt_succ_of_le hle

/-- Unless the race is over, someone can go on. -/
theorem Serial.exists_step (h : Serial b cs r) (hover : r.isOver = false) :
    ∃ i, (r.step i).remaining < r.remaining := by
  cases hl : r.lock with
  | none =>
    -- whoever has a step ahead has not begun, and finds the lock free
    obtain ⟨k, hmem, hahead⟩ := List.all_eq_false.1 hover
    obtain ⟨i, hk⟩ := List.getElem?_of_mem hmem
    obtain ⟨m, rest, hm⟩ := List.exists_cons_of_ne_nil (l := k.ahead)
      fun hnil => hahead (by rw [hnil]; rfl)
    obtain ⟨-, hw⟩ := h.enters hl hk hm
    have hm' := hm
    rw [hw] at hm'
    obtain ⟨rfl, -⟩ := List.cons.inj hm'
    refine ⟨i, ?_⟩
    have hlock : r.lock.after i .take = some (some (i, 1)) := by rw [hl]; rfl
    rw [step_eq_moved hk hm hlock]
    exact remaining_moved_lt hk hm (Nat.le_refl _)
  | some holder =>
    obtain ⟨i, d⟩ := holder
    obtain ⟨-, -, k, -, -, hk, rfl, hpos, hreleases, -⟩ := h.held i d hl
    obtain ⟨m, rest, hm⟩ := List.exists_cons_of_ne_nil (l := k.ahead) fun hnil => by
      rw [hnil] at hreleases
      exact hpos.ne' hreleases
    rw [hm] at hreleases
    refine ⟨i, ?_⟩
    rw [step_eq_moved hk hm (by rw [hl]; exact Caller.after_act hreleases r.blog)]
    exact remaining_moved_lt hk hm (Caller.length_act_le hreleases r.blog)

theorem Serial.exists_finish (n : Nat) (h : Serial b cs r) (hn : r.remaining = n) :
    ∃ rest, (r.run rest).isOver = true := by
  induction n using Nat.strong_induction_on generalizing r with
  | _ n ih =>
    cases hover : r.isOver with
    | true => exact ⟨[], hover⟩
    | false =>
      obtain ⟨i, hlt⟩ := h.exists_step hover
      obtain ⟨rest, hrest⟩ := ih _ (hn ▸ hlt) (serial_step h i) rfl
      exact ⟨i :: rest, hrest⟩

/-- Whatever steps were made, some further steps finish all commands. -/
theorem exists_finish (b : Blog) (cs : List Command) (schedule : List Nat) :
    ∃ rest, ((start b cs).run (schedule ++ rest)).isOver = true := by
  obtain ⟨rest, hrest⟩ := (serial_run (serial_start b cs) schedule).exists_finish _ rfl
  refine ⟨rest, ?_⟩
  rw [run, List.foldl_append]
  exact hrest

/-! ## Races that are over -/

/-- When nobody has a step ahead, nobody holds the lock. -/
theorem Serial.lock_of_over (h : Serial b cs r) (hover : r.isOver = true) : r.lock = none := by
  cases hl : r.lock with
  | none => rfl
  | some holder =>
    obtain ⟨-, -, k, -, -, hk, -, hpos, hreleases, -⟩ := h.held holder.1 holder.2 hl
    have hdone : k.ahead = [] := by
      simpa using List.all_eq_true.1 hover k (List.mem_of_getElem? hk)
    rw [hdone] at hreleases
    exact absurd hreleases hpos.ne'

/-- When nobody has a step ahead, everybody's turn has come and tells of the command. -/
theorem Serial.over (h : Serial b cs r) (hover : r.isOver = true) :
    r.turns.Perm (List.range cs.length) ∧ Told b r.callers r.turns r.blog := by
  have hdone : ∀ {i : Nat} {k : Caller}, r.callers[i]? = some k → k.ahead = [] := by
    intro i k hk
    simpa using List.all_eq_true.1 hover k (List.mem_of_getElem? hk)
  have hlength : r.callers.length = cs.length := by
    rw [← h.commands, List.length_map]
  refine ⟨(List.perm_ext_iff_of_nodup h.nodup List.nodup_range).2 fun i => ?_,
    h.free (h.lock_of_over hover)⟩
  rw [List.mem_range, ← hlength]
  refine ⟨h.begun i, fun hi => ?_⟩
  by_contra hit
  have hk := List.getElem?_eq_getElem hi
  have hnil := hdone hk
  rw [h.waiting i _ hk hit] at hnil
  exact absurd hnil (by simp [Caller.waiting, Command.moves])

theorem filterMap_range {α : Type} (l : List α) :
    (List.range l.length).filterMap (l[·]?) = l := by
  induction l with
  | nil => rfl
  | cons a l ih =>
    rw [List.length_cons, List.range_succ_eq_map, List.filterMap_cons, List.filterMap_map]
    exact congrArg (a :: ·) ih

/-- The outcomes in the order of the callers are those in any order of them all. -/
theorem outcomes_perm {turns : List Nat} (hturns : turns.Perm (List.range r.callers.length)) :
    (r.callers.map Caller.outcome).Perm (turns.map r.outcome?) := by
  have hrange : r.callers.map Caller.outcome = (List.range r.callers.length).map r.outcome? := by
    refine List.ext_getElem (by simp) fun i hi _ => ?_
    rw [List.length_map] at hi
    simp [outcome?, hi]
  rw [hrange]
  exact (hturns.map _).symm

/-- **Concurrent commands are linearizable.**  When a race is over, every caller has had its turn
once; the blog and the outcomes are those of the commands one after the other in the order of the
turns.  In particular, of new users with one email that nobody has, under an identifier that is
free, one is stored and all others are refused. -/
theorem outcomes_of_a_serial_order (b : Blog) (cs : List Command) (schedule : List Nat)
    (hover : ((start b cs).run schedule).isOver = true) :
    ((start b cs).run schedule).turns.Perm (List.range cs.length) ∧
    ((start b cs).run schedule).blog =
      Command.runEach b (((start b cs).run schedule).turns.filterMap (cs[·]?)) ∧
    ((start b cs).run schedule).turns.map ((start b cs).run schedule).outcome? =
      (Command.runAll b (((start b cs).run schedule).turns.filterMap (cs[·]?))).map
        (fun o => some o.result) ∧
    ∀ (email : String) (inputs : List NewUser), inputs ≠ [] → cs = inputs.map .createUser →
      (∀ input ∈ inputs, input.email = email) → (∀ u ∈ b.store.users.toList, u.email ≠ email) →
      b.store.users.has (b.ids (b.made + 1)) = false →
      ∃ u : User, u.email = email ∧
        ((start b cs).run schedule).blog.store =
          { b.store with users := ⟨b.store.users.toList ++ [u]⟩ } ∧
        (((start b cs).run schedule).callers.map Caller.outcome).Perm
          (some (.ok (.user u)) ::
            List.replicate (inputs.length - 1) (some (.error (.refused .emailTaken)))) := by
  have h := serial_run (serial_start b cs) schedule
  obtain ⟨hturns, htold⟩ := h.over hover
  obtain ⟨hblog, hresults⟩ := htold.runEach
  rw [h.commands] at hblog hresults
  refine ⟨hturns, hblog, hresults, ?_⟩
  rintro email inputs hne rfl hmail hfree hid
  rw [List.length_map] at hturns
  have hcallers : ((start b (inputs.map .createUser)).run schedule).callers.length =
      inputs.length := by
    rw [← List.length_map Caller.command, h.commands, List.length_map]
  -- in the order of the turns, the inputs are a reordering of the inputs
  have horder : (((start b (inputs.map .createUser)).run schedule).turns.filterMap
      (inputs[·]?)).Perm inputs := by
    have hperm := hturns.filterMap (inputs[·]?)
    rwa [filterMap_range] at hperm
  simp only [List.getElem?_map, ← List.map_filterMap] at hblog hresults
  have hnone : Command.holder? b.store email = none := by
    rw [Command.holder?, Collection.filter, List.head?_eq_none_iff, List.filter_eq_nil_iff]
    simpa using hfree
  obtain ⟨u, hu, -, hstore, hall⟩ := Command.runAll_one_email hnone hid
    (fun hnil => hne (List.perm_nil.1 (hnil ▸ horder).symm))
    (fun input hinput => hmail input (horder.mem_iff.1 hinput))
  refine ⟨u, hu, by rw [hblog, hstore], ?_⟩
  refine (outcomes_perm (hcallers ▸ hturns)).trans (List.Perm.of_eq ?_)
  have hsome := congrArg (List.map some) hall
  rw [List.map_map, List.map_cons, List.map_replicate, horder.length_eq] at hsome
  exact hresults.trans hsome

/-- Two callers in turn, the second of them first. -/
def sampleSchedule : List Nat := (List.replicate 20 [1, 0]).flatten

theorem outcomes_of_two_with_one_email :
    ((start .sample [.createUser ⟨"Ann", "a@b", none⟩,
        .createUser ⟨"Bob", "a@b", some 3⟩]).run sampleSchedule).isOver = true ∧
    ((start .sample [.createUser ⟨"Ann", "a@b", none⟩,
        .createUser ⟨"Bob", "a@b", some 3⟩]).run sampleSchedule).turns = [1, 0] ∧
    ∃ u : User, u.email = "a@b" ∧
      ((start .sample [.createUser ⟨"Ann", "a@b", none⟩,
        .createUser ⟨"Bob", "a@b", some 3⟩]).run sampleSchedule).blog.store =
        { Store.sample with users := ⟨Store.sample.users.toList ++ [u]⟩ } ∧
      (((start .sample [.createUser ⟨"Ann", "a@b", none⟩,
        .createUser ⟨"Bob", "a@b", some 3⟩]).run sampleSchedule).callers.map Caller.outcome).Perm
        [some (.ok (.user u)), some (.error (.refused .emailTaken))] := by
  have hover : ((start .sample [.createUser ⟨"Ann", "a@b", none⟩,
      .createUser ⟨"Bob", "a@b", some 3⟩]).run sampleSchedule).isOver = true := by
    decide +kernel
  refine ⟨hover, by decide +kernel, ?_⟩
  exact (outcomes_of_a_serial_order _ _ _ hover).2.2.2 "a@b"
    [⟨"Ann", "a@b", none⟩, ⟨"Bob", "a@b", some 3⟩] (by simp) rfl (by simp) (by decide +kernel)
    (by decide +kernel)

end Race
end BlogGraph
