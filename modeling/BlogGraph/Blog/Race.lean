import BlogGraph.Blog.Command

/-!
# Commands at the same time

Several callers carry out commands on one blog, each in steps, and their steps come in any order.
The store has one lock. Whoever holds it may take it again, and gives it up after as many releases;
everyone else has to wait. A command holds it from its first check to the end of its appending, and
every look at the store, as well as the appending itself, takes it once more. A failure leaves all
blocks that hold the lock before it reaches the caller.

The lock is the one that `transaction` holds around a command.
-/

namespace BlogGraph

/-- Something that a command makes sure of before it makes its record. -/
inductive Check where
  | emailFree (email : String)
  | authorKnown (id : String)
  | postOpen (id : String)
deriving DecidableEq, Repr

/-- A look at the store tells that a check is passed. -/
def Check.holds (s : Store) : Check → Bool
  | emailFree email => (Command.holder? s email).isNone
  | authorKnown id => s.users.has id
  | postOpen id => Command.isOpen s id

namespace Command

/-- The checks of a command, in the order in which it makes them. -/
def checks : Command → List Check
  | createUser input => [.emailFree input.email]
  | createPost input => [.authorKnown input.author]
  | createComment input => [.authorKnown input.author, .postOpen input.post]

/-- What a command is refused with when a check is not passed. -/
def objection : Command → Refusal
  | createUser _ => .emailTaken
  | createPost _ => .unknownAuthor
  | createComment _ => .closedPost

end Command

/-- One step of a caller. -/
inductive Move where
  | take
  | release
  | look (check : Check)
  | decide
  | makeId
  | append
deriving DecidableEq, Repr

/-- The steps of a command that is not refused. -/
def Command.moves (c : Command) : List Move :=
  .take :: (c.checks.flatMap (fun k => [.take, .look k, .release]) ++
    [.decide, .makeId, .take, .append, .release, .release])

/-- Someone who carries out a command: the steps ahead, the number of blocks around that hold the
lock, whether all checks so far were passed, the identifier that was made, and the outcome. -/
structure Caller where
  command : Command
  ahead : List Move
  depth : Nat
  passed : Bool
  id : String
  outcome : Option (Except Failure Record)

namespace Caller

/-- A caller before its first step. -/
def waiting (c : Command) : Caller := ⟨c, c.moves, 0, true, "", none⟩

/-- A caller that a failure makes leave all blocks around. -/
def failing (k : Caller) (f : Failure) : Caller :=
  { k with ahead := List.replicate k.depth .release, outcome := some (.error f) }

/-- What a step does to its caller and to the blog, once the lock lets it happen. -/
def act (k : Caller) (b : Blog) : Move → Caller × Blog
  | .take => ({ k with depth := k.depth + 1 }, b)
  | .release => ({ k with depth := k.depth - 1 }, b)
  | .look check => ({ k with passed := k.passed && check.holds b.store }, b)
  | .decide => (if k.passed then k else k.failing (.refused k.command.objection), b)
  | .makeId => ({ k with id := b.ids (b.made + 1) }, { b with made := b.made + 1 })
  | .append =>
    let r := k.command.record k.id
    match b.store.append (.record r) with
    | .error e => (k.failing (.append e), b)
    | .ok store => ({ k with outcome := some (.ok r) }, { b with store })

end Caller

/-- A lock that its holder may take again: who holds it, and how often it was taken. -/
abbrev Lock := Option (Nat × Nat)

namespace Lock

/-- The lock after a step of a caller, unless the caller has to wait. -/
def after (l : Lock) (i : Nat) : Move → Option Lock
  | .take =>
    match l with
    | none => some (some (i, 1))
    | some (j, n) => if j = i then some (some (i, n + 1)) else none
  | .release =>
    match l with
    | none => none
    | some (j, n) => if j = i then some (if n ≤ 1 then none else some (i, n - 1)) else none
  | _ => some l

end Lock

/-- Callers under way: the blog, the lock, the callers, and who of them has taken the lock, in the
order in which each did so first. -/
structure Race where
  blog : Blog
  lock : Lock
  callers : List Caller
  turns : List Nat

namespace Race

/-- Callers before their first steps. -/
def start (b : Blog) (cs : List Command) : Race := ⟨b, none, cs.map .waiting, []⟩

/-- The next step of a caller. One that has to wait, has no step ahead or does not exist changes
nothing. -/
def step (r : Race) (i : Nat) : Race :=
  match r.callers[i]? with
  | none => r
  | some k =>
    match k.ahead with
    | [] => r
    | m :: rest =>
      match r.lock.after i m with
      | none => r
      | some lock =>
        let (k, blog) := { k with ahead := rest }.act r.blog m
        let turns := if m = .take && !r.turns.contains i then r.turns ++ [i] else r.turns
        ⟨blog, lock, r.callers.set i k, turns⟩

/-- Steps of callers in the order of a schedule. -/
def run (r : Race) (schedule : List Nat) : Race := schedule.foldl step r

/-- No caller has a step ahead. -/
def isOver (r : Race) : Bool := r.callers.all fun k => k.ahead.isEmpty

/-- The outcome of a caller's command, when it has one. -/
def outcome? (r : Race) (i : Nat) : Option (Except Failure Record) :=
  r.callers[i]?.bind Caller.outcome

end Race
end BlogGraph
