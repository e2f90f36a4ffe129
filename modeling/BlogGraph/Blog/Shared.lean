import BlogGraph.Blog.Race
import BlogGraph.Session

/-!
# A store that threads share

Several threads work on one blog.  What a thread does with the store are operations: it reads,
appends, counts, carries out commands, and groups operations in transactions, one inside the other
as deep as it likes.  Any of them may fail, for a reason of its own or for one that comes from
outside at any moment.  A failure ends the thread, unless it catches the failures of some
operations; then it goes on after those.

The store has one lock, which its holder may take again (`Lock`).  Every operation takes it for its
accesses to the store, a transaction takes it around all that is inside, and so does a command.
Whatever takes the lock is a block: it gives the lock back once when it is left, in the ordinary way
or because of a failure.  The threads go on one step at a time, in any order; a step takes the lock,
makes one access, or leaves a block.

This is `EntityStore` as threads use it, with `transaction` for what is grouped.
-/

namespace BlogGraph.Shared

/-- A look at the records of one kind. A test that picks records may fail on one. -/
inductive Reading where
  | all (kind : Kind)
  | size (kind : Kind)
  | get (kind : Kind) (id : String)
  | filter (kind : Kind) (test : Record → Except StepError Bool)
  | any (kind : Kind) (test : Record → Except StepError Bool)

/-- What a look brings. -/
def Reading.value (s : Store) : Reading → Except StepError StepValue
  | all kind => .ok (.storedAll (s.records kind))
  | size kind => .ok (.number (s.records kind).length)
  | get kind id => .ok (.stored (s.get? kind id))
  | filter kind test => (Collection.filterM test ⟨s.records kind⟩).map .storedAll
  | any kind test => (Collection.existsM test ⟨s.records kind⟩).map .truth

/-- What a thread does between taking and releasing the lock: a look, an appending, or one of the
steps of a command. -/
inductive Access where
  | read (reading : Reading)
  | append (item : Item)
  | begin
  | look (check : Check)
  | decide (command : Command)
  | makeId
  | appendNew (command : Command)

/-- What a block is there for: to hold the lock, or to catch failures. -/
inductive Purpose where
  | hold
  | attempt
deriving DecidableEq, Repr

/-- The work of a thread, in blocks. -/
inductive Code where
  | access (access : Access)
  | block (purpose : Purpose) (body : List Code)

/-- One access, behind the lock. -/
def Code.locked (a : Access) : Code := .block .hold [.access a]

/-- An operation on the store. The failures of an attempt are caught. -/
inductive Operation where
  | read (reading : Reading)
  | append (item : Item)
  | counts
  | create (command : Command)
  | transaction (body : List Operation)
  | attempt (body : List Operation)

namespace Operation

mutual

/-- The work that an operation consists of. A command makes its checks, each with a look of its own,
before it decides, makes an identifier and appends. -/
def code : Operation → Code
  | read reading => .locked (.read reading)
  | append item => .locked (.append item)
  | counts =>
    .block .hold [.locked (.read (.size .user)), .locked (.read (.size .post)),
      .locked (.read (.size .comment))]
  | create c =>
    .block .hold (.access .begin :: (c.checks.map (fun k => .locked (.look k)) ++
      [.access (.decide c), .access .makeId, .locked (.appendNew c)]))
  | transaction body => .block .hold (codes body)
  | attempt body => .block .attempt (codes body)

/-- The work of operations one after the other. -/
def codes : List Operation → List Code
  | [] => []
  | o :: rest => code o :: codes rest

end

end Operation

/-- What a thread has learnt: the values that it was given, whether the command under way has passed
its checks so far, and the identifier made last. -/
structure Notes where
  seen : List StepValue
  passed : Bool
  id : String

/-- The notes with one more value. -/
def Notes.see (n : Notes) (v : StepValue) : Notes := { n with seen := n.seen ++ [v] }

/-- What an appended value is given back as. -/
def givenBack : Item → StepValue
  | .record r => .stored (some r)
  | .other _ => .stored none

/-- What an access makes of the notes, or why it fails, and the blog afterwards. -/
def Access.perform (b : Blog) (n : Notes) : Access → Except StepError Notes × Blog
  | read reading => ((reading.value b.store).map n.see, b)
  | append item =>
    match b.store.append item with
    | .ok store => (.ok (n.see (givenBack item)), { b with store })
    | .error e => (.error (.append e), b)
  | begin => (.ok { n with passed := true }, b)
  | look check => (.ok { n with passed := n.passed && check.holds b.store }, b)
  | decide c => (if n.passed then .ok n else .error (.operation (.refused c.objection)), b)
  | makeId => (.ok { n with id := b.ids (b.made + 1) }, { b with made := b.made + 1 })
  | appendNew c =>
    match b.store.append (.record (c.record n.id)) with
    | .ok store => (.ok (n.see (.object (c.record n.id))), { b with store })
    | .error e => (.error (.operation (.append e)), b)

/-- A block that a thread is in: what it is there for, how often the thread held the lock before it,
and the work after it. -/
structure Block where
  purpose : Purpose
  before : Nat
  next : List Code

/-- A thread: the work ahead in the innermost block, the blocks around it, innermost first, the
failure that makes it leave them, and its notes. -/
structure Thread where
  ahead : List Code
  blocks : List Block
  failure : Option StepError
  notes : Notes

namespace Thread

/-- A thread before its first operation. -/
def ofOperations (ops : List Operation) : Thread := ⟨Operation.codes ops, [], none, ⟨[], true, ""⟩⟩

/-- All blocks are left, and no work is ahead. -/
def isOver (t : Thread) : Bool := t.ahead.isEmpty && t.blocks.isEmpty

/-- A thread that a failure strikes drops the work ahead. -/
def failing (t : Thread) (e : StepError) : Thread := { t with ahead := [], failure := some e }

/-- A thread with some work left, after an access. -/
def told (t : Thread) (rest : List Code) : Except StepError Notes → Thread
  | .ok notes => { t with ahead := rest, notes }
  | .error e => t.failing e

/-- A thread inside a block that it has just begun. -/
def enter (t : Thread) (purpose : Purpose) (before : Nat) (body next : List Code) : Thread :=
  { t with ahead := body, blocks := ⟨purpose, before, next⟩ :: t.blocks }

/-- A thread after a block. A failure goes further, unless the block is there to catch it. -/
def leave (t : Thread) (block : Block) (outer : List Block) : Thread :=
  if t.failure.isSome ∧ block.purpose = .hold then { t with blocks := outer }
  else { t with ahead := block.next, blocks := outer, failure := none }

end Thread

namespace Purpose

/-- The lock after a thread begins a block, unless the thread has to wait. -/
def lock (l : Lock) (i : Nat) : Purpose → Option Lock
  | hold => l.after i .take
  | attempt => some l

/-- The lock after a thread leaves a block. -/
def unlock (l : Lock) (i : Nat) : Purpose → Option Lock
  | hold => l.after i .release
  | attempt => some l

end Purpose

/-- How often a thread holds the lock. -/
def depth (l : Lock) (i : Nat) : Nat :=
  match l with
  | some (j, n) => if j = i then n else 0
  | none => 0

/-- A block was left: by whom, how often that thread held the lock before the block and after it,
and whether a failure was the reason. -/
structure Exit where
  thread : Nat
  before : Nat
  after : Nat
  failed : Bool
deriving DecidableEq, Repr

/-- Threads under way: the blog, the lock, the threads, and the blocks that were left so far. -/
structure State where
  blog : Blog
  lock : Lock
  threads : List Thread
  exits : List Exit

/-- What happens next: a thread goes on, or a failure strikes it. -/
inductive Turn where
  | go (i : Nat)
  | fail (i : Nat) (error : StepError)

/-- Whose turn it is. -/
def Turn.thread : Turn → Nat
  | go i => i
  | fail i _ => i

namespace State

/-- Threads before their first operations. -/
def start (b : Blog) (programs : List (List Operation)) : State :=
  ⟨b, none, programs.map .ofOperations, []⟩

/-- What follows when a thread goes on. One that has to wait, is over or does not exist cannot. -/
def go? (w : State) (i : Nat) : Option State :=
  match w.threads[i]? with
  | none => none
  | some t =>
    match t.ahead, t.blocks with
    | .access a :: rest, _ =>
      let (r, blog) := a.perform w.blog t.notes
      some { w with blog, threads := w.threads.set i (t.told rest r) }
    | .block purpose body :: next, _ =>
      (purpose.lock w.lock i).map fun lock =>
        { w with lock, threads := w.threads.set i (t.enter purpose (depth w.lock i) body next) }
    | [], block :: outer =>
      (block.purpose.unlock w.lock i).map fun lock =>
        { w with
          lock
          threads := w.threads.set i (t.leave block outer)
          exits := w.exits ++ [⟨i, block.before, depth lock i, t.failure.isSome⟩] }
    | [], [] => none

/-- What follows when a failure strikes a thread that is not over. -/
def fail? (w : State) (i : Nat) (e : StepError) : Option State :=
  match w.threads[i]? with
  | none => none
  | some t => if t.isOver then none else some { w with threads := w.threads.set i (t.failing e) }

/-- What follows a turn, if it is possible. -/
def step? (w : State) : Turn → Option State
  | .go i => w.go? i
  | .fail i e => w.fail? i e

/-- Turns in the order of a schedule. One that is not possible changes nothing. -/
def run (w : State) (schedule : List Turn) : State :=
  schedule.foldl (fun w turn => (w.step? turn).getD w) w

/-- All threads are over. -/
def isOver (w : State) : Bool := w.threads.all Thread.isOver

end State
end BlogGraph.Shared
