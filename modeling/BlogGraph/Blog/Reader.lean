import BlogGraph.Blog.Question
import BlogGraph.Blog.Race

/-!
# A reader beside callers

While callers carry out commands, someone asks questions, one after the other.  A list can be asked
for at any time; a question about a record only after an answer brought the record.  Each question
takes the lock once, for one look at the store, and its answer is there when the lock is released.
A question about the examples alone is answered at once, without the lock.

The document of a query is such a reader: it holds the lock for no longer than one question, so the
callers come in between.
-/

namespace BlogGraph

/-- The records that were found. -/
def Found.records : Found → List Record
  | one r => [r]
  | many rs => rs

/-- The records that an answer brings. -/
def Answer.records (a : Answer) : List Record :=
  match a.result with
  | .ok f => f.records
  | .error _ => []

/-- The record that a question is about, if it is about one. -/
def Question.subject? : Question → Option Record
  | postsOf u => some (.user u)
  | commentsBy u => some (.user u)
  | authorOf p => some (.post p)
  | commentsOn p => some (.post p)
  | commenter c => some (.comment c)
  | postOf c => some (.comment c)
  | _ => none

/-- How far a reader is with a question: there is none, the lock is waited for, the lock is held, or
the store was looked at and the lock is still held. -/
inductive ReaderStage where
  | idle
  | waiting (question : Question)
  | inside (question : Question)
  | leaving (question : Question) (answer : Answer)

/-- Someone who asks questions: how far the current one is, and the answers so far. -/
structure Reader where
  stage : ReaderStage
  heard : List (Question × Answer)

namespace Reader

/-- A reader before the first question. -/
def fresh : Reader := ⟨.idle, []⟩

/-- The question under way. -/
def question? (k : Reader) : Option Question :=
  match k.stage with
  | .idle => none
  | .waiting q => some q
  | .inside q => some q
  | .leaving q _ => some q

/-- The reader holds the lock. -/
def holds (k : Reader) : Bool :=
  match k.stage with
  | .idle => false
  | .waiting _ => false
  | .inside _ => true
  | .leaving _ _ => true

/-- An answer so far brought the record. -/
def knows (k : Reader) (r : Record) : Bool := k.heard.any fun h => h.2.records.contains r

/-- The question is about a record that an answer brought, or about none. -/
def mayAsk (k : Reader) (q : Question) : Bool :=
  match q.subject? with
  | some r => k.knows r
  | none => true

/-- The reader with one more answer and no question under way. -/
def hear (k : Reader) (q : Question) (a : Answer) : Reader := ⟨.idle, k.heard ++ [(q, a)]⟩

end Reader

/-- Callers under way and a reader beside them. -/
structure Watched where
  race : Race
  reader : Reader

/-- Who goes on: a caller, or the reader with a new question or the one under way. -/
inductive Turn where
  | caller (i : Nat)
  | ask (question : Question)
  | go

namespace Watched

/-- Callers and a reader before their first steps. -/
def start (b : Blog) (cs : List Command) : Watched := ⟨.start b cs, .fresh⟩

/-- The reader's number among all who take the lock: the first that is no caller's. -/
def self (w : Watched) : Nat := w.race.callers.length

/-- What follows when the reader begins with a question. A question that may not be asked changes
nothing. -/
def ask (w : Watched) (q : Question) : Watched :=
  match w.reader.stage with
  | .idle =>
    if w.reader.mayAsk q then
      match q.aboutExamples with
      | some f => { w with reader := w.reader.hear q (.found f) }
      | none => { w with reader := { w.reader with stage := .waiting q } }
    else w
  | _ => w

/-- What follows when the reader goes on. A reader that has to wait changes nothing. -/
def go (w : Watched) : Watched :=
  match w.reader.stage with
  | .idle => w
  | .waiting q =>
    match w.race.lock.after w.self .take with
    | none => w
    | some lock => ⟨{ w.race with lock }, { w.reader with stage := .inside q }⟩
  | .inside q =>
    let a := q.answer (some w.race.blog.store)
    { w with reader := { w.reader with stage := .leaving q a } }
  | .leaving q a =>
    match w.race.lock.after w.self .release with
    | none => w
    | some lock => ⟨{ w.race with lock }, w.reader.hear q a⟩

/-- What follows a turn. -/
def step (w : Watched) : Turn → Watched
  | .caller i => { w with race := w.race.step i }
  | .ask q => w.ask q
  | .go => w.go

/-- Turns in the order of a schedule. -/
def run (w : Watched) (turns : List Turn) : Watched := turns.foldl step w

/-- The questions that were asked: those that were answered, and the one under way. -/
def asked (w : Watched) : List Question :=
  w.reader.heard.map (·.1) ++ w.reader.question?.toList

end Watched
end BlogGraph
