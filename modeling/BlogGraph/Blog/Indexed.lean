import BlogGraph.Session
import BlogGraph.Store.Indexed

/-!
# Writing to a store with indexes

The writes to a blog whose store has indexes: a value is appended, the sample data is loaded, or a
command is carried out.  Each of them appends values one after the other, and every such attempt is
written down with the reason for its failure, if it failed.

The checks of a command go through lists and indexes as they are there: the holder of an email is
searched for, an author and a post are looked up.

These are `append`, `seed_store` and the three mutations over both parts of a collection.
-/

namespace BlogGraph

/-- An attempt to append a value and, if it failed, the reason. -/
structure Attempt where
  item : Item
  error : Option AppendError
deriving DecidableEq, Repr

/-- The record that an attempt stored. -/
def Attempt.stored? : Attempt → Option Record
  | ⟨.record r, none⟩ => some r
  | _ => none

/-- The attempt stored a record of a kind. -/
def Attempt.stores (kind : Kind) (a : Attempt) : Bool := a.stored?.any fun r => r.kind = kind

/-- A blog whose store has indexes, with all attempts so far to append to it, in their order. -/
structure IndexedBlog where
  store : IndexedStore
  attempts : List Attempt
  made : Nat
  ids : RecordIds

/-- A write to a blog. -/
inductive Write where
  | append (item : Item)
  | seed
  | command (command : Command)

namespace IndexedBlog

/-- A blog without records. -/
def empty (ids : RecordIds) : IndexedBlog := ⟨.empty, [], 0, ids⟩

/-- Appends a value. -/
def append (b : IndexedBlog) (item : Item) : IndexedBlog :=
  let (store, error) := b.store.append item
  { b with store, attempts := b.attempts ++ [⟨item, error⟩] }

/-- Appends records one after the other, up to the first failure. -/
def appendAll (b : IndexedBlog) : List Record → IndexedBlog
  | [] => b
  | r :: rest =>
    match (b.store.append (.record r)).2 with
    | some _ => b.append (.record r)
    | none => (b.append (.record r)).appendAll rest

/-- The post is there and published. -/
def isOpen (s : IndexedStore) (post : String) : Bool :=
  match s.posts.get? post with
  | some p => p.published
  | none => false

/-- Why a command is refused. -/
def refusal? (s : IndexedStore) : Command → Option Refusal
  | .createUser input =>
    if (s.users.toList.filter fun u => u.email = input.email).isEmpty then none
    else some .emailTaken
  | .createPost input =>
    if (s.users.get? input.author).isSome then none else some .unknownAuthor
  | .createComment input =>
    if (s.users.get? input.author).isSome && isOpen s input.post then none else some .closedPost

/-- Carries out a command. -/
def run (b : IndexedBlog) (c : Command) : IndexedBlog :=
  match refusal? b.store c with
  | some _ => b
  | none => append { b with made := b.made + 1 } (.record (c.record (b.ids (b.made + 1))))

/-- Carries out a write. -/
def perform (b : IndexedBlog) : Write → IndexedBlog
  | .append item => b.append item
  | .seed => b.appendAll Seed.records
  | .command c => b.run c

/-- The blog after writes one after the other, whatever becomes of each, that had no records
before. -/
def after (ids : RecordIds) (writes : List Write) : IndexedBlog :=
  writes.foldl perform (empty ids)

/-- The blog without the indexes of its store. -/
def view (b : IndexedBlog) : Blog := ⟨b.store.view, b.made, b.ids⟩

end IndexedBlog

/-- The step of a session that a write is. -/
def Write.step : Write → Step
  | .append item => .append item
  | .seed => .seed
  | .command c => .run true c

end BlogGraph
