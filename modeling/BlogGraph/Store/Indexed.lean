import BlogGraph.Named
import BlogGraph.Store.Basic

/-!
# Stores with indexes

How a store keeps its records.  Each collection has a list of them in their order and, beside it, an
index by identifier.  Whoever wants all records, or searches them, goes through the list; a record
is looked up in the index, and the index tells whether an identifier is taken.  Appending writes to
both, or to neither.

`Collection` and `Store` have the list alone; `view` forgets the index.

The two parts are `_records` and `_by_id`.
-/

namespace BlogGraph

/-! ## Collections -/

/-- Records of one kind, oldest first, and an index of them by identifier. -/
structure IndexedCollection (α : Type) where
  toList : List α
  index : Named α
deriving DecidableEq, Repr

namespace IndexedCollection

variable {α : Type}

/-- The collection without records. -/
def empty : IndexedCollection α := ⟨[], []⟩

/-- How many records there are. -/
def size (c : IndexedCollection α) : Nat := c.toList.length

/-- The record with an identifier, as the index has it. -/
def get? (c : IndexedCollection α) (id : String) : Option α := c.index.get? id

/-- The collection with one more record at the end of the list and in the index, unless the index
has its identifier. -/
def add? [Identified α] (c : IndexedCollection α) (a : α) : Option (IndexedCollection α) :=
  if (c.get? (Identified.ident a)).isSome then none
  else some ⟨c.toList ++ [a], c.index.set (Identified.ident a) a⟩

/-- The collection without its index. -/
def view (c : IndexedCollection α) : Collection α := ⟨c.toList⟩

end IndexedCollection

/-! ## Stores -/

/-- The users, posts and comments of a blog, with indexes. -/
structure IndexedStore where
  users : IndexedCollection User
  posts : IndexedCollection Post
  comments : IndexedCollection Comment
deriving DecidableEq, Repr

namespace IndexedStore

/-- The store without records. -/
def empty : IndexedStore := ⟨.empty, .empty, .empty⟩

/-- How many records of a kind there are. -/
def size (s : IndexedStore) : Kind → Nat
  | .user => s.users.size
  | .post => s.posts.size
  | .comment => s.comments.size

/-- The record of a kind with an identifier. -/
def get? (s : IndexedStore) (kind : Kind) (id : String) : Option Record :=
  match kind with
  | .user => (s.users.get? id).map .user
  | .post => (s.posts.get? id).map .post
  | .comment => (s.comments.get? id).map .comment

/-- The records of a kind, oldest first. -/
def records (s : IndexedStore) : Kind → List Record
  | .user => s.users.toList.map .user
  | .post => s.posts.toList.map .post
  | .comment => s.comments.toList.map .comment

/-- The store with one more record in the collection of its kind, unless its identifier is taken
there. -/
def append? (s : IndexedStore) : Record → Option IndexedStore
  | .user u => (s.users.add? u).map fun c => { s with users := c }
  | .post p => (s.posts.add? p).map fun c => { s with posts := c }
  | .comment m => (s.comments.add? m).map fun c => { s with comments := c }

/-- Appends a value: the store afterwards and, if the value could not be appended, the reason. -/
def append (s : IndexedStore) : Item → IndexedStore × Option AppendError
  | .other typeName => (s, some (.unsupported typeName))
  | .record r =>
    match s.append? r with
    | some s' => (s', none)
    | none => (s, some (.duplicate r.kind r.id))

/-- The store without its indexes. -/
def view (s : IndexedStore) : Store := ⟨s.users.view, s.posts.view, s.comments.view⟩

end IndexedStore
end BlogGraph
