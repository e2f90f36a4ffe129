import BlogGraph.Store.Collection

/-!
# The store

The three collections of a blog. The one way in is to append a record, which goes to the
collection of its kind.

This is `EntityStore` with `append` and `counts`.
-/

namespace BlogGraph

/-- The users, posts and comments of a blog. -/
structure Store where
  users : Collection User
  posts : Collection Post
  comments : Collection Comment
deriving DecidableEq, Repr, Inhabited

/-- How many records of each kind there are. -/
structure Counts where
  users : Nat
  posts : Nat
  comments : Nat
deriving DecidableEq, Repr

namespace Store

/-- The store without records. -/
def empty : Store := ⟨.empty, .empty, .empty⟩

/-- How many records of each kind the store holds. -/
def counts (s : Store) : Counts := ⟨s.users.size, s.posts.size, s.comments.size⟩

/-- The record of a kind with an identifier. -/
def get? (s : Store) (kind : Kind) (id : String) : Option Record :=
  match kind with
  | .user => (s.users.get? id).map .user
  | .post => (s.posts.get? id).map .post
  | .comment => (s.comments.get? id).map .comment

/-- The records of a kind, oldest first. -/
def records (s : Store) (kind : Kind) : List Record :=
  match kind with
  | .user => s.users.toList.map .user
  | .post => s.posts.toList.map .post
  | .comment => s.comments.toList.map .comment

/-- The store with one more record, unless its identifier is taken among its kind. -/
def append? (s : Store) : Record → Option Store
  | .user u => (s.users.add? u).map fun c => { s with users := c }
  | .post p => (s.posts.add? p).map fun c => { s with posts := c }
  | .comment m => (s.comments.add? m).map fun c => { s with comments := c }

end Store

/-- A value that someone tries to append: a record, or something else of a named type. -/
inductive Item where
  | record (record : Record)
  | other (typeName : String)
deriving DecidableEq, Repr

/-- Why a value cannot be appended. -/
inductive AppendError where
  | duplicate (kind : Kind) (id : String)
  | unsupported (typeName : String)
deriving DecidableEq, Repr

/-- The wording of a cause. -/
def AppendError.message : AppendError → String
  | duplicate kind id => "Duplicate " ++ kind.name ++ " id '" ++ id ++ "'"
  | unsupported typeName => "Unsupported record type: " ++ typeName

namespace Store

/-- Appends a value, or tells why it cannot be. -/
def append (s : Store) : Item → Except AppendError Store
  | .other typeName => .error (.unsupported typeName)
  | .record r =>
    match s.append? r with
    | some s' => .ok s'
    | none => .error (.duplicate r.kind r.id)

end Store
end BlogGraph
