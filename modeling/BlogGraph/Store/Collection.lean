import BlogGraph.Store.Record

/-!
# Collections

A collection keeps records of one kind in the order in which they were added. Records are
only ever added, at the end, and only under an identifier that is not taken.

A test that picks records may fail on a record. Picking examines every record in order and
fails with the first failure; asking whether one exists stops at the first match.

This is `Collection` with `all`, `get`, `filter`, `exists` and `_append`, seen without its lock
and without its index by identifier.
-/

namespace BlogGraph

/-- Records of one kind, oldest first. -/
structure Collection (α : Type) where
  toList : List α
deriving DecidableEq, Repr, Inhabited

namespace Collection

variable {α : Type}

/-- The collection without records. -/
def empty : Collection α := ⟨[]⟩

/-- How many records there are. -/
def size (c : Collection α) : Nat := c.toList.length

/-- The records that pass a test, oldest first. -/
def filter (p : α → Bool) (c : Collection α) : List α := c.toList.filter p

/-- The records that pass a test that may fail, oldest first, or the first failure. -/
def filterM {ε : Type} (p : α → Except ε Bool) (c : Collection α) : Except ε (List α) :=
  go c.toList
where
  /-- The rest of the records that pass. -/
  go : List α → Except ε (List α)
    | [] => .ok []
    | a :: rest =>
      match p a with
      | .error e => .error e
      | .ok b =>
        match go rest with
        | .error e => .error e
        | .ok kept => .ok (if b then a :: kept else kept)

/-- Some record passes a test that may fail; records after the first match are not examined. -/
def existsM {ε : Type} (p : α → Except ε Bool) (c : Collection α) : Except ε Bool :=
  go c.toList
where
  /-- Some record of the rest passes. -/
  go : List α → Except ε Bool
    | [] => .ok false
    | a :: rest =>
      match p a with
      | .error e => .error e
      | .ok true => .ok true
      | .ok false => go rest

variable [Identified α]

/-- The record with an identifier. -/
def get? (c : Collection α) (id : String) : Option α :=
  c.toList.find? fun a => Identified.ident a = id

/-- The identifier is taken. -/
def has (c : Collection α) (id : String) : Bool := (c.get? id).isSome

/-- The collection with one more record at its end, unless its identifier is taken. -/
def add? (c : Collection α) (a : α) : Option (Collection α) :=
  if c.has (Identified.ident a) then none else some ⟨c.toList ++ [a]⟩

end Collection
end BlogGraph
