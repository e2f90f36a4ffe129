import BlogGraph.Blog.Event

/-!
# Sample data

The records that a fresh store starts with, and their loading into any store. They are
appended users first, then posts, then comments, so that every reference finds its record.
Loading stops at the first record whose identifier is taken; what was appended before it
stays.

This is `seed_store`.
-/

namespace BlogGraph.Seed

/-- The sample users. -/
def users : List User := [
  ⟨"1", "Steve", "steve.jobs@apple.com", some 55⟩,
  ⟨"2", "Mark", "mark.zuckerberg@facebook.com", none⟩,
  ⟨"3", "Elon", "elon.musk@tesla.com", none⟩]

/-- The sample posts. -/
def posts : List Post := [
  ⟨"10", "GraphQL 101", "Welcome to GraphQL course", true, "1"⟩,
  ⟨"11", "Node.js 101", "Welcome to Node.js course", true, "1"⟩,
  ⟨"12", "Angular 101", "", false, "2"⟩]

/-- The sample comments. -/
def comments : List Comment := [
  ⟨"102", "She's got a smile that it seems to me...Reminds me of childhood memories..", "1", "10"⟩,
  ⟨"103", "Maybe I'm too busy being yours to fall for somebody new...", "1", "10"⟩,
  ⟨"104", "I used to love her...But I had to kill her...", "2", "11"⟩,
  ⟨"105", "But life still goes on...I want to break free...", "3", "12"⟩]

/-- All sample records in the order in which they are appended. -/
def records : List Record :=
  users.map .user ++ posts.map .post ++ comments.map .comment

end BlogGraph.Seed

namespace BlogGraph

/-- A store after some appending: what it is now, what happened, and the first failure. -/
structure Appended where
  store : Store
  events : List Event
  failure : Option AppendError
deriving DecidableEq, Repr

namespace Store

/-- Appends records one after the other, up to the first failure. -/
def appendAll (s : Store) : List Record → Appended
  | [] => ⟨s, [], none⟩
  | r :: rest =>
    match s.append (.record r) with
    | .error e => ⟨s, [], some e⟩
    | .ok s' =>
      let after := s'.appendAll rest
      { after with events := .recordAppended r.kind r.id :: after.events }

/-- Loads the sample data. -/
def seed (s : Store) : Appended :=
  let after := s.appendAll Seed.records
  match after.failure with
  | some _ => after
  | none => { after with events := after.events ++ [.storeSeeded after.store.counts] }

/-- A new store holding the sample data. -/
def sample : Store := empty.seed.store

end Store
end BlogGraph
