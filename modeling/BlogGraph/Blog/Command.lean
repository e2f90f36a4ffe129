import BlogGraph.Blog.Event
import BlogGraph.Blog.Failure
import BlogGraph.Store.Seed
import BlogGraph.Text.Hex

/-!
# Commands to the blog

The three writes: a new user, a new post, a new comment. A command is checked first: emails
are unique, a post needs a known author, a comment a known author and a published post. Only
a command that passes takes a fresh identifier and appends its record.

These are `create_user`, `create_post` and `create_comment`, each of them one `transaction`.
-/

namespace BlogGraph

/-- A new user. -/
structure NewUser where
  name : String
  email : String
  age : Option Int
deriving DecidableEq, Repr

/-- A new post. -/
structure NewPost where
  title : String
  body : String
  published : Bool
  author : String
deriving DecidableEq, Repr

/-- A new comment. -/
structure NewComment where
  text : String
  author : String
  post : String
deriving DecidableEq, Repr

/-- A write to the blog. -/
inductive Command where
  | createUser (input : NewUser)
  | createPost (input : NewPost)
  | createComment (input : NewComment)
deriving DecidableEq, Repr

/-- The identifiers for new records in the order in which they are made, counted from one. -/
abbrev RecordIds := Nat → String

/-- A blog: its store, how many identifiers have been made for it, and where they come from. -/
structure Blog where
  store : Store
  made : Nat
  ids : RecordIds

/-- The `n`-th identifier in the order of their numerals. -/
def recordId : RecordIds := fun n =>
  "00000000-0000-4000-8000-" ++ Text.hexLower 12 n

namespace Blog

/-- A blog over a store, before any identifier is made. -/
def ofStore (s : Store) (ids : RecordIds := recordId) : Blog := ⟨s, 0, ids⟩

/-- A blog without records. -/
def empty : Blog := ofStore .empty

/-- A blog with the sample data. -/
def sample : Blog := ofStore .sample

end Blog

/-- What a command led to: the new record or a failure, the blog afterwards, and what is
reported. -/
structure Outcome where
  result : Except Failure Record
  blog : Blog
  events : List Event

namespace Command

/-- The user who has an email, the earliest one. -/
def holder? (s : Store) (email : String) : Option User :=
  (s.users.filter fun u => u.email = email).head?

/-- The post is there and published. -/
def isOpen (s : Store) (post : String) : Bool :=
  match s.posts.get? post with
  | some p => p.published
  | none => false

/-- Why a command is refused, and what is then reported. -/
def refusal? (s : Store) : Command → Option (Refusal × Event)
  | createUser input => (holder? s input.email).map fun u => (.emailTaken, .emailTaken u.id)
  | createPost input =>
    if s.users.has input.author then none else some (.unknownAuthor, .postRefused input.author)
  | createComment input =>
    let authorExists := s.users.has input.author
    let postOpen := isOpen s input.post
    if authorExists && postOpen then none
    else some (.closedPost, .commentRefused input.author input.post authorExists postOpen)

/-- The record that a command makes under an identifier. -/
def record (id : String) : Command → Record
  | createUser input => .user ⟨id, input.name, input.email, input.age⟩
  | createPost input => .post ⟨id, input.title, input.body, input.published, input.author⟩
  | createComment input => .comment ⟨id, input.text, input.author, input.post⟩

/-- What is reported when a command has made its record. -/
def created (id : String) : Command → Event
  | createUser _ => .userCreated id
  | createPost input => .postCreated id input.author input.title
  | createComment input => .commentCreated id input.author input.post

/-- Carries out a command. -/
def run (command : Command) (b : Blog) : Outcome :=
  match command.refusal? b.store with
  | some (refusal, event) => ⟨.error (.refused refusal), b, [event]⟩
  | none =>
    let made := b.made + 1
    let id := b.ids made
    let r := command.record id
    match b.store.append (.record r) with
    | .error e => ⟨.error (.append e), { b with made }, []⟩
    | .ok store =>
      ⟨.ok r, { b with store, made }, [.recordAppended r.kind r.id, command.created id]⟩

/-- Carries out a command, if the store is at hand. -/
def runWhen (available : Bool) (command : Command) (b : Blog) : Outcome :=
  if available then command.run b else ⟨.error .storeUnavailable, b, [.storeUnavailable]⟩

/-- Carries out commands one after the other, whatever becomes of each. -/
def runAll (b : Blog) : List Command → List Outcome
  | [] => []
  | c :: rest =>
    let o := c.run b
    o :: runAll o.blog rest

end Command
end BlogGraph
