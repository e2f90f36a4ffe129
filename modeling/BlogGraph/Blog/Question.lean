import BlogGraph.Blog.Event
import BlogGraph.Blog.Failure
import BlogGraph.Blog.Relation
import BlogGraph.Blog.Search

/-!
# Questions to the blog

What can be asked without changing anything: the lists of records, possibly searched, the
examples, and the relations of a record. A question needs the store, unless it is about the
examples alone. It fails when the store is not at hand or when a reference dangles.

These are `resolve_users`, `resolve_posts`, `resolve_comments`, `resolve_current_user` and
`resolve_example_post`. Whether the store is at hand is what `get_store_from_info` finds out.
-/

namespace BlogGraph

/-- A question to the blog. -/
inductive Question where
  | users (query : Option String)
  | posts (query : Option String)
  | comments
  | exampleUser
  | examplePost
  | postsOf (user : User)
  | commentsBy (user : User)
  | authorOf (post : Post)
  | commentsOn (post : Post)
  | commenter (comment : Comment)
  | postOf (comment : Comment)
deriving DecidableEq, Repr

/-- What was found: one record, or a list. -/
inductive Found where
  | one (record : Record)
  | many (records : List Record)
deriving DecidableEq, Repr

/-- The outcome of a question, and what it reports. -/
structure Answer where
  result : Except Failure Found
  events : List Event

namespace Answer

/-- An answer that reports nothing. -/
def found (f : Found) : Answer := ⟨.ok f, []⟩

/-- A failure and its report. -/
def failed (f : Failure) (event : Event) : Answer := ⟨.error f, [event]⟩

/-- The record that a reference points to, or a failure when it dangles. -/
def ofReference (record : Option Record) (reference : Dangling) (event : Event) : Answer :=
  match record with
  | some r => found (.one r)
  | none => failed (.dangling reference) event

end Answer

namespace Question

/-- The answer that a store gives. -/
def answerFrom (s : Store) : Question → Answer
  | users query => .found (.many ((s.searchUsers query).map .user))
  | posts query => .found (.many ((s.searchPosts query).map .post))
  | comments => .found (.many (s.comments.toList.map .comment))
  | exampleUser => .found (.one (.user BlogGraph.exampleUser))
  | examplePost => .found (.one (.post BlogGraph.examplePost))
  | postsOf u => .found (.many ((s.postsOf u).map .post))
  | commentsBy u => .found (.many ((s.commentsBy u).map .comment))
  | authorOf p =>
    .ofReference ((s.authorOf? p).map .user) .postAuthor (.postAuthorMissing p.id p.author)
  | commentsOn p => .found (.many ((s.commentsOn p).map .comment))
  | commenter c =>
    .ofReference ((s.commenter? c).map .user) .commentAuthor (.commentAuthorMissing c.id c.author)
  | postOf c =>
    .ofReference ((s.postOf? c).map .post) .commentPost (.commentPostMissing c.id c.post)

/-- The answer to a question about the examples alone. -/
def aboutExamples : Question → Option Found
  | exampleUser => some (.one (.user BlogGraph.exampleUser))
  | examplePost => some (.one (.post BlogGraph.examplePost))
  | authorOf p =>
    if p.id = BlogGraph.examplePost.id then some (.one (.user BlogGraph.exampleUser)) else none
  | _ => none

/-- The answer to a question, given the store if it is at hand. -/
def answer (store? : Option Store) (q : Question) : Answer :=
  match q.aboutExamples, store? with
  | some f, _ => .found f
  | none, some s => q.answerFrom s
  | none, none => .failed .storeUnavailable .storeUnavailable

end Question
end BlogGraph
