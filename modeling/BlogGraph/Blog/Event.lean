import BlogGraph.Log.Entry
import BlogGraph.Store.Basic

/-!
# Events of the blog

What the store and the operations on it report to the log.
-/

namespace BlogGraph

/-- Something that happened to the blog. -/
inductive Event where
  | recordAppended (kind : Kind) (id : String)
  | storeSeeded (counts : Counts)
  | storeUnavailable
  | emailTaken (holder : String)
  | userCreated (id : String)
  | postRefused (author : String)
  | postCreated (id author title : String)
  | commentRefused (author post : String) (authorExists postOpen : Bool)
  | commentCreated (id author post : String)
  | postAuthorMissing (post author : String)
  | commentAuthorMissing (comment author : String)
  | commentPostMissing (comment post : String)
deriving DecidableEq, Repr

namespace Counts

/-- The counts as named values. -/
def fields (c : Counts) : Named Json :=
  [("users", .int c.users), ("posts", .int c.posts), ("comments", .int c.comments)]

end Counts

namespace Event

open Log

/-- Where the operations on users report. -/
def userLogger : String := "blogql.graphql.resolvers.user"

/-- Where the operations on posts report. -/
def postLogger : String := "blogql.graphql.resolvers.post"

/-- Where the operations on comments report. -/
def commentLogger : String := "blogql.graphql.resolvers.comment"

/-- The notice that an event leaves in the log. -/
def notice : Event → Notice
  | recordAppended kind id =>
    ⟨"blogql.store.entity_store", .debug, "Record appended",
      [("record_type", .text kind.recordName), ("record_id", .text id)]⟩
  | storeSeeded counts => ⟨"blogql.store.seed_data", .info, "Store seeded", counts.fields⟩
  | storeUnavailable =>
    ⟨"blogql.graphql.context", .error, "Entity store not found in GraphQL context", []⟩
  | emailTaken holder =>
    ⟨userLogger, .info, "User creation rejected: email taken",
      [("existing_user_id", .text holder)]⟩
  | userCreated id => ⟨userLogger, .info, "User created", [("user_id", .text id)]⟩
  | postRefused author =>
    ⟨postLogger, .info, "Post creation rejected: author not found", [("author_id", .text author)]⟩
  | postCreated id author title =>
    ⟨postLogger, .info, "Post created",
      [("post_id", .text id), ("author_id", .text author), ("title", .text title)]⟩
  | commentRefused author post authorExists postOpen =>
    ⟨commentLogger, .info, "Comment creation rejected: author or post invalid",
      [("author_id", .text author), ("post_id", .text post),
        ("author_exists", .bool authorExists), ("post_open", .bool postOpen)]⟩
  | commentCreated id author post =>
    ⟨commentLogger, .info, "Comment created",
      [("comment_id", .text id), ("author_id", .text author), ("post_id", .text post)]⟩
  | postAuthorMissing post author =>
    ⟨postLogger, .error, "Post author not found",
      [("post_id", .text post), ("author_id", .text author)]⟩
  | commentAuthorMissing comment author =>
    ⟨commentLogger, .error, "Comment author not found",
      [("comment_id", .text comment), ("author_id", .text author)]⟩
  | commentPostMissing comment post =>
    ⟨commentLogger, .error, "Comment post not found",
      [("comment_id", .text comment), ("post_id", .text post)]⟩

end Event
end BlogGraph
