/-!
# Records

The three kinds of record that a blog holds. Records refer to each other by identifier only;
who wrote a post, or what was said about it, is found by looking those identifiers up.

These are `UserRecord`, `PostRecord` and `CommentRecord`.
-/

namespace BlogGraph

/-- Someone who writes posts and comments. -/
structure User where
  id : String
  name : String
  email : String
  age : Option Int
deriving DecidableEq, Repr, Inhabited

/-- A post; `author` is the identifier of a user. -/
structure Post where
  id : String
  title : String
  body : String
  published : Bool
  author : String
deriving DecidableEq, Repr, Inhabited

/-- A comment; `author` is the identifier of a user and `post` that of a post. -/
structure Comment where
  id : String
  text : String
  author : String
  post : String
deriving DecidableEq, Repr, Inhabited

/-- The kinds of record. -/
inductive Kind where
  | user
  | post
  | comment
deriving DecidableEq, Repr

namespace Kind

/-- What the collection of this kind is called. -/
def name : Kind → String
  | user => "user"
  | post => "post"
  | comment => "comment"

/-- What a record of this kind is called. -/
def recordName : Kind → String
  | user => "UserRecord"
  | post => "PostRecord"
  | comment => "CommentRecord"

end Kind

/-- A record of any kind. -/
inductive Record where
  | user (user : User)
  | post (post : Post)
  | comment (comment : Comment)
deriving DecidableEq, Repr

namespace Record

/-- The kind of a record. -/
def kind : Record → Kind
  | user _ => .user
  | post _ => .post
  | comment _ => .comment

/-- The identifier of a record. -/
def id : Record → String
  | user u => u.id
  | post p => p.id
  | comment c => c.id

end Record

/-- What can be kept in a collection: it is known by its identifier. -/
class Identified (α : Type) where
  ident : α → String

instance : Identified User := ⟨User.id⟩

instance : Identified Post := ⟨Post.id⟩

instance : Identified Comment := ⟨Comment.id⟩

end BlogGraph
