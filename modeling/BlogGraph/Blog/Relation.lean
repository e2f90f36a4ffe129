import BlogGraph.Store.Basic

/-!
# Relations between records

Who wrote what, and what belongs to what, found by identifiers. The example user and the
example post stand outside the store; the one is the author of the other.

These are `resolve_user_posts`, `resolve_user_comments`, `resolve_post_author`,
`resolve_post_comments`, `resolve_comment_author` and `resolve_comment_post`; the examples are
`ME_PLACEHOLDER` and `POST_PLACEHOLDER`.
-/

namespace BlogGraph

/-- The example user. -/
def exampleUser : User := ⟨"123abc", "John", "john@doe.com", none⟩

/-- The example post. -/
def examplePost : Post := ⟨"q2ewqw", "GraphQL 101", "Welcome", true, exampleUser.id⟩

namespace Store

/-- The posts of a user, oldest first. -/
def postsOf (s : Store) (u : User) : List Post := s.posts.filter fun p => p.author = u.id

/-- The comments by a user, oldest first. -/
def commentsBy (s : Store) (u : User) : List Comment := s.comments.filter fun c => c.author = u.id

/-- The comments on a post, oldest first. -/
def commentsOn (s : Store) (p : Post) : List Comment := s.comments.filter fun c => c.post = p.id

/-- The author of a post that is not the example post, if the store holds it. -/
def authorOf? (s : Store) (p : Post) : Option User := s.users.get? p.author

/-- The author of a comment, if the store holds it. -/
def commenter? (s : Store) (c : Comment) : Option User := s.users.get? c.author

/-- The post of a comment, if the store holds it. -/
def postOf? (s : Store) (c : Comment) : Option Post := s.posts.get? c.post

end Store
end BlogGraph
