import BlogGraph.Blog.Command
import BlogGraph.Blog.Question
import BlogGraph.GraphQL.Introspection

/-!
# Fields of the blog

What answering a field of the blog's schema comes to: a simple value at hand, a part of the
schema, a question to the blog, or a command.
-/

namespace BlogGraph.GraphQL

/-- An object whose fields can be selected, where nothing is changed. -/
inductive Node where
  | query
  | record (record : Record)
  | part (part : Meta)

/-- The name of the type of an object. -/
def Node.typeName : Node → String
  | query => "Query"
  | record (.user _) => "User"
  | record (.post _) => "Post"
  | record (.comment _) => "Comment"
  | part .schema => "__Schema"
  | part (.type _) => "__Type"
  | part (.field _) => "__Field"
  | part (.input _) => "__InputValue"
  | part (.enumValue _ _) => "__EnumValue"
  | part (.directive _) => "__Directive"

/-- The value of a field: simple values, one object, or several. -/
inductive FieldValue where
  | leaf (value : Json)
  | leaves (values : List Json)
  | one (node : Node)
  | many (nodes : List Node)

namespace FieldValue

/-- What a part of a schema says of itself. -/
def ofMeta : MetaValue → FieldValue
  | .leaf v => leaf v
  | .leaves vs => leaves vs
  | .one m => one (.part m)
  | .many ms => many (ms.map .part)

/-- What the blog answers. -/
def ofFound : Found → FieldValue
  | .one r => one (.record r)
  | .many rs => many (rs.map .record)

end FieldValue

/-- What answering a field comes to: a value at hand, or a question. -/
inductive Action where
  | give (value : FieldValue)
  | ask (question : Question)

/-- The text argument of a name, if it is given. -/
def textArgument (args : Named Json) (name : String) : Option String :=
  match args.get? name with
  | some (.text s) => some s
  | _ => none

namespace Action

/-- Simple values of a record. -/
def ofAttribute (r : Record) (field : String) : Json :=
  match r, field with
  | r, "id" => .text r.id
  | .user u, "name" => .text u.name
  | .user u, "email" => .text u.email
  | .user u, "age" => u.age.elim .null .int
  | .post p, "title" => .text p.title
  | .post p, "body" => .text p.body
  | .post p, "published" => .bool p.published
  | .comment c, "text" => .text c.text
  | _, _ => .null

/-- What answering a field of a record comes to. -/
def ofRecord (r : Record) (field : String) : Action :=
  match r, field with
  | .user u, "posts" => ask (.postsOf u)
  | .user u, "comments" => ask (.commentsBy u)
  | .post p, "author" => ask (.authorOf p)
  | .post p, "comments" => ask (.commentsOn p)
  | .comment c, "author" => ask (.commenter c)
  | .comment c, "post" => ask (.postOf c)
  | r, field => give (.leaf (ofAttribute r field))

/-- What answering a field of a query comes to. -/
def ofQuery (s : Schema) (field : String) (args : Named Json) : Action :=
  match field with
  | "users" => ask (.users (textArgument args "query"))
  | "posts" => ask (.posts (textArgument args "query"))
  | "comments" => ask .comments
  | "me" => ask .exampleUser
  | "post" => ask .examplePost
  | "__schema" => give (.one (.part .schema))
  | "__type" =>
    match textArgument args "name" with
    | some n => give (if (s.type? n).isSome then .one (.part (.type (.named n))) else .leaf .null)
    | none => give (.leaf .null)
  | _ => give (.leaf .null)

/-- What answering a field of an object comes to. -/
def of (s : Schema) (node : Node) (field : String) (args : Named Json) : Action :=
  if field = "__typename" then give (.leaf (.text node.typeName))
  else
    match node with
    | .query => ofQuery s field args
    | .record r => ofRecord r field
    | .part m => give (.ofMeta (m.value s field))

end Action

end BlogGraph.GraphQL

/-! ## Mutations -/

namespace BlogGraph

namespace NewUser

/-- A new user from its input object. -/
def ofJson (v : Json) : Option NewUser := do
  let .text name ← v.get? "name" | none
  let .text email ← v.get? "email" | none
  let age :=
    match v.get? "age" with
    | some (.int n) => some n
    | _ => none
  return ⟨name, email, age⟩

end NewUser

namespace NewPost

/-- A new post from its input object. -/
def ofJson (v : Json) : Option NewPost := do
  let .text title ← v.get? "title" | none
  let .text body ← v.get? "body" | none
  let .bool published ← v.get? "published" | none
  let .text author ← v.get? "author" | none
  return ⟨title, body, published, author⟩

end NewPost

namespace NewComment

/-- A new comment from its input object. -/
def ofJson (v : Json) : Option NewComment := do
  let .text text ← v.get? "text" | none
  let .text author ← v.get? "author" | none
  let .text post ← v.get? "post" | none
  return ⟨text, author, post⟩

end NewComment

namespace Command

/-- The command that a field of a mutation stands for. -/
def ofField? (field : String) (args : Named Json) : Option Command := do
  let data ← args.get? "data"
  match field with
  | "createUser" => return .createUser (← NewUser.ofJson data)
  | "createPost" => return .createPost (← NewPost.ofJson data)
  | "createComment" => return .createComment (← NewComment.ofJson data)
  | _ => none

end Command
end BlogGraph
