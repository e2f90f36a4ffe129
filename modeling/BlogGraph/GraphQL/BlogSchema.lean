import BlogGraph.GraphQL.MetaSchema

/-!
# The schema of the blog

Users, posts and comments with their relations, the queries that start from them, and the
mutations that add to them.

These are `Query`, `Mutation`, `User`, `Post`, `Comment` and the inputs `CreateUserInput`,
`CreatePostInput` and `CreateCommentInput`.
-/

namespace BlogGraph.GraphQL.BlogSchema

open Ty

private def fieldOf (name : String) (type : Ty) : FieldSpec := ⟨name, [], type, none⟩

private def inputOf (name : String) (type : Ty) : InputSpec := ⟨name, type, none, none⟩

/-- The argument with the text that a list is searched for. -/
def searchArgument : InputSpec := ⟨"query", named "String", some .null, none⟩

/-- The type of the queries. -/
def queryType : TypeSpec :=
  ⟨"Query", none, .object [
    ⟨"users", [searchArgument], requiredList "User", none⟩,
    ⟨"posts", [searchArgument], requiredList "Post", none⟩,
    fieldOf "comments" (requiredList "Comment"),
    fieldOf "me" (required "User"),
    fieldOf "post" (required "Post")]⟩

/-- The type of a user. -/
def userType : TypeSpec :=
  ⟨"User", none, .object [
    fieldOf "id" (required "ID"),
    fieldOf "name" (required "String"),
    fieldOf "email" (required "String"),
    fieldOf "age" (named "Int"),
    fieldOf "posts" (requiredList "Post"),
    fieldOf "comments" (requiredList "Comment")]⟩

/-- The type of a post. -/
def postType : TypeSpec :=
  ⟨"Post", none, .object [
    fieldOf "id" (required "ID"),
    fieldOf "title" (required "String"),
    fieldOf "body" (required "String"),
    fieldOf "published" (required "Boolean"),
    fieldOf "author" (required "User"),
    fieldOf "comments" (requiredList "Comment")]⟩

/-- The type of a comment. -/
def commentType : TypeSpec :=
  ⟨"Comment", none, .object [
    fieldOf "id" (required "ID"),
    fieldOf "text" (required "String"),
    fieldOf "author" (required "User"),
    fieldOf "post" (required "Post")]⟩

/-- The type of the mutations. -/
def mutationType : TypeSpec :=
  ⟨"Mutation", none, .object [
    ⟨"createUser", [inputOf "data" (required "CreateUserInput")], required "User", none⟩,
    ⟨"createPost", [inputOf "data" (required "CreatePostInput")], required "Post", none⟩,
    ⟨"createComment", [inputOf "data" (required "CreateCommentInput")], required "Comment", none⟩]⟩

/-- What a new user is made of. -/
def createUserInput : TypeSpec :=
  ⟨"CreateUserInput", none, .input [
    inputOf "name" (required "String"),
    inputOf "email" (required "String"),
    ⟨"age", named "Int", some .null, none⟩]⟩

/-- What a new post is made of. -/
def createPostInput : TypeSpec :=
  ⟨"CreatePostInput", none, .input [
    inputOf "title" (required "String"),
    inputOf "body" (required "String"),
    inputOf "published" (required "Boolean"),
    inputOf "author" (required "ID")]⟩

/-- What a new comment is made of. -/
def createCommentInput : TypeSpec :=
  ⟨"CreateCommentInput", none, .input [
    inputOf "text" (required "String"),
    inputOf "author" (required "ID"),
    inputOf "post" (required "ID")]⟩

/-- The types of the blog, each followed by those it leads to. -/
def types : List TypeSpec := [
  queryType, userType, MetaSchema.idType, MetaSchema.stringType, MetaSchema.intType, postType,
  MetaSchema.booleanType, commentType, mutationType, createUserInput, createPostInput,
  createCommentInput]

end BlogGraph.GraphQL.BlogSchema

namespace BlogGraph.GraphQL

/-- The schema of the blog. -/
def blogSchema : Schema :=
  ⟨BlogSchema.types ++ MetaSchema.types, MetaSchema.directives, "Query", "Mutation"⟩

end BlogGraph.GraphQL
