import BlogGraph.Store.Basic

/-!
# Failures

Why an operation on the blog fails. A refusal is meant for clients and carries a code from a
closed set; the other failures are defects of the data or of the surroundings.

A refusal is a `BlogError`: a `ConflictError` or a `NotFoundError`.
-/

namespace BlogGraph

/-- What a refusal is about. -/
inductive RefusalKind where
  | conflict
  | notFound
deriving DecidableEq, Repr

namespace RefusalKind

/-- The code that clients see. -/
def code : RefusalKind → String
  | conflict => "CONFLICT"
  | notFound => "NOT_FOUND"

/-- All kinds. -/
def all : List RefusalKind := [conflict, notFound]

end RefusalKind

/-- A write that the rules of the blog do not allow. -/
structure Refusal where
  kind : RefusalKind
  message : String
deriving DecidableEq, Repr

namespace Refusal

/-- Another user has the email. -/
def emailTaken : Refusal := ⟨.conflict, "Email taken"⟩

/-- A post without a known author. -/
def unknownAuthor : Refusal := ⟨.notFound, "User not found"⟩

/-- A comment without a known author, or not on a published post. -/
def closedPost : Refusal := ⟨.notFound, "Unable to find user and post"⟩

end Refusal

/-- A reference to a record that the store does not hold. -/
inductive Dangling where
  | postAuthor
  | commentAuthor
  | commentPost
deriving DecidableEq, Repr

/-- The wording of a dangling reference. -/
def Dangling.message : Dangling → String
  | postAuthor => "Post author not found"
  | commentAuthor => "Comment author not found"
  | commentPost => "Comment post not found"

/-- Why an operation on the blog fails. -/
inductive Failure where
  | refused (refusal : Refusal)
  | append (error : AppendError)
  | dangling (reference : Dangling)
  | storeUnavailable
deriving DecidableEq, Repr

namespace Failure

/-- The wording of a failure. -/
def message : Failure → String
  | refused r => r.message
  | append e => e.message
  | dangling d => d.message
  | storeUnavailable => "Entity store not found in GraphQL context"

/-- The code that clients see, for a refusal. -/
def code? : Failure → Option String
  | refused r => some r.kind.code
  | _ => none

end Failure
end BlogGraph
