/-!
# Documents

The syntax tree of a document. A node keeps the place where it starts, counted in characters
from the beginning of the text; messages point there.
-/

namespace BlogGraph.GraphQL

/-- A name where it stands in a document. -/
structure Name where
  value : String
  pos : Nat
deriving DecidableEq, Repr, Inhabited

/-- A value written in a document. Numbers are kept as written. -/
inductive Literal where
  | var (pos : Nat) (name : Name)
  | int (pos : Nat) (digits : String)
  | float (pos : Nat) (digits : String)
  | string (pos : Nat) (value : String) (block : Bool)
  | boolean (pos : Nat) (value : Bool)
  | null (pos : Nat)
  | enum (pos : Nat) (name : String)
  | list (pos : Nat) (items : List Literal)
  | object (pos : Nat) (fields : List (Name × Literal))
deriving Inhabited

namespace Literal

/-- Where a value starts. -/
def pos : Literal → Nat
  | var p _ | int p _ | float p _ | string p _ _ | boolean p _ | null p | enum p _
  | list p _ | object p _ => p

/-- The value is a variable. -/
def isVar : Literal → Bool
  | var _ _ => true
  | _ => false

end Literal

/-- A type as a document writes it. -/
inductive TypeRef where
  | named (name : Name)
  | list (pos : Nat) (item : TypeRef)
  | nonNull (pos : Nat) (inner : TypeRef)
deriving DecidableEq, Repr, Inhabited

namespace TypeRef

/-- Where a type starts. -/
def pos : TypeRef → Nat
  | named n => n.pos
  | list p _ => p
  | nonNull p _ => p

/-- The name inside a type. -/
def base : TypeRef → Name
  | named n => n
  | list _ t => t.base
  | nonNull _ t => t.base

/-- The text of a type. -/
def text : TypeRef → String
  | named n => n.value
  | list _ t => "[" ++ t.text ++ "]"
  | nonNull _ t => t.text ++ "!"

end TypeRef

/-- An argument; it starts with its name. -/
structure Argument where
  name : Name
  value : Literal
deriving Inhabited

/-- A directive; it starts at its sign. -/
structure Directive where
  pos : Nat
  name : Name
  arguments : List Argument
deriving Inhabited

/-- A part of a selection: a field, a named fragment, or a fragment in place. A field may have
a selection set of its own, whose opening brace stands at `brace`. -/
inductive Selection where
  | field (responseName : Option Name) (name : Name) (arguments : List Argument)
    (directives : List Directive) (brace : Option Nat) (selections : List Selection)
  | spread (pos : Nat) (name : Name) (directives : List Directive)
  | inline (pos : Nat) (condition : Option Name) (directives : List Directive) (brace : Nat)
    (selections : List Selection)
deriving Inhabited

namespace Selection

/-- Where a selection starts. -/
def pos : Selection → Nat
  | field (some a) _ _ _ _ _ => a.pos
  | field none n _ _ _ _ => n.pos
  | spread p _ _ => p
  | inline p _ _ _ _ => p

/-- The directives of a selection. -/
def directives : Selection → List Directive
  | field _ _ _ ds _ _ => ds
  | spread _ _ ds => ds
  | inline _ _ ds _ _ => ds

end Selection

/-- The kinds of operation. -/
inductive OperationKind where
  | query
  | mutation
  | subscription
deriving DecidableEq, Repr, Inhabited

/-- The word for a kind of operation. -/
def OperationKind.word : OperationKind → String
  | query => "query"
  | mutation => "mutation"
  | subscription => "subscription"

/-- A variable that an operation declares. -/
structure VariableDefinition where
  pos : Nat
  name : Name
  type : TypeRef
  defaultValue : Option Literal
  directives : List Directive
deriving Inhabited

/-- An operation. -/
structure Operation where
  pos : Nat
  kind : OperationKind
  name : Option Name
  declarations : List VariableDefinition
  directives : List Directive
  brace : Nat
  selections : List Selection
deriving Inhabited

/-- A named fragment. -/
structure Fragment where
  pos : Nat
  name : Name
  condition : Name
  directives : List Directive
  brace : Nat
  selections : List Selection
deriving Inhabited

/-- An argument or input field that a type system definition declares. -/
structure InputDefinition where
  name : Name
  type : TypeRef
  defaultValue : Option Literal
  directives : List Directive
deriving Inhabited

/-- A field that a type system definition declares. -/
structure FieldDefinition where
  name : Name
  arguments : List InputDefinition
  type : TypeRef
  directives : List Directive
deriving Inhabited

/-- What a type system definition defines or extends. -/
inductive Definiens where
  | schema (operations : List (OperationKind × Name))
  | scalar
  | object (interfaces : List Name) (fields : List FieldDefinition)
  | interface (interfaces : List Name) (fields : List FieldDefinition)
  | union (types : List Name)
  | enum (values : List (Name × List Directive))
  | input (fields : List InputDefinition)
  | directive (arguments : List InputDefinition) (repeatable : Bool) (locations : List String)
deriving Inhabited

/-- A definition or an extension of the type system; a schema has no name. -/
structure SystemDefinition where
  pos : Nat
  isExtension : Bool
  name : Option Name
  directives : List Directive
  definiens : Definiens
deriving Inhabited

/-- A definition of a document. -/
inductive Definition where
  | operation (operation : Operation)
  | fragment (fragment : Fragment)
  | system (definition : SystemDefinition)
deriving Inhabited

/-- A document. -/
structure Document where
  definitions : List Definition
deriving Inhabited

namespace Document

/-- The operations of a document. -/
def operations (d : Document) : List Operation :=
  d.definitions.filterMap fun
    | .operation o => some o
    | _ => none

/-- The named fragments of a document. -/
def fragments (d : Document) : List Fragment :=
  d.definitions.filterMap fun
    | .fragment f => some f
    | _ => none

/-- The fragment that a name stands for: the last one so named. -/
def fragment? (d : Document) (name : String) : Option Fragment :=
  d.fragments.reverse.find? fun f => f.name.value = name

end Document
end BlogGraph.GraphQL
