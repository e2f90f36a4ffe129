import BlogGraph.GraphQL.Source
import BlogGraph.Json.Value

/-!
# Errors

What is wrong with a document or with its execution: a message, the places it is about, the
path of the response field where it arose, and a code for clients.
-/

namespace BlogGraph.GraphQL

/-- A step from a part of a response to one inside it. -/
inductive PathKey where
  | key (name : String)
  | index (i : Nat)
deriving DecidableEq, Repr

/-- An error in a response. `positions` are places in the text of the document. -/
structure GraphError where
  message : String
  positions : List Nat
  path : List PathKey
  code : Option String
deriving DecidableEq, Repr

namespace GraphError

/-- An error about places in the document. -/
def atPlaces (message : String) (positions : List Nat) : GraphError :=
  ⟨message, positions, [], none⟩

/-- An error without a place. -/
def plain (message : String) : GraphError := atPlaces message []

/-- The locations of an error in the text of its document. -/
def locations (text : List Char) (e : GraphError) : List Location :=
  e.positions.map (Location.ofOffset text)

end GraphError

/-- A path inside an input value, as messages write it. -/
def pathSuffix (path : List PathKey) : String :=
  if path.isEmpty then ""
  else " at " ++ String.join (path.map fun
    | .key name => "." ++ name
    | .index i => "[" ++ toString i ++ "]")

end BlogGraph.GraphQL
