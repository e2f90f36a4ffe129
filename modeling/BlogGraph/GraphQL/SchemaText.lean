import BlogGraph.GraphQL.LiteralText
import BlogGraph.GraphQL.Schema

/-!
# The text of schemas

A schema written in the schema definition language: the object and input types in the order
of their names. Scalars and directives that every schema has are left out, and so is all that
a schema says about itself.

For the blog this is `print_schema`.
-/

namespace BlogGraph.GraphQL

/-- A value to fall back on, as a document writes it. -/
def defaultText : Json → String
  | .null => "null"
  | .bool b => if b then "true" else "false"
  | .int n => toString n
  | .text s => stringText s
  | _ => ""

/-- An argument or an input field. -/
def InputSpec.sdl (i : InputSpec) : String :=
  i.name ++ ": " ++ i.type.text ++ (i.defaultValue.elim "" fun v => " = " ++ defaultText v)

/-- A field with its arguments. -/
def FieldSpec.sdl (f : FieldSpec) : String :=
  let args :=
    if f.arguments.isEmpty then ""
    else "(" ++ ", ".intercalate (f.arguments.map InputSpec.sdl) ++ ")"
  f.name ++ args ++ ": " ++ f.type.text

/-- A type with its fields on lines of their own. -/
def typeText (word name : String) (fields : List String) : String :=
  word ++ " " ++ name ++ " \x7b\n" ++ "\n".intercalate (fields.map ("  " ++ ·)) ++ "\n\x7d"

/-- A type that a schema defines; scalars and enums need no definition here. -/
def TypeSpec.sdl? (t : TypeSpec) : Option String :=
  match t.body with
  | .object fields => some (typeText "type" t.name (fields.map FieldSpec.sdl))
  | .input fields => some (typeText "input" t.name (fields.map InputSpec.sdl))
  | _ => none

/-- A type by which a schema describes itself. -/
def TypeSpec.isMeta (t : TypeSpec) : Bool := ['_', '_'].isPrefixOf t.name.toList

/-- The text of a schema. -/
def Schema.text (s : Schema) : String :=
  let types := (s.types.filter (!·.isMeta)).mergeSort fun a b => a.name ≤ b.name
  "\n\n".intercalate (types.filterMap TypeSpec.sdl?)

end BlogGraph.GraphQL
