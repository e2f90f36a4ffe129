import BlogGraph.Text.Blank
import BlogGraph.Text.Lowercase
import BlogGraph.Text.Substring

/-!
# Kinds of content

The value of a content type field: a kind, and parameters after semicolons. A semicolon between
quotes does not end a part.
-/

namespace BlogGraph.Http.ContentType

open Text

/-- The first part of a value: up to the first semicolon that does not stand between quotes. A
quote after a backslash does not count. -/
def firstPart (quoted : Bool) : List Char → List Char
  | [] => []
  | '\\' :: '"' :: rest => '\\' :: '"' :: firstPart quoted rest
  | '"' :: rest => '"' :: firstPart (!quoted) rest
  | ';' :: rest => if quoted then ';' :: firstPart quoted rest else []
  | c :: rest => c :: firstPart quoted rest

/-- The kind of content that a value names. Of a part with an equals sign, what stands before
the sign counts, in small letters. -/
def kind (value : String) : List Char :=
  let part := firstPart false value.toList
  if part.contains '=' then lower (trimBlanks (part.takeWhile (· ≠ '='))) else trimBlanks part

/-- The value announces a data document. -/
def isData (value : String) : Bool := occursIn "application/json".toList (kind value)

end BlogGraph.Http.ContentType
