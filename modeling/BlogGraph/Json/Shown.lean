import BlogGraph.Decimal.FloatText
import BlogGraph.Json.Value
import BlogGraph.Text.Quoted

/-!
# Values in messages

How a message shows a data value: strings in quotes, the names of the truth values and of the
missing value capitalised.
-/

namespace BlogGraph.Json

mutual

/-- The text of a value in a message. -/
def shown : Json → String
  | .null => "None"
  | .bool b => if b then "True" else "False"
  | .int n => toString n
  | .float x => FloatStyle.shown.text x
  | .text s => Text.quoted s
  | .list items => "[" ++ ", ".intercalate (shownItems items) ++ "]"
  | .object fields => "\x7b" ++ ", ".intercalate (shownFields fields) ++ "\x7d"

/-- The texts of the items of a list. -/
def shownItems : List Json → List String
  | [] => []
  | v :: rest => shown v :: shownItems rest

/-- The texts of the fields of an object. -/
def shownFields : List (String × Json) → List String
  | [] => []
  | (name, v) :: rest => (Text.quoted name ++ ": " ++ shown v) :: shownFields rest

end

/-- The text of a value that stands for itself: a string without quotes. -/
def plain : Json → String
  | .text s => s
  | v => v.shown

end BlogGraph.Json
