import BlogGraph.GraphQL.Document
import BlogGraph.Text.Hex

/-!
# The text of values

How a value of a document is written out again: on one line if it is short enough, otherwise
with each item or field on a line of its own.
-/

namespace BlogGraph.GraphQL

/-- Characters of a string that are written as an escape, and how. -/
def escapeInString (c : Char) : List Char :=
  let n := c.toNat
  if c = '"' then ['\\', '"']
  else if c = '\\' then ['\\', '\\']
  else if n = 8 then ['\\', 'b']
  else if n = 9 then ['\\', 't']
  else if n = 10 then ['\\', 'n']
  else if n = 12 then ['\\', 'f']
  else if n = 13 then ['\\', 'r']
  else if n < 0x20 || (0x7F ≤ n && n < 0xA0) then '\\' :: 'u' :: (Text.hexUpper 4 n).toList
  else [c]

/-- A string with its quotes. -/
def stringText (s : String) : String :=
  String.ofList ('"' :: (s.toList.flatMap escapeInString ++ ['"']))

/-- A character that ends a line. -/
def isLineEnd (c : Char) : Bool :=
  let n := c.toNat
  (10 ≤ n && n ≤ 13) || (0x1C ≤ n && n ≤ 0x1E) || n = 0x85 || n = 0x2028 || n = 0x2029

/-- The lines of a text, without their ends. An end of line at the end of the text opens no
further line. -/
def splitLines (acc : List Char) : List Char → List (List Char)
  | [] => if acc.isEmpty then [] else [acc.reverse]
  | '\r' :: '\n' :: rest => acc.reverse :: splitLines [] rest
  | c :: rest =>
    if isLineEnd c then acc.reverse :: splitLines [] rest else splitLines (c :: acc) rest

/-- Triple quotes inside a block string are escaped. -/
def escapeBlock : List Char → List Char
  | '"' :: '"' :: '"' :: rest => '\\' :: '"' :: '"' :: '"' :: escapeBlock rest
  | c :: rest => c :: escapeBlock rest
  | [] => []

/-- A block string with its quotes. It is spread over several lines where that is needed to
read it back or makes it easier to read. -/
def blockStringText (s : String) : String :=
  let value := s.toList
  let escaped := escapeBlock value
  let lines := splitLines [] escaped
  let single := lines.length ≤ 1
  let startsBlank := fun (line : List Char) =>
    match line with
    | [] => true
    | c :: _ => c = ' ' || c = '\t'
  let forceLeading := !single && (lines.drop 1).all startsBlank
  let endsTriple := ['"', '"', '"', '\\'].isPrefixOf escaped.reverse
  let endsQuote := value.getLast? = some '"' && !endsTriple
  let forceTrailing := endsQuote || value.getLast? = some '\\'
  let spread := !single || value.length > 70 || forceTrailing || forceLeading || endsTriple
  let skipLeading := single && !value.isEmpty && startsBlank value
  let before := if (spread && !skipLeading) || forceLeading then "\n" else ""
  let after := if spread || forceTrailing then "\n" else ""
  "\"\"\"" ++ before ++ String.ofList escaped ++ after ++ "\"\"\""

/-- The longest line on which a list or an object is written as a whole. -/
def maxLineLength : Nat := 80

/-- A text with every line moved in by two blanks. -/
def indented (s : String) : String :=
  "  " ++ String.ofList (s.toList.flatMap fun c => if c = '\n' then ['\n', ' ', ' '] else [c])

/-- Parts between two marks: on one line, or each on its own. -/
def bracketed («open» close blank : String) (parts : List String) : String :=
  let line := «open» ++ blank ++ ", ".intercalate parts ++ blank ++ close
  if line.length > maxLineLength then
    «open» ++ "\n" ++ indented ("\n".intercalate parts) ++ "\n" ++ close
  else line

namespace Literal

mutual

/-- The text of a value. -/
def text : Literal → String
  | var _ n => "$" ++ n.value
  | int _ digits => digits
  | float _ digits => digits
  | string _ s block => if block then blockStringText s else stringText s
  | boolean _ b => if b then "true" else "false"
  | null _ => "null"
  | enum _ name => name
  | list _ items => bracketed "[" "]" "" (itemTexts items)
  | object _ fields => bracketed "\x7b" "\x7d" " " (fieldTexts fields)

/-- The texts of the items of a list. -/
def itemTexts : List Literal → List String
  | [] => []
  | v :: rest => text v :: itemTexts rest

/-- The texts of the fields of an object. -/
def fieldTexts : List (Name × Literal) → List String
  | [] => []
  | (n, v) :: rest => (n.value ++ ": " ++ text v) :: fieldTexts rest

end

end Literal
end BlogGraph.GraphQL
