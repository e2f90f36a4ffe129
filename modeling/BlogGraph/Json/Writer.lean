import BlogGraph.Decimal.FloatText
import BlogGraph.Json.Value
import BlogGraph.Text.Hex

/-!
# Writing data documents

A writer of JSON text in ASCII: every other character is escaped, one beyond sixteen bits as
a surrogate pair. A blank follows each comma and each colon.
-/

namespace BlogGraph.Json

/-- A sixteen bit unit as a numbered escape. -/
def escapeUnit (n : Nat) : List Char :=
  '\\' :: 'u' :: Text.hexFixed 4 n

/-- A character as it stands in a written string. -/
def escapeChar (c : Char) : List Char :=
  let n := c.toNat
  if c = '"' then ['\\', '"']
  else if c = '\\' then ['\\', '\\']
  else if c = '\n' then ['\\', 'n']
  else if c = '\r' then ['\\', 'r']
  else if c = '\t' then ['\\', 't']
  else if n = 8 then ['\\', 'b']
  else if n = 12 then ['\\', 'f']
  else if 0x20 ≤ n && n < 0x7F then [c]
  else if n < 0x10000 then escapeUnit n
  else escapeUnit (0xD800 + (n - 0x10000) / 0x400) ++ escapeUnit (0xDC00 + (n - 0x10000) % 0x400)

/-- A string with its quotes. -/
def writeString (s : String) : List Char :=
  '"' :: (s.toList.flatMap escapeChar ++ ['"'])

mutual

/-- The characters of a value, before those that follow it. -/
def writeOnto : Json → List Char → List Char
  | .null, tail => "null".toList ++ tail
  | .bool b, tail => (if b then "true" else "false").toList ++ tail
  | .int n, tail => (toString n).toList ++ tail
  | .float x, tail => (FloatStyle.data.text x).toList ++ tail
  | .text s, tail => writeString s ++ tail
  | .list [], tail => '[' :: ']' :: tail
  | .list (v :: vs), tail => '[' :: writeOnto v (writeItems vs tail)
  | .object [], tail => '\x7b' :: '\x7d' :: tail
  | .object ((name, v) :: fields), tail =>
    '\x7b' :: (writeString name ++ ':' :: ' ' :: writeOnto v (writeFields fields tail))

/-- The remaining items of a list and its end. -/
def writeItems : List Json → List Char → List Char
  | [], tail => ']' :: tail
  | v :: vs, tail => ',' :: ' ' :: writeOnto v (writeItems vs tail)

/-- The remaining fields of an object and its end. -/
def writeFields : List (String × Json) → List Char → List Char
  | [], tail => '\x7d' :: tail
  | (name, v) :: fields, tail =>
    ',' :: ' ' :: (writeString name ++ ':' :: ' ' :: writeOnto v (writeFields fields tail))

end

/-- A value as a document on one line. -/
def write (value : Json) : String :=
  String.ofList (writeOnto value [])

end BlogGraph.Json
