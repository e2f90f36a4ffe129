import BlogGraph.Encoding.Utf8
import BlogGraph.Encoding.Utf16
import BlogGraph.Encoding.Utf32

/-!
# Text in an unnamed encoding

A data document may come in UTF-8, UTF-16 or UTF-32. A byte order mark decides; without one
the places of the zero bytes among the first four do, since a document starts with two ASCII
characters or with one.
-/

namespace BlogGraph.Encoding

/-- The encoding that the first bytes of a document show. -/
inductive Form where
  | utf8
  | markedUtf8
  | utf16 (order : Utf16.Order) (marked : Bool)
  | utf32 (order : Utf32.Order) (marked : Bool)
deriving DecidableEq, Repr

/-- The encoding that a byte order mark shows. -/
def markedForm? (bytes : List Byte) : Option Form :=
  if [0x00, 0x00, 0xFE, 0xFF].isPrefixOf bytes then some (.utf32 .big true)
  else if [0xFF, 0xFE, 0x00, 0x00].isPrefixOf bytes then some (.utf32 .little true)
  else if [0xFE, 0xFF].isPrefixOf bytes then some (.utf16 .big true)
  else if [0xFF, 0xFE].isPrefixOf bytes then some (.utf16 .little true)
  else if [0xEF, 0xBB, 0xBF].isPrefixOf bytes then some .markedUtf8
  else none

/-- The encoding that the places of zero bytes show. -/
def plainForm : List Byte → Form
  | [a, b] =>
    if a = 0 then .utf16 .big false
    else if b = 0 then .utf16 .little false
    else .utf8
  | a :: b :: c :: d :: _ =>
    if a = 0 then if b = 0 then .utf32 .big false else .utf16 .big false
    else if b = 0 then
      if c = 0 && d = 0 then .utf32 .little false else .utf16 .little false
    else .utf8
  | _ => .utf8

/-- The encoding that a document shows. -/
def form (bytes : List Byte) : Form :=
  (markedForm? bytes).getD (plainForm bytes)

/-- The text of a document without its byte order mark. -/
def decodeDocument (bytes : List Byte) : Decoded :=
  match form bytes with
  | .utf8 => Utf8.decode bytes
  | .markedUtf8 => Utf8.decode (bytes.drop 3)
  | .utf16 order marked =>
    if marked then Utf16.decode order 2 (bytes.drop 2) else Utf16.decode order 0 bytes
  | .utf32 order marked =>
    if marked then Utf32.decode order 4 (bytes.drop 4) else Utf32.decode order 0 bytes

end BlogGraph.Encoding
