import BlogGraph.Encoding.Detect
import BlogGraph.Json.Reader

/-!
# Documents as bytes

A data document that arrives as bytes is first made text, in the encoding that its first bytes
show, and then read.
-/

namespace BlogGraph.Json

/-- Why a run of bytes cannot be read as a document. -/
inductive BytesError where
  | encoding (fault : Encoding.Fault)
  | document (error : ReadError)
deriving DecidableEq, Repr

/-- The wording of a cause. -/
def BytesError.message : BytesError → String
  | encoding f => f.message
  | document e => e.message

/-- The value of a document that arrives as bytes. -/
def ofBytes (limits : Limits) (bytes : List Encoding.Byte) : Except BytesError Json :=
  match Encoding.decodeDocument bytes with
  | .error f => .error (.encoding f)
  | .ok cs => (readWithin limits cs).mapError .document

end BlogGraph.Json
