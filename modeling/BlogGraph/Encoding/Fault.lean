import BlogGraph.Text.Hex

/-!
# Faults in encoded text

Where a run of bytes fails to be text in an encoding, and the wording of such a fault. A
fault of one byte names it, a longer one its first and last position.
-/

namespace BlogGraph.Encoding

/-- A byte. -/
abbrev Byte := UInt8

/-- A fault from position `first` on: the faulty bytes, and what is wrong with them. -/
structure Fault where
  codec : String
  first : Nat
  bytes : List Byte
  reason : String
deriving DecidableEq, Repr

/-- The wording of a fault. -/
def Fault.message (f : Fault) : String :=
  let place :=
    match f.bytes with
    | [b] => "byte 0x" ++ Text.hexLower 2 b.toNat ++ " in position " ++ toString f.first
    | bytes =>
      "bytes in position " ++ toString f.first ++ "-" ++ toString (f.first + bytes.length - 1)
  "'" ++ f.codec ++ "' codec can't decode " ++ place ++ ": " ++ f.reason

/-- Text or the first fault in it. -/
abbrev Decoded := Except Fault (List Char)

/-- A character from a code point. The decoders behind `json.loads` let halves of surrogate pairs
through as characters of their own; half of a pair is no character here and becomes the
replacement character, whichever half it is. -/
def charOfPoint (n : Nat) : Char :=
  if 0xD800 ≤ n && n ≤ 0xDFFF then Char.ofNat 0xFFFD else Char.ofNat n

end BlogGraph.Encoding
