import BlogGraph.Encoding.Fault

/-!
# UTF-16

Two bytes make a unit, in either order. A high half followed by a low half gives one
character; halves that stand alone are read as replacement characters. A single byte at the
end is the only fault.
-/

namespace BlogGraph.Encoding.Utf16

/-- The order of the bytes of a unit. -/
inductive Order where
  | little
  | big
deriving DecidableEq, Repr

/-- The name of the encoding in this order. -/
def Order.codec : Order → String
  | little => "utf-16-le"
  | big => "utf-16-be"

/-- The unit that two bytes make. -/
def Order.unit (order : Order) (a b : Byte) : Nat :=
  match order with
  | little => a.toNat + 256 * b.toNat
  | big => 256 * a.toNat + b.toNat

/-- The characters of a run of units. -/
def charsOfUnits : List Nat → List Char
  | [] => []
  | [u] => [charOfPoint u]
  | u :: v :: rest =>
    if 0xD800 ≤ u && u ≤ 0xDBFF && 0xDC00 ≤ v && v ≤ 0xDFFF then
      Char.ofNat (0x10000 + (u - 0xD800) * 0x400 + (v - 0xDC00)) :: charsOfUnits rest
    else charOfPoint u :: charsOfUnits (v :: rest)

/-- The units of a run of bytes, or the byte left over at the end with its position. -/
def units (order : Order) (position : Nat) : List Byte → Except (Nat × Byte) (List Nat)
  | [] => .ok []
  | [b] => .error (position, b)
  | a :: b :: rest =>
    match units order (position + 2) rest with
    | .ok us => .ok (order.unit a b :: us)
    | .error e => .error e

/-- The text that bytes stand for; `position` is that of the first of them. -/
def decode (order : Order) (position : Nat) (bytes : List Byte) : Decoded :=
  match units order position bytes with
  | .ok us => .ok (charsOfUnits us)
  | .error (p, b) => .error ⟨order.codec, p, [b], "truncated data"⟩

end BlogGraph.Encoding.Utf16
