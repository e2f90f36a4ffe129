import BlogGraph.Encoding.Fault

/-!
# UTF-32

Four bytes make a character, in either order. Faults are a code point beyond the last one and
bytes left over at the end. Single halves of surrogate pairs are read as replacement
characters.
-/

namespace BlogGraph.Encoding.Utf32

/-- The order of the bytes of a character. -/
inductive Order where
  | little
  | big
deriving DecidableEq, Repr

/-- The name of the encoding in this order. -/
def Order.codec : Order → String
  | little => "utf-32-le"
  | big => "utf-32-be"

/-- The code point that four bytes make. -/
def Order.point (order : Order) (a b c d : Byte) : Nat :=
  match order with
  | little => a.toNat + 256 * (b.toNat + 256 * (c.toNat + 256 * d.toNat))
  | big => d.toNat + 256 * (c.toNat + 256 * (b.toNat + 256 * a.toNat))

/-- The text that bytes stand for; `position` is that of the first of them. -/
def decode (order : Order) (position : Nat) : List Byte → Decoded
  | [] => .ok []
  | a :: b :: c :: d :: rest =>
    let n := order.point a b c d
    if n > 0x10FFFF then
      .error ⟨order.codec, position, [a, b, c, d], "code point not in range(0x110000)"⟩
    else
      match decode order (position + 4) rest with
      | .ok cs => .ok (charOfPoint n :: cs)
      | .error e => .error e
  | bytes => .error ⟨order.codec, position, bytes, "truncated data"⟩

end BlogGraph.Encoding.Utf32
