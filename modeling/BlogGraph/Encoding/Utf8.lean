import BlogGraph.Encoding.Fault

/-!
# UTF-8

A character takes one to four bytes. The first byte fixes their number and the range of the
second; the others lie between 80 and BF. Reading is strict, or faulty bytes are replaced:
one replacement character stands for each longest piece that begins a character.
-/

namespace BlogGraph.Encoding.Utf8

/-- What a leading byte announces: how many bytes follow, the range of the first of them, and
the bits of the leading byte that belong to the character. -/
structure Lead where
  following : Nat
  low : Nat
  high : Nat
  bits : Nat
deriving DecidableEq, Repr

/-- What a leading byte announces. With `loneHalves` the three-byte forms of single halves of
surrogate pairs are let through. -/
def lead? (loneHalves : Bool) (b : Byte) : Option Lead :=
  let n := b.toNat
  if n < 0x80 then some ⟨0, 0x80, 0xBF, n⟩
  else if n < 0xC2 then none
  else if n < 0xE0 then some ⟨1, 0x80, 0xBF, n - 0xC0⟩
  else if n = 0xE0 then some ⟨2, 0xA0, 0xBF, 0⟩
  else if n = 0xED then some ⟨2, 0x80, if loneHalves then 0xBF else 0x9F, 13⟩
  else if n < 0xF0 then some ⟨2, 0x80, 0xBF, n - 0xE0⟩
  else if n = 0xF0 then some ⟨3, 0x90, 0xBF, 0⟩
  else if n < 0xF4 then some ⟨3, 0x80, 0xBF, n - 0xF0⟩
  else if n = 0xF4 then some ⟨3, 0x80, 0x8F, 4⟩
  else none

/-- The outcome of reading the bytes that follow a leading byte: the code point, or how many
of them fit before the fault and whether the text ended there. -/
inductive Tail where
  | point (n : Nat) (rest : List Byte)
  | broken (fitting : Nat) (ended : Bool)
deriving Repr

/-- Reads `count` following bytes; the first lies in the given range. -/
def readTail (low high : Nat) (n : Nat) (fitting : Nat) : Nat → List Byte → Tail
  | 0, rest => .point n rest
  | _ + 1, [] => .broken fitting true
  | count + 1, b :: rest =>
    if low ≤ b.toNat && b.toNat ≤ high then
      readTail 0x80 0xBF (n * 64 + (b.toNat - 0x80)) (fitting + 1) count rest
    else .broken fitting false

/-- One character from the front of the bytes, or the length of the faulty piece and the
reason. -/
inductive Step where
  | char (c : Char) (rest : List Byte)
  | fault (length : Nat) (reason : String)

/-- The first character of a run of bytes that starts with `b`. A complete three-byte form of
a single half of a surrogate pair is let through with `loneHalves`; cut off by the end of the
text it is a fault at its second byte. -/
def step (loneHalves : Bool) (b : Byte) (rest : List Byte) : Step :=
  match lead? loneHalves b with
  | none => .fault 1 "invalid start byte"
  | some l =>
    match readTail l.low l.high l.bits 0 l.following rest with
    | .point n rest' => .char (charOfPoint n) rest'
    | .broken fitting ended =>
      if ended then
        if b = 0xED && fitting = 1 && (rest.headD 0).toNat ≥ 0xA0 then
          .fault 1 "invalid continuation byte"
        else .fault (fitting + 1) "unexpected end of data"
      else if b = 0xED && fitting = 1 && (rest.headD 0).toNat ≥ 0xA0 then
        .fault 1 "invalid continuation byte"
      else .fault (fitting + 1) "invalid continuation byte"

/-- Strict reading; `size` is the number of all bytes and `acc` what was read, last first. -/
def decodeFrom (size : Nat) (acc : List Char) : Nat → List Byte → Decoded
  | 0, _ => .ok acc.reverse
  | _ + 1, [] => .ok acc.reverse
  | fuel + 1, b :: rest =>
    match step true b rest with
    | .char c rest' => decodeFrom size (c :: acc) fuel rest'
    | .fault length reason =>
      .error ⟨"utf-8", size - (b :: rest).length, (b :: rest).take length, reason⟩

/-- The text that bytes stand for, or the first fault. Single halves of surrogate pairs are
read as replacement characters. -/
def decode (bytes : List Byte) : Decoded :=
  decodeFrom bytes.length [] bytes.length bytes

/-- Reading that replaces what is faulty. -/
def decodeLossyFrom (acc : List Char) : Nat → List Byte → List Char
  | 0, _ => acc.reverse
  | _ + 1, [] => acc.reverse
  | fuel + 1, b :: rest =>
    match step false b rest with
    | .char c rest' => decodeLossyFrom (c :: acc) fuel rest'
    | .fault length _ =>
      decodeLossyFrom (Char.ofNat 0xFFFD :: acc) fuel (rest.drop (length - 1))

/-- The text that bytes stand for, with a replacement character for each faulty piece. -/
def decodeLossy (bytes : List Byte) : List Char :=
  decodeLossyFrom [] bytes.length bytes

/-- The bytes of one character. -/
def encodeChar (c : Char) : List Byte :=
  let n := c.toNat
  let part := fun (shift : Nat) => UInt8.ofNat (0x80 + n / Nat.pow 2 shift % 64)
  if n < 0x80 then [UInt8.ofNat n]
  else if n < 0x800 then [UInt8.ofNat (0xC0 + n / 64), part 0]
  else if n < 0x10000 then [UInt8.ofNat (0xE0 + n / 4096), part 6, part 0]
  else [UInt8.ofNat (0xF0 + n / 262144), part 12, part 6, part 0]

/-- The bytes of a text. -/
def encode (cs : List Char) : List Byte :=
  cs.flatMap encodeChar

end BlogGraph.Encoding.Utf8
