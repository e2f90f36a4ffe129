import BlogGraph.Encoding.Fault

/-!
# Base 64 for addresses

Three bytes become four letters of an alphabet without characters that an address would have
to escape. One or two bytes at the end become two or three letters; nothing is padded.
-/

namespace BlogGraph.Encoding.Base64

/-- The letters in the order of their values. -/
def alphabet : List Char :=
  "ABCDEFGHIJKLMNOPQRSTUVWXYZabcdefghijklmnopqrstuvwxyz0123456789-_".toList

/-- The letter of a value below 64. -/
def letter (n : Nat) : Char :=
  alphabet.getD n 'A'

/-- The letters of a run of bytes. -/
def encode : List Byte → List Char
  | [] => []
  | [a] =>
    let n := a.toNat * 16
    [letter (n / 64), letter (n % 64)]
  | [a, b] =>
    let n := (a.toNat * 256 + b.toNat) * 4
    [letter (n / 4096), letter (n / 64 % 64), letter (n % 64)]
  | a :: b :: c :: rest =>
    let n := (a.toNat * 256 + b.toNat) * 256 + c.toNat
    letter (n / 262144) :: letter (n / 4096 % 64) :: letter (n / 64 % 64) :: letter (n % 64) ::
      encode rest

end BlogGraph.Encoding.Base64
