import BlogGraph.Encoding.Utf8
import BlogGraph.Http.Authority
import BlogGraph.Json.Value

/-!
# Addresses

The parts of an address that a request is sent to: the path, and the parameters of its query.
In a query a plus sign stands for a blank and a percent sign with two hexadecimal digits for a
byte; runs of bytes are read as UTF-8, with replacement characters for what is faulty. A
percent sign without two digits stands for itself.

Parameters are read as `parse_qsl` reads them for `request.query_params`, and the path as
`urlsplit` reads it for `request.url.path`. The address is put together from the host that the
client names and the path of the request, so that the path that is read out of it may be another,
and there is none where the host cannot be read.
-/

namespace BlogGraph.Url

open Encoding Text

/-! ## Percent signs -/

/-- Text in which percent signs stand for bytes; `pending` are the bytes of the run of ASCII
characters under way, last first. -/
def decodeFrom (pending : List Byte) : List Char → List Char
  | [] => Utf8.decodeLossy pending.reverse
  | '%' :: a :: b :: rest =>
    match hexNumber? [a, b] with
    | some n => decodeFrom (UInt8.ofNat n :: pending) rest
    | none => decodeFrom (UInt8.ofNat '%'.toNat :: pending) (a :: b :: rest)
  | c :: rest =>
    if c.toNat < 0x80 then decodeFrom (UInt8.ofNat c.toNat :: pending) rest
    else Utf8.decodeLossy pending.reverse ++ c :: decodeFrom [] rest

/-- The text that an encoded text stands for. -/
def decode (cs : List Char) : List Char := decodeFrom [] cs

/-- The characters of an address that stand for themselves beside letters and digits. -/
def plainCharacters : List Char := "_.-~:/%#?=@[]!$&'()*+,;".toList

/-- A byte as a percent sign and two digits. -/
def encodeByte (b : Byte) : List Char := '%' :: (hexUpper 2 b.toNat).toList

/-- A character as it stands in an address that is sent back. -/
def encodeChar (c : Char) : List Char :=
  if c.isAlphanum || plainCharacters.contains c then [c]
  else (Utf8.encodeChar c).flatMap encodeByte

/-- An address as it is sent back; percent signs that are there stay. -/
def encode (cs : List Char) : List Char := cs.flatMap encodeChar

/-! ## Parameters -/

/-- One side of a parameter. -/
def parameterPart (cs : List Char) : String :=
  String.ofList (decode (cs.map fun c => if c = '+' then ' ' else c))

/-- The parameter that a piece of a query stands for. -/
def parameter (piece : List Char) : String × String :=
  let (name, value) := cutAt '=' piece
  (parameterPart name, parameterPart (value.getD []))

/-- The bytes of a query as characters, one each. -/
def characters (bytes : List Byte) : List Char :=
  bytes.map fun b => Char.ofNat b.toNat

/-- All parameters of a query in order. Empty pieces do not count. -/
def allParameters (query : List Byte) : List (String × String) :=
  ((pieces '&' (characters query)).filter fun p => !p.isEmpty).map parameter

/-- The parameters of a query by name: of repeated names the last value counts. -/
def parameters (query : List Byte) : Named Json :=
  Named.ofList ((allParameters query).map fun p => (p.1, .text p.2))

/-! ## The path -/

/-- Characters that do not count in an address. -/
def ignored : List Char := ['\t', '\r', '\n']

/-- What follows the two slashes of an address: the host, and what comes after it. -/
def splitHost (cs : List Char) : List Char × List Char :=
  (cs.filter fun c => !ignored.contains c).span fun c => !(['/', '?', '#'].contains c)

/-- The path of an address, given what follows the two slashes: from the end of the host up to
the query, provided that the host can be read. -/
def pathAfterHost (cs : List Char) : Except Fault String :=
  let (netloc, fromHost) := splitHost cs
  match netlocFault? netloc with
  | some fault => .error fault
  | none => .ok (String.ofList (fromHost.takeWhile fun c => !(['?', '#'].contains c)))

end BlogGraph.Url
