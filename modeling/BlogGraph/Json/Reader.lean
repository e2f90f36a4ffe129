import BlogGraph.Json.Value
import BlogGraph.Text.Hex

/-!
# Reading data documents

A reader of JSON text. Beyond the standard it knows the names of the three numbers that are
not finite. Of repeated field names the last value counts. A numeral with a fraction or an
exponent is a floating point number, any other an exact whole number. Half of a surrogate
pair that stands alone in an escape is read as the replacement character.

A document may be refused for three causes: it is malformed, a whole number has more digits
than allowed, or lists and objects are nested deeper than allowed. Of several faults the one
that stands first in the text is reported. How deep is too deep depends on where the reader is
called: every level takes a place on the stack of calls.

The behaviour is that of `json.loads`, but for one thing: there a half of a surrogate pair stays
a character of its own, so that texts may differ in such halves alone. Here they are merged
(`charOfUnit`).
-/

namespace BlogGraph.Json

/-- How large a document may be; `none` stands for no bound. -/
structure Limits where
  digits : Option Nat
  depth : Option Nat
deriving DecidableEq, Repr

namespace Limits

/-- The limits where the stack of calls has room for this many levels. The bound on digits is a
constant. -/
def nested (levels : Nat) : Limits := ⟨some 4300, some levels⟩

/-- The limits on data in the settings. These are read once, at a fixed place of the start, so
that their room is taken for a constant. -/
def standard : Limits := nested 970

/-- No limits. -/
def unbounded : Limits := ⟨none, none⟩

end Limits

/-- Why a document cannot be read. -/
inductive ReadError where
  | malformed
  | integerTooLong (allowed digits : Nat)
  | tooDeep (inObject : Bool)
deriving DecidableEq, Repr

namespace ReadError

/-- The wording of a cause. -/
def message : ReadError → String
  | malformed => "malformed document"
  | integerTooLong allowed digits =>
    "Exceeds the limit (" ++ toString allowed ++
      " digits) for integer string conversion: value has " ++ toString digits ++
      " digits; use sys.set_int_max_str_digits() to increase the limit"
  | tooDeep inObject =>
    "maximum recursion depth exceeded while decoding a JSON " ++
      (if inObject then "object" else "array") ++ " from a unicode string"

end ReadError

/-- What has been read, and the rest of the text. -/
abbrev Read (α : Type) := Except ReadError (α × List Char)

/-- The blanks that may stand between the parts of a document. -/
def isSpace (c : Char) : Bool :=
  c = ' ' || c = '\t' || c = '\n' || c = '\r'

/-- The text after its leading blanks. -/
def skipSpace (cs : List Char) : List Char :=
  cs.dropWhile isSpace

/-- A character from sixteen bits. A half of a surrogate pair is no character here and becomes
the replacement character, whichever half it is. -/
def charOfUnit (n : Nat) : Char :=
  if 0xD800 ≤ n && n ≤ 0xDFFF then Char.ofNat 0xFFFD else Char.ofNat n

/-- The four digits of a numbered escape. -/
def readUnit : List Char → Option (Nat × List Char)
  | a :: b :: c :: d :: rest => (Text.hexNumber? [a, b, c, d]).map fun n => (n, rest)
  | _ => none

/-- The low half of a surrogate pair, written as an escape. -/
def readLowHalf : List Char → Option (Nat × List Char)
  | '\\' :: 'u' :: rest =>
    match readUnit rest with
    | some (n, rest') => if 0xDC00 ≤ n && n ≤ 0xDFFF then some (n, rest') else none
    | none => none
  | _ => none

/-- The character of a numbered escape; two halves of a surrogate pair give one character. -/
def readNumbered (cs : List Char) : Option (Char × List Char) :=
  match readUnit cs with
  | none => none
  | some (n, rest) =>
    if 0xD800 ≤ n && n ≤ 0xDBFF then
      match readLowHalf rest with
      | some (m, rest') =>
        some (Char.ofNat (0x10000 + (n - 0xD800) * 0x400 + (m - 0xDC00)), rest')
      | none => some (charOfUnit n, rest)
    else some (charOfUnit n, rest)

/-- The character of an escape, after its backslash. -/
def readEscape : List Char → Option (Char × List Char)
  | '"' :: rest => some ('"', rest)
  | '\\' :: rest => some ('\\', rest)
  | '/' :: rest => some ('/', rest)
  | 'b' :: rest => some ('\x08', rest)
  | 'f' :: rest => some ('\x0c', rest)
  | 'n' :: rest => some ('\n', rest)
  | 'r' :: rest => some ('\r', rest)
  | 't' :: rest => some ('\t', rest)
  | 'u' :: rest => readNumbered rest
  | _ => none

/-- The rest of a string after its opening quote; `acc` holds what was read, last first. -/
def readString : Nat → List Char → List Char → Read String
  | 0, _, _ => .error .malformed
  | _ + 1, _, [] => .error .malformed
  | fuel + 1, acc, c :: rest =>
    if c = '"' then .ok (String.ofList acc.reverse, rest)
    else if c = '\\' then
      match readEscape rest with
      | some (d, rest') => readString fuel (d :: acc) rest'
      | none => .error .malformed
    else if c.toNat < 0x20 then .error .malformed
    else readString fuel (c :: acc) rest

/-- The leading decimal digits and the rest. -/
def spanDigits (cs : List Char) : List Char × List Char :=
  cs.span Char.isDigit

/-- The number that decimal digits stand for. -/
def natOfDigits (ds : List Char) : Nat :=
  ds.foldl (fun n d => n * 10 + (d.toNat - 48)) 0

/-- The whole part of a numeral: a zero alone, or digits that start with another. -/
def readWhole : List Char → Option (List Char × List Char)
  | '0' :: rest => some (['0'], rest)
  | c :: rest => if c.isDigit then some (spanDigits (c :: rest)) else none
  | [] => none

/-- The digits after a point, if a point and a digit follow. -/
def readFraction (cs : List Char) : Option (List Char × List Char) :=
  match cs with
  | '.' :: rest =>
    let (ds, rest') := spanDigits rest
    if ds.isEmpty then none else some (ds, rest')
  | _ => none

/-- The exponent, if its mark and a digit follow. -/
def readExponent (cs : List Char) : Option (Int × List Char) :=
  match cs with
  | mark :: rest =>
    if mark = 'e' || mark = 'E' then
      let (negative, rest) : Bool × List Char :=
        match rest with
        | '+' :: r => (false, r)
        | '-' :: r => (true, r)
        | r => (false, r)
      let (ds, rest') := spanDigits rest
      if ds.isEmpty then none
      else
        let n : Int := natOfDigits ds
        some (if negative then -n else n, rest')
    else none
  | [] => none

/-- A whole number, if it has no more digits than allowed. -/
def integer (limits : Limits) (negative : Bool) (ds : List Char) : Except ReadError Json :=
  let tooLong :=
    match limits.digits with
    | some allowed => if allowed < ds.length then some allowed else none
    | none => none
  match tooLong with
  | some allowed => .error (.integerTooLong allowed ds.length)
  | none =>
    let n : Int := natOfDigits ds
    .ok (.int (if negative then -n else n))

/-- A numeral after its sign. -/
def readNumeral (limits : Limits) (negative : Bool) (cs : List Char) : Read Json :=
  match readWhole cs with
  | none => .error .malformed
  | some (whole, rest) =>
    let (fraction, afterFraction) := (readFraction rest).getD ([], rest)
    let exponent := readExponent afterFraction
    match fraction, exponent with
    | [], none =>
      match integer limits negative whole with
      | .ok v => .ok (v, rest)
      | .error e => .error e
    | _, _ =>
      let (power, rest') := exponent.getD (0, afterFraction)
      let digits := whole ++ fraction
      .ok (.float (Binary64.ofDecimal negative (natOfDigits digits) (power - fraction.length)),
        rest')

/-- Words that stand for values. -/
def words : List (String × Json) := [
  ("null", .null), ("true", .bool true), ("false", .bool false),
  ("NaN", .float (Binary64.ofFloat (0.0 / 0.0))),
  ("Infinity", .float (Binary64.ofFloat (1.0 / 0.0))),
  ("-Infinity", .float (Binary64.ofFloat (-1.0 / 0.0)))]

/-- The value that the text starts with as a word. -/
def readWord (cs : List Char) : Option (Json × List Char) :=
  (words.find? fun w => w.1.toList.isPrefixOf cs).map fun w => (w.2, cs.drop w.1.length)

/-- A value that is neither a string, a list nor an object. -/
def readSimple (limits : Limits) (cs : List Char) : Read Json :=
  match readWord cs with
  | some r => .ok r
  | none =>
    match cs with
    | '-' :: rest => readNumeral limits true rest
    | _ => readNumeral limits false cs

/-- One more level of nesting is allowed. -/
def Limits.allows (limits : Limits) (depth : Nat) : Bool :=
  match limits.depth with
  | some most => depth < most
  | none => true

mutual

/-- One value. `depth` counts the lists and objects around it. -/
def readValue (limits : Limits) : Nat → Nat → List Char → Read Json
  | 0, _, _ => .error .malformed
  | fuel + 1, depth, cs =>
    match cs with
    | '"' :: rest =>
      match readString fuel [] rest with
      | .ok (s, rest') => .ok (.text s, rest')
      | .error e => .error e
    | '[' :: rest =>
      if limits.allows depth then
        match skipSpace rest with
        | ']' :: rest' => .ok (.list [], rest')
        | rest' => readItems limits fuel (depth + 1) [] rest'
      else .error (.tooDeep false)
    | '\x7b' :: rest =>
      if limits.allows depth then
        match skipSpace rest with
        | '\x7d' :: rest' => .ok (.object [], rest')
        | rest' => readFields limits fuel (depth + 1) [] rest'
      else .error (.tooDeep true)
    | _ => readSimple limits cs

/-- The rest of a list, from its next item on. -/
def readItems (limits : Limits) : Nat → Nat → List Json → List Char → Read Json
  | 0, _, _, _ => .error .malformed
  | fuel + 1, depth, acc, cs =>
    match readValue limits fuel depth cs with
    | .error e => .error e
    | .ok (v, rest) =>
      match skipSpace rest with
      | ']' :: rest' => .ok (.list (v :: acc).reverse, rest')
      | ',' :: rest' => readItems limits fuel depth (v :: acc) (skipSpace rest')
      | _ => .error .malformed

/-- The rest of an object, from its next field name on. -/
def readFields (limits : Limits) :
    Nat → Nat → Named Json → List Char → Read Json
  | 0, _, _, _ => .error .malformed
  | fuel + 1, depth, acc, cs =>
    match cs with
    | '"' :: rest =>
      match readString fuel [] rest with
      | .error e => .error e
      | .ok (name, rest) =>
        match skipSpace rest with
        | ':' :: rest =>
          match readValue limits fuel depth (skipSpace rest) with
          | .error e => .error e
          | .ok (v, rest) =>
            let acc' := Named.set acc name v
            match skipSpace rest with
            | '\x7d' :: rest' => .ok (.object acc', rest')
            | ',' :: rest' => readFields limits fuel depth acc' (skipSpace rest')
            | _ => .error .malformed
        | _ => .error .malformed
    | _ => .error .malformed

end

/-- A whole document within limits. Between two readers of values at least one character is
taken, so twice the length of the text bounds their nesting, and a string is no longer than
what is left. -/
def readWithin (limits : Limits) (cs : List Char) : Except ReadError Json :=
  match readValue limits (2 * cs.length + 2) 0 (skipSpace cs) with
  | .error e => .error e
  | .ok (v, rest) => if (skipSpace rest).isEmpty then .ok v else .error .malformed

/-- A whole document within the standard limits. -/
def read (text : String) : Except ReadError Json :=
  readWithin Limits.standard text.toList

end BlogGraph.Json
