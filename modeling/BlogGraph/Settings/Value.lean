import BlogGraph.Json.Reader
import BlogGraph.Settings.Basic
import BlogGraph.Text.Blank
import BlogGraph.Text.Substring

/-!
# Values of settings

How the text of a variable becomes the value of a field. A truth value is one of six words or
its opposite, in small or capital letters. A port is a numeral in ASCII digits: white space around
it, a sign, single underscores, zeros in front and a fraction of zeros are let through. The
origins are a data document: a list of texts.
-/

namespace BlogGraph.Settings

/-! ## Faults -/

/-- What is wrong with a value. -/
inductive Problem where
  | notTruth
  | notWhole
  | tooLong
  | notList
  | notText
  | unknownName
deriving DecidableEq, Repr

namespace Problem

/-- The short name of a problem. -/
def kind : Problem → String
  | notTruth => "bool_parsing"
  | notWhole => "int_parsing"
  | tooLong => "int_parsing_size"
  | notList => "list_type"
  | notText => "string_type"
  | unknownName => "extra_forbidden"

/-- The wording of a problem. -/
def message : Problem → String
  | notTruth => "Input should be a valid boolean, unable to interpret input"
  | notWhole => "Input should be a valid integer, unable to parse string as an integer"
  | tooLong => "Unable to parse input string as an integer, exceeded maximum size"
  | notList => "Input should be a valid list"
  | notText => "Input should be a valid string"
  | unknownName => "Extra inputs are not permitted"

end Problem

/-- A problem and where it is: a name, and a place in a list. -/
structure Fault where
  name : String
  place : Option Nat
  problem : Problem
deriving DecidableEq, Repr

/-- A checked value: the value, or a stand-in beside the faults. -/
structure Checked (α : Type) where
  value : α
  faults : List Fault
deriving DecidableEq, Repr

/-! ## Truth values -/

/-- The words for yes. -/
def wordsOfTruth : List String := ["1", "on", "t", "true", "y", "yes"]

/-- The words for no. -/
def wordsOfFalsity : List String := ["0", "off", "f", "false", "n", "no"]

/-- The truth value that a text stands for. -/
def readTruth (s : String) : Except Problem Bool :=
  let word := s.toLower
  if wordsOfTruth.contains word then .ok true
  else if wordsOfFalsity.contains word then .ok false
  else .error .notTruth

/-! ## Whole numbers -/

/-- The number of a plain numeral: digits without a zero in front, and a minus perhaps. -/
def plainNumeral? (cs : List Char) : Option Int :=
  let (negative, digits) :=
    match cs with
    | '-' :: rest => (true, rest)
    | _ => (false, cs)
  if digits.isEmpty || !digits.all Char.isDigit || ['0'].isPrefixOf digits && digits.length > 1 then
    none
  else
    let n : Int := Json.natOfDigits digits
    some (if negative then -n else n)

/-- A text without a plus in front; no other sign may follow it. -/
def dropPlus? : List Char → Option (List Char)
  | '+' :: '-' :: _ => none
  | '+' :: rest => some rest
  | cs => some cs

/-- A text without the zeros in front, and the underscores among them; the last zero stays
before a point and at the end. -/
def dropZeros? : List Char → Option (List Char)
  | '0' :: rest =>
    let zeros := rest.takeWhile fun c => c = '0' || c = '_'
    match rest.drop zeros.length with
    | [] => some [zeros.getLastD '0']
    | '.' :: after => some (zeros.getLastD '0' :: '.' :: after)
    | c :: after => if c.isDigit then some (c :: after) else none
  | c :: rest => if c.isDigit || c = '-' then some (c :: rest) else none
  | [] => none

/-- A text without a point and the zeros after it. -/
def dropFraction (cs : List Char) : List Char :=
  let whole := cs.takeWhile (· ≠ '.')
  match cs.drop whole.length with
  | '.' :: fraction => if !fraction.isEmpty && fraction.all (· = '0') then whole else cs
  | _ => cs

/-- A text without its underscores, if they are single and stand inside. -/
def dropUnderscores (cs : List Char) : List Char :=
  if cs.head? = some '_' || cs.getLast? = some '_' || Text.occursIn ['_', '_'] cs then cs
  else cs.filter (· ≠ '_')

/-- A numeral made plain. -/
def tidyNumeral? (cs : List Char) : Option (List Char) :=
  match dropPlus? cs with
  | none => none
  | some cs => (dropZeros? cs).map fun cs => dropUnderscores (dropFraction cs)

/-- The number of a plain numeral that is not too long. -/
def boundedNumeral (cs : List Char) : Except Problem Int :=
  match plainNumeral? cs with
  | none => .error .notWhole
  | some n => if cs.length > 4300 then .error .tooLong else .ok n

/-- The whole number that a text stands for. -/
def readWhole (s : String) : Except Problem Int :=
  let cs := Text.trimSpaces s.toList
  match boundedNumeral cs with
  | .error .notWhole =>
    match tidyNumeral? cs with
    | some tidy => boundedNumeral tidy
    | none => .error .notWhole
  | read => read

/-! ## Lists of texts -/

/-- The faults in the items of a list of texts, from a place on. -/
def faultsOfItems (name : String) : Nat → List Json → List Fault
  | _, [] => []
  | i, .text _ :: rest => faultsOfItems name (i + 1) rest
  | i, _ :: rest => ⟨name, some i, .notText⟩ :: faultsOfItems name (i + 1) rest

/-- The texts among the items of a list. -/
def textsOf (items : List Json) : List String :=
  items.filterMap fun
    | .text s => some s
    | _ => none

/-! ## Fields -/

/-- A given value: the text of a variable, or the document that it holds. -/
inductive Given where
  | text (text : String)
  | data (value : Json)

namespace Given

/-- The faults of a value that was read. -/
def checked {α : Type} (f : Field) (default : α) : Except Problem α → Checked α
  | .ok a => ⟨a, []⟩
  | .error p => ⟨default, [⟨f.name, none, p⟩]⟩

/-- A value for a field with text. -/
def asText (f : Field) (default : String) : Option Given → Checked String
  | some (.text s) => ⟨s, []⟩
  | some (.data _) => ⟨default, [⟨f.name, none, .notText⟩]⟩
  | none => ⟨default, []⟩

/-- A value for a field with a truth value. -/
def asTruth (f : Field) (default : Bool) : Option Given → Checked Bool
  | some (.text s) => checked f default (readTruth s)
  | some (.data _) => ⟨default, [⟨f.name, none, .notTruth⟩]⟩
  | none => ⟨default, []⟩

/-- A value for a field with a whole number. -/
def asWhole (f : Field) (default : Int) : Option Given → Checked Int
  | some (.text s) => checked f default (readWhole s)
  | some (.data _) => ⟨default, [⟨f.name, none, .notWhole⟩]⟩
  | none => ⟨default, []⟩

/-- A value for a field with a list of texts. -/
def asTexts (f : Field) (default : List String) : Option Given → Checked (List String)
  | some (.data (.list items)) => ⟨textsOf items, faultsOfItems f.name 0 items⟩
  | some _ => ⟨default, [⟨f.name, none, .notList⟩]⟩
  | none => ⟨default, []⟩

end Given
end BlogGraph.Settings
