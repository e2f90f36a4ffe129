import BlogGraph.Decimal.Rounded
import BlogGraph.Json.Shown

/-!
# Message templates

A template is a text with places for arguments. A place starts with a percent sign, may name
an argument in parentheses, and may give flags, a width and a precision before the letter
that says how the argument is written; two percent signs stand for one. Named places take
their arguments from one object, all others take them in order, and none may be left over.
-/

namespace BlogGraph.Log

/-- Why a template cannot be filled. -/
inductive TemplateError where
  | tooFewArguments
  | tooManyArguments
  | namesNeedObject
  | unknownName (name : String)
  | incomplete
  | incompleteName
  | unknownLetter (letter : Char) (position : Nat)
  | needsNumber (letter : Char) (typeName : String)
  | needsInteger (letter : Char) (typeName : String)
  | needsReal (typeName : String)
  | needsCharacter
  | characterOutOfRange
  | starNeedsInteger
  | infinite
  | notANumber
deriving DecidableEq, Repr

namespace TemplateError

/-- The wording of a cause. -/
def message : TemplateError → String
  | tooFewArguments => "not enough arguments for format string"
  | tooManyArguments => "not all arguments converted during string formatting"
  | namesNeedObject => "format requires a mapping"
  | unknownName name => Text.quoted name
  | incomplete => "incomplete format"
  | incompleteName => "incomplete format key"
  | unknownLetter letter position =>
    let n := letter.toNat
    let shown := if 31 ≤ n && n < 126 then letter.toString else "?"
    "unsupported format character '" ++ shown ++ "' (0x" ++ Text.hexLower 1 n ++ ") at index " ++
      toString position
  | needsNumber letter typeName =>
    "%" ++ letter.toString ++ " format: a real number is required, not " ++ typeName
  | needsInteger letter typeName =>
    "%" ++ letter.toString ++ " format: an integer is required, not " ++ typeName
  | needsReal typeName => "must be real number, not " ++ typeName
  | needsCharacter => "%c requires int or char"
  | characterOutOfRange => "%c arg not in range(0x110000)"
  | starNeedsInteger => "* wants int"
  | infinite => "cannot convert float infinity to integer"
  | notANumber => "cannot convert float NaN to integer"

end TemplateError

/-- What stands between the percent sign and the letter of a place. -/
structure Spec where
  left : Bool := false
  plus : Bool := false
  blank : Bool := false
  alternate : Bool := false
  zero : Bool := false
  width : Nat := 0
  precision : Option Nat := none
deriving Repr

/-- The arguments that are still to be used: in order, or one object for named places. -/
inductive Arguments where
  | ordered (rest : List Json)
  | whole (object : Json) (used : Bool)

namespace Arguments

/-- The arguments of a call: a single object that is not empty gives named arguments. -/
def ofList : List Json → Arguments
  | [.object (f :: fs)] => .whole (.object (f :: fs)) false
  | args => .ordered args

/-- The next argument. A named argument is used at most once. -/
def next : Arguments → Except TemplateError (Json × Arguments)
  | .ordered [] => .error .tooFewArguments
  | .ordered (a :: rest) => .ok (a, .ordered rest)
  | .whole object false => .ok (object, .whole object true)
  | .whole _ true => .error .tooFewArguments

end Arguments

/-- A number as an exact fraction with its sign, or the name of a value that is not finite. -/
inductive Real where
  | finite (negative : Bool) (size : Decimal.Ratio)
  | infinite (negative : Bool)
  | notANumber

/-- The real number that a value is. -/
def realOf : Json → Except TemplateError Real
  | .bool b => .ok (.finite false ⟨if b then 1 else 0, 1⟩)
  | .int n => ofFloat (Binary64.ofInt n)
  | .float x => ofFloat x
  | v => .error (.needsReal v.kindName)
where
  /-- The real number of a floating point number. -/
  ofFloat (x : Binary64) : Except TemplateError Real :=
    match x.decode with
    | .finite p => .ok (.finite p.negative (Decimal.Ratio.ofBinary p.mantissa p.exponent))
    | .infinite negative => .ok (.infinite negative)
    | .notANumber => .ok .notANumber

/-- The whole number that a value is, toward zero. -/
def wholeOf (letter : Char) : Json → Except TemplateError Int
  | .bool b => .ok (if b then 1 else 0)
  | .int n => .ok n
  | .float x =>
    match x.decode with
    | .finite p => .ok p.truncate
    | .infinite _ => .error .infinite
    | .notANumber => .error .notANumber
  | v => .error (.needsNumber letter v.kindName)

/-- The whole number that a value is, if it is one. -/
def integerOf (letter : Char) : Json → Except TemplateError Int
  | .bool b => .ok (if b then 1 else 0)
  | .int n => .ok n
  | v => .error (.needsInteger letter v.kindName)

/-- A text padded with blanks to the width of a place. -/
def Spec.pad (spec : Spec) (text : List Char) : List Char :=
  let fill := List.replicate (spec.width - text.length) ' '
  if spec.left then text ++ fill else fill ++ text

/-- A number with its sign, padded to the width of a place. -/
def Spec.padNumber (spec : Spec) (negative : Bool) (mark digits : List Char) : List Char :=
  let sign :=
    if negative then ['-'] else if spec.plus then ['+'] else if spec.blank then [' '] else []
  let lead := sign ++ mark
  if spec.zero && !spec.left then
    lead ++ List.replicate (spec.width - lead.length - digits.length) '0' ++ digits
  else spec.pad (lead ++ digits)

/-- The text of a whole number in a base. -/
def wholeText (spec : Spec) (base : Nat) (mark : List Char) (capital : Bool) (n : Int) :
    List Char :=
  let ds := Nat.toDigits base n.natAbs
  let ds := if capital then ds.map Char.toUpper else ds
  let ds := List.replicate (spec.precision.getD 0 - ds.length) '0' ++ ds
  spec.padNumber (n < 0) (if spec.alternate then mark else []) ds

/-- The text of a real number. -/
def realText (spec : Spec) (letter : Char) (x : Real) : List Char :=
  let places := spec.precision.getD 6
  let (negative, digits) : Bool × List Char :=
    match x with
    | .notANumber => (false, "nan".toList)
    | .infinite negative => (negative, "inf".toList)
    | .finite negative v =>
      (negative,
        if letter = 'f' || letter = 'F' then Decimal.fixedText spec.alternate places v
        else if letter = 'e' || letter = 'E' then Decimal.scientificText spec.alternate places v
        else Decimal.generalText spec.alternate places v)
  let digits := if letter.isUpper then digits.map Char.toUpper else digits
  spec.padNumber negative [] digits

/-- A text cut to the precision of a place, and padded. -/
def Spec.text (spec : Spec) (s : String) : List Char :=
  spec.pad (match spec.precision with
    | some p => s.toList.take p
    | none => s.toList)

/-- A text with every character beyond ASCII escaped. -/
def asciiOnly (s : String) : String :=
  String.ofList (s.toList.flatMap fun c =>
    let n := c.toNat
    if n < 0x80 then [c]
    else if n < 0x100 then '\\' :: 'x' :: Text.hexFixed 2 n
    else if n < 0x10000 then '\\' :: 'u' :: Text.hexFixed 4 n
    else '\\' :: 'U' :: Text.hexFixed 8 n)

/-- An argument as its place asks for it; `position` is that of the letter. -/
def writeArgument (spec : Spec) (letter : Char) (position : Nat) (v : Json) :
    Except TemplateError (List Char) :=
  match letter with
  | 's' => .ok (spec.text v.plain)
  | 'r' => .ok (spec.text v.shown)
  | 'a' => .ok (spec.text (asciiOnly v.shown))
  | 'd' | 'i' | 'u' => (wholeOf letter v).map (wholeText spec 10 [] false)
  | 'x' => (integerOf letter v).map (wholeText spec 16 ['0', 'x'] false)
  | 'X' => (integerOf letter v).map (wholeText spec 16 ['0', 'X'] true)
  | 'o' => (integerOf letter v).map (wholeText spec 8 ['0', 'o'] false)
  | 'e' | 'E' | 'f' | 'F' | 'g' | 'G' => (realOf v).map (realText spec letter)
  | 'c' =>
    match v with
    | .text s => if s.length = 1 then .ok (spec.pad s.toList) else .error .needsCharacter
    | .bool b => .ok (spec.pad [if b then '\x01' else '\x00'])
    | .int n =>
      if 0 ≤ n && n < 0x110000 then .ok (spec.pad [Char.ofNat n.natAbs])
      else .error .characterOutOfRange
    | _ => .error .needsCharacter
  | _ => .error (.unknownLetter letter position)

/-- The name in parentheses, where inner parentheses match, and the text after it. -/
def readName (acc : List Char) : Nat → List Char → Option (List Char × List Char)
  | _, [] => none
  | depth, ')' :: rest =>
    match depth with
    | 0 => some (acc.reverse, rest)
    | inner + 1 => readName (')' :: acc) inner rest
  | depth, '(' :: rest => readName ('(' :: acc) (depth + 1) rest
  | depth, c :: rest => readName (c :: acc) depth rest

/-- The flags of a place and the text after them. -/
def readFlags (spec : Spec) : List Char → Spec × List Char
  | '-' :: rest => readFlags { spec with left := true } rest
  | '+' :: rest => readFlags { spec with plus := true } rest
  | ' ' :: rest => readFlags { spec with blank := true } rest
  | '#' :: rest => readFlags { spec with alternate := true } rest
  | '0' :: rest => readFlags { spec with zero := true } rest
  | rest => (spec, rest)

/-- A count in digits, or a star that takes it from the arguments. -/
def readCount (args : Arguments) (cs : List Char) :
    Except TemplateError (Option Int × Arguments × List Char) :=
  match cs with
  | '*' :: rest =>
    match args.next with
    | .error e => .error e
    | .ok (.int n, args') => .ok (some n, args', rest)
    | .ok (.bool b, args') => .ok (some (if b then 1 else 0), args', rest)
    | .ok _ => .error .starNeedsInteger
  | _ =>
    let (ds, rest) := cs.span Char.isDigit
    if ds.isEmpty then .ok (none, args, rest)
    else .ok (some (ds.foldl (fun n d => n * 10 + ((d.toNat : Int) - 48)) 0), args, rest)

/-- A width, where a negative one stands for the flag that pads on the right. -/
def withWidth (spec : Spec) : Option Int → Spec
  | none => spec
  | some n =>
    if n < 0 then { spec with left := true, width := n.natAbs }
    else { spec with width := n.natAbs }

/-- The size letter that may stand before the last letter and says nothing. -/
def dropSize : List Char → List Char
  | 'h' :: rest => rest
  | 'l' :: rest => rest
  | 'L' :: rest => rest
  | rest => rest

/-- Fills one place, after its percent sign: the text, the arguments left and the rest of the
template, whose whole length is `total`. A name is looked up among all arguments, `whole`. -/
def fillPlace (total : Nat) (whole args : Arguments) (cs : List Char) :
    Except TemplateError (List Char × Arguments × List Char) := do
  let (args, cs) ←
    match cs with
    | '(' :: rest =>
      match whole with
      | .ordered _ => throw .namesNeedObject
      | .whole object _ =>
        match readName [] 0 rest with
        | none => throw .incompleteName
        | some (name, rest') =>
          match object.get? (String.ofList name) with
          | some v => pure (Arguments.whole v false, rest')
          | none => throw (.unknownName (String.ofList name))
    | _ => pure (args, cs)
  let (spec, cs) := readFlags {} cs
  let (width, args, cs) ← readCount args cs
  let spec := withWidth spec width
  let (spec, args, cs) ←
    match cs with
    | '.' :: rest => do
      let (precision, args, rest) ← readCount args rest
      pure ({ spec with precision := some (precision.getD 0).toNat }, args, rest)
    | _ => pure (spec, args, cs)
  match dropSize cs with
  | [] => throw .incomplete
  | letter :: rest => do
    let (v, args) ← args.next
    let text ← writeArgument spec letter (total - rest.length - 1) v
    pure (text, args, rest)

/-- Fills the places of a template one after the other. -/
def fillFrom (total : Nat) (whole : Arguments) (acc : List Char) :
    Nat → Arguments → List Char → Except TemplateError (List Char)
  | 0, _, _ => .error .incomplete
  | _ + 1, .ordered (_ :: _), [] => .error .tooManyArguments
  | _ + 1, _, [] => .ok acc.reverse
  | fuel + 1, args, '%' :: '%' :: rest => fillFrom total whole ('%' :: acc) fuel args rest
  | fuel + 1, args, '%' :: rest =>
    match fillPlace total whole args rest with
    | .error e => .error e
    | .ok (text, args', rest') => fillFrom total whole (text.reverse ++ acc) fuel args' rest'
  | fuel + 1, args, c :: rest => fillFrom total whole (c :: acc) fuel args rest

/-- The text of a template with its arguments. -/
def fill (template : String) (args : List Json) : Except TemplateError String :=
  let cs := template.toList
  let whole := Arguments.ofList args
  (fillFrom cs.length whole [] (cs.length + 1) whole cs).map String.ofList

end BlogGraph.Log
