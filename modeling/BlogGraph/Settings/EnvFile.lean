import BlogGraph.Named
import BlogGraph.Text.Blank

/-!
# Files of variables

A file of variables holds one assignment a line: a name, an equals sign and a value. The word
`export` may stand before the name, and a comment from a number sign on may follow. Values may
stand in single or double quotes and then go over several lines, with escapes; a value without
quotes ends at a blank before a number sign, or at the end of its line. A name without an
equals sign has no value. A line of any other form does not count.

A value may name other variables between a dollar sign with a brace and a closing brace, with
a default after a colon and a hyphen: those of the file come first, then those of the
environment.
-/

namespace BlogGraph.EnvFile

open Text

/-- An assignment: a name, and perhaps a value. -/
structure Assignment where
  name : List Char
  value : Option (List Char)
deriving DecidableEq, Repr

/-! ## Lines -/

/-- A text in which every line ends with the line feed alone. -/
def plainBreaks : List Char → List Char
  | [] => []
  | '\r' :: '\n' :: rest => '\n' :: plainBreaks rest
  | '\r' :: rest => '\n' :: plainBreaks rest
  | c :: rest => c :: plainBreaks rest

/-- The text after the blanks that stand on this line. -/
def dropInline (cs : List Char) : List Char :=
  cs.dropWhile fun c => isBlank c && c ≠ '\n'

/-- The text after this line. -/
def dropLine (cs : List Char) : List Char :=
  (cs.dropWhile (· ≠ '\n')).drop 1

/-- The text after the comment that may stand here. -/
def dropComment (cs : List Char) : List Char :=
  match dropInline cs with
  | '#' :: rest => rest.dropWhile (· ≠ '\n')
  | _ => cs

/-- The text after the end of this line, if nothing but blanks stands before it. -/
def endLine? (cs : List Char) : Option (List Char) :=
  match dropInline cs with
  | [] => some []
  | '\n' :: rest => some rest
  | _ => none

/-! ## Names and values -/

/-- The text after the word `export` and blanks. -/
def dropExport (cs : List Char) : List Char :=
  let word := "export".toList
  let rest := cs.drop word.length
  if word.isPrefixOf cs && (dropInline rest).length < rest.length then dropInline rest else cs

/-- A character that ends a name without quotes. -/
def endsName (c : Char) : Bool := c = '=' || c = '#' || isBlank c

/-- A name in quotes or without, and what follows it. -/
def readName? : List Char → Option (List Char × List Char)
  | '\'' :: rest =>
    let name := rest.takeWhile (· ≠ '\'')
    if name.isEmpty then none
    else
      match rest.drop name.length with
      | '\'' :: after => some (name, after)
      | _ => none
  | cs =>
    let name := cs.takeWhile fun c => !endsName c
    if name.isEmpty then none else some (name, cs.drop name.length)

/-- A value up to its closing quote, and what follows it. A quote after a backslash closes the
value only if no later quote does. -/
def readQuoted? (quote : Char) : List Char → Option (List Char × List Char)
  | [] => none
  | '\\' :: c :: rest =>
    if c = quote then
      match readQuoted? quote rest with
      | some (value, after) => some ('\\' :: c :: value, after)
      | none => some (['\\'], rest)
    else
      match readQuoted? quote (c :: rest) with
      | some (value, after) => some ('\\' :: value, after)
      | none => none
  | c :: rest =>
    if c = quote then some ([], rest)
    else
      match readQuoted? quote rest with
      | some (value, after) => some (c :: value, after)
      | none => none

/-- The character that an escaped one stands for in double quotes. -/
def escapes : List (Char × Char) := [
  ('\\', '\\'), ('\'', '\''), ('"', '"'), ('a', '\x07'), ('b', '\x08'), ('f', '\x0c'),
  ('n', '\n'), ('r', '\r'), ('t', '\t'), ('v', '\x0b')]

/-- The escapes that count between quotes. -/
def escapesIn (quote : Char) : List (Char × Char) :=
  if quote = '"' then escapes else escapes.filter fun e => e.1 = '\\' || e.1 = '\''

/-- A value with its escapes replaced. -/
def unescape (known : List (Char × Char)) : List Char → List Char
  | [] => []
  | '\\' :: c :: rest =>
    match known.lookup c with
    | some replaced => replaced :: unescape known rest
    | none => '\\' :: unescape known (c :: rest)
  | c :: rest => c :: unescape known rest

/-- A line's text up to a number sign after a blank; `afterBlank` tells whether the text before
ends with a blank. -/
def beforeComment (afterBlank : Bool) : List Char → List Char
  | [] => []
  | c :: rest => if afterBlank && c = '#' then [] else c :: beforeComment (isBlank c) rest

/-- The text without the blanks at its end. -/
def trimEnd (cs : List Char) : List Char := (cs.reverse.dropWhile isBlank).reverse

/-- A value, and what follows it. -/
def readValue? : List Char → Option (List Char × List Char)
  | '\'' :: rest => (readQuoted? '\'' rest).map fun r => (unescape (escapesIn '\'') r.1, r.2)
  | '"' :: rest => (readQuoted? '"' rest).map fun r => (unescape (escapesIn '"') r.1, r.2)
  | cs =>
    let line := cs.takeWhile (· ≠ '\n')
    some (trimEnd (beforeComment false line), cs.drop line.length)

/-! ## Files -/

/-- What the first line of a text holds, and the text after it. -/
structure Line where
  assignment : Option Assignment
  rest : List Char

/-- A line that does not count. -/
def Line.skipped (cs : List Char) : Line := ⟨none, dropLine cs⟩

/-- A line that ends here, after a comment perhaps. -/
def Line.ended (assignment : Option Assignment) (cs : List Char) : Line :=
  match endLine? (dropComment cs) with
  | some rest => ⟨assignment, rest⟩
  | none => .skipped (dropComment cs)

/-- Reads an assignment from a text that starts with a name. -/
def Line.ofAssignment (cs : List Char) : Line :=
  match readName? cs with
  | none => .skipped cs
  | some (name, after) =>
    match dropInline after with
    | '=' :: rest =>
      match readValue? (dropInline rest) with
      | none => .skipped (dropInline rest)
      | some (value, after) => .ended (some ⟨name, some value⟩) after
    | rest => .ended (some ⟨name, none⟩) rest

/-- Reads a line that is not blank. -/
def Line.read (cs : List Char) : Line :=
  match dropExport cs with
  | '#' :: rest => .ended none ('#' :: rest)
  | cs => .ofAssignment cs

/-- The assignments of a text, with `fuel` bounding the number of its lines. -/
def assignmentsWithin : Nat → List Char → List Assignment
  | 0, _ => []
  | fuel + 1, cs =>
    match dropBlanks cs with
    | [] => []
    | cs =>
      let line := Line.read cs
      line.assignment.toList ++ assignmentsWithin fuel line.rest

/-- The assignments of a file. Every line takes a character at least, so the length of the text
bounds their number. -/
def assignments (text : String) : List Assignment :=
  let cs := plainBreaks text.toList
  assignmentsWithin cs.length cs

/-! ## References to other variables -/

/-- A reference to a variable, with its default, and what follows it. -/
structure Reference where
  name : List Char
  default : List Char
  rest : List Char

/-- The reference that a text starts with. -/
def readReference? : List Char → Option Reference
  | '$' :: '\x7b' :: cs =>
    let name := cs.takeWhile fun c => c ≠ '\x7d' && c ≠ ':'
    match cs.drop name.length with
    | '\x7d' :: rest => some ⟨name, [], rest⟩
    | ':' :: '-' :: cs =>
      let default := cs.takeWhile (· ≠ '\x7d')
      match cs.drop default.length with
      | '\x7d' :: rest => some ⟨name, default, rest⟩
      | _ => none
    | _ => none
  | _ => none

/-- The text that a variable stands for: its value in the file, empty if it has none there, or
its value in the environment, or the default. -/
def lookUp (environment : Named String) (known : Named (Option String)) (r : Reference) :
    List Char :=
  match known.get? (String.ofList r.name) with
  | some value => (value.getD "").toList
  | none =>
    match environment.get? (String.ofList r.name) with
    | some value => value.toList
    | none => r.default

/-- A value with its references replaced; `fuel` bounds the length of the value. -/
def resolveWithin (environment : Named String) (known : Named (Option String)) :
    Nat → List Char → List Char
  | 0, _ => []
  | _ + 1, [] => []
  | fuel + 1, c :: rest =>
    match readReference? (c :: rest) with
    | some r => lookUp environment known r ++ resolveWithin environment known fuel r.rest
    | none => c :: resolveWithin environment known fuel rest

/-- A value with its references replaced. -/
def resolve (environment : Named String) (known : Named (Option String)) (value : List Char) :
    String :=
  String.ofList (resolveWithin environment known (value.length + 1) value)

/-- The variables that a file sets, each resolved when it is set. -/
def entries (environment : Named String) (text : String) : Named (Option String) :=
  (assignments text).foldl (fun known a =>
    known.set (String.ofList a.name) (a.value.map (resolve environment known))) []

end BlogGraph.EnvFile
