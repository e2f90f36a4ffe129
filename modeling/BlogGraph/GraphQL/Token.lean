import BlogGraph.GraphQL.Source
import BlogGraph.Text.Hex

/-!
# Tokens

A document is a sequence of tokens: punctuation, names, numbers and strings, with commas,
blanks and comments between them. A text that has no such reading is cut at its first fault:
the tokens before the fault stand, and who asks for the next one gets the fault.
-/

namespace BlogGraph.GraphQL

/-- The kinds of token. -/
inductive TokenKind where
  | bang | dollar | amp | parenL | parenR | spread | colon | equals | atSign
  | bracketL | bracketR | braceL | pipe | braceR
  | name | int | float | string | blockString | eof
deriving DecidableEq, Repr

namespace TokenKind

/-- The name of a kind in messages. -/
def description : TokenKind → String
  | bang => "'!'" | dollar => "'$'" | amp => "'&'" | parenL => "'('" | parenR => "')'"
  | spread => "'...'" | colon => "':'" | equals => "'='" | atSign => "'@'"
  | bracketL => "'['" | bracketR => "']'" | braceL => "'\x7b'" | pipe => "'|'" | braceR => "'\x7d'"
  | name => "Name" | int => "Int" | float => "Float" | string => "String"
  | blockString => "BlockString" | eof => "<EOF>"

/-- The kind of a punctuation character. -/
def ofPunctuation? : Char → Option TokenKind
  | '!' => some bang
  | '$' => some dollar
  | '&' => some amp
  | '(' => some parenL
  | ')' => some parenR
  | ':' => some colon
  | '=' => some equals
  | '@' => some atSign
  | '[' => some bracketL
  | ']' => some bracketR
  | '\x7b' => some braceL
  | '|' => some pipe
  | '\x7d' => some braceR
  | _ => none

end TokenKind

/-- A token: its kind, where it starts, and its text if the kind has one. -/
structure Token where
  kind : TokenKind
  pos : Nat
  value : Option String
deriving DecidableEq, Repr

/-- A token in messages. -/
def Token.description (t : Token) : String :=
  match t.value with
  | some v => t.kind.description ++ " '" ++ v ++ "'"
  | none => t.kind.description

/-- Why a text is not a document, and where, if the place is known. -/
structure SyntaxFault where
  pos : Option Nat
  reason : String
deriving DecidableEq, Repr

namespace SyntaxFault

/-- A fault at a known place. -/
def atPos (pos : Nat) (reason : String) : SyntaxFault := ⟨some pos, reason⟩

/-- The wording of a fault. -/
def message (f : SyntaxFault) : String :=
  if f.pos.isSome then "Syntax Error: " ++ f.reason else f.reason

/-- A document that ends inside an escape. -/
def endsInEscape : SyntaxFault := ⟨none, "string index out of range"⟩

end SyntaxFault

namespace Lexer

/-- A letter or the underscore. -/
def isNameStart (c : Char) : Bool := c.isAlpha || c = '_'

/-- A character that a name goes on with. -/
def isNamePart (c : Char) : Bool := c.isAlphanum || c = '_'

/-- The next character of a text in messages. -/
def shownChar : List Char → String
  | [] => "<EOF>"
  | c :: _ =>
    if ' ' ≤ c && c ≤ '~' then "'" ++ c.toString ++ "'" else "U+" ++ Text.hexUpper 4 c.toNat

/-- What a reader of tokens returns: a value and the rest of the text with its place. -/
structure Scan (α : Type) where
  value : α
  pos : Nat
  rest : List Char

/-- One or more digits. -/
def digits (pos : Nat) (cs : List Char) : Except SyntaxFault (Scan (List Char)) :=
  let ds := cs.takeWhile Char.isDigit
  if ds.isEmpty then
    .error (.atPos pos ("Invalid number, expected digit but got: " ++ shownChar cs ++ "."))
  else .ok ⟨ds, pos + ds.length, cs.drop ds.length⟩

/-- The whole part of a number, after its sign. -/
def wholePart (pos : Nat) (cs : List Char) : Except SyntaxFault (Scan (List Char)) :=
  match cs with
  | '0' :: rest =>
    if (rest.head?.map Char.isDigit).getD false then
      .error (.atPos (pos + 1)
        ("Invalid number, unexpected digit after 0: " ++ shownChar rest ++ "."))
    else .ok ⟨['0'], pos + 1, rest⟩
  | _ => digits pos cs

/-- The point and the digits after it, if a point follows. -/
def fractionPart (pos : Nat) (cs : List Char) : Except SyntaxFault (Scan (List Char)) :=
  match cs with
  | '.' :: rest =>
    match digits (pos + 1) rest with
    | .ok s => .ok { s with value := '.' :: s.value }
    | .error e => .error e
  | _ => .ok ⟨[], pos, cs⟩

/-- The exponent, if one follows. -/
def exponentPart (pos : Nat) (cs : List Char) : Except SyntaxFault (Scan (List Char)) :=
  match cs with
  | mark :: rest =>
    if mark = 'e' || mark = 'E' then
      let sign :=
        match rest with
        | '+' :: _ => ['+']
        | '-' :: _ => ['-']
        | _ => []
      match digits (pos + 1 + sign.length) (rest.drop sign.length) with
      | .ok s => .ok { s with value := mark :: sign ++ s.value }
      | .error e => .error e
    else .ok ⟨[], pos, cs⟩
  | [] => .ok ⟨[], pos, cs⟩

/-- A number. Neither a point nor a letter may follow it. -/
def number (pos : Nat) (cs : List Char) : Except SyntaxFault (Scan Token) := do
  let sign := if cs.head? = some '-' then ['-'] else []
  let whole ← wholePart (pos + sign.length) (cs.drop sign.length)
  let fraction ← fractionPart whole.pos whole.rest
  let exponent ← exponentPart fraction.pos fraction.rest
  if (exponent.rest.head?.map fun c => c = '.' || isNameStart c).getD false then
    throw (.atPos exponent.pos
      ("Invalid number, expected digit but got: " ++ shownChar exponent.rest ++ "."))
  let kind : TokenKind :=
    if fraction.value.isEmpty && exponent.value.isEmpty then .int else .float
  let text := String.ofList (sign ++ whole.value ++ fraction.value ++ exponent.value)
  pure ⟨⟨kind, pos, some text⟩, exponent.pos, exponent.rest⟩

/-- The value of four hexadecimal digits; `none` when one of four characters is no digit. -/
def unit (cs : List Char) : Except SyntaxFault (Option Nat) :=
  match cs with
  | a :: b :: c :: d :: _ => .ok (Text.hexNumber? [a, b, c, d])
  | _ => .error .endsInEscape

/-- A character and the number of characters of its escape. -/
abbrev Escape := Char × Nat

/-- A code point that is a character. -/
def isScalar (n : Nat) : Bool := n < 0xD800 || (0xE000 ≤ n && n < 0x110000)

/-- A numbered escape of four digits, or two such escapes that form a surrogate pair. Here
`cs` starts at the backslash. -/
def fixedEscape (pos : Nat) (cs : List Char) : Except SyntaxFault Escape := do
  let invalid := SyntaxFault.atPos pos
    ("Invalid Unicode escape sequence: '" ++ String.ofList (cs.take 6) ++ "'.")
  match ← unit (cs.drop 2) with
  | none => throw invalid
  | some n =>
    if isScalar n then pure (Char.ofNat n, 6)
    else if n < 0xDC00 && (cs.drop 6).take 2 = ['\\', 'u'] then
      match ← unit (cs.drop 8) with
      | some m =>
        if 0xDC00 ≤ m && m ≤ 0xDFFF then
          pure (Char.ofNat (0x10000 + (n - 0xD800) * 0x400 + (m - 0xDC00)), 12)
        else throw invalid
      | none => throw invalid
    else throw invalid

/-- The digits of a numbered escape in braces: the character and the length of the escape, or
the length of what was looked at. `size` counts the characters read, at most `most`. -/
def bracedDigits (point size : Nat) : Nat → List Char → Except Nat Escape
  | 0, _ => .error size
  | _, [] => .error size
  | room + 1, c :: rest =>
    if c = '\x7d' then
      if size + 1 < 5 || !isScalar point then .error (size + 1)
      else .ok (Char.ofNat point, size + 1)
    else
      match Text.hexValue? c with
      | some d => bracedDigits (point * 16 + d) (size + 1) room rest
      | none => .error (size + 1)

/-- A numbered escape in braces, of at most twelve characters. -/
def bracedEscape (pos : Nat) (cs : List Char) : Except SyntaxFault Escape :=
  match bracedDigits 0 3 (min 12 cs.length - 3) (cs.drop 3) with
  | .ok e => .ok e
  | .error size =>
    .error (.atPos pos
      ("Invalid Unicode escape sequence: '" ++ String.ofList (cs.take size) ++ "'."))

/-- The character of an escape by letter. -/
def letterEscape? : Char → Option Char
  | '"' => some '"'
  | '\\' => some '\\'
  | '/' => some '/'
  | 'b' => some '\x08'
  | 'f' => some '\x0c'
  | 'n' => some '\n'
  | 'r' => some '\r'
  | 't' => some '\t'
  | _ => none

/-- An escape, from its backslash on. -/
def escape (pos : Nat) (cs : List Char) : Except SyntaxFault Escape :=
  match cs with
  | _ :: 'u' :: '\x7b' :: _ => bracedEscape pos cs
  | _ :: 'u' :: _ => fixedEscape pos cs
  | _ :: c :: _ =>
    match letterEscape? c with
    | some d => .ok (d, 2)
    | none =>
      .error (.atPos pos
        ("Invalid character escape sequence: '" ++ String.ofList (cs.take 2) ++ "'."))
  | _ => .error .endsInEscape

/-- The rest of a string after its opening quote; `acc` holds what was read, last first. -/
def stringRest : Nat → Nat → List Char → List Char → Except SyntaxFault (Scan String)
  | 0, pos, _, _ => .error (.atPos pos "Unterminated string.")
  | _ + 1, pos, _, [] => .error (.atPos pos "Unterminated string.")
  | fuel + 1, pos, acc, c :: rest =>
    if c = '"' then .ok ⟨String.ofList acc.reverse, pos + 1, rest⟩
    else if c = '\\' then
      match escape pos (c :: rest) with
      | .ok (d, size) => stringRest fuel (pos + size) (d :: acc) (rest.drop (size - 1))
      | .error e => .error e
    else if c = '\n' || c = '\r' then .error (.atPos pos "Unterminated string.")
    else stringRest fuel (pos + 1) (c :: acc) rest

/-- How many blanks a line starts with. -/
def indent (line : List Char) : Nat :=
  (line.takeWhile fun c => c = ' ' || c = '\t').length

/-- A line of blanks. -/
def isBlankLine (line : List Char) : Bool := indent line = line.length

/-- The lines of a block string without their common indentation, which the first line does
not count for, and without blank lines at either end. -/
def dedent (lines : List (List Char)) : List (List Char) :=
  let common := ((lines.drop 1).filter (!isBlankLine ·)).map indent
  let trimmed :=
    match common.min? with
    | some n => lines.take 1 ++ (lines.drop 1).map (·.drop n)
    | none => lines.take 1 ++ (lines.drop 1).map fun _ => []
  let kept := lines.zip trimmed |>.dropWhile (isBlankLine ·.1)
  (kept.reverse.dropWhile (isBlankLine ·.1)).reverse.map (·.2)

/-- The rest of a block string; `line` and `lines` hold what was read, last first. -/
def blockRest : Nat → Nat → List Char → List (List Char) → List Char →
    Except SyntaxFault (Scan String)
  | 0, pos, _, _, _ => .error (.atPos pos "Unterminated string.")
  | _ + 1, pos, _, _, [] => .error (.atPos pos "Unterminated string.")
  | fuel + 1, pos, line, lines, cs@(c :: rest) =>
    match cs with
    | '"' :: '"' :: '"' :: after =>
      let all := (line.reverse :: lines).reverse
      .ok ⟨String.ofList (List.intercalate ['\n'] (dedent all)), pos + 3, after⟩
    | '\\' :: '"' :: '"' :: '"' :: after =>
      blockRest fuel (pos + 4) ('"' :: '"' :: '"' :: line) lines after
    | '\r' :: '\n' :: after => blockRest fuel (pos + 2) [] (line.reverse :: lines) after
    | _ =>
      if c = '\n' || c = '\r' then blockRest fuel (pos + 1) [] (line.reverse :: lines) rest
      else blockRest fuel (pos + 1) (c :: line) lines rest

/-- A character that no token starts with. -/
def unexpected (pos : Nat) (cs : List Char) : SyntaxFault :=
  .atPos pos (if cs.head? = some '\'' then
    "Unexpected single quote character ('), did you mean to use a double quote (\")?"
  else "Unexpected character: " ++ shownChar cs ++ ".")

/-- A spread, or what is wrong with a point. -/
def points (pos : Nat) (cs : List Char) : Except SyntaxFault (Scan Token) :=
  match cs with
  | '.' :: '.' :: '.' :: rest => .ok ⟨⟨.spread, pos, none⟩, pos + 3, rest⟩
  | '.' :: '.' :: _ => .error (.atPos pos "Unexpected '..', did you mean '...'?")
  | _ =>
    let ds := (cs.drop 1).takeWhile Char.isDigit
    if ds.isEmpty then .error (unexpected pos cs)
    else
      .error (.atPos pos ("Invalid number, expected digit before '.', did you mean '0." ++
        String.ofList ds ++ "'?"))

/-- A token that starts with the first character of the text. -/
def token (pos : Nat) (c : Char) (rest : List Char) : Except SyntaxFault (Scan Token) :=
  let cs := c :: rest
  match TokenKind.ofPunctuation? c with
  | some kind => .ok ⟨⟨kind, pos, none⟩, pos + 1, rest⟩
  | none =>
    if c = '.' then points pos cs
    else if c = '"' then
      match rest with
      | '"' :: '"' :: after =>
        match blockRest (after.length + 1) (pos + 3) [] [] after with
        | .ok s => .ok ⟨⟨.blockString, pos, some s.value⟩, s.pos, s.rest⟩
        | .error e => .error e
      | _ =>
        match stringRest (rest.length + 1) (pos + 1) [] rest with
        | .ok s => .ok ⟨⟨.string, pos, some s.value⟩, s.pos, s.rest⟩
        | .error e => .error e
    else if c.isDigit || c = '-' then number pos cs
    else if isNameStart c then
      let name := cs.takeWhile isNamePart
      .ok ⟨⟨.name, pos, some (String.ofList name)⟩, pos + name.length, cs.drop name.length⟩
    else .error (unexpected pos cs)

/-- A character that stands between tokens and means nothing. -/
def isIgnored (c : Char) : Bool :=
  c = ' ' || c = '\t' || c = ',' || c = '\n' || c = '\r' || c.toNat = 0xFEFF

/-- A character that ends a comment. -/
def endsLine (c : Char) : Bool := c = '\n' || c = '\r'

end Lexer

/-- The tokens of a document, up to its end or its first fault. -/
structure Tokens where
  list : List Token
  ending : Except SyntaxFault Nat

namespace Tokens

/-- The tokens of the rest of a text; `acc` holds those before it, last first. Each step takes
at least one character. -/
def scanFrom (acc : List Token) : Nat → Nat → List Char → Tokens
  | 0, pos, _ => ⟨acc.reverse, .ok pos⟩
  | _ + 1, pos, [] => ⟨acc.reverse, .ok pos⟩
  | fuel + 1, pos, c :: rest =>
    if Lexer.isIgnored c then scanFrom acc fuel (pos + 1) rest
    else if c = '#' then
      let comment := rest.takeWhile (!Lexer.endsLine ·)
      scanFrom acc fuel (pos + 1 + comment.length) (rest.drop comment.length)
    else
      match Lexer.token pos c rest with
      | .ok s => scanFrom (s.value :: acc) fuel s.pos s.rest
      | .error e => ⟨acc.reverse, .error e⟩

/-- The tokens of a text. -/
def scan (cs : List Char) : Tokens := scanFrom [] (cs.length + 1) 0 cs

/-- The next token, or the fault that stands in its place. -/
def current (ts : Tokens) : Except SyntaxFault Token :=
  match ts.list with
  | t :: _ => .ok t
  | [] => ts.ending.map fun pos => ⟨.eof, pos, none⟩

/-- The tokens after the next one. -/
def advance (ts : Tokens) : Tokens := { ts with list := ts.list.tail }

end Tokens
end BlogGraph.GraphQL
