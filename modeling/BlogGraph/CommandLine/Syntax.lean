import BlogGraph.Text.Resemblance
import BlogGraph.Text.Quoted
import BlogGraph.Text.WholeNumber

/-!
# Command lines

What a command line may hold, and how it is read. A command has options, each named after two
hyphens; an option takes a value, from the same word after an equals sign or from the next
word, or it takes none. Two hyphens alone end the options. The main command stops at the first
word that is no option, any other command goes on and collects such words.
-/

namespace BlogGraph.CommandLine

/-- What an option is for. -/
inductive Purpose where
  | flag
  | text
  | whole
  | choice (words : List String)
  | help
  | version
deriving DecidableEq, Repr

namespace Purpose

/-- How the help shows the value of an option, if it takes one. -/
def placeholder? : Purpose → Option String
  | text => some "TEXT"
  | whole => some "INTEGER"
  | choice words => some ("[" ++ "|".intercalate words ++ "]")
  | _ => none

/-- The option takes a value. -/
def takesValue (p : Purpose) : Bool := p.placeholder?.isSome

/-- The option is carried out before any other is looked at. -/
def isEager : Purpose → Bool
  | help | version => true
  | _ => false

end Purpose

/-- An option. -/
structure Opt where
  name : String
  purpose : Purpose
  help : String
deriving DecidableEq, Repr

/-- A command: the words that call it, what it is for, its options, and the commands under it
with what they are for. -/
structure CommandSpec where
  call : String
  about : String
  options : List Opt
  commands : List (String × String)
deriving Repr

/-! ## Faults -/

/-- Why a command line cannot be carried out. -/
inductive UsageError where
  | unknownOption (name : String) (similar : List String)
  | valueMissing (name : String)
  | valueUnwanted (name : String)
  | notWhole (name value : String)
  | notAmong (name value : String) (words : List String)
  | extraWords (words : List String)
  | unknownCommand (name : String) (similar : List String)
  | commandMissing
deriving DecidableEq, Repr

/-- The end of a message that names what may have been meant. -/
def suggestion (similar : List String) : String :=
  match similar with
  | [] => ""
  | [name] => " Did you mean " ++ Text.quoted name ++ "?"
  | names =>
    let sorted := (names.mergeSort (· ≤ ·)).map Text.quoted
    " (Did you mean one of: " ++ ", ".intercalate sorted ++ "?)"

namespace UsageError

/-- The wording of a fault. -/
def message : UsageError → String
  | unknownOption name similar => "No such option " ++ Text.quoted name ++ "." ++ suggestion similar
  | valueMissing name => "Option " ++ Text.quoted name ++ " requires an argument."
  | valueUnwanted name => "Option " ++ Text.quoted name ++ " does not take a value."
  | notWhole name value =>
    "Invalid value for '" ++ name ++ "': " ++ Text.quoted value ++ " is not a valid integer."
  | notAmong name value words =>
    "Invalid value for '" ++ name ++ "': " ++ Text.quoted value ++ " is not one of " ++
      ", ".intercalate (words.map Text.quoted) ++ "."
  | extraWords words =>
    "Got unexpected extra argument" ++ (if words.length = 1 then "" else "s") ++ " (" ++
      " ".intercalate words ++ ")"
  | unknownCommand name similar =>
    "No such command " ++ Text.quoted name ++ "." ++ suggestion similar
  | commandMissing => "Missing command."

/-- The message stands below a reminder of how the command is used. -/
def showsUsage : UsageError → Bool
  | valueMissing _ | valueUnwanted _ => false
  | _ => true

end UsageError

/-! ## Reading -/

/-- A command line as it was read: the options in order, with their values, and the other
words. -/
structure Parsed where
  given : List (Opt × Option String)
  rest : List String

/-- A line whose first option has been read. -/
def Parsed.withOption (o : Opt) (value : Option String) (p : Parsed) : Parsed :=
  { p with given := (o, value) :: p.given }

/-- A word that names an option: it starts with a hyphen and is longer than that. -/
def isOptionWord (word : String) : Bool :=
  ['-'].isPrefixOf word.toList && word.length > 1

/-- A word up to its first equals sign, and the value after it. -/
def splitWord (word : String) : String × Option String :=
  let cs := word.toList
  let name := cs.takeWhile (· ≠ '=')
  match cs.drop name.length with
  | '=' :: value => (String.ofList name, some (String.ofList value))
  | _ => (word, none)

/-- The fault of a word that names no option. A word with one hyphen stands for its first
letter. -/
def CommandSpec.unknownWord (c : CommandSpec) (word : String) : UsageError :=
  let name := (splitWord word).1
  if "--".toList.isPrefixOf word.toList then
    .unknownOption name (Text.resembling name (c.options.map (·.name)))
  else .unknownOption (String.ofList (word.toList.take 2)) []

/-- Reads the words of a command line; `goesOn` tells whether options may follow other
words. -/
def CommandSpec.parse (c : CommandSpec) (goesOn : Bool) : List String → Except UsageError Parsed
  | [] => .ok ⟨[], []⟩
  | word :: rest =>
    if word = "--" then .ok ⟨[], rest⟩
    else if isOptionWord word then
      let (name, value) := splitWord word
      match c.options.find? fun o => o.name = name with
      | none => .error (c.unknownWord word)
      | some o =>
        match o.purpose.takesValue, value, rest with
        | true, some v, rest => (c.parse goesOn rest).map (.withOption o (some v))
        | true, none, v :: rest => (c.parse goesOn rest).map (.withOption o (some v))
        | true, none, [] => .error (.valueMissing name)
        | false, some _, _ => .error (.valueUnwanted name)
        | false, none, rest => (c.parse goesOn rest).map (.withOption o none)
    else if goesOn then
      (c.parse goesOn rest).map fun p => { p with rest := word :: p.rest }
    else .ok ⟨[], word :: rest⟩

namespace Parsed

/-- The value of an option: that of its last occurrence. -/
def value? (p : Parsed) (name : String) : Option String :=
  ((p.given.filter fun g => g.1.name = name).getLast?).bind (·.2)

/-- The option occurs. -/
def has (p : Parsed) (name : String) : Bool := p.given.any fun g => g.1.name = name

/-- The options that occur, each once, in the order of their first occurrence, those that are
carried out at once before the others. -/
def order (p : Parsed) : List Opt :=
  let once := (p.given.map (·.1)).eraseDups
  once.filter (·.purpose.isEager) ++ once.filter fun o => !o.purpose.isEager

/-- The fault of the value of an option. -/
def fault? (p : Parsed) (o : Opt) : Option UsageError :=
  match o.purpose, p.value? o.name with
  | .whole, some v =>
    if (Text.wholeNumber? v.toList).isSome then none else some (.notWhole o.name v)
  | .choice words, some v => if words.contains v then none else some (.notAmong o.name v words)
  | _, _ => none

/-- The first thing that options lead to: the one to be carried out at once, or a fault. -/
def firstEffect? (p : Parsed) : Option (Except UsageError Purpose) :=
  p.order.findSome? fun o =>
    if o.purpose.isEager then some (.ok o.purpose) else (p.fault? o).map .error

end Parsed
end BlogGraph.CommandLine
