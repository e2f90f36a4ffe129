import BlogGraph.CommandLine.Syntax

/-!
# Help texts

How a command is used, what it is for, and its options and commands in two columns. Lines are
broken between words so that they fit the width of a terminal.
-/

namespace BlogGraph.CommandLine

/-- The width that a help text may fill. -/
def helpWidth : Nat := 78

/-- The greatest width of the first column. -/
def widestTerm : Nat := 30

/-- Blanks. -/
def blanks (n : Nat) : String := String.ofList (List.replicate n ' ')

/-- The lines of words after a line that has been begun. -/
def fillLines (width : Nat) (line : String) : List String → List String
  | [] => [line]
  | word :: rest =>
    if line.length + 1 + word.length ≤ width then fillLines width (line ++ " " ++ word) rest
    else line :: fillLines width word rest

/-- Words put into lines of a width; a longer word has a line of its own. -/
def wrapWords (width : Nat) : List String → List String
  | [] => []
  | word :: rest => fillLines width word rest

/-- The lines of a term and its explanation, the explanation in a column of its own. -/
def entryLines (column : Nat) (term explanation : String) : List String :=
  let words := (explanation.splitOn " ").filter fun w => !w.isEmpty
  let lines := wrapWords (max (helpWidth - column - 2) 10) words
  let indent := blanks (column + 2)
  if term.length + 2 ≤ column then
    match lines with
    | [] => ["  " ++ term]
    | first :: rest =>
      ("  " ++ term ++ blanks (column - term.length) ++ first) :: rest.map (indent ++ ·)
  else ("  " ++ term) :: lines.map (indent ++ ·)

/-- A section of terms and explanations under a heading. -/
def sectionLines (heading : String) (entries : List (String × String)) : List String :=
  if entries.isEmpty then []
  else
    let widest := (entries.map fun e => e.1.length).foldl max 0
    let column := min widest widestTerm + 2
    "" :: heading :: entries.flatMap fun e => entryLines column e.1 e.2

/-- An option as the help names it. -/
def Opt.term (o : Opt) : String :=
  match o.purpose.placeholder? with
  | some p => o.name ++ " " ++ p
  | none => o.name

namespace CommandSpec

/-- How a command is used. -/
def usage (c : CommandSpec) : String :=
  "Usage: " ++ c.call ++ " [OPTIONS]" ++ if c.commands.isEmpty then "" else " COMMAND [ARGS]..."

/-- The help text of a command. -/
def help (c : CommandSpec) : String :=
  let lines := [c.usage, "", "  " ++ c.about] ++
    sectionLines "Options:" (c.options.map fun o => (o.term, o.help)) ++
    sectionLines "Commands:" c.commands
  String.join (lines.map (· ++ "\n"))

/-- The text that explains a fault. -/
def explain (c : CommandSpec) (e : UsageError) : String :=
  (if e.showsUsage then c.usage ++ "\nTry '" ++ c.call ++ " --help' for help.\n\n" else "") ++
    "Error: " ++ e.message ++ "\n"

end CommandSpec
end BlogGraph.CommandLine
