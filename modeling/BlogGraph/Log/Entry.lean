import BlogGraph.Json.Shown
import BlogGraph.Log.Context

/-!
# Log entries

A notice says what happened: who reports it, how serious it is, an event text and named
values. It is written as one data object per line, from the level `info` on, or as a line for
the console, from the level `debug` on. Whoever prints an entry puts the time before it.

Which parts an entry has, and in which order, follows the processors of `configure_logging`.
-/

namespace BlogGraph.Log

/-- How serious a notice is. -/
inductive Level where
  | debug
  | info
  | warning
  | error
  | critical
deriving DecidableEq, Repr

namespace Level

/-- The name of a level. -/
def name : Level → String
  | debug => "debug"
  | info => "info"
  | warning => "warning"
  | error => "error"
  | critical => "critical"

/-- The rank of a level among the others. -/
def rank : Level → Nat
  | debug => 10
  | info => 20
  | warning => 30
  | error => 40
  | critical => 50

end Level

/-- What is to be written to the log. -/
structure Notice where
  logger : String
  level : Level
  event : String
  values : Named Json

/-- How the log is written. -/
inductive Mode where
  | data
  | console
deriving DecidableEq, Repr

/-- The least serious level that is written. -/
def Mode.least : Mode → Level
  | data => .info
  | console => .debug

/-- A written entry: the fields of a data object, or a line for the console. -/
inductive Entry where
  | data (fields : Named Json)
  | line (text : String)

/-- Names that are no fields of an entry: whoever prints it puts the time, and whether a failure
or the place of the notice is to be shown is no value. -/
def withheld : List String := ["timestamp", "exc_info", "stack_info"]

/-- The fields of an entry: the values of the notice with its event, reporter and level, and
the stamp of the context. -/
def Notice.fields (context : Context) (n : Notice) : Named Json :=
  let named := n.values.set "event" (.text n.event)
  let named := named.set "logger" (.text n.logger)
  let named := named.set "level" (.text n.level.name)
  (context.stamp named).filter fun field => !withheld.contains field.1

namespace Console

/-- The characters that make a value stand in quotes on the console. -/
def quotedCharacters : List Char := [' ', '\t', '=', '\r', '\n', '"', '\'']

/-- A value as the console shows it. -/
def value : Json → String
  | .text s => if s.toList.any quotedCharacters.contains then Text.quoted s else s
  | v => v.shown

/-- A text padded with blanks to a width. -/
def pad (width : Nat) (s : String) : String :=
  s ++ String.ofList (List.replicate (width - s.length) ' ')

/-- A text without blanks at its end. -/
def trimEnd (s : String) : String :=
  String.ofList (s.toList.reverse.dropWhile (· == ' ')).reverse

/-- The fields that have their own place on a line. -/
def placed : List String := ["event", "logger", "level", "timestamp"]

/-- The line of a notice: level, event, reporter, and the other values sorted by name. -/
def line (context : Context) (n : Notice) : String :=
  let others := (n.fields context).filter fun field => !placed.contains field.1
  let sorted := others.mergeSort fun a b => a.1 ≤ b.1
  let shown := sorted.map fun field => " " ++ field.1 ++ "=" ++ value field.2
  trimEnd ("[" ++ pad 9 n.level.name ++ "] " ++ pad 30 n.event ++ " [" ++ n.logger ++ "]" ++
    String.join shown)

end Console

/-- The entry that a notice leaves in the log, if its level is written. -/
def Notice.entry? (mode : Mode) (context : Context) (n : Notice) : Option Entry :=
  if n.level.rank < mode.least.rank then none
  else
    match mode with
    | .data => some (.data (n.fields context))
    | .console => some (.line (Console.line context n))

/-- The entries that a run of notices leaves in the log. -/
def entries (mode : Mode) (context : Context) (notices : List Notice) : List Entry :=
  notices.filterMap (Notice.entry? mode context)

/-- An entry as a data value. -/
def Entry.json : Entry → Json
  | data fields => .object fields
  | line text => .text text

end BlogGraph.Log
