import BlogGraph.CommandLine.Run
import BlogGraph.Log.RequestId
import BlogGraph.Json.Writer
import BlogGraph.Settings.Load
import Std.Time.DateTime

/-!
# The program

The outer layer: variables, files, the clock, and the standard streams. The server's connection
is the standard input: every line of it is the body of a request to the endpoint, and the body
of the response is printed as a line. Log entries are printed in between, each with its time.
-/

namespace BlogGraph.Program

/-- A number with two digits at least. -/
def twoDigits (n : Nat) : String := if n < 10 then "0" ++ toString n else toString n

/-- The time in words: date, time of day and microseconds, in universal time. -/
def timeText : IO String := do
  let now ← Std.Time.Timestamp.now
  let t := Std.Time.PlainDateTime.ofWallTime (now.toWallTime Std.Time.TimeZone.Offset.zero)
  let date := "-".intercalate
    [toString t.year.toInt, twoDigits t.month.toNat, twoDigits t.day.toNat]
  let time := ":".intercalate
    [twoDigits t.hour.toNat, twoDigits t.minute.toNat, twoDigits t.second.toNat]
  let micros := toString (t.nanosecond.toNat / 1000)
  return date ++ "T" ++ time ++ "." ++ "".pushn '0' (6 - micros.length) ++ micros ++ "Z"

/-- Prints a log entry with its time. -/
def printEntry (e : Log.Entry) : IO Unit := do
  let time ← timeText
  match e with
  | .line text => IO.println (time ++ " " ++ text)
  | .data fields =>
    IO.println (Json.write (.object (fields.set "timestamp" (.text time))))

/-- The variables that set fields, in small and in capital letters. -/
def inheritedVariables : IO (Named String) := do
  let names := Settings.Field.all.flatMap fun f => [f.variableName, f.variableName.toUpper]
  let mut inherited : Named String := []
  for name in names do
    if let some value ← IO.getEnv name then
      inherited := inherited.set name value
  return inherited

/-- The text of the file of variables, if there is one. -/
def variablesFile : IO (Option String) := do
  try
    return some (← IO.FS.readFile ".env")
  catch _ =>
    return none

/-- A fresh request identifier. -/
def freshIdentifier : IO String := do
  let now ← Std.Time.Timestamp.now
  let micros := now.toNanosecondsSinceUnixEpoch.toInt / 1000
  let random ← IO.getRandomBytes 2
  match RequestId.ofMicroseconds micros random.toList with
  | .ok id => return id
  | .error f => throw (IO.userError f.message)

/-- A body as it is printed. -/
def bodyText : Http.Body → String
  | .data v => Json.write v
  | .page => ""
  | .text s => s

/-- The request that a line of the input stands for. -/
def requestOfLine (host line : String) : Http.Request where
  method := "POST"
  path := OperationName.endpointPath
  query := ""
  headers := [("content-type", "application/json")]
  body := Encoding.Utf8.encode (Text.trimBlanks line.toList)
  client := none
  server := host

/-- Answers the lines of the input until it ends. -/
partial def answerLines (host : String) (input : IO.FS.Stream) (a : Service.Application) :
    IO Unit := do
  let line ← input.getLine
  if line.isEmpty then return
  let id ← freshIdentifier
  let handled := a.handle (fun _ => id) (requestOfLine host line)
  for e in handled.entries do
    printEntry e
  IO.println (bodyText handled.response.body)
  answerLines host input handled.application

/-- Serves as a server call asks for; without an application one is started from the settings
that the environment then gives. -/
def serve (inherited : Named String) (mode : Log.Mode) (c : CommandLine.ServerCall) : IO Unit := do
  let input ← IO.getStdin
  match c.application with
  | some a => answerLines c.host input a
  | none =>
    match Settings.load inherited (← variablesFile) with
    | .error e => IO.eprintln e.message
    | .ok settings =>
      let started := Service.Application.start settings mode none
      for e in started.entries do
        printEntry e
      answerLines c.host input started.application

/-- Runs a command line. -/
def run (words : List String) : IO UInt32 := do
  let inherited ← inheritedVariables
  match Settings.load inherited (← variablesFile) with
  | .error e =>
    IO.eprintln e.message
    return 1
  | .ok settings =>
    let run := CommandLine.Run.ofArguments settings inherited .returned words
    IO.print run.output
    IO.eprint run.errors
    for e in run.entries do
      printEntry e
    for c in run.calls do
      serve run.environment (if c.logLevel = "debug" then .console else .data) c
    return UInt32.ofNat run.exitCode

end BlogGraph.Program

/-- Runs the program. -/
def main (args : List String) : IO UInt32 :=
  BlogGraph.Program.run args
