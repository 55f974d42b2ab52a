import BillingQuery.Service.Server
import BillingQuery.Service.Wire
import BillingQuery.Store.Wire

/-!
# Command line

`serve FILE` loads the tables in a file and answers requests from standard input, one JSON object a
line, each with one line of output. `migrate` lists the tables and columns that such a file may
have. Settings are taken from the environment.
-/

namespace BillingQuery

def readSettings : IO Settings := do
  let mut found : List (String × String) := []
  for name in Settings.variableNames do
    if let some value ← IO.getEnv name then
      found := (name, value) :: found
  return .ofEnvironment fun name => found.lookup name

/-- The answer to a line of input. -/
def answerLine (settings : Settings) (db : Database) (line : String) : String :=
  match Json.valueOfText? Json.maxNesting line with
  | some j => (answer settings db (Request.ofJson j)).toJson.write
  | none => Answer.unreadableBody.toJson.write

/-- Answers lines until the input ends. -/
partial def serve (settings : Settings) (db : Database) (input output : IO.FS.Stream) :
    IO Unit := do
  let line ← input.getLine
  if line.isEmpty then return
  output.putStrLn (answerLine settings db line)
  output.flush
  serve settings db input output

def failWith (message : String) : IO UInt32 := do
  IO.eprintln message
  return 1

def usage : String := "usage: serve FILE | migrate"

/-- Runs a command, and gives the exit code. -/
def runCommand (args : List String) : IO UInt32 := do
  match args with
  | ["serve", file] =>
    let some tables := Json.valueOfText? Json.maxNesting (← IO.FS.readFile file)
      | return ← failWith ("no tables in " ++ file)
    match Database.ofJson tables with
    | .ok db =>
      serve (← readSettings) db (← IO.getStdin) (← IO.getStdout)
      return 0
    | .error refusal => failWith refusal.message
  | ["migrate"] =>
    for r in Resource.all do
      IO.println (r.schema.table ++ ": " ++ ", ".intercalate (r.layout.map Column.name))
    return 0
  | _ =>
    IO.eprintln usage
    return 2

end BillingQuery

def main (args : List String) : IO UInt32 := BillingQuery.runCommand args
