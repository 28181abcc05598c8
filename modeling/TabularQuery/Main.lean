import Std.Time.DateTime.Timestamp
import TabularQuery.Command.Run

/-!
# The program

Reads the words of the command line and the environment, runs the command, and prints what
it leaves.  Reported events go to the error output, one JSON object a line.  The program
has no transport of its own to the network; a request stays without an answer.
-/

namespace TabularQuery.Program

/-- The names that are looked up in the environment. -/
def environmentNames : List String :=
  ["SUPABASE_URL", "SUPABASE_SERVICE_KEY", "SUPABASE_ANON_KEY", "SUPABASE_SCHEMA",
    "LOG_FILTER", "RUST_LOG"]

/-- The JSON form of an event at an instant. -/
def eventJson (now : Instant) (e : Event) : Json :=
  .object
    [("timestamp", .text (String.ofList now.text)),
     ("level", .text e.level.name),
     ("fields", e.fieldsJson),
     ("target", .text e.origin.name)]

end TabularQuery.Program

open TabularQuery in
/-- Runs the program on the words of a command line. -/
def main (words : List String) : IO UInt32 := do
  let found ← Program.environmentNames.filterMapM fun name => do
    return (← IO.getEnv name).map fun v => (name, v)
  let (report, _) := Program.run words (fun name => Fields.get? name found)
    Transport.unreachable ()
  let moment ← Std.Time.Timestamp.now
  let now : Instant := ⟨moment.toSecondsSinceUnixEpoch.val, 0⟩
  let stderr ← IO.getStderr
  for e in report.events do
    stderr.putStrLn (Json.print (Program.eventJson now e))
  stderr.putStr report.errors
  (← IO.getStdout).putStr report.output
  return UInt32.ofNat report.status
