import TabularQuery.Command.Line
import TabularQuery.LogFilter
import TabularQuery.Operation.Read
import TabularQuery.Operation.Reduction
import TabularQuery.Service.Client
import TabularQuery.Settings

/-!
# Running a command

A command line and an environment become a connection and a session, and what comes of it
becomes the text that is printed.

## Main definitions

* `CommandLine.session` — what a command does.
* `Program.run` — the whole run, up to the texts it leaves and its exit status.
-/

namespace TabularQuery

/-- The JSON form of the value of a field. -/
def EventField.toJson : EventField → Json
  | text s => .text s
  | count n => .ofNat n
  | flag b => .bool b

/-- The JSON form of the message and the fields of an event. -/
def Event.fieldsJson (e : Event) : Json :=
  .object (("message", .text e.message) :: e.fields.map fun (name, v) => (name, v.toJson))

namespace CommandLine

variable {σ α : Type}

/-- The arguments that the descriptor holds. -/
def arguments (line : CommandLine) (reader : Json.Source → Decode α) : Session σ α := do
  let (result, events) := Decode.runText reader line.descriptor
  Session.report events
  Session.ofExcept (result.mapError (.invalidDescriptor line.table))

/-- The JSON form of records. -/
def recordsJson (rs : List Record) : Json :=
  .array (rs.map Record.toJson)

/-- The JSON form of a record that may be missing. -/
def recordJson? : Option Record → Json
  | some r => r.toJson
  | none => .null

/-- What a command does, with the JSON form of its result. -/
def session (line : CommandLine) (b : Backend σ) : Session σ Json := do
  match line.command with
  | .find => return recordsJson (← b.findMany line.table (← line.arguments Decode.findMany))
  | .first => return recordJson? (← b.findFirst line.table (← line.arguments Decode.findFirst))
  | .unique =>
    return recordJson? (← b.findUnique line.table (← line.arguments Decode.findUnique))
  | .count => return .ofNat (← b.count line.table (← line.arguments Decode.count))
  | .aggregate =>
    return (← b.aggregate line.table (← line.arguments Decode.aggregate)).toJson

/-- What is reported at the beginning. -/
def notice (line : CommandLine) : Event :=
  { level := .info
    origin := .program
    message := "Running query"
    fields := [("command", .text line.command.name), ("table", .text line.table)] }

/-- The connection: the option of the command line comes before the setting. -/
def connection (line : CommandLine) (s : Settings) : Connection :=
  { s.connection with schema := line.schema <|> s.schema }

end CommandLine

/-- What a run leaves behind. -/
structure Report where
  /-- The exit status. -/
  status : Nat
  output : String := ""
  errors : String := ""
  /-- The events that are reported. -/
  events : List Event := []
  deriving Repr

namespace Report

/-- The text of a fault, with what brought it about on lines of its own. -/
def faultText (message : String) (cause : Option String) : String :=
  let indented (c : Char) : List Char :=
    if c == '\n' then '\n' :: List.replicate 4 ' ' else [c]
  "Error: " ++ message ++
    (match cause with
     | some c => "\n\nCaused by:\n    " ++ String.ofList (c.toList.flatMap indented)
     | none => "") ++ "\n"

/-- The report of a fault. -/
def failed (message : String) (cause : Option String) (events : List Event) : Report :=
  { status := 1, errors := faultText message cause, events }

/-- The report of a fault of a session. -/
def ofFault (f : DataFault) (events : List Event) : Report :=
  match f with
  | .invalidDescriptor _ _ => failed "Invalid query descriptor" (some f.message) events
  | _ => failed f.message none events

/-- The report of a result. -/
def succeeded (v : Json) (events : List Event) : Report :=
  { status := 0, output := v.pretty ++ "\n", events }

/-- A report with complaints in front of its errors. -/
def precededBy (r : Report) (complaints : List String) : Report :=
  { r with errors := String.join complaints ++ r.errors }

end Report

namespace Program

/-- A run with some words and a look-up in the environment. -/
def run {σ : Type} (words : List String) (lookup : String → Option String)
    (transport : Transport σ) (s : σ) : Report × σ :=
  match CommandLine.read words with
  | .error f => (.failed f.message none [], s)
  | .ok line =>
    match Settings.ofLookup lookup with
    | .error f => (.failed f.message f.cause? [], s)
    | .ok settings =>
      let (filter, complaints) := LogFilter.resolve (lookup "RUST_LOG") settings.logFilter
      let o := (line.session ((line.connection settings).backend transport)).run s
      let events := (line.notice :: o.events).filter filter.admits
      match o.result with
      | .ok v => ((Report.succeeded v events).precededBy complaints, o.state)
      | .error f => ((Report.ofFault f events).precededBy complaints, o.state)

end Program

end TabularQuery
