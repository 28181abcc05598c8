import TabularQuery.Text.Blank

/-!
# The command line

The words of a command line: a command, a table, and perhaps a descriptor, with an option
for the schema anywhere among them.

## Main definitions

* `CommandLine.read` — the command line of some words.
* `UsageFault` — why words are none.
-/

namespace TabularQuery

/-- What can be done from the command line. -/
inductive Command where
  | find
  | first
  | unique
  | count
  | aggregate
  deriving DecidableEq, Repr

namespace Command

/-- The name under which a command is reported. -/
def name : Command → String
  | find => "Find"
  | first => "First"
  | unique => "Unique"
  | count => "Count"
  | aggregate => "Aggregate"

/-- The command of a word. -/
def ofWord? (word : String) : Option Command :=
  match word with
  | "find" | "find-many" => some find
  | "first" | "find-first" => some first
  | "unique" | "find-unique" => some unique
  | "count" => some count
  | "aggregate" => some aggregate
  | _ => none

end Command

/-- How the program is used. -/
def usage : String :=
  "usage: crm-data <find|first|unique|count|aggregate> <table> [descriptor-json] " ++
    "[--schema <name>]"

/-- Why words are no command line. -/
inductive UsageFault where
  /-- There is no command, or no table. -/
  | incomplete
  | unknownCommand (word : String)
  deriving DecidableEq, Repr

/-- The wording of a fault. -/
def UsageFault.message : UsageFault → String
  | incomplete => usage
  | unknownCommand word => "unknown command '" ++ word ++ "'\n" ++ usage

/-- What a command line asks for. -/
structure CommandLine where
  command : Command
  table : String
  /-- The descriptor, a JSON text. -/
  descriptor : String := "\x7b\x7d"
  schema : Option String := none
  deriving DecidableEq, Repr

namespace CommandLine

/-- The schema in a word that names the option and its value together. -/
def schemaIn? (word : String) : Option String :=
  if "--schema=".toList.isPrefixOf word.toList then
    some (String.ofList (word.toList.drop "--schema=".length))
  else none

/-- The words that are no option, and the schema of the last option.  An option at the end
without a value takes the schema away. -/
def split : Option String → List String → List String × Option String
  | schema, [] => ([], schema)
  | schema, word :: rest =>
    if word = "--schema" then
      match rest with
      | [] => ([], none)
      | value :: rest => split (some value) rest
    else
      match schemaIn? word with
      | some value => split (some value) rest
      | none =>
        let (words, last) := split schema rest
        (word :: words, last)

/-- The command line of some words. -/
def read (words : List String) : Except UsageFault CommandLine :=
  match split none words with
  | ([], _) => .error .incomplete
  | (word :: rest, schema) =>
    match Command.ofWord? word, rest with
    | none, _ => .error (.unknownCommand word)
    | some _, [] => .error .incomplete
    | some command, [table] => .ok { command, table, schema }
    | some command, table :: descriptor :: _ => .ok { command, table, descriptor, schema }

end CommandLine

end TabularQuery
