/-!
# Log events

What an operation reports beside its result: a level, the part of the program that
reports, a message and named fields.
-/

namespace TabularQuery

/-- How grave an event is. -/
inductive Level where
  | error
  | warn
  | info
  | debug
  | trace
  deriving DecidableEq, Repr

/-- The name of a level. -/
def Level.name : Level → String
  | error => "ERROR"
  | warn => "WARN"
  | info => "INFO"
  | debug => "DEBUG"
  | trace => "TRACE"

/-- The place of a level in the order from grave to slight. -/
def Level.rank : Level → Nat
  | error => 1
  | warn => 2
  | info => 3
  | debug => 4
  | trace => 5

/-- The part of the program that reports. -/
inductive Origin where
  | program
  | filters
  | normalization
  | engine
  | reductions
  | service
  deriving DecidableEq, Repr

/-- The name under which a part reports. -/
def Origin.name : Origin → String
  | program => "crm_data"
  | filters => "crm_data::orm::filters"
  | normalization => "crm_data::orm::normalize"
  | engine => "crm_data::orm::repository"
  | reductions => "crm_data::orm::aggregate"
  | service => "crm_data::services::postgrest"

/-- The value of a field of an event. -/
inductive EventField where
  | text (value : String)
  | count (value : Nat)
  | flag (value : Bool)
  deriving DecidableEq, Repr

/-- The text of the value of a field. -/
def EventField.toText : EventField → String
  | text s => s
  | count n => toString n
  | flag b => if b then "true" else "false"

/-- A log event. -/
structure Event where
  level : Level
  origin : Origin
  message : String
  fields : List (String × EventField)
  deriving DecidableEq, Repr

end TabularQuery
