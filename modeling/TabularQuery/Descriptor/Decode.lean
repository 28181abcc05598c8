import TabularQuery.Filter.Fault
import TabularQuery.Json.Source
import TabularQuery.Log
import TabularQuery.Text.Quotation
import TabularQuery.Time.Reading

/-!
# Decoding

Reading a value of a given shape from a JSON text or from a JSON value.  A text is read
from the left, and the first thing that is wrong ends the reading, whether it is the
shape or the text itself; a text that is broken off later does not matter then.

A shape with named fields may be given as an object or as a list of the values of its
fields in their order.

## Main definitions

* `Decode.Fault` — what can be wrong.
* `Decode` — a reader, which may also report events.
* `Decode.ofShape` — the reader of a shape with named fields.
-/

namespace TabularQuery

/-- What stands where something else is expected. -/
inductive Found where
  | null
  | bool (value : Bool)
  | number (value : JsonNumber)
  | text (value : String)
  | sequence
  | map
  deriving Repr

/-- The wording of what was found. -/
def Found.message : Found → String
  | null => "null"
  | bool b => "boolean `" ++ (if b then "true" else "false") ++ "`"
  | number (.integer i) => "integer `" ++ String.ofList (Text.integer i) ++ "`"
  | number (.real x) => "floating point `" ++ String.ofList x.json ++ "`"
  | text s => "string " ++ String.ofList (Text.quotation s.toList)
  | sequence => "sequence"
  | map => "map"

namespace Decode

/-- Why nothing could be decoded. -/
inductive Fault where
  /-- The text is not JSON. -/
  | malformed (fault : Json.TextFault)
  | wrongKind (found : Found) (expected : String)
  | outOfRange (found : Found) (expected : String)
  | missing (field : String)
  | duplicate (field : String)
  /-- A list has fewer values than the shape needs. -/
  | tooFew (count : Nat) (expected : String)
  /-- A list has more values than the shape has fields. -/
  | tooMany (count : Nat)
  | refused (fault : DescriptorFault)
  | time (fault : TimeFault)
  deriving Repr

/-- The wording of a fault. -/
def Fault.message : Fault → String
  | malformed f => f.message
  | wrongKind found expected =>
    "invalid type: " ++ found.message ++ ", expected " ++ expected
  | outOfRange found expected =>
    "invalid value: " ++ found.message ++ ", expected " ++ expected
  | missing field => "missing field `" ++ field ++ "`"
  | duplicate field => "duplicate field `" ++ field ++ "`"
  | tooFew n expected =>
    "invalid length " ++ String.ofList (Text.digits n) ++ ", expected " ++ expected
  | tooMany n =>
    "invalid length " ++ String.ofList (Text.digits n) ++ ", expected fewer elements in array"
  | refused f => f.message
  | time f => f.message

end Decode

/-- A reader with a result of a type.  It keeps the events it reports even when it fails. -/
abbrev Decode (α : Type) := ExceptT Decode.Fault (StateM (List Event)) α

namespace Decode

variable {α : Type}

/-- Reports events. -/
def report (events : List Event) : Decode Unit :=
  modify (· ++ events)

/-- The result of a reading of the text. -/
def ofText (r : Except Json.TextFault α) : Decode α :=
  match r with
  | .ok a => pure a
  | .error f => throw (.malformed f)

/-- The result of a reading of a descriptor value. -/
def ofPart (r : Except DescriptorFault α) : Decode α :=
  match r with
  | .ok a => pure a
  | .error f => throw (.refused f)

/-- A JSON value as a tree of one level. -/
def sourceOf : Json → Json.Source
  | .array items => .list (items.map .value) .closed
  | .object members => .object (members.map fun m => (⟨m.1, none⟩, .value m.2)) .closed
  | v => .value v

/-- A tree whose first level is not a value. -/
def unfold : Json.Source → Json.Source
  | .value v => sourceOf v
  | s => s

/-- The value of a tree within the outermost level. -/
def json (s : Json.Source) : Decode Json :=
  ofText (s.toJson (Json.depthLimit - 1))

/-- What a tree is, where something else is expected. -/
def found (s : Json.Source) : Decode Found :=
  match unfold s with
  | .null => pure .null
  | .bool b => pure (.bool b)
  | .number n => do return .number (← ofText n.value)
  | .text t => do return .text (← ofText (Json.Source.readText t))
  | .list _ _ => pure .sequence
  | .object _ _ => pure .map
  | .broken b => throw (.malformed b.reading)
  | .value .null => pure .null
  | .value (.bool b) => pure (.bool b)
  | .value (.number n) => pure (.number n)
  | .value (.text s) => pure (.text s)
  | .value (.array _) => pure .sequence
  | .value (.object _) => pure .map

/-- Fails because a tree is something else than expected. -/
def wrongKind (s : Json.Source) (expected : String) : Decode α := do
  throw (.wrongKind (← found s) expected)

/-- A text. -/
def text (s : Json.Source) : Decode String := do
  match ← found s with
  | .text t => pure t
  | other => throw (.wrongKind other "a string")

/-- An integer that a test accepts. -/
def integer (accepts : Int → Bool) (expected : String) (s : Json.Source) : Decode Int := do
  match ← found s with
  | .number (.integer i) =>
    if accepts i then pure i else throw (.outOfRange (.number (.integer i)) expected)
  | other => throw (.wrongKind other expected)

/-- An unsigned integer of 64 bits. -/
def unsigned (s : Json.Source) : Decode Nat := do
  return (← integer JsonNumber.fitsUnsigned "u64" s).toNat

/-- A signed integer of 64 bits. -/
def signed (s : Json.Source) : Decode Int :=
  integer JsonNumber.fitsSigned "i64" s

/-- Nothing for null, otherwise what a reader reads. -/
def optional (reader : Json.Source → Decode α) (s : Json.Source) : Decode (Option α) :=
  match unfold s with
  | .null | .value .null => pure none
  | s => do return some (← reader s)

/-- The end of a list or object. -/
def ending : Json.Ending → Decode Unit
  | .closed => pure ()
  | .broken b => throw (.malformed b.reading)

/-- What a reader reads from the items of a list. -/
def items (reader : Json.Source → Decode α) : List Json.Source → Decode (List α)
  | [] => pure []
  | s :: rest => do
    let a ← reader s
    let more ← items reader rest
    return a :: more

/-- A list of what a reader reads. -/
def list (reader : Json.Source → Decode α) (s : Json.Source) : Decode (List α) :=
  match unfold s with
  | .list vs e => do
    let as ← items reader vs
    ending e
    return as
  | s => wrongKind s "a sequence"

/-- A shape with named fields: its name and the readers of its fields, each of which
changes a result that is being put together. -/
structure Shape (α : Type) where
  name : String
  fields : List (String × (Json.Source → α → Decode α))

/-- The names of the fields of a shape. -/
def Shape.names (shape : Shape α) : List String :=
  shape.fields.map (·.1)

/-- Reads the members of an object one after the other.  Members that are no fields are
passed over, or handed to another reader. -/
def members (shape : Shape α) (other : String → Json.Source → α → Decode α) :
    List String → List (Json.QuotedText × Json.Source) → α → Decode α
  | _, [], a => pure a
  | seen, (k, s) :: rest, a => do
    let key ← ofText (Json.Source.readText k)
    match Fields.get? key shape.fields with
    | some reader =>
      if seen.contains key then throw (.duplicate key)
      else
        let a ← reader s a
        members shape other (key :: seen) rest a
    | none =>
      let a ← other key s a
      members shape other seen rest a

/-- Passes over a member that is no field. -/
def ignore (_ : String) (s : Json.Source) (a : α) : Decode α := do
  ofText s.skip
  return a

/-- What follows the last field of a shape in a list that has not come to its end. -/
def surplus (total : Nat) : List Json.Source → Json.Ending → Decode Unit
  | [], .closed => pure ()
  | [], .broken b =>
    match b.reading with
    | .endInList | .trailingComma => throw (.malformed b.reading)
    | _ => throw (.malformed .trailingCharacters)
  | _ :: _, _ => throw (.tooMany total)

/-- Reads the fields of a shape from the items of a list, in order. -/
def positions (total : Nat) (e : Json.Ending) :
    List (String × (Json.Source → α → Decode α)) → List Json.Source → α → Decode α
  | [], rest, a => do
    surplus total rest e
    return a
  | _ :: _, [], a => do
    ending e
    return a
  | (_, reader) :: fields, s :: rest, a => do
    let a ← reader s a
    positions total e fields rest a

/-- Reads a shape with named fields, beginning with a result in which all are missing.
Also tells whether it was given as a list, and of how many values. -/
def ofShape (shape : Shape α) (start : α) (s : Json.Source) : Decode (α × Option Nat) :=
  match unfold s with
  | .object ms e => do
    let a ← members shape ignore [] ms start
    ending e
    return (a, none)
  | .list vs e => do
    let a ← positions vs.length e shape.fields vs start
    return (a, some vs.length)
  | s => wrongKind s ("struct " ++ shape.name)

/-- Runs a reader on a JSON value. -/
def runValue (reader : Json.Source → Decode α) (v : Json) : Except Fault α × List Event :=
  (reader (sourceOf v)).run.run []

/-- Runs a reader on a text.  In a text, too many values in a list are characters that do
not belong to it. -/
def runText (reader : Json.Source → Decode α) (s : String) : Except Fault α × List Event :=
  let (source, more) := Json.Source.scan s.toList
  match (reader source).run.run [] with
  | (.ok a, events) =>
    (if more then .error (.malformed .trailingCharacters) else .ok a, events)
  | (.error (.tooMany _), events) => (.error (.malformed .trailingCharacters), events)
  | (.error f, events) => (.error f, events)

end Decode

end TabularQuery
