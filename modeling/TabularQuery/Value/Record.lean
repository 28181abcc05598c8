import TabularQuery.Time.Reading
import TabularQuery.Value.Basic

/-!
# Records

A record maps column names to values; its columns are in the order of their names.  The
service sends temporal columns as texts, and a record that is read has the known ones
turned into instants.

## Main definitions

* `Record.ofJson?`, `Record.toMembers` — from and to the members of a JSON object.
* `Record.normalize` — the temporal columns as instants.
-/

namespace TabularQuery

/-- A map of column names to values, in the order of the names. -/
abbrev Record := List (String × Value)

namespace Record

/-- The record of a JSON object.  Nothing else is a row. -/
def ofJson? : Json → Option Record
  | .object members => some (Fields.sorted (Value.ofJsonMembers members))
  | _ => none

/-- The members of the JSON object of a record. -/
def toMembers (r : Record) : List (String × Json) :=
  Value.toJsonFields r

/-- The JSON object of a record. -/
def toJson (r : Record) : Json :=
  .object r.toMembers

/-- A record of columns with values; the last value of a column counts. -/
def ofPairs (pairs : List (String × Value)) : Record :=
  Fields.sorted pairs

/-- Sets a column unless it holds a value already. -/
def stampIfAbsent (column : String) (now : Value) (r : Record) : Record :=
  match Fields.get? column r with
  | some v => if v.isNull then Fields.insert column now r else r
  | none => Fields.insert column now r

/-- The temporal columns. -/
def temporalColumns : List String :=
  ["created_at", "updated_at", "due_date", "start_date", "end_date", "completed_at",
    "requested_at", "reviewed_at"]

/-- Turns the text of one column into an instant, if it is one. -/
def normalizeColumn (r : Record) (column : String) : Record :=
  match Fields.get? column r with
  | some (.text s) =>
    match Instant.read? s.toList with
    | some t => Fields.insert column (.timestamp t) r
    | none => r
  | _ => r

/-- Turns the texts of the temporal columns into instants.  A text that is none stays. -/
def normalize (r : Record) : Record :=
  temporalColumns.foldl normalizeColumn r

/-- The temporal columns whose text is not an instant, with the text. -/
def unreadable (r : Record) : List (String × String) :=
  temporalColumns.filterMap fun column =>
    match Fields.get? column r with
    | some (.text s) => if (Instant.read? s.toList).isNone then some (column, s) else none
    | _ => none

/-- The sum of the numbers of a column.  Rows without a number in it are passed over, and
the sum of nothing is minus zero. -/
def sumColumn (rows : List Record) (column : String) : Binary64 :=
  Binary64.sum (rows.filterMap fun r => (Fields.get? column r).bind Value.asNumber?)

end Record

end TabularQuery
