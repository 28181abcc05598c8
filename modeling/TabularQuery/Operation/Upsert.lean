import TabularQuery.Operation.Read
import TabularQuery.Operation.Write

/-!
# Changing a row or inserting it

The row of a filter is looked up first.  It is changed if it is there; otherwise a row is
inserted that has the columns which the filter holds to one value.  The look-up and the
write are two queries, and another session may write between them.
-/

namespace TabularQuery

/-- The data of the row that is inserted because a filter has none. -/
def Upsert.insertion (args : Upsert) : Record :=
  Fields.insertAll args.create (Record.ofPairs args.filter.equalities)

namespace Backend

variable {σ : Type}

/-- What is reported of the way that is taken. -/
def upsertNotice (table message : String) : Event :=
  { level := .debug, origin := .engine, message, fields := [("table", .text table)] }

/-- Changes the one row of a filter, or inserts a row. -/
def upsert (b : Backend σ) (now : Instant) (table : String) (args : Upsert) :
    Session σ Record := do
  match ← b.findUnique table { filter := args.filter } with
  | some _ => do
    Session.report [upsertNotice table "Upsert matched an existing row, updating"]
    b.update now table { filter := args.filter, data := args.update }
  | none => do
    Session.report [upsertNotice table "Upsert found no row, creating"]
    b.create now table { data := args.insertion }

end Backend

end TabularQuery
