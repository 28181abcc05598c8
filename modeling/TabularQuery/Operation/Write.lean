import TabularQuery.Operation.Basic

/-!
# Writing rows

Insertion, change and deletion, of one row and of many.  Every write happens at an
instant, with which new rows and changed rows are stamped.

## Main definitions

* `Record.stampCreation`, `Record.stampChange` — the stamps of a record.
* `Backend.create`, `Backend.update`, `Backend.delete` — writes of one row.
* `Backend.createMany`, `Backend.updateMany`, `Backend.deleteMany` — writes of many.
-/

namespace TabularQuery

/-- The tables whose rows are never changed after their insertion. -/
def auditTables : List String :=
  ["audit_logs", "activity_logs", "order_status_history", "quality_inspection_history"]

namespace Record

/-- Sets the instant of the insertion and that of the last change, unless the record has
them. -/
def stampBoth (now : Instant) (r : Record) : Record :=
  (r.stampIfAbsent "created_at" (.timestamp now)).stampIfAbsent "updated_at" (.timestamp now)

/-- The stamps of a new row of a table.  Rows that are never changed have no instant of a
last change. -/
def stampCreation (table : String) (now : Instant) (r : Record) : Record :=
  if auditTables.contains table then r.stampIfAbsent "created_at" (.timestamp now)
  else r.stampBoth now

/-- Sets the instant of the last change. -/
def stampChange (now : Instant) (r : Record) : Record :=
  Fields.insert "updated_at" (.timestamp now) r

end Record

namespace Backend

variable {σ : Type}

/-- Inserts a row and gives it back. -/
def create (b : Backend σ) (now : Instant) (table : String) (args : Create) :
    Session σ Record := do
  let row := (args.data.stampCreation table now).toMembers
  let query := (((Query.ofTable table).insert [row]).select
    (Selection.columnList args.select none)).expectSingle
  let answer ← Session.send b .create query
  Session.writtenRecord .create table answer

/-- Changes the one row of a filter and gives it back. -/
def update (b : Backend σ) (now : Instant) (table : String) (args : Update) :
    Session σ Record := do
  let query := (((Query.ofTable table).update (args.data.stampChange now).toMembers).select
    (Selection.columnList args.select none)).expectSingle
  let answer ← Session.sendFiltered b .update .full args.filter query
  Session.writtenRecord .update table answer

/-- Deletes the rows of a filter. -/
def delete (b : Backend σ) (table : String) (args : Delete) : Session σ Unit := do
  let _ ← Session.sendFiltered b .delete .full args.filter (Query.ofTable table).delete

/-- Inserts rows and tells their number.  Nothing is sent for no rows. -/
def createMany (b : Backend σ) (now : Instant) (table : String) (args : CreateMany) :
    Session σ Nat := do
  if args.data.isEmpty then return 0
  let rows := args.data.map fun r => (r.stampBoth now).toMembers
  let _ ← Session.send b .createMany ((Query.ofTable table).insert rows)
  return rows.length

/-- Changes the rows of a filter and tells their number. -/
def updateMany (b : Backend σ) (now : Instant) (table : String) (args : UpdateMany) :
    Session σ Nat := do
  let query := ((Query.ofTable table).update (args.data.stampChange now).toMembers).select "id"
  let answer ← Session.sendFiltered b .updateMany .bulk args.filter query
  return answer.records.length

/-- Deletes the rows of a filter and tells their number. -/
def deleteMany (b : Backend σ) (table : String) (args : Delete) : Session σ Nat := do
  let query := (Query.ofTable table).delete.select "id"
  let answer ← Session.sendFiltered b .deleteMany .bulk args.filter query
  return answer.records.length

end Backend

end TabularQuery
