import TabularQuery.Operation.Basic

/-!
# Reducing rows

The service has neither groups nor sums: all rows of a filter are fetched, and the
reduction is made of them here.  These rows come back as they are, with their temporal
columns as texts.

## Main definitions

* `Backend.groupBy` — some columns of the rows.
* `Backend.aggregate` — the number of the rows and sums of their columns.
-/

namespace TabularQuery

/-- The columns that are fetched. -/
def GroupBy.columnList (args : GroupBy) : String :=
  let columns :=
    if args.count || args.columns.isEmpty then args.columns ++ ["*"] else args.columns
  String.ofList (Text.join [','] (columns.map String.toList))

/-- A reduction: the number of rows, if it is asked for, and sums by column, in the order
of the columns. -/
structure Reduced where
  count : Option Nat := none
  sums : List (String × Binary64) := []
  deriving Repr

namespace Reduced

/-- The reduction of rows. -/
def ofRecords (args : Aggregate) (rows : List Record) : Reduced where
  count := if args.count then some rows.length else none
  sums := Fields.sorted
    ((args.sum.getD {}).names.map fun column => (column, Record.sumColumn rows column))

/-- The JSON form.  It has only what there is. -/
def toJson (r : Reduced) : Json :=
  .object
    ((match r.count with
      | some n => [("_count", .ofNat n)]
      | none => []) ++
     (if r.sums.isEmpty then []
      else [("_sum", .object (r.sums.map fun (column, x) => (column, .ofBinary64 x)))]))

end Reduced

namespace Backend

variable {σ : Type}

/-- Some columns of all rows of a filter, one record for each row. -/
def groupBy (b : Backend σ) (table : String) (args : GroupBy) : Session σ (List Record) := do
  let answer ← Session.sendFiltered b .groupBy .full args.filter
    ((Query.ofTable table).select args.columnList)
  return answer.records

/-- The number of the rows of a filter and the sums of columns. -/
def aggregate (b : Backend σ) (table : String) (args : Aggregate) : Session σ Reduced := do
  let answer ← Session.sendFiltered b .aggregate .full args.filter
    ((Query.ofTable table).select "*")
  let rows := answer.records
  Session.report
    [{ level := .debug
       origin := .reductions
       message := "Reducing rows client-side"
       fields := [("table", .text table), ("rows", .count rows.length)] }]
  return .ofRecords args rows

end Backend

end TabularQuery
