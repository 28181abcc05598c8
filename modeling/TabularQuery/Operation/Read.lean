import TabularQuery.Operation.Basic

/-!
# Reading rows

The searches for many rows, for the first row of an order and for the one row of a
filter, and the count of rows.
-/

namespace TabularQuery.Backend

variable {σ : Type}

/-- The query of a search for many rows, without its filters. -/
def findManyQuery (table : String) (args : FindMany) : Query :=
  (((Query.ofTable table).select (Selection.columnList args.select args.relations)).assemble
    args.order args.page)

/-- It has the columns, the order and the window of the arguments. -/
theorem findManyQuery_eq (table : String) (args : FindMany) :
    findManyQuery table args =
      { table
        columns := some (Selection.columnList args.select args.relations)
        order := args.order.terms
        range := args.page.resolve.range } := by
  rw [findManyQuery, Query.assemble]
  cases args.page.resolve.range with
  | none => rfl
  | some window => rfl

/-- The rows of a page of a filter, in an order. -/
def findMany (b : Backend σ) (table : String) (args : FindMany) :
    Session σ (List Record) := do
  let answer ← Session.sendFiltered b .findMany .full args.filter (findManyQuery table args)
  Session.normalizeAll answer.records

/-- The query of a search for the one row of a filter. -/
def findUniqueQuery (table : String) (args : FindUnique) : Query :=
  ((Query.ofTable table).select
    (Selection.columnList args.select args.relations)).expectSingle

/-- The one row of a filter; none if there is none or are several. -/
def findUnique (b : Backend σ) (table : String) (args : FindUnique) :
    Session σ (Option Record) :=
  Session.orNone .findUnique table
    (Session.sendFiltered b .findUnique .full args.filter (findUniqueQuery table args))

/-- The query of a search for the first row of an order. -/
def findFirstQuery (table : String) (args : FindFirst) : Query :=
  ((((Query.ofTable table).select (Selection.columnList args.select args.relations)).orderBy
    args.order.terms).atMost 1).expectSingle

/-- The first row of a filter in an order. -/
def findFirst (b : Backend σ) (table : String) (args : FindFirst) :
    Session σ (Option Record) :=
  Session.orNone .findFirst table
    (Session.sendFiltered b .findFirst .full args.filter (findFirstQuery table args))

/-- The number of rows of a filter. -/
def count (b : Backend σ) (table : String) (args : Count) : Session σ Nat := do
  let answer ← Session.sendFiltered b .count .count args.filter
    ((Query.ofTable table).select "*").headCount
  return answer.count.getD 0

end TabularQuery.Backend
