import TabularQuery.Backend
import TabularQuery.Store.Filtering
import TabularQuery.Store.Places

/-!
# Stores

Tables in memory that answer queries like the service.  A store remembers the queries
it was asked, and takes the ids of new rows from a supply.  The rows that a search finds are
sorted, which may have effects of its own: a sort need not return.

## Main definitions

* `Store` — tables, tables to which access is denied, queries so far, and ids.
* `Store.runBy` — what a query does to the rows of its table.
* `Store.executeBy` — the answer to a query, for any sort.
* `Store.execute` — the answer to a query, with `sortRows` as the sort.
* `Store.backendBy`, `Store.backend` — both as backends.
-/

namespace TabularQuery

/-- Tables in memory. -/
structure Store where
  tables : List (String × List Row) := []
  /-- The tables to which access is denied. -/
  denied : List String := []
  /-- The queries so far, the oldest first. -/
  requests : List Query := []
  /-- The ids of new rows. -/
  ids : Nat → String
  /-- The number of ids taken from the supply. -/
  drawn : Nat := 0

namespace Store

/-- The rows of a table. -/
def rows (s : Store) (table : String) : List Row :=
  (Fields.get? table s.tables).getD []

/-- Sets the rows of a table. -/
def setRows (s : Store) (table : String) (rows : List Row) : Store :=
  { s with tables := Fields.put table rows s.tables }

/-- The row of a JSON value, if it is an object. -/
def row? : Json → Option Row
  | .object members => some members
  | _ => none

/-- Adds rows to a table.  What is not an object is passed over. -/
def seed (s : Store) (table : String) (values : List Json) : Store :=
  s.setRows table (s.rows table ++ values.filterMap row?)

/-- Denies the access to a table. -/
def deny (s : Store) (table : String) : Store :=
  { s with denied := s.denied ++ [table] }

/-- The queries so far, and the store without them. -/
def takeRequests (s : Store) : List Query × Store :=
  (s.requests, { s with requests := [] })

/-- The fault of another number of rows than one. -/
def cardinalityFault (rows : Nat) : ServiceFault :=
  { code := some ServiceFault.notFoundCode
    message := "JSON object requested, multiple (or no) rows returned"
    details := some ("The result contains " ++ String.ofList (Text.digits rows) ++ " rows") }

/-- The fault of a table to which access is denied. -/
def deniedFault (table : String) : ServiceFault :=
  .ofCode ServiceFault.deniedCode ("permission denied for table " ++ table)

/-- Gives a row an id unless it has one; tells whether it was needed. -/
def withId (id : String) (row : Row) : Row × Bool :=
  if Fields.has "id" row then (row, false) else (Fields.put "id" (.text id) row, true)

/-- Gives ids to the rows that have none, from a place of the supply on.  Also gives the
place in the supply after them. -/
def withIds (ids : Nat → String) : Nat → List Row → List Row × Nat
  | next, [] => ([], next)
  | next, row :: rest =>
    let (row, needed) := withId (ids next) row
    let (rows, next) := withIds ids (if needed then next + 1 else next) rest
    (row :: rows, next)

/-- Fails if one row is expected and there is another number of them. -/
def expectOne (q : Query) (rows : Nat) : Except ServiceFault Unit :=
  if q.single && rows != 1 then .error (cardinalityFault rows) else .ok ()

/-- What becomes of a query that is about some rows and leaves some rows in its table: the rows
in its window, the number of rows before it is cut out if it is asked for, and the store. -/
def conclude (s : Store) (q : Query) :
    Except ServiceFault (List Row × List Row) →
      Except ServiceFault (List Row × Option Nat) × Store
  | .error fault => (.error fault, s)
  | .ok (affected, rows) =>
    let count := if q.count then some affected.length else none
    let window := q.cut affected
    match q.action with
    | .select false =>
      match expectOne q window.length with
      | .error fault => (.error fault, s)
      | .ok () => (.ok (window, count), s)
    | _ => (.ok (window, count), s.setRows q.table rows)

/-- The rows of an answer as JSON: a list, or the last row alone if one is expected. -/
def rowsToJson (q : Query) (rows : List Row) : Json :=
  let projected := rows.map fun row => Json.object (Row.project q.columns row)
  if q.single then projected.getLast?.getD .null else .array projected

/-- The answer that is made of the rows of a query. -/
def respond (q : Query) :
    Except ServiceFault (List Row × Option Nat) × Store → Except ServiceFault Answer × Store
  | (.error fault, s) => (.error fault, s)
  | (.ok (rows, count), s) =>
    let data := if q.returnsRows then some (rowsToJson q rows) else none
    (.ok { data, count }, s)

section

variable {m : Type → Type} [Monad m] (sort : List OrderTerm → List Row → m (List Row))

/-- What a query does to the rows of its table: the rows that are found, inserted, changed
or removed, and the rows of the table after it.  The ids of inserted rows are there
already. -/
def actBy (q : Query) (inserted rows : List Row) :
    m (Except ServiceFault (List Row × List Row)) :=
  let matched := Rows.places q.accepts rows
  match q.action with
  | .select _ => do
    let found ← sort q.order (Rows.copies matched rows)
    return .ok (found, rows)
  | .insert _ => pure do
    expectOne q inserted.length
    .ok (inserted, rows ++ inserted)
  | .update values => pure do
    expectOne q matched.length
    .ok (Rows.change values matched rows)
  | .delete => pure do
    expectOne q matched.length
    .ok (Rows.drain matched 0 rows)

/-- The rows of the answer to a query, their number before the window is cut out if it is
asked for, and the store after the query. -/
def runBy (s : Store) (q : Query) :
    m (Except ServiceFault (List Row × Option Nat) × Store) :=
  if s.denied.contains q.table then return (.error (deniedFault q.table), s)
  else do
    let (inserted, drawn) :=
      match q.action with
      | .insert rows => withIds s.ids s.drawn rows
      | _ => ([], s.drawn)
    let s := { s with drawn }
    return s.conclude q (← actBy sort q inserted (s.rows q.table))

/-- The answer to a query, which is remembered. -/
def executeBy (q : Query) (s : Store) : m (Except ServiceFault Answer × Store) := do
  let s := { s with requests := s.requests ++ [q] }
  return respond q (← s.runBy sort q)

end

/-- The answer to a query of a store that sorts by insertion, which always returns. -/
def execute (q : Query) (s : Store) : Except ServiceFault Answer × Store :=
  (executeBy (m := Id) sortRows q s).run

/-- A store with a sort that need not return, as a backend.  If the sort does not return, neither
does the query, nor anything after it: there is no store then, and no answer that counts. -/
def backendBy (sort : List OrderTerm → List Row → Option (List Row)) : Backend (Option Store) where
  execute q s :=
    match s.bind (executeBy sort q) with
    | some (outcome, s) => ({ outcome }, some s)
    | none => ({ outcome := .error {} }, none)

/-- A store as a backend. -/
def backend : Backend Store where
  execute q s :=
    let (outcome, s) := execute q s
    ({ outcome }, s)

end Store

end TabularQuery
