import TabularQuery.Filter.Call

/-!
# Queries

One request to the service: a table, what is done to it, the columns that come back, the
filters, the order of the rows, the window that is cut out of them, and whether exactly
one row is expected.

## Main definitions

* `Query` — the request, and `Query.ofTable`, which starts one.
-/

namespace TabularQuery

/-- The direction of an order. -/
inductive Direction where
  | asc
  | desc
  deriving DecidableEq, Repr

namespace Direction

/-- The name of a direction. -/
def name : Direction → String
  | asc => "asc"
  | desc => "desc"

/-- The direction a word names, in any case of its letters. -/
def ofText? (s : String) : Option Direction :=
  let word := s.toList.map Char.toLower
  if word == ['a', 's', 'c'] then some asc
  else if word == ['d', 'e', 's', 'c'] then some desc
  else none

end Direction

/-- One key of an order. -/
structure OrderTerm where
  column : String
  direction : Direction
  deriving DecidableEq, Repr

/-- A row as it is stored and sent: the members of a JSON object. -/
abbrev Row := List (String × Json)

/-- What a query does to its table. -/
inductive Action where
  /-- Reads rows, or only counts them. -/
  | select (head : Bool)
  | insert (rows : List Row)
  | update (values : Row)
  | delete
  deriving Repr

/-- Whether an action only reads. -/
def Action.isSelect : Action → Bool
  | select _ => true
  | _ => false

/-- One request to the service. -/
structure Query where
  table : String
  action : Action := .select false
  /-- The columns of the rows that come back.  A write without them returns no rows. -/
  columns : Option String := none
  filters : List FilterCall := []
  order : List OrderTerm := []
  /-- The first and the last row of a window. -/
  range : Option (Nat × Nat) := none
  limit : Option Nat := none
  /-- Exactly one row is expected. -/
  single : Bool := false
  /-- The number of all rows is asked for beside the rows. -/
  count : Bool := false
  deriving Repr

namespace Query

/-- A read of all columns of a table. -/
def ofTable (table : String) : Query := { table }

/-- Sets the columns that come back. -/
def select (q : Query) (columns : String) : Query := { q with columns := some columns }

/-- Asks for the number of rows and for no rows. -/
def headCount (q : Query) : Query := { q with action := .select true, count := true }

/-- Inserts rows. -/
def insert (q : Query) (rows : List Row) : Query := { q with action := .insert rows }

/-- Sets columns of the rows that are filtered. -/
def update (q : Query) (values : Row) : Query := { q with action := .update values }

/-- Deletes the rows that are filtered. -/
def delete (q : Query) : Query := { q with action := .delete }

/-- Adds filters. -/
def filter (q : Query) (calls : List FilterCall) : Query :=
  { q with filters := q.filters ++ calls }

/-- Adds keys to the order. -/
def orderBy (q : Query) (terms : List OrderTerm) : Query :=
  { q with order := q.order ++ terms }

/-- Cuts the window from one row to another out of the rows. -/
def window (q : Query) (first last : Nat) : Query := { q with range := some (first, last) }

/-- Cuts off the rows after a number of them. -/
def atMost (q : Query) (n : Nat) : Query := { q with limit := some n }

/-- Expects exactly one row. -/
def expectSingle (q : Query) : Query := { q with single := true }

/-- A short name of what a query does. -/
def verb (q : Query) : String :=
  match q.action with
  | .select true => "count"
  | .select false => "select"
  | .insert _ => "insert"
  | .update _ => "update"
  | .delete => "delete"

/-- Whether rows come back from a query. -/
def returnsRows (q : Query) : Bool :=
  match q.action with
  | .select head => !head
  | _ => q.columns.isSome

end Query

end TabularQuery
