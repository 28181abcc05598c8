import TabularQuery.Descriptor.Decode
import TabularQuery.Filter.Where
import TabularQuery.Query.Page
import TabularQuery.Value.Record

/-!
# Arguments of operations

What each operation is asked for, and how the arguments of the reading operations are
decoded from descriptors.
-/

namespace TabularQuery

/-- The arguments of a search for many rows. -/
structure FindMany where
  filter : Where := {}
  order : SortOrder := {}
  select : Option Selection := none
  relations : Option Selection := none
  page : Pagination := {}
  deriving Repr

/-- The arguments of a search for the one row of a filter. -/
structure FindUnique where
  filter : Where := {}
  select : Option Selection := none
  relations : Option Selection := none
  deriving Repr

/-- The arguments of a search for the first row of an order. -/
structure FindFirst where
  filter : Where := {}
  order : SortOrder := {}
  select : Option Selection := none
  relations : Option Selection := none
  deriving Repr

/-- The arguments of a count of rows. -/
structure Count where
  filter : Where := {}
  deriving Repr

/-- The arguments of a read of some columns of the rows. -/
structure GroupBy where
  columns : List String := []
  filter : Where := {}
  count : Bool := false
  deriving Repr

/-- The arguments of a reduction of the rows to a count and sums. -/
structure Aggregate where
  filter : Where := {}
  sum : Option Selection := none
  count : Bool := false
  deriving Repr

namespace Decode

/-- A where-clause. -/
def where' (s : Json.Source) : Decode Where := do
  let v ← json s
  report (Where.notices v)
  ofPart (Where.ofJson v)

/-- A selection. -/
def selection (s : Json.Source) : Decode Selection := do
  ofPart (Selection.ofJson (← json s))

/-- An order. -/
def sortOrder (s : Json.Source) : Decode SortOrder := do
  ofPart (SortOrder.ofJson (← json s))

/-- A flag. -/
def flag (s : Json.Source) : Decode Bool := do
  return (← json s).isTruthy

/-- The fields of a page. -/
def pageShape : Shape Pagination where
  name := "Pagination"
  fields :=
    [("limit", fun s p => do return { p with limit := ← optional unsigned s }),
     ("offset", fun s p => do return { p with offset := ← optional unsigned s }),
     ("take", fun s p => do return { p with take := ← optional unsigned s }),
     ("skip", fun s p => do return { p with skip := ← optional unsigned s })]

/-- A page on its own. -/
def pagination (s : Json.Source) : Decode Pagination := do
  return (← ofShape pageShape {} s).1

/-- The fields of a search for many rows, apart from those of its page. -/
def findManyShape : Shape FindMany where
  name := "FindManyArgs"
  fields :=
    [("where", fun s a => do return { a with filter := ← where' s }),
     ("orderBy", fun s a => do return { a with order := ← sortOrder s }),
     ("select", fun s a => do return { a with select := ← optional selection s }),
     ("include", fun s a => do return { a with relations := ← optional selection s })]

/-- The arguments of a search for many rows.  The fields of the page stand among the
others; they are kept aside until the object has come to its end.  A list is no such
arguments. -/
def findMany (s : Json.Source) : Decode FindMany :=
  match unfold s with
  | .object ms e => do
    let shape : Shape (FindMany × List (String × Json)) :=
      { name := findManyShape.name
        fields := findManyShape.fields.map fun (k, reader) =>
          (k, fun s (a, kept) => do return (← reader s a, kept)) }
    let keep (key : String) (s : Json.Source) (a : FindMany × List (String × Json)) := do
      return (a.1, a.2 ++ [(key, ← json s)])
    let (a, kept) ← members shape keep [] ms ({}, [])
    ending e
    let page ← members pageShape ignore [] (kept.map fun (k, v) => (⟨k, none⟩, .value v)) {}
    return { a with page }
  | s => wrongKind s "struct FindManyArgs"

/-- The arguments of a search for the first row. -/
def findFirst (s : Json.Source) : Decode FindFirst := do
  let shape : Shape FindFirst :=
    { name := "FindFirstArgs"
      fields :=
        [("where", fun s a => do return { a with filter := ← where' s }),
         ("orderBy", fun s a => do return { a with order := ← sortOrder s }),
         ("select", fun s a => do return { a with select := ← optional selection s }),
         ("include", fun s a => do return { a with relations := ← optional selection s })] }
  return (← ofShape shape {} s).1

/-- The arguments of a search for one row. -/
def findUnique (s : Json.Source) : Decode FindUnique := do
  let shape : Shape FindUnique :=
    { name := "FindUniqueArgs"
      fields :=
        [("where", fun s a => do return { a with filter := ← where' s }),
         ("select", fun s a => do return { a with select := ← optional selection s }),
         ("include", fun s a => do return { a with relations := ← optional selection s })] }
  return (← ofShape shape {} s).1

/-- The arguments of a count. -/
def count (s : Json.Source) : Decode Count := do
  let shape : Shape Count :=
    { name := "CountArgs"
      fields := [("where", fun s a => do return { a with filter := ← where' s })] }
  return (← ofShape shape {} s).1

/-- The arguments of a read of some columns, which must be named. -/
def groupBy (s : Json.Source) : Decode GroupBy := do
  let shape : Shape (GroupBy × Bool) :=
    { name := "GroupByArgs"
      fields :=
        [("by", fun s (a, _) => do return ({ a with columns := ← list text s }, true)),
         ("where", fun s (a, named) => do return ({ a with filter := ← where' s }, named)),
         ("_count", fun s (a, named) => do return ({ a with count := ← flag s }, named))] }
  match ← ofShape shape ({}, false) s with
  | ((a, true), _) => pure a
  | ((_, false), none) => throw (.missing "by")
  | ((_, false), some n) => throw (.tooFew n "struct GroupByArgs with 3 elements")

/-- The arguments of a reduction. -/
def aggregate (s : Json.Source) : Decode Aggregate := do
  let shape : Shape Aggregate :=
    { name := "AggregateArgs"
      fields :=
        [("where", fun s a => do return { a with filter := ← where' s }),
         ("_sum", fun s a => do return { a with sum := ← optional selection s }),
         ("_count", fun s a => do return { a with count := ← flag s })] }
  return (← ofShape shape {} s).1

end Decode

/-- The arguments of an insertion of one row. -/
structure Create where
  data : Record
  select : Option Selection := none

/-- The arguments of a change of the one row of a filter. -/
structure Update where
  filter : Where := {}
  data : Record
  select : Option Selection := none

/-- The arguments of a deletion. -/
structure Delete where
  filter : Where := {}

/-- The arguments of an insertion of many rows. -/
structure CreateMany where
  data : List Record

/-- The arguments of a change of many rows. -/
structure UpdateMany where
  filter : Where := {}
  data : Record

/-- The arguments of a change of the row of a filter, or its insertion. -/
structure Upsert where
  filter : Where := {}
  create : Record
  update : Record

end TabularQuery
