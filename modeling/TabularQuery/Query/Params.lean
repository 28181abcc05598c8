import TabularQuery.Query.Page

/-!
# Query parameters

A query as the list of name and value pairs that the service reads: the columns, the
filters, the order and the window, in this sequence.
-/

namespace TabularQuery.Query

/-- The keys of an order, with commas between them. -/
def orderText (order : List OrderTerm) : List Char :=
  Text.join [','] (order.map fun t => t.column.toList ++ '.' :: t.direction.name.toList)

/-- The parameters of the window. -/
def windowParams (q : Query) : List (List Char × List Char) :=
  match q.range, q.limit with
  | some (first, last), _ =>
    [("offset".toList, Text.digits first),
     ("limit".toList, Text.digits (windowSize first last))]
  | none, some n => [("limit".toList, Text.digits n)]
  | none, none => []

/-- The parameters of a query. -/
def params (q : Query) : List (List Char × List Char) :=
  (q.columns.toList.map fun c => ("select".toList, c.toList)) ++
    q.filters.map FilterCall.param ++
    (if q.order.isEmpty then [] else [("order".toList, orderText q.order)]) ++
    q.windowParams

/-- What a query prefers to get back: the rows of a write or none of them, and a count. -/
def preferences (q : Query) : List String :=
  (if q.action.isSelect then []
   else [if q.columns.isSome then "return=representation" else "return=minimal"]) ++
    (if q.count then ["count=exact"] else [])

/-- The preferences in one text; there is none without preferences. -/
def prefer? (q : Query) : Option String :=
  if q.preferences.isEmpty then none else some (",".intercalate q.preferences)

end TabularQuery.Query
