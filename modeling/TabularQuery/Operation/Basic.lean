import TabularQuery.Descriptor.Args
import TabularQuery.Session

/-!
# What operations share

The compilation of a where-clause into a query, the rows of an answer, and the search for
one row.
-/

namespace TabularQuery

namespace Query

/-- Adds the filters of a where-clause to a query.  The disjunction is taken out of the clause,
and what is left of it comes back beside the query. -/
def compile (q : Query) (d : Dispatch) (w : Where) : Query × Where :=
  (q.filter (w.calls d), w.withoutDisjunction)

/-- A clause that was compiled does not bring its disjunction into a second query. -/
theorem compile_again (q q' : Query) (d d' : Dispatch) (w : Where) :
    q'.compile d' (q.compile d w).2 = (q'.filter (w.fieldCalls d'), w.withoutDisjunction) :=
  rfl

/-- A query with the filters of a where-clause that is not used again. -/
def restrict (q : Query) (d : Dispatch) (w : Where) : Query :=
  (q.compile d w).1

theorem restrict_eq (q : Query) (d : Dispatch) (w : Where) :
    q.restrict d w = q.filter (w.calls d) := rfl

end Query

/-- The records of an answer.  A single object counts as one row; what is no object is no
row. -/
def Answer.records (a : Answer) : List Record :=
  match a.data with
  | some (.array items) => items.filterMap Record.ofJson?
  | some v => (Record.ofJson? v).toList
  | none => []

namespace Record

/-- What is reported when a record is normalized: the texts that are no instants. -/
def notices (r : Record) : List Event :=
  r.unreadable.map fun (column, text) =>
    { level := .debug
      origin := .normalization
      message := "Leaving unparseable timestamp as text"
      fields := [("field", .text column), ("value", .text text)] }

end Record

namespace Session

variable {σ : Type}

/-- Sends a query with the filters of a where-clause. -/
def sendFiltered (b : Backend σ) (op : Operation) (d : Dispatch) (w : Where) (q : Query) :
    Session σ Answer := do
  report (w.fallbackNotices q.table d)
  send b op (q.restrict d w)

/-- Records with their temporal columns as instants. -/
def normalizeAll (rs : List Record) : Session σ (List Record) := do
  report (rs.flatMap Record.notices)
  return rs.map Record.normalize

/-- The first row of an answer, with its temporal columns as instants. -/
def firstRecord (a : Answer) : Session σ (Option Record) := do
  return (← normalizeAll (a.records.take 1)).head?

/-- The answer of a search for one row.  That there is none, or are several, is no
fault. -/
def orNone (op : Operation) (table : String) (search : Session σ Answer) :
    Session σ (Option Record) :=
  search.settle fun
    | .ok a => firstRecord a
    | .error f =>
      if f.isNotFound then do
        report
          [{ level := .debug
             origin := .engine
             message := "No matching row"
             fields := [("operation", .text op.name), ("table", .text table)] }]
        return none
      else fail f

/-- The row that a write gives back. -/
def writtenRecord (op : Operation) (table : String) (a : Answer) : Session σ Record := do
  match ← firstRecord a with
  | some r => return r
  | none => fail (.backend op table (.transport "no row returned"))

end Session

end TabularQuery
