import TabularQuery.Query.Selection

/-!
# Pages

The window that a descriptor asks for, in two spellings of which `take` and `skip` come
before `limit` and `offset`.  Counts are unsigned integers of 64 bits; a window that
would go beyond the greatest of them ends there.

## Main definitions

* `Pagination.resolve` — the window of a descriptor.
* `PageWindow.range` — its first and its last row.
* `Query.assemble` — the order and the window of a descriptor put into a query.
-/

namespace TabularQuery

/-- The greatest count. -/
def greatestCount : Nat := 18446744073709551615

/-- The number of rows of a page that names none. -/
def defaultPageSize : Nat := 20

/-- The page of a descriptor. -/
structure Pagination where
  limit : Option Nat := none
  offset : Option Nat := none
  take : Option Nat := none
  skip : Option Nat := none
  deriving DecidableEq, Repr

/-- A window: how many rows are passed over, and how many come back. -/
structure PageWindow where
  offset : Nat
  limit : Nat
  deriving DecidableEq, Repr

namespace PageWindow

/-- The first and the last row.  There is no window for a limit of zero. -/
def range (w : PageWindow) : Option (Nat × Nat) :=
  if w.limit = 0 then none
  else some (w.offset, min (w.offset + (w.limit - 1)) greatestCount)

end PageWindow

/-- The window of a page. -/
def Pagination.resolve (p : Pagination) : PageWindow :=
  { offset := (p.skip <|> p.offset).getD 0
    limit := (p.take <|> p.limit).getD defaultPageSize }

/-- The number of rows from the first to the last of a window. -/
def windowSize (first last : Nat) : Nat :=
  min (last - first + 1) greatestCount

/-- Puts an order and a page into a query. -/
def Query.assemble (q : Query) (order : SortOrder) (page : Pagination) : Query :=
  let q := q.orderBy order.terms
  match page.resolve.range with
  | some (first, last) => q.window first last
  | none => q

example : Pagination.resolve { limit := some 50, take := some 2 } = ⟨0, 2⟩ := by decide
example : PageWindow.range ⟨10, greatestCount⟩ = some (10, greatestCount) := by decide

end TabularQuery
