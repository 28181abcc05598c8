import TabularQuery.Store.Comparison
import TabularQuery.Store.Pattern
import TabularQuery.Query.Page

/-!
# Filtering, ordering and cutting rows

What a query asks of the rows of a table, as functions on lists of rows.

## Main definitions

* `FilterCall.accepts` — whether a row passes a filter.
* `sortRows` — the rows in an order, rows that are equal in it as they were.
* `Query.cut` — the window of a query.
* `Row.project` — the columns of a row that are asked for.
-/

namespace TabularQuery

namespace FilterCall

/-- Whether the text of a cell equals a value. -/
def equalsCell (cell : List Char) (v : Value) : Bool :=
  compareTexts cell v.plain == .eq

mutual

/-- Whether a row passes a filter.  A cell that is missing or null passes none. -/
def accepts (row : Row) : FilterCall → Bool
  | compare op column v =>
    match row.cell? column with
    | some cell => op.holds (compareTexts cell v.plain)
    | none => false
  | among column vs =>
    match row.cell? column with
    | some cell => vs.any (equalsCell cell)
    | none => false
  | notAmong column vs =>
    match row.cell? column with
    | some cell => !vs.any (equalsCell cell)
    | none => false
  | like column pattern =>
    match row.cell? column with
    | some cell => Pattern.accepts cell pattern.toList
    | none => false
  | anyOf branches => acceptsSome row branches

/-- Whether a row passes one of some filters. -/
def acceptsSome (row : Row) : List FilterCall → Bool
  | [] => false
  | call :: rest => accepts row call || acceptsSome row rest

end

theorem acceptsSome_eq_any (row : Row) (calls : List FilterCall) :
    acceptsSome row calls = calls.any (accepts row) := by
  induction calls with
  | nil => rfl
  | cons call rest ih => simp [acceptsSome, ih]

end FilterCall

/-- Whether a row passes all filters of a query. -/
def Query.accepts (q : Query) (row : Row) : Bool :=
  q.filters.all (FilterCall.accepts row)

/-- Puts an element into a list that is ordered from its end, as far from the end as it
is before the elements there. -/
def insertFromEnd {α : Type} (before : α → α → Bool) (x : α) : List α → List α
  | [] => [x]
  | y :: rest => if before x y then y :: insertFromEnd before x rest else x :: y :: rest

/-- The elements of a list in order, equal ones as they were. -/
def sortBy {α : Type} (before : α → α → Bool) (xs : List α) : List α :=
  (xs.foldl (fun sorted x => insertFromEnd before x sorted) []).reverse

/-- The rows in an order. -/
def sortRows (terms : List OrderTerm) (rows : List Row) : List Row :=
  sortBy (fun a b => Row.compareBy terms a b == .lt) rows

/-- The rows of the window of a query. -/
def Query.cut {α : Type} (q : Query) (rows : List α) : List α :=
  match q.range, q.limit with
  | some (first, last), _ => (rows.drop first).take (windowSize first last)
  | none, some n => rows.take n
  | none, none => rows

/-- The names in a list of columns, those of related rows left out. -/
def columnNames (columns : String) : List (List Char) :=
  ((Text.splitOn ',' columns.toList).map Text.trim).filter fun c => !c.contains '('

/-- The columns of a row that are asked for, in the order of the row. -/
def Row.project (columns : Option String) (row : Row) : Row :=
  match columns with
  | none => row
  | some columns =>
    let names := columnNames columns
    if names.contains ['*'] then row
    else row.filter fun field => names.contains field.1.toList

theorem insertFromEnd_perm {α : Type} (before : α → α → Bool) (x : α) (xs : List α) :
    (insertFromEnd before x xs).Perm (x :: xs) := by
  induction xs with
  | nil => exact List.Perm.refl _
  | cons y rest ih =>
    simp only [insertFromEnd]
    split
    · exact (ih.cons y).trans (List.Perm.swap x y rest)
    · exact List.Perm.refl _

/-- Ordering a list keeps its elements. -/
theorem sortBy_perm {α : Type} (before : α → α → Bool) (xs : List α) :
    (sortBy before xs).Perm xs := by
  have go (ys acc : List α) :
      (ys.foldl (fun sorted x => insertFromEnd before x sorted) acc).Perm (ys ++ acc) := by
    induction ys generalizing acc with
    | nil => exact List.Perm.refl _
    | cons y rest ih =>
      refine (ih _).trans ?_
      refine ((insertFromEnd_perm before y acc).append_left rest).trans ?_
      exact List.perm_middle
  have h := go xs []
  rw [List.append_nil] at h
  exact (List.reverse_perm _).trans h

end TabularQuery
