import TabularQuery.Json.Printer
import TabularQuery.Number.Reading
import TabularQuery.Query.Basic
import TabularQuery.Text.Order

/-!
# Comparing cells

A cell is compared by its text, with the text of a value or of another cell.  Two texts
that both denote numbers are compared as numbers, all others character by character.

## Main definitions

* `Cell.text?` — the text of a cell.
* `compareTexts` — the order of two texts.
* `Row.compareBy` — the order of two rows by the keys of an order.
-/

namespace TabularQuery

/-- The text of a stored cell; null has none. -/
def Cell.text? : Json → Option (List Char)
  | .null => none
  | .text s => some s.toList
  | v => some v.compact

/-- The text of the cell of a row in a column. -/
def Row.cell? (row : Row) (column : String) : Option (List Char) :=
  (Fields.get? column row).bind Cell.text?

/-- The order of two texts: that of the numbers they denote, if both denote one, and
otherwise that of their characters.  What is not a number is equal to every number. -/
def compareTexts (a b : List Char) : Ordering :=
  match Binary64.read? a, Binary64.read? b with
  | some x, some y => (x.compare? y).getD .eq
  | _, _ => compareCharacters a b

/-- The order of two cells that may be missing: the missing one comes after the other. -/
def compareCells? : Option (List Char) → Option (List Char) → Ordering
  | none, none => .eq
  | none, some _ => .gt
  | some _, none => .lt
  | some a, some b => compareTexts a b

/-- The order turned around for a descending key. -/
def Direction.apply : Direction → Ordering → Ordering
  | asc, o => o
  | desc, o => o.swap

namespace Row

/-- The order of two rows by one key. -/
def compareByTerm (t : OrderTerm) (a b : Row) : Ordering :=
  t.direction.apply (compareCells? (a.cell? t.column) (b.cell? t.column))

/-- The order of two rows by several keys: the first key in which they differ decides. -/
def compareBy : List OrderTerm → Row → Row → Ordering
  | [], _, _ => .eq
  | t :: rest, a, b =>
    match compareByTerm t a b with
    | .eq => compareBy rest a b
    | o => o

end Row

end TabularQuery
