import TabularQuery.Query.Basic

/-!
# Rows at places

A query first notes the places of the rows that pass its filters.  It then copies, changes or
takes out the rows at these places, one after the other.

## Main definitions

* `Rows.places` — the places of the rows of a choice.
* `Rows.copies`, `Rows.change`, `Rows.drain` — what is done with the rows at places.
-/

namespace TabularQuery.Rows

/-- The places of the rows of a choice. -/
def places (chosen : Row → Bool) (rows : List Row) : List Nat :=
  (rows.zipIdx.filter fun entry => chosen entry.1).map Prod.snd

/-- The rows at some places. -/
def copies (places : List Nat) (rows : List Row) : List Row :=
  places.map fun i => rows[i]!

/-- Sets values in the rows at some places, one after the other.  Gives these rows as they are
then, and all rows. -/
def change (values : Row) : List Nat → List Row → List Row × List Row
  | [], rows => ([], rows)
  | i :: places, rows =>
    let row := Fields.putAll values rows[i]!
    let (changed, rows) := change values places (rows.set i row)
    (row :: changed, rows)

/-- Takes all rows out from a place on.  Those at doomed places are parted from those that are
kept. -/
def drain (doomed : List Nat) : Nat → List Row → List Row × List Row
  | _, [] => ([], [])
  | i, row :: rest =>
    let (removed, kept) := drain doomed (i + 1) rest
    if doomed.contains i then (row :: removed, kept) else (removed, row :: kept)

end TabularQuery.Rows
