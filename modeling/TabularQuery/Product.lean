import TabularQuery.Table

/-!
# Products

A table whose rows have a shape: an id, a name, a quantity that may be missing, and the
instant of their insertion.
-/

namespace TabularQuery

/-- A product. -/
structure Product where
  id : String
  name : String
  quantity : Option Int
  createdAt : Instant
  deriving Repr

namespace Product

/-- The table of products. -/
def tableName : String := "products"

/-- The fields of a product that have been read. -/
structure Partial where
  id : Option String := none
  name : Option String := none
  quantity : Option Int := none
  createdAt : Option Instant := none

/-- An instant, in a text of the usual form or one near to it. -/
def instant (s : Json.Source) : Decode Instant := do
  match ← Decode.found s with
  | .text t =>
    match Instant.readTolerant t.toList with
    | .ok i => pure i
    | .error f => throw (.time f)
  | other => throw (.wrongKind other "an RFC 3339 formatted date and time string")

/-- The fields of a product. -/
def shape : Decode.Shape Partial where
  name := "Product"
  fields :=
    [("id", fun s p => do return { p with id := some (← Decode.text s) }),
     ("name", fun s p => do return { p with name := some (← Decode.text s) }),
     ("qty", fun s p => do return { p with quantity := ← Decode.optional Decode.signed s }),
     ("created_at", fun s p => do return { p with createdAt := some (← instant s) })]

/-- A field that must be there. -/
def required {α : Type} (field : String) : Option α → Decode α
  | some a => pure a
  | none => throw (.missing field)

/-- A product in its JSON form. -/
def read (s : Json.Source) : Decode Product := do
  let (p, _) ← Decode.ofShape shape {} s
  let id ← required "id" p.id
  let name ← required "name" p.name
  let createdAt ← required "created_at" p.createdAt
  return { id, name, quantity := p.quantity, createdAt }

/-- A table of products. -/
def table {σ : Type} (b : Backend σ) (name : String) : Table σ Product :=
  .typed read b name

end Product

end TabularQuery
