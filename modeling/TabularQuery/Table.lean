import TabularQuery.Operation.Reduction
import TabularQuery.Operation.Upsert

/-!
# Tables

A table of a backend whose rows have a shape.  Records that come back are decoded into
the shape; a table without one has the records themselves.

## Main definitions

* `Table` — a table with its decoder, and its operations.
* `Table.typed` — the table of a shape.
-/

namespace TabularQuery

/-- A table of a backend, and how its records are decoded. -/
structure Table (σ α : Type) where
  backend : Backend σ
  name : String
  decode : Record → Except Decode.Fault α

namespace Table

variable {σ α : Type}

/-- A table of records. -/
def untyped (b : Backend σ) (name : String) : Table σ Record :=
  ⟨b, name, .ok⟩

/-- A table of a shape, which a reader decodes from the JSON form of a record. -/
def typed (reader : Json.Source → Decode α) (b : Backend σ) (name : String) : Table σ α :=
  ⟨b, name, fun r => (Decode.runValue reader r.toJson).1⟩

/-- Data to be written as a record.  They must be an object. -/
def toRecord (t : Table σ α) (v : Json) : Except DataFault Record :=
  match Record.ofJson? v with
  | some r => .ok r
  | none => .error (.invalidData t.name)

/-- One row in the shape of the table. -/
def decoded (t : Table σ α) (r : Record) : Except DataFault α :=
  (t.decode r).mapError (.decode t.name)

/-- Rows in the shape of the table; the first that does not have it is the fault. -/
def decodedAll (t : Table σ α) (rs : List Record) : Except DataFault (List α) :=
  rs.mapM t.decoded

/-- A row that may be missing, in the shape of the table. -/
def decodedIfAny (t : Table σ α) : Option Record → Except DataFault (Option α)
  | some r => (t.decoded r).map some
  | none => .ok none

/-- The rows of a page. -/
def findMany (t : Table σ α) (args : FindMany) : Session σ (List α) := do
  Session.ofExcept (t.decodedAll (← t.backend.findMany t.name args))

/-- The one row of a filter. -/
def findUnique (t : Table σ α) (args : FindUnique) : Session σ (Option α) := do
  Session.ofExcept (t.decodedIfAny (← t.backend.findUnique t.name args))

/-- The first row of an order. -/
def findFirst (t : Table σ α) (args : FindFirst) : Session σ (Option α) := do
  Session.ofExcept (t.decodedIfAny (← t.backend.findFirst t.name args))

/-- Inserts a row. -/
def create (t : Table σ α) (now : Instant) (args : Create) : Session σ α := do
  Session.ofExcept (t.decoded (← t.backend.create now t.name args))

/-- Changes the one row of a filter. -/
def update (t : Table σ α) (now : Instant) (args : Update) : Session σ α := do
  Session.ofExcept (t.decoded (← t.backend.update now t.name args))

/-- Changes the one row of a filter, or inserts a row. -/
def upsert (t : Table σ α) (now : Instant) (args : Upsert) : Session σ α := do
  Session.ofExcept (t.decoded (← t.backend.upsert now t.name args))

/-- Deletes the rows of a filter. -/
def delete (t : Table σ α) (args : Delete) : Session σ Unit :=
  t.backend.delete t.name args

/-- Inserts rows. -/
def createMany (t : Table σ α) (now : Instant) (args : CreateMany) : Session σ Nat :=
  t.backend.createMany now t.name args

/-- Changes the rows of a filter. -/
def updateMany (t : Table σ α) (now : Instant) (args : UpdateMany) : Session σ Nat :=
  t.backend.updateMany now t.name args

/-- Deletes the rows of a filter and tells their number. -/
def deleteMany (t : Table σ α) (args : Delete) : Session σ Nat :=
  t.backend.deleteMany t.name args

/-- The number of rows of a filter. -/
def count (t : Table σ α) (args : Count) : Session σ Nat :=
  t.backend.count t.name args

/-- Some columns of the rows of a filter, as records. -/
def groupBy (t : Table σ α) (args : GroupBy) : Session σ (List Record) :=
  t.backend.groupBy t.name args

/-- The number of the rows of a filter and the sums of columns. -/
def aggregate (t : Table σ α) (args : Aggregate) : Session σ Reduced :=
  t.backend.aggregate t.name args

end Table

end TabularQuery
