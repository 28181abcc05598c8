import TabularQuery.Filter.Constraint

/-!
# Where-clauses

The constraints on columns that all hold, and a disjunction of constraints of which one
holds.  A clause becomes a list of filter calls: the disjunction first, then the columns
in their order.  Some operations know only a few verbs; there a constraint with another
verb becomes the equality of the column with the descriptor form of the constraint.

## Main definitions

* `Where.ofJson` — the clause of a descriptor.
* `Where.calls` — the filter calls of a clause.
-/

namespace TabularQuery

/-- Which verbs an operation knows. -/
inductive Dispatch where
  /-- All of them. -/
  | full
  /-- Those of a count of rows. -/
  | count
  /-- Those of a change of many rows. -/
  | bulk
  deriving DecidableEq, Repr

namespace Dispatch

/-- The name under which it is reported. -/
def name : Dispatch → String
  | full => "Full"
  | count => "Count"
  | bulk => "Bulk"

/-- Whether an operation knows the verb of a constraint.  A constraint without a verb is
known everywhere. -/
def supports (d : Dispatch) (c : Constraint) : Bool :=
  match c.verb? with
  | none => true
  | some v =>
    match d with
    | full => true
    | count => [Verb.among, .atLeast, .atMost, .above, .below, .differs].contains v
    | bulk => v == .among

end Dispatch

/-- A where-clause. -/
structure Where where
  /-- The constraints of which one holds, if there is a disjunction. -/
  anyOf : Option (List (String × Constraint)) := none
  /-- The constraints that all hold. -/
  fields : List (String × Constraint) := []
  deriving Repr, Inhabited

namespace Where

/-- The clause that asks for nothing. -/
def empty : Where := {}

/-- Adds a constraint on a column. -/
def field (w : Where) (column : String) (c : Constraint) : Where :=
  { w with fields := w.fields ++ [(column, c)] }

/-- Adds the equality of a column with a value. -/
def eq (w : Where) (column : String) (v : Value) : Where :=
  w.field column (.literal v)

/-- Sets the disjunction. -/
def withAnyOf (w : Where) (branches : List (String × Constraint)) : Where :=
  { w with anyOf := some branches }

/-- Whether there is a disjunction, with or without branches. -/
def hasDisjunction (w : Where) : Bool :=
  w.anyOf.isSome

/-- Whether the clause asks for nothing. -/
def isEmpty (w : Where) : Bool :=
  w.fields.isEmpty && (w.anyOf.getD []).isEmpty

/-- The clause without its disjunction. -/
def withoutDisjunction (w : Where) : Where :=
  { w with anyOf := none }

/-- The columns that the clause holds to one value. -/
def equalities (w : Where) : List (String × Value) :=
  w.fields.filterMap fun (column, c) =>
    match c with
    | .literal v | .equals v => if v.isNull then none else some (column, v)
    | _ => none

/-! ## Reading descriptors -/

/-- The constraints of the members of an object. -/
def constraints : List (String × Json) → Except DescriptorFault (List (String × Constraint))
  | [] => .ok []
  | (column, v) :: rest => do
    let c ← Constraint.ofJson column v
    let cs ← constraints rest
    .ok ((column, c) :: cs)

/-- The branches of a disjunction: every column of every entry is one. -/
def branches : List Json → Except DescriptorFault (List (String × Constraint))
  | [] => .ok []
  | .object members :: rest => do
    let cs ← constraints members
    let ds ← branches rest
    .ok (cs ++ ds)
  | _ :: _ => .error .branchNotObject

/-- Reads the members of a clause one after the other. -/
def ofMembers (w : Where) : List (String × Json) → Except DescriptorFault Where
  | [] => .ok w
  | (key, v) :: rest =>
    if key = "OR" then
      match v with
      | .array entries => do
        let bs ← branches entries
        ofMembers (w.withAnyOf bs) rest
      | _ => .error .disjunctionNotList
    else do
      let c ← Constraint.ofJson key v
      ofMembers (w.field key c) rest

/-- The clause of a descriptor value.  Null asks for nothing. -/
def ofJson : Json → Except DescriptorFault Where
  | .null => .ok empty
  | .object members => ofMembers empty members
  | found => .error (.whereNotObject found)

/-- What is reported while constraints are read, and whether all could be. -/
def constraintNotices : List (String × Json) → List Event × Bool
  | [] => ([], true)
  | (column, v) :: rest =>
    let here := Constraint.notices column v
    match Constraint.ofJson column v with
    | .error _ => (here, false)
    | .ok _ =>
      let (more, complete) := constraintNotices rest
      (here ++ more, complete)

/-- What is reported while the entries of a disjunction are read, and whether all could
be. -/
def branchNotices : List Json → List Event × Bool
  | [] => ([], true)
  | .object members :: rest =>
    match constraintNotices members with
    | (here, false) => (here, false)
    | (here, true) =>
      let (more, complete) := branchNotices rest
      (here ++ more, complete)
  | _ :: _ => ([], false)

/-- What is reported while the members of a clause are read, up to the first that is
refused. -/
def memberNotices : List (String × Json) → List Event
  | [] => []
  | (key, v) :: rest =>
    let (here, complete) :=
      if key = "OR" then
        match v with
        | .array entries => branchNotices entries
        | _ => ([], false)
      else constraintNotices [(key, v)]
    if complete then here ++ memberNotices rest else here

/-- What is reported while a clause is read. -/
def notices : Json → List Event
  | .object members => memberNotices members
  | _ => []

/-! ## Filter calls -/

/-- The call of the disjunction; there is none without branches. -/
def disjunctionCalls (w : Where) : List FilterCall :=
  match w.anyOf with
  | some (b :: bs) => [.anyOf ((b :: bs).map fun (column, c) => c.call column)]
  | _ => []

/-- The call of a constraint in an operation that may not know its verb. -/
def fieldCall (d : Dispatch) (column : String) (c : Constraint) : FilterCall :=
  if d.supports c then c.call column else .compare .eq column c.toValue

/-- The calls of the columns.  The bare null is not asked for. -/
def fieldCalls (d : Dispatch) (w : Where) : List FilterCall :=
  (w.fields.filter fun f => !f.2.isVoid).map fun (column, c) => fieldCall d column c

/-- The filter calls of a clause. -/
def calls (d : Dispatch) (w : Where) : List FilterCall :=
  w.disjunctionCalls ++ w.fieldCalls d

/-- What is reported about the constraints whose verb an operation does not know. -/
def fallbackNotices (table : String) (d : Dispatch) (w : Where) : List Event :=
  (w.fields.filter fun f => !f.2.isVoid && !d.supports f.2).map fun (column, c) =>
    { level := .warn
      origin := .filters
      message := "Constraint not supported here, comparing for equality"
      fields :=
        [("table", .text table), ("column", .text column), ("verb", .text c.verbName),
         ("dispatch", .text d.name)] }

@[simp] theorem calls_empty (d : Dispatch) : empty.calls d = [] := rfl

@[simp] theorem supports_full (c : Constraint) : Dispatch.full.supports c = true := by
  unfold Dispatch.supports
  split <;> rfl

end Where

end TabularQuery
