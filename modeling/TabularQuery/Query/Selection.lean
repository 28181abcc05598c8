import TabularQuery.Filter.Fault
import TabularQuery.Query.Basic

/-!
# Selections and orderings

The parts of a descriptor that name columns: which come back, which related rows come
with them, and by which the rows are ordered.
-/

namespace TabularQuery

/-- The names that a mapping of names to flags sets. -/
structure Selection where
  names : List String := []
  deriving DecidableEq, Repr

namespace Selection

/-- Whether no name is set. -/
def isEmpty (s : Selection) : Bool :=
  s.names.isEmpty

/-- The selection of a descriptor value: an object, whose set members count. -/
def ofJson : Json → Except DescriptorFault Selection
  | .object members => .ok ⟨(members.filter fun m => m.2.isTruthy).map (·.1)⟩
  | found => .error (.selectionNotObject found)

/-- The list of columns of a query: the selected ones, or all, and the related rows with
all their columns. -/
def columnList (select relations : Option Selection) : String :=
  let columns :=
    match select with
    | some s => if s.isEmpty then ["*"] else s.names
    | none => ["*"]
  let related := ((relations.getD {}).names).map (· ++ "(*)")
  String.ofList (Text.join [','] ((columns ++ related).map String.toList))

end Selection

/-- An order of rows by several columns, the first of them before the others. -/
structure SortOrder where
  terms : List OrderTerm := []
  deriving DecidableEq, Repr

namespace SortOrder

/-- Whether the rows keep the order they have. -/
def isEmpty (o : SortOrder) : Bool :=
  o.terms.isEmpty

/-- The order by one column. -/
def single (column : String) (direction : Direction) : SortOrder :=
  ⟨[⟨column, direction⟩]⟩

/-- Adds a column that orders the rows equal so far. -/
def andThen (o : SortOrder) (column : String) (direction : Direction) : SortOrder :=
  ⟨o.terms ++ [⟨column, direction⟩]⟩

/-- The keys of a mapping of columns to directions. -/
def termsOf : List (String × Json) → Except DescriptorFault (List OrderTerm)
  | [] => .ok []
  | (column, v) :: rest =>
    let direction? :=
      match v with
      | .text s => Direction.ofText? s
      | _ => none
    match direction? with
    | none => .error (.unknownDirection column v)
    | some direction => do
      let terms ← termsOf rest
      .ok (⟨column, direction⟩ :: terms)

/-- The keys of a list of mappings. -/
def entriesOf : List Json → Except DescriptorFault (List OrderTerm)
  | [] => .ok []
  | .object members :: rest => do
    let terms ← termsOf members
    let more ← entriesOf rest
    .ok (terms ++ more)
  | found :: _ => .error (.orderingEntryNotObject found)

/-- The order of a descriptor value: null, a mapping of columns to directions, or a list
of them. -/
def ofJson : Json → Except DescriptorFault SortOrder
  | .null => .ok {}
  | .object members => (termsOf members).map SortOrder.mk
  | .array entries => (entriesOf entries).map SortOrder.mk
  | found => .error (.orderingNotList found)

end SortOrder

end TabularQuery
