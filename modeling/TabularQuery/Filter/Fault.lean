import TabularQuery.Json.Printer

/-!
# Faults of descriptors

Why a part of a query descriptor has no meaning.
-/

namespace TabularQuery

/-- Why a part of a descriptor is refused. -/
inductive DescriptorFault where
  | whereNotObject (found : Json)
  | disjunctionNotList
  | branchNotObject
  | listExpected (column verb : String) (found : Json)
  | selectionNotObject (found : Json)
  | orderingNotList (found : Json)
  | orderingEntryNotObject (found : Json)
  | unknownDirection (column : String) (found : Json)
  deriving Repr

/-- The wording of a fault. -/
def DescriptorFault.message : DescriptorFault → String
  | whereNotObject found => "where must be an object, got " ++ found.print
  | disjunctionNotList => "OR must be a list"
  | branchNotObject => "OR entries must be objects"
  | listExpected column verb found =>
    column ++ "." ++ verb ++ " expects a list, got " ++ found.print
  | selectionNotObject found => "select must be an object, got " ++ found.print
  | orderingNotList found => "orderBy must be an object or list, got " ++ found.print
  | orderingEntryNotObject found => "orderBy entries must be objects, got " ++ found.print
  | unknownDirection column found =>
    "invalid sort direction for " ++ column ++ ": " ++ found.print

end TabularQuery
