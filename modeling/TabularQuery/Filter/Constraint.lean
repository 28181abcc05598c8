import TabularQuery.Filter.Call
import TabularQuery.Filter.Fault
import TabularQuery.Log

/-!
# Constraints

What a where-clause asks of one column: a bare value, an object with a verb such as
`gte`, or an object without any verb, which is compared as a whole.

## Main definitions

* `Constraint.ofJson` — the constraint of a descriptor value.
* `Constraint.toValue` — its descriptor form.
* `Constraint.call` — the filter call with its meaning.
-/

namespace TabularQuery

/-- A verb of a constraint. -/
inductive Verb where
  | among
  | contains
  | equals
  | atLeast
  | atMost
  | above
  | below
  | differs
  | notAmong
  deriving DecidableEq, Repr

namespace Verb

/-- The word for a verb in a descriptor. -/
def name : Verb → String
  | among => "in"
  | contains => "contains"
  | equals => "equals"
  | atLeast => "gte"
  | atMost => "lte"
  | above => "gt"
  | below => "lt"
  | differs => "not"
  | notAmong => "notIn"

/-- The verbs by precedence: of several in one object, the first counts. -/
def all : List Verb :=
  [among, contains, equals, atLeast, atMost, above, below, differs, notAmong]

end Verb

/-- A constraint on one column. -/
inductive Constraint where
  /-- The column equals a bare value. -/
  | literal (v : Value)
  | equals (v : Value)
  | among (vs : List Value)
  /-- The text is a part of the column, in any case of the letters. -/
  | contains (s : String)
  | atLeast (v : Value)
  | atMost (v : Value)
  | above (v : Value)
  | below (v : Value)
  | differs (v : Value)
  | notAmong (vs : List Value)
  /-- The column equals an object without a verb. -/
  | whole (v : Value)
  deriving Repr, Inhabited

namespace Constraint

/-- The verb of a constraint, if it has one. -/
def verb? : Constraint → Option Verb
  | literal _ | whole _ => none
  | equals _ => some .equals
  | among _ => some .among
  | contains _ => some .contains
  | atLeast _ => some .atLeast
  | atMost _ => some .atMost
  | above _ => some .above
  | below _ => some .below
  | differs _ => some .differs
  | notAmong _ => some .notAmong

/-- The name of the verb; empty for a constraint without one. -/
def verbName (c : Constraint) : String :=
  (c.verb?.map Verb.name).getD ""

/-- An object with one verb. -/
def verbObject (verb : Verb) (operand : Value) : Value :=
  .object [(verb.name, operand)]

/-- The descriptor form of a constraint. -/
def toValue : Constraint → Value
  | literal v | whole v => v
  | equals v => verbObject .equals v
  | among vs => verbObject .among (.array vs)
  | contains s => verbObject .contains (.text s)
  | atLeast v => verbObject .atLeast v
  | atMost v => verbObject .atMost v
  | above v => verbObject .above v
  | below v => verbObject .below v
  | differs v => verbObject .differs v
  | notAmong vs => verbObject .notAmong (.array vs)

/-- The verbs that an object has, by precedence. -/
def verbsIn (members : List (String × Json)) : List Verb :=
  Verb.all.filter fun v => Fields.has v.name members

/-- The operand of a verb that takes a list. -/
def listOperand (column : String) (verb : Verb) : Json → Except DescriptorFault (List Value)
  | .array items => .ok (items.map Value.ofJson)
  | found => .error (.listExpected column verb.name found)

/-- The constraint of a verb with its operand. -/
def ofVerb (column : String) (operand : Json) : Verb → Except DescriptorFault Constraint
  | .among => (listOperand column .among operand).map among
  | .contains => .ok (contains (String.ofList (Value.ofJson operand).plain))
  | .equals => .ok (equals (Value.ofJson operand))
  | .atLeast => .ok (atLeast (Value.ofJson operand))
  | .atMost => .ok (atMost (Value.ofJson operand))
  | .above => .ok (above (Value.ofJson operand))
  | .below => .ok (below (Value.ofJson operand))
  | .differs => .ok (differs (Value.ofJson operand))
  | .notAmong => (listOperand column .notAmong operand).map notAmong

/-- The constraint that a descriptor value puts on a column. -/
def ofJson (column : String) : Json → Except DescriptorFault Constraint
  | .object members =>
    match verbsIn members with
    | [] => .ok (whole (Value.ofJson (.object members)))
    | verb :: _ => ofVerb column ((Fields.get? verb.name members).getD .null) verb
  | v => .ok (literal (Value.ofJson v))

/-- What is reported when a descriptor value is read: more than one verb. -/
def notices (column : String) : Json → List Event
  | .object members =>
    match verbsIn members with
    | verb :: other :: more =>
      [{ level := .warn
         origin := .filters
         message := "Multiple constraint verbs on one column, using the first"
         fields :=
          [("column", .text column),
           ("verbs", .text ("[" ++ ", ".intercalate
             ((verb :: other :: more).map fun v => "\"" ++ v.name ++ "\"") ++ "]")),
           ("used", .text verb.name)] }]
    | _ => []
  | _ => []

/-- The filter call with the meaning of a constraint. -/
def call (column : String) : Constraint → FilterCall
  | literal v | equals v | whole v => .compare .eq column v
  | among vs => .among column vs
  | contains s => .like column ("%" ++ s ++ "%")
  | atLeast v => .compare .gte column v
  | atMost v => .compare .lte column v
  | above v => .compare .gt column v
  | below v => .compare .lt column v
  | differs v => .compare .neq column v
  | notAmong vs => .notAmong column vs

/-- Whether the constraint is the bare null, which is never asked for. -/
def isVoid : Constraint → Bool
  | literal .null => true
  | _ => false

end Constraint

end TabularQuery
