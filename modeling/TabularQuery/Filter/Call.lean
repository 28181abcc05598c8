import TabularQuery.Value.Basic

/-!
# Filter calls

The filters the service knows: a comparison of one column with a value, membership in a
list, a pattern, and a disjunction of filters.  A call is sent as a query parameter; in
a disjunction it is written as an expression, and there texts that could be taken for a
part of the expression stand in quotes.

## Main definitions

* `FilterCall` — the calls.
* `FilterCall.param` — the query parameter of a call.
* `FilterCall.expression` — the form of a call within a disjunction.
-/

namespace TabularQuery

/-- How a column is compared with a value. -/
inductive Comparison where
  | eq
  | neq
  | gt
  | gte
  | lt
  | lte
  deriving DecidableEq, Repr

namespace Comparison

/-- The name of the comparison in a filter. -/
def name : Comparison → String
  | eq => "eq"
  | neq => "neq"
  | gt => "gt"
  | gte => "gte"
  | lt => "lt"
  | lte => "lte"

/-- Whether a comparison holds of a cell that stands in a given order to the value. -/
def holds : Comparison → Ordering → Bool
  | eq, o => o == .eq
  | neq, o => o != .eq
  | gt, o => o == .gt
  | gte, o => o != .lt
  | lt, o => o == .lt
  | lte, o => o != .gt

end Comparison

/-- A filter on the rows of a table. -/
inductive FilterCall where
  | compare (op : Comparison) (column : String) (operand : Value)
  /-- The column equals one of the values. -/
  | among (column : String) (operands : List Value)
  /-- The column equals none of the values. -/
  | notAmong (column : String) (operands : List Value)
  /-- The column matches a pattern in which `%` stands for any text, in any case of the
  letters. -/
  | like (column : String) (pattern : String)
  /-- One of the calls holds. -/
  | anyOf (branches : List FilterCall)
  deriving Repr, Inhabited

namespace FilterCall

/-- The column of a call.  A disjunction may have several and has none. -/
def column? : FilterCall → Option String
  | compare _ c _ | among c _ | notAmong c _ | like c _ => some c
  | anyOf _ => none

/-- Whether a character has a meaning in a list or an expression. -/
def isReserved (c : Char) : Bool :=
  c == ',' || c == '(' || c == ')' || c == '"' || c == ':' || c == '\\' || Text.isBlank c

/-- A backslash in front of quotes and backslashes. -/
def escape (s : List Char) : List Char :=
  s.flatMap fun c => if c == '"' || c == '\\' then ['\\', c] else [c]

/-- A text as it stands in a list or an expression: in quotes if it is empty or has a
reserved character. -/
def quote (s : List Char) : List Char :=
  if s.isEmpty || s.any isReserved then '"' :: (escape s ++ ['"']) else s

/-- A list in parentheses. -/
def parenthesized (parts : List (List Char)) : List Char :=
  '(' :: (Text.join [','] parts ++ [')'])

/-- A list of values. -/
def valueList (values : List Value) : List Char :=
  parenthesized (values.map fun v => quote v.plain)

/-- An operator, a point and its operand. -/
def operation (op : String) (operand : List Char) : List Char :=
  op.toList ++ '.' :: operand

mutual

/-- The form of a call within a disjunction: the column, the operator and the operand
with points between them. -/
def expression : FilterCall → List Char
  | compare op c v => c.toList ++ '.' :: operation op.name (quote v.plain)
  | among c vs => c.toList ++ '.' :: operation "in" (valueList vs)
  | notAmong c vs => c.toList ++ '.' :: operation "not.in" (valueList vs)
  | like c p => c.toList ++ '.' :: operation "ilike" (quote p.toList)
  | anyOf branches => 'o' :: 'r' :: parenthesized (expressions branches)

/-- The forms of the branches of a disjunction. -/
def expressions : List FilterCall → List (List Char)
  | [] => []
  | call :: rest => expression call :: expressions rest

end

/-- The query parameter of a call: the column, and the operator with its bare operand.
A disjunction stands under the name `or`. -/
def param : FilterCall → List Char × List Char
  | compare op c v => (c.toList, operation op.name v.plain)
  | among c vs => (c.toList, operation "in" (valueList vs))
  | notAmong c vs => (c.toList, operation "not.in" (valueList vs))
  | like c p => (c.toList, operation "ilike" p.toList)
  | anyOf branches => (['o', 'r'], parenthesized (expressions branches))

theorem expressions_eq_map (branches : List FilterCall) :
    expressions branches = branches.map expression := by
  induction branches with
  | nil => rfl
  | cons call rest ih => simp [expressions, ih]

end FilterCall

end TabularQuery
