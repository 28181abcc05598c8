import TabularQuery.Fields
import TabularQuery.Number.Binary64

/-!
# JSON values

A JSON value with the order of the members of an object kept, and with integers apart
from other numbers: `1` and `1.0` are two values.
-/

namespace TabularQuery

/-- A JSON number: an integer of 64 bits, signed or unsigned, or a finite binary64
number. -/
inductive JsonNumber where
  | integer (value : Int)
  | real (value : Binary64)
  deriving DecidableEq, Repr

/-- A JSON value. -/
inductive Json where
  | null
  | bool (value : Bool)
  | number (value : JsonNumber)
  | text (value : String)
  | array (items : List Json)
  | object (members : List (String × Json))
  deriving Repr, Inhabited

namespace JsonNumber

/-- Whether an integer is a signed integer of 64 bits. -/
def fitsSigned (i : Int) : Bool :=
  -9223372036854775808 ≤ i && i ≤ 9223372036854775807

/-- Whether an integer is an unsigned integer of 64 bits. -/
def fitsUnsigned (i : Int) : Bool :=
  0 ≤ i && i ≤ 18446744073709551615

/-- The number as a binary64 number. -/
def toBinary64 : JsonNumber → Binary64
  | integer i => .ofInt i
  | real x => x

end JsonNumber

namespace Json

/-- The value of an unsigned integer. -/
def ofNat (n : Nat) : Json :=
  .number (.integer n)

/-- A finite number as a JSON number, anything else as null. -/
def ofBinary64 (x : Binary64) : Json :=
  if x.isFinite then .number (.real x) else .null

/-- An optional text, null when there is none. -/
def ofText? : Option String → Json
  | none => .null
  | some s => .text s

/-- The member of an object under a name. -/
def member? (name : String) : Json → Option Json
  | object members => Fields.get? name members
  | _ => none

/-- Whether a value that stands for a flag is set: everything is but null, false, zero
and the empty text. -/
def isTruthy : Json → Bool
  | null => false
  | bool b => b
  | number n => !n.toBinary64.isZero
  | text s => !s.isEmpty
  | array _ => true
  | object _ => true

@[simp] theorem isTruthy_bool (b : Bool) : (Json.bool b).isTruthy = b := rfl

end Json

end TabularQuery
