import TabularQuery.Json.Printer
import TabularQuery.Time.Instant

/-!
# Column values

A value of a column: what JSON has, with instants beside texts, with integers of 64
signed bits only, and with the fields of an object in the order of their names.

## Main definitions

* `Value.ofJson`, `Value.toJson` — from and to JSON, where instants are texts.
* `Value.text` — the form of a value within a filter.
* `Value.written` — the JSON text of a value, made without a JSON value in between.
-/

namespace TabularQuery

/-- A column value.  The fields of an object are in the order of their names. -/
inductive Value where
  | null
  | bool (value : Bool)
  | int (value : Int)
  | float (value : Binary64)
  | text (value : String)
  | timestamp (value : Instant)
  | array (items : List Value)
  | object (fields : List (String × Value))
  deriving Repr, Inhabited

namespace Value

/-- The value of a JSON number: an integer if it has 64 signed bits. -/
def ofNumber : JsonNumber → Value
  | .integer i => if JsonNumber.fitsSigned i then .int i else .float (.ofInt i)
  | .real x => .float x

mutual

/-- The value of a JSON value. -/
def ofJson : Json → Value
  | .null => .null
  | .bool b => .bool b
  | .number n => ofNumber n
  | .text s => .text s
  | .array items => .array (ofJsonItems items)
  | .object members => .object (Fields.sorted (ofJsonMembers members))

/-- The values of items. -/
def ofJsonItems : List Json → List Value
  | [] => []
  | v :: rest => ofJson v :: ofJsonItems rest

/-- The values of members, in the order of the members. -/
def ofJsonMembers : List (String × Json) → List (String × Value)
  | [] => []
  | (k, v) :: rest => (k, ofJson v) :: ofJsonMembers rest

end

mutual

/-- The JSON value of a value: an instant is its text, a float without a number null. -/
def toJson : Value → Json
  | null => .null
  | bool b => .bool b
  | int i => .number (.integer i)
  | float x => .ofBinary64 x
  | text s => .text s
  | timestamp t => .text (String.ofList t.text)
  | array items => .array (toJsonItems items)
  | object fields => .object (toJsonFields fields)

/-- The JSON values of items. -/
def toJsonItems : List Value → List Json
  | [] => []
  | v :: rest => toJson v :: toJsonItems rest

/-- The members of an object. -/
def toJsonFields : List (String × Value) → List (String × Json)
  | [] => []
  | (k, v) :: rest => (k, toJson v) :: toJsonFields rest

end

mutual

/-- The JSON text of a value. -/
def written : Value → List Char
  | null => ['n', 'u', 'l', 'l']
  | bool b => if b then ['t', 'r', 'u', 'e'] else ['f', 'a', 'l', 's', 'e']
  | int i => Text.integer i
  | float x => x.json
  | text s => Json.quoted s
  | timestamp t => Json.quoted (String.ofList t.text)
  | array items => '[' :: (writtenItems true items ++ [']'])
  | object fields => '\x7b' :: (writtenFields true fields ++ ['\x7d'])

/-- The texts of items, a comma in front of each but the first. -/
def writtenItems (first : Bool) : List Value → List Char
  | [] => []
  | v :: rest => (if first then [] else [',']) ++ written v ++ writtenItems false rest

/-- The texts of fields, a comma in front of each but the first. -/
def writtenFields (first : Bool) : List (String × Value) → List Char
  | [] => []
  | (k, v) :: rest =>
    (if first then [] else [',']) ++ Json.quoted k ++ ':' :: written v ++
      writtenFields false rest

end

/-- The text of a value within a filter: texts and instants bare, arrays and objects as
JSON. -/
def plain : Value → List Char
  | null => ['n', 'u', 'l', 'l']
  | bool b => if b then ['t', 'r', 'u', 'e'] else ['f', 'a', 'l', 's', 'e']
  | int i => Text.integer i
  | float x => x.plain
  | text s => s.toList
  | timestamp t => t.text
  | v => Json.compact v.toJson

/-- Whether the value is null. -/
def isNull : Value → Bool
  | null => true
  | _ => false

/-- The text of a textual value. -/
def asText? : Value → Option String
  | text s => some s
  | _ => none

/-- The number of a numeric value.  Texts are not numbers. -/
def asNumber? : Value → Option Binary64
  | int i => some (.ofInt i)
  | float x => if x.isFinite then some x else none
  | _ => none

/-- The instant of a timestamp. -/
def asInstant? : Value → Option Instant
  | timestamp t => some t
  | _ => none

/-- A value that may be missing: null when it is. -/
def ofOption (v : Option Value) : Value :=
  v.getD .null

mutual

/-- Whether two values are equal, where a float that is not a number equals nothing and
the two zeros are equal. -/
def same : Value → Value → Bool
  | null, null => true
  | bool a, bool b => a == b
  | int a, int b => a == b
  | float a, float b => a.compare? b == some .eq
  | text a, text b => a == b
  | timestamp a, timestamp b => a == b
  | array a, array b => sameItems a b
  | object a, object b => sameFields a b
  | _, _ => false

/-- Whether items are equal one by one. -/
def sameItems : List Value → List Value → Bool
  | [], [] => true
  | a :: as, b :: bs => same a b && sameItems as bs
  | _, _ => false

/-- Whether fields are equal one by one. -/
def sameFields : List (String × Value) → List (String × Value) → Bool
  | [], [] => true
  | (k, a) :: as, (l, b) :: bs => k == l && same a b && sameFields as bs
  | _, _ => false

end

theorem toJsonItems_eq_map (items : List Value) : toJsonItems items = items.map toJson := by
  induction items with
  | nil => rfl
  | cons v rest ih => simp [toJsonItems, ih]

theorem toJsonFields_eq_map (fields : List (String × Value)) :
    toJsonFields fields = fields.map fun f => (f.1, f.2.toJson) := by
  induction fields with
  | nil => rfl
  | cons f rest ih => obtain ⟨k, v⟩ := f; simp [toJsonFields, ih]

theorem ofJsonItems_eq_map (items : List Json) : ofJsonItems items = items.map ofJson := by
  induction items with
  | nil => rfl
  | cons v rest ih => simp [ofJsonItems, ih]

theorem ofJsonMembers_eq_map (members : List (String × Json)) :
    ofJsonMembers members = members.map fun m => (m.1, ofJson m.2) := by
  induction members with
  | nil => rfl
  | cons m rest ih => obtain ⟨k, v⟩ := m; simp [ofJsonMembers, ih]

end Value

end TabularQuery
