import TabularQuery.Json.Basic
import TabularQuery.Number.Decimal

/-!
# The text of a JSON value

Two layouts of the same text: one without any blanks, which is what is compared, stored
and sent, and one with a member or item to a line, which is what is shown.
-/

namespace TabularQuery.Json

/-- A control character as `\u00xx`. -/
def controlEscape (c : Char) : List Char :=
  let n := c.toNat
  ['\\', 'u', '0', '0', Nat.digitChar (n / 16), Nat.digitChar (n % 16)]

/-- A character of a text between quotes. -/
def escapedChar (c : Char) : List Char :=
  if c == '"' then ['\\', '"']
  else if c == '\\' then ['\\', '\\']
  else if c == '\x08' then ['\\', 'b']
  else if c == '\x0c' then ['\\', 'f']
  else if c == '\n' then ['\\', 'n']
  else if c == '\r' then ['\\', 'r']
  else if c == '\t' then ['\\', 't']
  else if c.toNat < 0x20 then controlEscape c
  else [c]

/-- A text between quotes. -/
def quoted (s : String) : List Char :=
  '"' :: (s.toList.flatMap escapedChar ++ ['"'])

/-- The text of a number. -/
def numberText : JsonNumber → List Char
  | .integer i => Text.integer i
  | .real x => x.json

mutual

/-- The text of a value, without blanks. -/
def compact : Json → List Char
  | null => ['n', 'u', 'l', 'l']
  | bool true => ['t', 'r', 'u', 'e']
  | bool false => ['f', 'a', 'l', 's', 'e']
  | number n => numberText n
  | text s => quoted s
  | array [] => ['[', ']']
  | array (v :: rest) => '[' :: (compact v ++ compactItems rest)
  | object [] => ['\x7b', '\x7d']
  | object ((k, v) :: rest) => '\x7b' :: (quoted k ++ ':' :: (compact v ++ compactMembers rest))

/-- The items after the first, and the closing bracket. -/
def compactItems : List Json → List Char
  | [] => [']']
  | v :: rest => ',' :: (compact v ++ compactItems rest)

/-- The members after the first, and the closing brace. -/
def compactMembers : List (String × Json) → List Char
  | [] => ['\x7d']
  | (k, v) :: rest => ',' :: (quoted k ++ ':' :: (compact v ++ compactMembers rest))

end

/-- The text of a value, without blanks, as a string. -/
def print (v : Json) : String :=
  String.ofList (compact v)

/-- A new line and two blanks for every level. -/
def newline (depth : Nat) : List Char :=
  '\n' :: List.replicate (2 * depth) ' '

mutual

/-- The text of a value with an item or member to a line. -/
def indented (depth : Nat) : Json → List Char
  | array [] => ['[', ']']
  | array (v :: rest) =>
    '[' :: (newline (depth + 1) ++ indented (depth + 1) v ++ indentedItems depth rest)
  | object [] => ['\x7b', '\x7d']
  | object ((k, v) :: rest) =>
    '\x7b' :: (newline (depth + 1) ++ quoted k ++ ':' :: ' ' ::
      (indented (depth + 1) v ++ indentedMembers depth rest))
  | v => compact v

/-- The items after the first, each on a line, and the closing bracket. -/
def indentedItems (depth : Nat) : List Json → List Char
  | [] => newline depth ++ [']']
  | v :: rest =>
    ',' :: (newline (depth + 1) ++ indented (depth + 1) v ++ indentedItems depth rest)

/-- The members after the first, each on a line, and the closing brace. -/
def indentedMembers (depth : Nat) : List (String × Json) → List Char
  | [] => newline depth ++ ['\x7d']
  | (k, v) :: rest =>
    ',' :: (newline (depth + 1) ++ quoted k ++ ':' :: ' ' ::
      (indented (depth + 1) v ++ indentedMembers depth rest))

end

/-- The text of a value with an item or member to a line, as a string. -/
def pretty (v : Json) : String :=
  String.ofList (indented 0 v)

example :
    print (.object [("a", .array [.number (.integer 1), .null])]) = "\x7b\"a\":[1,null]\x7d" := by
  decide +kernel

end TabularQuery.Json
