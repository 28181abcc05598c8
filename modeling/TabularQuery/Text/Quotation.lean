import TabularQuery.Text.MarkTable
import TabularQuery.Text.UnseenTable

/-!
# Quotation of a text in a message

A text between double quotes, with a backslash in front of quotes and backslashes, short
names for a few controls, and the code point in braces for every other character that
cannot be shown on its own.
-/

namespace TabularQuery.Text

/-- A digit of a number in base sixteen. -/
def hexDigit (n : Nat) : Char :=
  Nat.digitChar n

/-- A code point in braces, in base sixteen. -/
def spelledOut (c : Char) : List Char :=
  '\\' :: 'u' :: '\x7b' :: (Nat.toDigits 16 c.toNat ++ ['\x7d'])

/-- Whether a character cannot be shown on its own: it is not seen, or is written on the
character before it. -/
def isHidden (c : Char) : Bool :=
  let n := c.toNat
  inRanges unseenRanges n || fillers.contains n || isNonspacing c || inRanges attachedRanges n

/-- One character of a quotation. -/
def quotedChar (c : Char) : List Char :=
  if c == '"' || c == '\\' then ['\\', c]
  else if c == '\n' then ['\\', 'n']
  else if c == '\r' then ['\\', 'r']
  else if c == '\t' then ['\\', 't']
  else if c == '\x00' then ['\\', '0']
  else if isHidden c then spelledOut c
  else [c]

/-- The text in double quotes. -/
def quotation (s : List Char) : List Char :=
  '"' :: (s.flatMap quotedChar ++ ['"'])

example : quotation "a\"b\n".toList = "\"a\\\"b\\n\"".toList := by decide +kernel

end TabularQuery.Text
