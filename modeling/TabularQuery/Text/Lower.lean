import TabularQuery.Text.CaseTable

/-!
# Small letters

A text with its capitals made small, for any script.  Two characters are not mapped one
by one: the capital I with a dot becomes an i and a combining dot, and the capital sigma
becomes the final sigma at the end of a word.
-/

namespace TabularQuery.Text

/-- The other character that is the small letter of a character, if there is one. -/
def smallLetter? (n : Nat) : Option Nat :=
  smallLetterRuns.findSome? fun r =>
    if r.first ≤ n && n ≤ r.last && (n - r.first) % r.step == 0 then
      some ((n : Int) + r.shift).toNat
    else none

/-- The small letters of one character outside any word. -/
def lowerChar (c : Char) : List Char :=
  let n := c.toNat
  if n < 0x80 then [if 'A' ≤ c ∧ c ≤ 'Z' then Char.ofNat (n + 32) else c]
  else if n = 0x130 then ['i', '\u0307']
  else
    match smallLetter? n with
    | some m => [Char.ofNat m]
    | none => [c]

/-- Whether the first character that is not passed over is cased. -/
def casedFirst (s : List Char) : Bool :=
  match s.dropWhile isPassedOver with
  | [] => false
  | c :: _ => isCased c

/-- Makes the capitals of a text small; `before` is what stands in front of it, last
character first. -/
def lowerAfter (before : List Char) : List Char → List Char
  | [] => []
  | c :: rest =>
    if c == '\u03A3' then
      (if casedFirst before && !casedFirst rest then '\u03C2' else '\u03C3') ::
        lowerAfter (c :: before) rest
    else lowerChar c ++ lowerAfter (c :: before) rest

/-- The text in small letters. -/
def lower (s : List Char) : List Char :=
  lowerAfter [] s

example : lower "ΣΑΣ ÉCOLE".toList = "σας école".toList := by decide +kernel

end TabularQuery.Text
