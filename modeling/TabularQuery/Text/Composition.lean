import TabularQuery.Text.CompositionTable

/-!
# Composed texts

One sign can be written as one character or as a character with marks behind it.  In a
composed text every sign that has a character of its own is written as that character, and
the marks on one character stand in the order of their classes.

## Main definitions

* `Text.composed` — the composed form of a text.
-/

namespace TabularQuery.Text

/-! ## Classes of marks -/

/-- The class of a mark; nothing but marks has a class above zero. -/
def combiningClass (c : Char) : Nat :=
  (combiningClasses.findSome? fun (k, ranges) =>
    if inRanges ranges c.toNat then some k else none).getD 0

/-- The class of the marks that take the vowel from a consonant. -/
def vowelKiller : Nat := 9

/-! ## Hangul -/

/-- The first syllable of Hangul, and how many there are. -/
def firstSyllable : Nat := 0xAC00

/-- The number of the syllables of Hangul: nineteen first consonants, twenty-one vowels,
and twenty-eight endings, one of them empty. -/
def syllables : Nat := 19 * 21 * 28

/-- The letters of a syllable of Hangul. -/
def syllableLetters (place : Nat) : List Char :=
  let ending := place % 28
  [Char.ofNat (0x1100 + place / 588), Char.ofNat (0x1161 + place % 588 / 28)] ++
    if ending = 0 then [] else [Char.ofNat (0x11A7 + ending)]

/-- The syllable of two letters of Hangul, or of a syllable without an ending and one. -/
def syllable? (a b : Nat) : Option Nat :=
  if 0x1100 ≤ a ∧ a < 0x1113 ∧ 0x1161 ≤ b ∧ b < 0x1176 then
    some (firstSyllable + ((a - 0x1100) * 21 + (b - 0x1161)) * 28)
  else if firstSyllable ≤ a ∧ a < firstSyllable + syllables ∧ (a - firstSyllable) % 28 = 0 ∧
      0x11A7 < b ∧ b < 0x11C3 then
    some (a + (b - 0x11A7))
  else none

/-! ## Taking characters apart -/

/-- The two characters that a character is made of. -/
def halves? (n : Nat) : Option (Nat × Nat) :=
  compositions.findSome? fun (mark, bases) =>
    (bases.find? fun (_, whole) => whole = n).map fun (base, _) => (base, mark)

/-- A character taken apart once. -/
def splitChar (c : Char) : List Char :=
  if firstSyllable ≤ c.toNat ∧ c.toNat < firstSyllable + syllables then
    syllableLetters (c.toNat - firstSyllable)
  else
    match halves? c.toNat with
    | some (base, mark) => [Char.ofNat base, Char.ofNat mark]
    | none => [c]

/-- A text taken apart some times over. -/
def splitTimes : Nat → List Char → List Char
  | 0, s => s
  | times + 1, s => splitTimes times (s.flatMap splitChar)

/-- Puts a character behind a text, whose last character comes first here: a mark goes in
front of the marks of higher classes. -/
def insertMark (c : Char) : List Char → List Char
  | [] => [c]
  | last :: earlier =>
    if 0 < combiningClass c ∧ combiningClass c < combiningClass last then
      last :: insertMark c earlier
    else c :: last :: earlier

/-- The signs of a text with all their marks apart and in order.  No character has more
than three marks. -/
def decomposed (s : List Char) : List Char :=
  ((splitTimes 4 s).foldl (fun earlier c => insertMark c earlier) []).reverse

/-! ## Putting characters together -/

/-- The character that is one with another behind it. -/
def compose? (a b : Nat) : Option Nat :=
  match syllable? a b with
  | some whole => some whole
  | none => do
    let (_, bases) ← compositions.find? fun (mark, _) => mark = b
    let (_, whole) ← bases.find? fun (base, _) => base = a
    return whole

/-- Puts the marks behind a character together with it.  `kept` are the marks that stayed
apart so far, the last first; behind them a mark of the same class stays apart, too. -/
def composeFrom (base : Char) (kept : List Char) : List Char → List Char
  | [] => base :: kept.reverse
  | c :: rest =>
    let free :=
      match kept with
      | [] => true
      | last :: _ => combiningClass last < combiningClass c
    match if free then compose? base.toNat c.toNat else none with
    | some whole => composeFrom (Char.ofNat whole) kept rest
    | none =>
      if combiningClass c = 0 then base :: (kept.reverse ++ composeFrom c [] rest)
      else composeFrom base (c :: kept) rest

/-- Puts the characters of a text in parts together, from the first one that is no mark. -/
def recomposed : List Char → List Char
  | [] => []
  | c :: rest => if combiningClass c = 0 then composeFrom c [] rest else c :: recomposed rest

/-- The composed form of a text.  Characters that stand for another one alone are left. -/
def composed (s : List Char) : List Char :=
  recomposed (decomposed s)

example : composed "E\u0301A\u030a".toList = "ÉÅ".toList := by decide +kernel
example : composed "\u1100\u1161\u11a8".toList = "각".toList := by decide +kernel

end TabularQuery.Text
