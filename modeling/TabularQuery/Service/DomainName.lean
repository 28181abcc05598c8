import TabularQuery.Service.NameClasses
import TabularQuery.Service.NameTable
import TabularQuery.Service.Punycode
import TabularQuery.Text.Composition
import TabularQuery.Text.Lower
import TabularQuery.Text.UnseenTable

/-!
# Names of the domain system

A name in letters of any script stands for a name in the seven-bit code.  The forms of a
letter are taken back to one, marks are put together with their letters, and each label
between points is written in the seven-bit code.  A name that could be read in two ways is
refused: one that begins a label with a mark, joins letters that do not join, or mixes
letters from the left and from the right in one label.

## Main definitions

* `DomainName.image?` — what stands for a character in a name.
* `DomainName.isClear`, `DomainName.isOneWay` — the labels that can be read in one way.
* `DomainName.ascii?` — the name in the seven-bit code.
-/

namespace TabularQuery.DomainName

/-! ## Characters -/

/-- Whether a character of the seven-bit code may not be in a name. -/
def isForbidden (c : Char) : Bool :=
  c.toNat ≤ 0x20 || c.toNat == 0x7F ||
    ['%', '#', '/', ':', '<', '>', '?', '@', '[', '\\', ']', '^', '|'].contains c

/-- The images of some characters that follow each other, with blanks between them, as a
list. -/
def rowImages (row : Nat × String) : List (List Char) :=
  Text.splitOn ' ' row.2.toList

/-- The image of a character that has one of its own. -/
def ownImage? (c : Char) : Option (List Char) := do
  let row ← (imageRows.filter fun row => row.1 ≤ c.toNat).getLast?
  (rowImages row)[c.toNat - row.1]?

/-- Whether a character is one of the two that join letters or keep them apart. -/
def isJoiner (c : Char) : Bool :=
  c == '\u200c' || c == '\u200d'

/-- Whether a capital is the common form of its letter: those of Cherokee are. -/
def isCommonCapital (c : Char) : Bool :=
  0x13A0 ≤ c.toNat && c.toNat ≤ 0x13F5

/-- What stands for a character in a name; nothing does for one that may not be there. -/
def image? (c : Char) : Option (List Char) :=
  let n := c.toNat
  if n < 128 then some (Text.lowerChar c)
  else if isJoiner c || isCommonCapital c then some [c]
  else if Text.inRanges omittedRanges n then some []
  else
    match ownImage? c with
    | some image => some image
    | none =>
      if Text.inRanges refusedRanges n || Text.inRanges Text.unseenRanges n then none
      else some (Text.lowerChar c)

/-- A text with the images of its characters, composed. -/
def folded? (s : List Char) : Option (List Char) := do
  let images ← s.mapM image?
  let folded := Text.composed images.flatten
  if folded.any isForbidden then none else some folded

/-- Whether a text is its own folded form. -/
def isFolded (s : List Char) : Bool :=
  folded? s == some s

/-! ## Labels -/

/-- Whether a text is in the seven-bit code. -/
def isAscii (s : List Char) : Bool :=
  s.all fun c => c.toNat < 128

/-- Whether a label begins with a mark. -/
def hasFirstMark (label : List Char) : Bool :=
  label.head?.any Text.isMark

/-- Whether the first of some characters that letters do not join across is of a kind. -/
def firstOpaque (kind : Char → Bool) (s : List Char) : Bool :=
  match s.dropWhile fun c => !kind c && isJoiningTransparent c with
  | [] => false
  | c :: _ => kind c

/-- Whether a joiner stands where it may: behind a mark that takes the vowel from a
consonant, or, if it keeps letters apart, between two that would join.  `before` is the
text in front of it, the last character first. -/
def isJoinerAllowed (before : List Char) (joiner : Char) (after : List Char) : Bool :=
  match before with
  | [] => false
  | previous :: _ =>
    Text.combiningClass previous == Text.vowelKiller ||
      (joiner == '\u200c' && firstOpaque joinsForward before && firstOpaque joinsBackward after)

/-- Whether all joiners of a text stand where they may. -/
def joinersAllowed (before : List Char) : List Char → Bool
  | [] => true
  | c :: after =>
    (!isJoiner c || isJoinerAllowed before c after) && joinersAllowed (c :: before) after

/-- The number of characters that a label may have when it is not in the seven-bit code. -/
def greatestLength : Nat := 1000

/-- Whether a label can be read in one way only, as far as its own characters tell. -/
def isClear (label : List Char) : Bool :=
  !hasFirstMark label && joinersAllowed [] label &&
    (isAscii label || label.length ≤ greatestLength)

/-- What begins a label that is written in the seven-bit code. -/
def codeMark : List Char := "xn--".toList

/-- The number of characters that the code of a label may have. -/
def greatestCodeLength : Nat := 2000

/-- The label of a code.  It has a character outside of the seven-bit code, and nothing in
it would be folded. -/
def decodeLabel? (code : List Char) : Option (List Char) := do
  if code.getLast?.all (· == '-') || greatestCodeLength < code.length then none
  else
    let label ← Punycode.decode? code
    if isFolded label && !label.contains '.' then some label else none

/-- The label that a part of a folded name stands for. -/
def labelOf? (part : List Char) : Option (List Char) := do
  let label ←
    if codeMark.isPrefixOf part then
      if isAscii part then decodeLabel? (part.drop codeMark.length) else none
    else some part
  if isClear label then some label else none

/-- A label in the seven-bit code. -/
def asciiLabel (label : List Char) : List Char :=
  if isAscii label then label else codeMark ++ Punycode.encode label

/-! ## Directions -/

/-- Whether a label has letters from the right, or digits that go with them. -/
def hasRight (label : List Char) : Bool :=
  label.any fun c => Direction.ofChar c == .right || Direction.ofChar c == .arabicNumber

/-- Whether the characters of a label after its first one go with a first one from the
left; `last` is the direction of the last of them that is no mark. -/
def goesLeft (rest : List Direction) (last : Direction) : Bool :=
  [.left, .europeanNumber].contains last &&
    rest.all fun d => d != .right && d != .arabicNumber

/-- Whether the characters of a label after its first one go with a first one from the
right; `last` is the direction of the last of them that is no mark.  Only one kind of
digits may be among them. -/
def goesRight (rest : List Direction) (last : Direction) : Bool :=
  [.right, .europeanNumber, .arabicNumber].contains last &&
    rest.all (· != .left) &&
    !(rest.contains .europeanNumber && rest.contains .arabicNumber)

/-- Whether a label is written one way: from the left, or from the right. -/
def isOneWay (label : List Char) : Bool :=
  match label.map Direction.ofChar with
  | [] => true
  | first :: rest =>
    (first == .left || first == .right) &&
      match (rest.reverse.dropWhile (· == .mark)).head? with
      | none => true
      | some last => if first == .left then goesLeft rest last else goesRight rest last

/-! ## Names -/

/-- A name in the seven-bit code.  If one of its labels has letters from the right, all of
them must be written one way. -/
def ascii? (s : List Char) : Option (List Char) := do
  let folded ← folded? s
  let labels ← (Text.splitOn '.' folded).mapM labelOf?
  if labels.any hasRight && !labels.all isOneWay then none
  else some (Text.join ['.'] (labels.map asciiLabel))

example : ascii? "É.DE".toList = some "xn--9ca.de".toList := by decide +kernel

end TabularQuery.DomainName
