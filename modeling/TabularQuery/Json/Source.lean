import TabularQuery.Json.Basic
import TabularQuery.Text.Blank

/-!
# JSON texts, whole or broken off

A reader that turns a text into a tree even when the text is not JSON: the tree then
ends at the place where the text stops being JSON, with the reason.  What is wrong
depends on who reads: a part whose value nobody asks for is passed over without looking
at the size of its numbers, the pairing of its surrogates and its depth.  So numbers and
texts are kept as they were written, and a broken end holds a reason for each of the two
readers.

## Main definitions

* `Json.Source` — the tree, and `Json.Source.scan`, which makes it from a text.
* `Json.Source.toJson` — the value of a tree, or the first reason why there is none.
* `Json.Source.skip` — passes over a tree.
* `Json.read` — the value of a whole text.
-/

namespace TabularQuery.Json

/-- Why a text is not JSON. -/
inductive TextFault where
  | endInList
  | endInObject
  | endInText
  | endInValue
  | expectedColon
  | expectedListEnd
  | expectedObjectEnd
  | expectedWord
  | expectedValue
  | badEscape
  | badNumber
  | numberOutOfRange
  | controlCharacter
  | keyNotText
  | loneSurrogate
  | trailingComma
  | trailingCharacters
  | brokenSurrogatePair
  | tooDeep
  deriving DecidableEq, Repr

/-- The wording of a fault. -/
def TextFault.message : TextFault → String
  | endInList => "EOF while parsing a list"
  | endInObject => "EOF while parsing an object"
  | endInText => "EOF while parsing a string"
  | endInValue => "EOF while parsing a value"
  | expectedColon => "expected `:`"
  | expectedListEnd => "expected `,` or `]`"
  | expectedObjectEnd => "expected `,` or `\x7d`"
  | expectedWord => "expected ident"
  | expectedValue => "expected value"
  | badEscape => "invalid escape"
  | badNumber => "invalid number"
  | numberOutOfRange => "number out of range"
  | controlCharacter => "control character (\\u0000-\\u001F) found while parsing a string"
  | keyNotText => "key must be a string"
  | loneSurrogate => "lone leading surrogate in hex escape"
  | trailingComma => "trailing comma"
  | trailingCharacters => "trailing characters"
  | brokenSurrogatePair => "unexpected end of hex escape"
  | tooDeep => "recursion limit exceeded"

/-- Whether the text only ends too early. -/
def TextFault.isEnd : TextFault → Bool
  | endInList | endInObject | endInText | endInValue => true
  | _ => false

/-- A place where the text stops being JSON: the reason for one who reads the value, and
the reason for one who passes over it. -/
structure Break where
  reading : TextFault
  skipping : TextFault
  deriving Repr

/-- The same reason for both. -/
def Break.both (f : TextFault) : Break := ⟨f, f⟩

/-- A number as written. -/
structure NumberText where
  negative : Bool
  whole : List Char
  fraction : Option (List Char)
  /-- Whether the exponent is negative, and its digits. -/
  exponent : Option (Bool × List Char)
  deriving Repr

/-- A text as written: its characters, and the first fault in the pairing of its
surrogates. -/
structure QuotedText where
  value : String
  fault : Option TextFault
  deriving Repr

/-- How a list or an object ends. -/
inductive Ending where
  | closed
  | broken (at' : Break)
  deriving Repr

/-- A JSON text as a tree, broken off where it stops being JSON. -/
inductive Source where
  | null
  | bool (value : Bool)
  | number (value : NumberText)
  | text (value : QuotedText)
  | list (items : List Source) (ending : Ending)
  | object (members : List (QuotedText × Source)) (ending : Ending)
  /-- A part that is a value already. -/
  | value (v : Json)
  | broken (at' : Break)
  deriving Repr

/-! ## Numbers -/

/-- Digits taken into a number of 64 bits for as long as they fit; the digits that are
left over, from the first that does not fit. -/
def fill (n : Nat) : List Char → Nat × List Char
  | [] => (n, [])
  | c :: rest =>
    let m := 10 * n + Text.digitValue c
    if m < Nat.pow 2 64 then fill m rest else (n, c :: rest)

/-- `significand · 10 ^ exponent` in two roundings: the significand first, then one
product or quotient with a power of ten.  A quotient may take several steps; a product
beyond all finite numbers is out of range. -/
def scale (x : Binary64) (exponent : Int) : Option Binary64 :=
  if exponent.natAbs ≤ 308 then
    if 0 ≤ exponent then
      let y := x.mul (.powTen exponent.natAbs)
      if y.isFinite then some y else none
    else some (x.div (.powTen exponent.natAbs))
  else if x.isZero then some x
  else if 0 ≤ exponent then none
  else scale (x.div (.powTen 308)) (exponent + 308)
termination_by exponent.natAbs
decreasing_by omega

/-- The value of a number.  A whole number of 64 bits is an integer, minus zero is not;
everything else is a binary64 number. -/
def NumberText.value (t : NumberText) : Except TextFault JsonNumber :=
  let (significand, surplus) := fill 0 t.whole
  match surplus, t.fraction, t.exponent with
  | [], none, none =>
    if !t.negative then .ok (.integer significand)
    else if significand = 0 || Nat.pow 2 63 < significand then
      .ok (.real (Binary64.ofInt significand).neg)
    else .ok (.integer (-(significand : Int)))
  | _, fraction, exponent =>
    let digits := fraction.getD []
    let (significand, unread) := fill significand digits
    let shift : Int := (surplus.length : Int) - ((digits.length - unread.length : Nat) : Int)
    let signed (x : Binary64) := if t.negative then x.neg else x
    match exponent with
    | none =>
      match scale (.ofInt significand) shift with
      | some x => .ok (.real (signed x))
      | none => .error .numberOutOfRange
    | some (below, ds) =>
      let e : Int := Text.readDigits ds
      if 2147483647 < e then
        if significand != 0 && !below then .error .numberOutOfRange
        else .ok (.real (signed (.zero false)))
      else
        match scale (.ofInt significand) (if below then shift - e else shift + e) with
        | some x => .ok (.real (signed x))
        | none => .error .numberOutOfRange

/-! ## Scanning -/

/-- The blanks of a JSON text. -/
def isSpace (c : Char) : Bool :=
  c == ' ' || c == '\n' || c == '\t' || c == '\r'

/-- A text from its first character that is not a blank. -/
def skipSpace (s : List Char) : List Char :=
  s.dropWhile isSpace

/-- The value of a digit in base sixteen. -/
def hexValue? (c : Char) : Option Nat :=
  if Text.isDigit c then some (c.toNat - '0'.toNat)
  else if 'a' ≤ c && c ≤ 'f' then some (c.toNat - 'a'.toNat + 10)
  else if 'A' ≤ c && c ≤ 'F' then some (c.toNat - 'A'.toNat + 10)
  else none

/-- A character of a quoted text, or a code unit written as four digits. -/
inductive Piece where
  | char (c : Char)
  | unit (n : Nat)

/-- Why the pieces of a quoted text end. -/
inductive Stop where
  | closed
  | textEnd
  | control
  | badEscape
  | badUnit

/-- The character that an escape of one letter stands for. -/
def shortEscape? (c : Char) : Option Char :=
  if c == '"' || c == '\\' || c == '/' then some c
  else if c == 'b' then some '\x08'
  else if c == 'f' then some '\x0c'
  else if c == 'n' then some '\n'
  else if c == 'r' then some '\r'
  else if c == 't' then some '\t'
  else none

/-- The code unit that four digits in base sixteen denote. -/
def unit? (a b c d : Char) : Option Nat := do
  let a ← hexValue? a
  let b ← hexValue? b
  let c ← hexValue? c
  let d ← hexValue? d
  pure (((a * 16 + b) * 16 + c) * 16 + d)

/-- The pieces of a text after its opening quote, why they end, and what follows. -/
def scanPieces : List Char → List Piece × Stop × List Char
  | [] => ([], .textEnd, [])
  | '"' :: rest => ([], .closed, rest)
  | '\\' :: 'u' :: rest =>
    if Text.byteLength rest < 4 then ([], .textEnd, [])
    else
      match rest with
      | a :: b :: c :: d :: rest =>
        match unit? a b c d with
        | some n =>
          let (pieces, stop, rest) := scanPieces rest
          (.unit n :: pieces, stop, rest)
        | none => ([], .badUnit, [])
      | _ => ([], .badUnit, [])
  | ['\\'] => ([], .textEnd, [])
  | '\\' :: c :: rest =>
    match shortEscape? c with
    | some d =>
      let (pieces, stop, rest) := scanPieces rest
      (.char d :: pieces, stop, rest)
    | none => ([], .badEscape, [])
  | c :: rest =>
    if c.toNat < 0x20 then ([], .control, [])
    else
      let (pieces, stop, rest) := scanPieces rest
      (.char c :: pieces, stop, rest)

/-- Whether a code unit is the first of a pair. -/
def isHigh (n : Nat) : Bool := 0xD800 ≤ n && n ≤ 0xDBFF

/-- Whether a code unit is the second of a pair. -/
def isLow (n : Nat) : Bool := 0xDC00 ≤ n && n ≤ 0xDFFF

/-- The fault that the end of the pieces is. -/
def Stop.fault : Stop → Option TextFault
  | closed => none
  | textEnd => some .endInText
  | control => some .controlCharacter
  | badEscape | badUnit => some .badEscape

/-- The fault of a first code unit with nothing but the end of the pieces after it. -/
def Stop.faultAfterHigh : Stop → TextFault
  | closed | control | badEscape => .brokenSurrogatePair
  | textEnd => .endInText
  | badUnit => .badEscape

/-- The characters of pieces, code units paired, and the first fault. -/
def assemble (stop : Stop) : List Piece → List Char × Option TextFault
  | [] => ([], none)
  | .char c :: rest =>
    let (cs, f) := assemble stop rest
    (c :: cs, f)
  | [.unit n] =>
    if isHigh n then ([], some stop.faultAfterHigh)
    else if isLow n then ([], some .loneSurrogate)
    else ([Char.ofNat n], none)
  | .unit n :: .unit m :: rest =>
    if isHigh n then
      if isLow m then
        let (cs, f) := assemble stop rest
        (Char.ofNat ((n - 0xD800) * 1024 + (m - 0xDC00) + 0x10000) :: cs, f)
      else ([], some .loneSurrogate)
    else if isLow n then ([], some .loneSurrogate)
    else
      let (cs, f) := assemble stop (.unit m :: rest)
      (Char.ofNat n :: cs, f)
  | .unit n :: .char c :: rest =>
    if isHigh n then ([], some .brokenSurrogatePair)
    else if isLow n then ([], some .loneSurrogate)
    else
      let (cs, f) := assemble stop (.char c :: rest)
      (Char.ofNat n :: cs, f)

/-- A quoted text after its opening quote: the text and what follows it, or the break. -/
def scanText (s : List Char) : Except Break (QuotedText × List Char) :=
  let (pieces, stop, rest) := scanPieces s
  let (cs, fault) := assemble stop pieces
  match stop.fault with
  | none => .ok (⟨String.ofList cs, fault⟩, rest)
  | some f => .error ⟨fault.getD f, f⟩

/-- The break where a digit is missing. -/
def missingDigit : List Char → Break
  | [] => ⟨.endInValue, .badNumber⟩
  | _ => .both .badNumber

/-- The exponent of a number after its letter. -/
def scanExponent (s : List Char) : Except Break ((Bool × List Char) × List Char) :=
  let (below, s) :=
    match s with
    | '+' :: rest => (false, rest)
    | '-' :: rest => (true, rest)
    | s => (false, s)
  let ds := s.takeWhile Text.isDigit
  if ds.isEmpty then .error (missingDigit s) else .ok ((below, ds), s.dropWhile Text.isDigit)

/-- The exponent of a number, if the text goes on with one. -/
def scanExponent? : List Char → Except Break (Option (Bool × List Char) × List Char)
  | c :: rest =>
    if c == 'e' || c == 'E' then do
      let (e, rest) ← scanExponent rest
      .ok (some e, rest)
    else .ok (none, c :: rest)
  | [] => .ok (none, [])

/-- A number after its sign. -/
def scanNumber (negative : Bool) (s : List Char) : Except Break (NumberText × List Char) :=
  let whole := s.takeWhile Text.isDigit
  let rest := s.dropWhile Text.isDigit
  match whole with
  | [] => .error (missingDigit s)
  | '0' :: _ :: _ => .error (.both .badNumber)
  | _ =>
    match rest with
    | '.' :: rest => do
      let ds := rest.takeWhile Text.isDigit
      let rest := rest.dropWhile Text.isDigit
      if ds.isEmpty then .error (missingDigit rest)
      else
        let (e, rest) ← scanExponent? rest
        .ok (⟨negative, whole, some ds, e⟩, rest)
    | rest => do
      let (e, rest) ← scanExponent? rest
      .ok (⟨negative, whole, none, e⟩, rest)

/-- The rest of a word such as `null`, and what follows it. -/
def scanWord : List Char → List Char → Except Break (List Char)
  | [], s => .ok s
  | _ :: _, [] => .error (.both .endInValue)
  | w :: word, c :: s => if w == c then scanWord word s else .error (.both .expectedWord)

/-- A source and, unless it is broken off, what follows it. -/
abbrev Scan := Source × Option (List Char)

/-- A scan that ends at a break. -/
def Scan.broken (b : Break) : Scan := (.broken b, none)

namespace Source

mutual

/-- Scans a value.  Every level and every item takes one unit of fuel; the length of the
text is enough. -/
def scanValue : Nat → List Char → Scan
  | 0, _ => .broken (.both .tooDeep)
  | fuel + 1, s =>
    match skipSpace s with
    | [] => .broken (.both .endInValue)
    | c :: rest =>
      if c == 'n' then
        match scanWord ['u', 'l', 'l'] rest with
        | .ok rest => (.null, some rest)
        | .error b => .broken b
      else if c == 't' then
        match scanWord ['r', 'u', 'e'] rest with
        | .ok rest => (.bool true, some rest)
        | .error b => .broken b
      else if c == 'f' then
        match scanWord ['a', 'l', 's', 'e'] rest with
        | .ok rest => (.bool false, some rest)
        | .error b => .broken b
      else if c == '-' then
        match scanNumber true rest with
        | .ok (n, rest) => (.number n, some rest)
        | .error b => .broken b
      else if Text.isDigit c then
        match scanNumber false (c :: rest) with
        | .ok (n, rest) => (.number n, some rest)
        | .error b => .broken b
      else if c == '"' then
        match scanText rest with
        | .ok (t, rest) => (.text t, some rest)
        | .error b => .broken b
      else if c == '[' then
        let (items, ending, rest) := scanItems fuel true rest
        (.list items ending, rest)
      else if c == '\x7b' then
        let (members, ending, rest) := scanMembers fuel true rest
        (.object members ending, rest)
      else .broken (.both .expectedValue)

/-- Scans the items of a list up to its end. -/
def scanItems : Nat → Bool → List Char → List Source × Ending × Option (List Char)
  | 0, _, _ => ([], .broken (.both .tooDeep), none)
  | fuel + 1, first, s =>
    let item (s : List Char) :=
      match scanValue fuel s with
      | (v, none) => ([v], .closed, none)
      | (v, some rest) =>
        let (items, ending, rest) := scanItems fuel false rest
        (v :: items, ending, rest)
    match skipSpace s with
    | [] => ([], .broken (.both .endInList), none)
    | c :: rest =>
      if c == ']' then ([], .closed, some rest)
      else if first then item (c :: rest)
      else if c == ',' then
        match skipSpace rest with
        | [] => ([], .broken (.both .endInValue), none)
        | d :: rest =>
          if d == ']' then ([], .broken ⟨.trailingComma, .expectedValue⟩, none)
          else item (d :: rest)
      else ([], .broken (.both .expectedListEnd), none)

/-- Scans the members of an object up to its end. -/
def scanMembers : Nat → Bool → List Char →
    List (QuotedText × Source) × Ending × Option (List Char)
  | 0, _, _ => ([], .broken (.both .tooDeep), none)
  | fuel + 1, first, s =>
    let member (s : List Char) :=
      match scanText s with
      | .error b => ([], .broken b, none)
      | .ok (key, rest) =>
        match skipSpace rest with
        | [] => ([(key, .broken (.both .endInObject))], .closed, none)
        | c :: rest =>
          if c == ':' then
            match scanValue fuel rest with
            | (v, none) => ([(key, v)], .closed, none)
            | (v, some rest) =>
              let (members, ending, rest) := scanMembers fuel false rest
              ((key, v) :: members, ending, rest)
          else ([(key, .broken (.both .expectedColon))], .closed, none)
    match skipSpace s with
    | [] => ([], .broken (.both .endInObject), none)
    | c :: rest =>
      if c == '\x7d' then ([], .closed, some rest)
      else if first then
        if c == '"' then member rest else ([], .broken (.both .keyNotText), none)
      else if c == ',' then
        match skipSpace rest with
        | [] => ([], .broken ⟨.endInValue, .endInObject⟩, none)
        | d :: rest =>
          if d == '"' then member rest
          else if d == '\x7d' then ([], .broken ⟨.trailingComma, .keyNotText⟩, none)
          else ([], .broken (.both .keyNotText), none)
      else ([], .broken (.both .expectedObjectEnd), none)

end

/-- The tree of a text, and whether anything but blanks follows it. -/
def scan (s : List Char) : Source × Bool :=
  match scanValue (2 * s.length + 2) s with
  | (v, none) => (v, false)
  | (v, some rest) => (v, !(skipSpace rest).isEmpty)

/-! ## Reading and passing over -/

/-- A text, or the fault in it. -/
def readText (t : QuotedText) : Except TextFault String :=
  match t.fault with
  | some f => .error f
  | none => .ok t.value

mutual

/-- The value of a tree.  A list or object needs a level of depth, and the last level is
not given away. -/
def toJson (depth : Nat) : Source → Except TextFault Json
  | null => .ok .null
  | bool b => .ok (.bool b)
  | number n => n.value.map .number
  | text t => (readText t).map .text
  | list items ending =>
    if depth ≤ 1 then .error .tooDeep
    else do
      let vs ← toJsonItems (depth - 1) items
      match ending with
      | .closed => .ok (.array vs)
      | .broken b => .error b.reading
  | object members ending =>
    if depth ≤ 1 then .error .tooDeep
    else do
      let vs ← toJsonMembers (depth - 1) [] members
      match ending with
      | .closed => .ok (.object vs)
      | .broken b => .error b.reading
  | value v => .ok v
  | broken b => .error b.reading

/-- The values of items. -/
def toJsonItems (depth : Nat) : List Source → Except TextFault (List Json)
  | [] => .ok []
  | v :: rest => do
    let v ← toJson depth v
    let rest ← toJsonItems depth rest
    .ok (v :: rest)

/-- The values of members, put one after the other to those before them: of a name that
comes again, the last value counts and the first place. -/
def toJsonMembers (depth : Nat) (done : List (String × Json)) :
    List (QuotedText × Source) → Except TextFault (List (String × Json))
  | [] => .ok done
  | (k, v) :: rest => do
    let k ← readText k
    let v ← toJson depth v
    toJsonMembers depth (Fields.put k v done) rest

end

mutual

/-- Passes over a tree whose value is not asked for. -/
def skip : Source → Except TextFault Unit
  | list items ending => do
    skipItems items
    match ending with
    | .closed => .ok ()
    | .broken b => .error b.skipping
  | object members ending => do
    skipMembers members
    match ending with
    | .closed => .ok ()
    | .broken b => .error b.skipping
  | broken b => .error b.skipping
  | _ => .ok ()

/-- Passes over items. -/
def skipItems : List Source → Except TextFault Unit
  | [] => .ok ()
  | v :: rest => do skip v; skipItems rest

/-- Passes over members. -/
def skipMembers : List (QuotedText × Source) → Except TextFault Unit
  | [] => .ok ()
  | (_, v) :: rest => do skip v; skipMembers rest

end

end Source

/-- The number of levels of lists and objects that are read, and one more. -/
def depthLimit : Nat := 128

/-- The value of a whole text. -/
def read (s : String) : Except TextFault Json := do
  let (source, more) := Source.scan s.toList
  let v ← source.toJson depthLimit
  if more then .error .trailingCharacters else .ok v

end TabularQuery.Json
