import TabularQuery.Number.Binary64
import TabularQuery.Text.Blank

/-!
# Reading binary64 numbers

A text denotes a number when it is, after an optional sign, one of the words `inf`,
`infinity` and `nan` in any case, or decimal digits with an optional point and an
optional exponent.  Digits may be missing on one side of the point.  The number read
is the one nearest to the decimal.
-/

namespace TabularQuery.Binary64

/-- The number nearest to `± coefficient · 10 ^ exponent`.  A decimal far outside the
range of the format is recognised by its length before any power is taken. -/
def ofDecimal (negative : Bool) (coefficient : Nat) (exponent : Int) : Binary64 :=
  if coefficient = 0 then zero negative
  else
    let size : Int := (Text.digits coefficient).length + exponent
    if 310 < size then .infinite negative
    else if size < -330 then zero negative
    else if 0 ≤ exponent then ofRatio negative (coefficient * Nat.pow 10 exponent.toNat) 1
    else ofRatio negative coefficient (Nat.pow 10 (-exponent).toNat)

/-- A sign, if there is one, and what follows it. -/
def readSign : List Char → Bool × List Char
  | '-' :: rest => (true, rest)
  | '+' :: rest => (false, rest)
  | s => (false, s)

/-- The exponent at the end of a decimal: nothing, or `e` and a signed run of digits. -/
def readExponent : List Char → Option Int
  | [] => some 0
  | c :: rest =>
    if c == 'e' || c == 'E' then
      let (negative, ds) := readSign rest
      if ds.isEmpty || !ds.all Text.isDigit then none
      else
        let n : Int := Text.readDigits ds
        some (if negative then -n else n)
    else none

/-- Digits, an optional point with digits, and an exponent. -/
def readUnsigned (negative : Bool) (s : List Char) : Option Binary64 :=
  let whole := s.takeWhile Text.isDigit
  let rest := s.dropWhile Text.isDigit
  let (fraction, rest) :=
    match rest with
    | '.' :: r => (r.takeWhile Text.isDigit, r.dropWhile Text.isDigit)
    | r => ([], r)
  if whole.isEmpty && fraction.isEmpty then none
  else
    (readExponent rest).map fun e =>
      ofDecimal negative (Text.readDigits (whole ++ fraction)) (e - fraction.length)

/-- A text with its ASCII capitals made small. -/
def lowerAscii (s : List Char) : List Char :=
  s.map Char.toLower

/-- The number a text denotes, if it denotes one. -/
def read? (s : List Char) : Option Binary64 :=
  let (negative, body) := readSign s
  let word := lowerAscii body
  if word == "inf".toList || word == "infinity".toList then some (.infinite negative)
  else if word == "nan".toList then some .nan
  else readUnsigned negative body

example : read? "+.5e1".toList = some (ofInt 5) := by decide
example : read? "5.".toList = some (ofInt 5) := by decide
example : read? ".".toList = none := by decide
example : read? "1e400".toList = some (.infinite false) := by decide +kernel
example : read? "-1e-400".toList = some (zero true) := by decide +kernel

end TabularQuery.Binary64
