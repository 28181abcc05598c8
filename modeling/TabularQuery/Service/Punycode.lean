import TabularQuery.Text.Blank

/-!
# Names of hosts in the seven-bit code

A label of a name with letters of any script is written with the letters of the seven-bit
code alone: those it has, and then, digit by digit in base thirty-six, where the others
stand.  The digits of a number have a threshold each, which adapts to the numbers so far.

## Main definitions

* `Punycode.encode` — the label in the seven-bit code, without the mark in front of it.
* `Punycode.decode?` — the label of a text in the seven-bit code.
-/

namespace TabularQuery.Punycode

/-- A digit of base thirty-six: letters first, then digits. -/
def digit (n : Nat) : Char :=
  if n < 26 then Char.ofNat ('a'.toNat + n) else Char.ofNat ('0'.toNat + (n - 26))

/-- The threshold of a digit at a place. -/
def threshold (place bias : Nat) : Nat :=
  max 1 (min 26 (place - bias))

theorem threshold_pos (place bias : Nat) : 1 ≤ threshold place bias :=
  Nat.le_max_left _ _

/-- The digits of a number from a place on. -/
def digitsOf (bias place n : Nat) : List Char :=
  let t := threshold place bias
  if h : n < t then [digit n]
  else
    have hlt : (n - t) / (36 - t) < n :=
      have ht : 1 ≤ t := threshold_pos place bias
      Nat.lt_of_le_of_lt (Nat.div_le_self _ _) (by omega)
    digit (t + (n - t) % (36 - t)) :: digitsOf bias (place + 36) ((n - t) / (36 - t))
termination_by n

/-- How often a number can be divided by thirty-five before it is small, and what is left
of it. -/
def settled (n : Nat) : Nat × Nat :=
  if h : 455 < n then
    have hlt : n / 35 < n := Nat.div_lt_self (by omega) (by omega)
    let (times, rest) := settled (n / 35)
    (times + 1, rest)
  else (0, n)
termination_by n

/-- The bias after a number has been written. -/
def adapt (delta written : Nat) (first : Bool) : Nat :=
  let delta := if first then delta / 700 else delta / 2
  let (times, rest) := settled (delta + delta / written)
  36 * times + 36 * rest / (rest + 38)

/-- What is kept while a label is written. -/
structure Progress where
  output : List Char
  delta : Nat
  bias : Nat
  /-- How many characters of the label have been written. -/
  written : Nat

/-- Passes one character of the label by, while those with one code point are written. -/
def Progress.pass (first : Nat) (code : Nat) (p : Progress) (c : Char) : Progress :=
  if c.toNat < code then { p with delta := p.delta + 1 }
  else if c.toNat = code then
    { output := p.output ++ digitsOf p.bias 36 p.delta
      delta := 0
      bias := adapt p.delta (p.written + 1) (p.written = first)
      written := p.written + 1 }
  else p

/-- Writes the characters of each of some code points, the least first. -/
def writeAll (label : List Char) (first : Nat) : Nat → List Nat → Progress → Progress
  | _, [], p => p
  | next, code :: codes, p =>
    let p := { p with delta := p.delta + (code - next) * (p.written + 1) }
    let p := label.foldl (Progress.pass first code) p
    writeAll label first (code + 1) codes { p with delta := p.delta + 1 }

/-- Puts a code point into a list in order, unless it is there. -/
def insertCode (code : Nat) : List Nat → List Nat
  | [] => [code]
  | c :: rest =>
    if code < c then code :: c :: rest
    else if code = c then c :: rest
    else c :: insertCode code rest

/-- A label in the seven-bit code. -/
def encode (label : List Char) : List Char :=
  let plain := label.filter fun c => c.toNat < 128
  let codes := (label.filter fun c => 128 ≤ c.toNat).foldl (fun cs c => insertCode c.toNat cs) []
  let start := if plain.isEmpty then [] else plain ++ ['-']
  (writeAll label plain.length 128 codes ⟨start, 0, 72, plain.length⟩).output

/-! ## Reading -/

/-- The value of a digit of base thirty-six. -/
def digitValue? (c : Char) : Option Nat :=
  if 'a' ≤ c ∧ c ≤ 'z' then some (c.toNat - 'a'.toNat)
  else if 'A' ≤ c ∧ c ≤ 'Z' then some (c.toNat - 'A'.toNat)
  else if '0' ≤ c ∧ c ≤ '9' then some (c.toNat - '0'.toNat + 26)
  else none

/-- The number whose digits begin a text, and the text behind them.  A digit counts
`weight` times, and the number ends with the first digit below its threshold. -/
def readNumber? (bias : Nat) (place weight : Nat) : List Char → Option (Nat × List Char)
  | [] => none
  | c :: rest => do
    let d ← digitValue? c
    let t := threshold place bias
    if d < t then return (d * weight, rest)
    else
      let (n, more) ← readNumber? bias (place + 36) (weight * (36 - t)) rest
      return (d * weight + n, more)

theorem length_of_readNumber? {bias place weight : Nat} {s : List Char} {n : Nat}
    {rest : List Char} (h : readNumber? bias place weight s = some (n, rest)) :
    rest.length < s.length := by
  induction s generalizing place weight n rest with
  | nil => simp [readNumber?] at h
  | cons c s ih =>
    simp only [readNumber?] at h
    cases hd : digitValue? c with
    | none => simp [hd] at h
    | some d =>
      simp only [hd, Option.bind_eq_bind, Option.bind_some] at h
      split at h
      · simp only [Option.pure_def, Option.some.injEq, Prod.mk.injEq] at h
        simp [← h.2]
      · cases hr : readNumber? bias (place + 36) (weight * (36 - threshold place bias)) s with
        | none => simp [hr] at h
        | some r =>
          obtain ⟨m, more⟩ := r
          simp only [hr, Option.bind_some, Option.pure_def, Option.some.injEq,
            Prod.mk.injEq] at h
          have := ih hr
          simp only [← h.2, List.length_cons]
          omega

/-- Whether a number is the code point of a character. -/
def isCodePoint (n : Nat) : Bool :=
  n < 0xD800 || (0xDFFF < n && n < 0x110000)

/-- Puts the characters that a text tells of into a label: `code` is the code point of the
last one, and `place` is the place behind it. -/
def insertAll? (bias code place : Nat) (label s : List Char) : Option (List Char) :=
  if s.isEmpty then some label
  else
    match h : readNumber? bias 36 1 s with
    | none => none
    | some (delta, rest) =>
      have := length_of_readNumber? h
      let size := label.length + 1
      let code := code + (place + delta) / size
      let next := (place + delta) % size
      if isCodePoint code then
        insertAll? (adapt delta size (label.all fun c => c.toNat < 128)) code (next + 1)
          (label.take next ++ Char.ofNat code :: label.drop next) rest
      else none
termination_by s.length

/-- The text before and after the last hyphen; all of it is after when there is none. -/
def splitAtHyphen (s : List Char) : List Char × List Char :=
  let after := (s.reverse.takeWhile (· != '-')).reverse
  (s.take (s.length - after.length - 1), after)

/-- The label of a text in the seven-bit code.  A hyphen that begins the text and is the
only one separates nothing, and is no digit. -/
def decode? (s : List Char) : Option (List Char) :=
  let (plain, told) := splitAtHyphen s
  if plain.isEmpty && told.length < s.length then none
  else insertAll? 72 128 0 plain told

example : encode "exämple".toList = "exmple-cua".toList := by decide +kernel
example : encode "日本語".toList = "wgv71a119e".toList := by decide +kernel
example : decode? "exmple-cua".toList = some "exämple".toList := by decide +kernel
example : decode? "wgv71a119e".toList = some "日本語".toList := by decide +kernel

end TabularQuery.Punycode
