/-!
# Binary64 numbers

The numbers of the IEEE 754 format binary64, with exact arithmetic on natural
numbers under every operation: a result is computed as a ratio and rounded once,
to the nearest number of the format and to the even one of two nearest.

## Main definitions

* `Binary64` — not a number, an infinity, or `± mantissa · 2 ^ exponent`.
* `Binary64.ofRatio` — the rounding.
* `Binary64.compare?`, `add`, `mul`, `div` — the operations on top of it.
-/

namespace TabularQuery

/-- A number of the format binary64.  A finite number is kept with the largest
mantissa below `2 ^ 53` whose exponent is not below the least one. -/
inductive Binary64 where
  | nan
  | infinite (negative : Bool)
  | finite (negative : Bool) (mantissa : Nat) (exponent : Int)
  deriving DecidableEq, Repr, Inhabited

namespace Binary64

/-- The least exponent of a finite number. -/
def leastExponent : Int := -1074

/-- The greatest exponent of a finite number. -/
def greatestExponent : Int := 971

/-- Zero with a sign. -/
def zero (negative : Bool) : Binary64 :=
  .finite negative 0 leastExponent

/-- A ratio rounded to an integer, a tie to the even neighbour. -/
def roundHalfEven (num den : Nat) : Nat :=
  let q := num / den
  let r := 2 * (num % den)
  if r < den then q else if den < r then q + 1 else q + q % 2

/-- The exponent at which a positive ratio has a mantissa of 53 bits, or the least
exponent when that is larger. -/
def exponentOf (num den : Nat) : Int :=
  let e : Int := (num.log2 : Int) - (den.log2 : Int) - 52
  let short :=
    if 0 ≤ e then num < den * Nat.pow 2 e.toNat * Nat.pow 2 52
    else num * Nat.pow 2 (-e).toNat < den * Nat.pow 2 52
  max (if short then e - 1 else e) leastExponent

/-- The number nearest to `± num / den`, an infinity when it is beyond all finite
numbers. -/
def ofRatio (negative : Bool) (num den : Nat) : Binary64 :=
  if num = 0 then zero negative
  else
    let e := exponentOf num den
    let m :=
      if 0 ≤ e then roundHalfEven num (den * Nat.pow 2 e.toNat)
      else roundHalfEven (num * Nat.pow 2 (-e).toNat) den
    let (m, e) := if m = Nat.pow 2 53 then (Nat.pow 2 52, e + 1) else (m, e)
    if greatestExponent < e then .infinite negative else .finite negative m e

/-- The number nearest to `± mantissa · 2 ^ exponent`. -/
def ofScaled (negative : Bool) (mantissa : Nat) (exponent : Int) : Binary64 :=
  if 0 ≤ exponent then ofRatio negative (mantissa * Nat.pow 2 exponent.toNat) 1
  else ofRatio negative mantissa (Nat.pow 2 (-exponent).toNat)

/-- The number nearest to an integer. -/
def ofInt (i : Int) : Binary64 :=
  ofRatio (i < 0) i.natAbs 1

/-- The number nearest to a power of ten. -/
def powTen (k : Nat) : Binary64 :=
  ofRatio false (Nat.pow 10 k) 1

/-- Neither an infinity nor not a number. -/
def isFinite : Binary64 → Bool
  | finite .. => true
  | _ => false

/-- Zero, of either sign. -/
def isZero : Binary64 → Bool
  | finite _ m _ => m == 0
  | _ => false

/-- The number with its sign turned. -/
def neg : Binary64 → Binary64
  | nan => nan
  | infinite s => infinite (!s)
  | finite s m e => finite (!s) m e

/-- `± mantissa · 2 ^ (exponent - base)` as an integer, for a base not above the
exponent. -/
def scaled (base : Int) (negative : Bool) (mantissa : Nat) (exponent : Int) : Int :=
  let m : Int := (mantissa * Nat.pow 2 (exponent - base).toNat : Nat)
  if negative then -m else m

/-- The order of two numbers; there is none with a number that is not one.  The two
zeros are equal. -/
def compare? : Binary64 → Binary64 → Option Ordering
  | nan, _ => none
  | _, nan => none
  | infinite s, infinite t => some (compare t.toNat s.toNat)
  | infinite s, finite .. => some (if s then .lt else .gt)
  | finite .., infinite t => some (if t then .gt else .lt)
  | finite s m e, finite t n f =>
    let base := min e f
    some (compare (scaled base s m e) (scaled base t n f))

/-- The sum, rounded.  A sum of zero is negative only when both numbers are. -/
def add : Binary64 → Binary64 → Binary64
  | nan, _ => nan
  | _, nan => nan
  | infinite s, infinite t => if s == t then infinite s else nan
  | infinite s, finite .. => infinite s
  | finite .., infinite t => infinite t
  | finite s m e, finite t n f =>
    let base := min e f
    let sum := scaled base s m e + scaled base t n f
    if sum = 0 then zero (s && t) else ofScaled (sum < 0) sum.natAbs base

/-- The product, rounded. -/
def mul : Binary64 → Binary64 → Binary64
  | nan, _ => nan
  | _, nan => nan
  | infinite s, infinite t => infinite (s != t)
  | infinite s, finite t n _ => if n = 0 then nan else infinite (s != t)
  | finite s m _, infinite t => if m = 0 then nan else infinite (s != t)
  | finite s m e, finite t n f => ofScaled (s != t) (m * n) (e + f)

/-- The quotient, rounded. -/
def div : Binary64 → Binary64 → Binary64
  | nan, _ => nan
  | _, nan => nan
  | infinite _, infinite _ => nan
  | infinite s, finite t _ _ => infinite (s != t)
  | finite s _ _, infinite t => zero (s != t)
  | finite s m e, finite t n f =>
    if n = 0 then (if m = 0 then nan else infinite (s != t))
    else
      let d := e - f
      if 0 ≤ d then ofRatio (s != t) (m * Nat.pow 2 d.toNat) n
      else ofRatio (s != t) m (n * Nat.pow 2 (-d).toNat)

/-- The sum of a list, from the left, starting at minus zero: the sum of nothing is
minus zero. -/
def sum (xs : List Binary64) : Binary64 :=
  xs.foldl add (zero true)

@[simp] theorem isFinite_finite (s : Bool) (m : Nat) (e : Int) :
    (finite s m e).isFinite = true := rfl
@[simp] theorem isFinite_nan : nan.isFinite = false := rfl
@[simp] theorem isFinite_infinite (s : Bool) : (infinite s).isFinite = false := rfl
@[simp] theorem sum_nil : sum [] = zero true := rfl

example : ofRatio false 1 10 = .finite false 7205759403792794 (-56) := by decide
example : (ofInt 1).compare? (ofInt 2) = some .lt := by decide
example :
    add (ofRatio false 1 10) (ofRatio false 1 5) = ofRatio false 30000000000000004 (Nat.pow 10 17) := by
  decide

end Binary64

end TabularQuery
