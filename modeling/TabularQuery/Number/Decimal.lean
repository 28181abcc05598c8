import TabularQuery.Number.Binary64
import TabularQuery.Text.Blank

/-!
# Decimal texts of binary64 numbers

A finite number is written with the fewest digits that read back as the same
number; of two such decimals the nearer is taken.  The digits are found in exact
arithmetic: on the grid of the multiples of `10 ^ k`, from a coarse grid to finer
ones, the two neighbours of the number are compared with the interval of the reals
that round to it.

Two notations share these digits.  Plain text writes every number positionally and
without a trailing `.0`.  The text of a JSON number keeps the `.0` and changes to an
exponent for numbers that are very large or very small.
-/

namespace TabularQuery

/-- Which of two decimals is taken when both are equally near. -/
inductive Tie where
  | up
  | even
  deriving DecidableEq, Repr

/-- A decimal: a coefficient times a power of ten. -/
structure Decimal where
  coefficient : Nat
  exponent : Int
  deriving DecidableEq, Repr

namespace Decimal

/-- The interval of the reals that round to a number, in quarters of its last place:
below, the number itself, above. -/
def neighbourhood (mantissa : Nat) (exponent : Int) : Nat × Nat × Nat :=
  let below :=
    if mantissa = Nat.pow 2 52 ∧ exponent ≠ Binary64.leastExponent then 4 * mantissa - 1
    else 4 * mantissa - 2
  (below, 4 * mantissa, 4 * mantissa + 2)

/-- The multiple of `10 ^ k` that reads back as `mantissa · 2 ^ exponent` and is nearest
to it, if there is one. -/
def onGrid (tie : Tie) (mantissa : Nat) (exponent : Int) (k : Int) : Option Nat :=
  let (low, mid, high) := neighbourhood mantissa exponent
  let e := exponent - 2
  -- all three, and a unit of the grid, over one denominator
  let two := if 0 ≤ e then Nat.pow 2 e.toNat else 1
  let ten := if 0 ≤ k then 1 else Nat.pow 10 (-k).toNat
  let unit := (if 0 ≤ k then Nat.pow 10 k.toNat else 1) * (if 0 ≤ e then 1 else Nat.pow 2 (-e).toNat)
  let scale (x : Nat) := x * two * ten
  let c := scale mid / unit
  let inside (n : Nat) : Bool :=
    let x := n * unit
    n != 0 &&
      (if mantissa % 2 = 0 then scale low ≤ x && x ≤ scale high
       else scale low < x && x < scale high)
  let down := scale mid - c * unit
  let up := (c + 1) * unit - scale mid
  match inside c, inside (c + 1) with
  | false, false => none
  | true, false => some c
  | false, true => some (c + 1)
  | true, true =>
    if down < up then some c
    else if up < down then some (c + 1)
    else match tie with
      | .up => some (c + 1)
      | .even => some (c + c % 2)

/-- The first grid with a hit, from `10 ^ k` downwards. -/
def search (tie : Tie) (mantissa : Nat) (exponent : Int) : Nat → Int → Decimal
  | 0, k => ⟨0, k⟩
  | fuel + 1, k =>
    match onGrid tie mantissa exponent k with
    | some c => ⟨c, k⟩
    | none => search tie mantissa exponent fuel (k - 1)

/-- The decimal with the fewest digits that reads back as `mantissa · 2 ^ exponent`.  The
search starts above the number, and a grid of seventeen digits always has a hit. -/
def shortest (tie : Tie) (mantissa : Nat) (exponent : Int) : Decimal :=
  let top := (mantissa.log2 + 1 + exponent) * 30103 / 100000 + 1
  search tie mantissa exponent 22 top

/-- The digits of the coefficient, and how many places the point stands from their
left end. -/
def point (d : Decimal) : List Char × Int :=
  let ds := Text.digits d.coefficient
  (ds, ds.length + d.exponent)

/-- The decimal written positionally, `whole` after a number without a fraction. -/
def positional (d : Decimal) (whole : List Char) : List Char :=
  let (ds, p) := d.point
  if p ≤ 0 then '0' :: '.' :: (List.replicate (-p).toNat '0' ++ ds)
  else
    let n := p.toNat
    if ds.length ≤ n then ds ++ List.replicate (n - ds.length) '0' ++ whole
    else ds.take n ++ '.' :: ds.drop n

/-- The decimal with one digit before the point and an exponent, which has a sign. -/
def scientific (d : Decimal) : List Char :=
  let (ds, p) := d.point
  let e := p - 1
  let mantissa :=
    match ds with
    | [] => []
    | [c] => [c]
    | c :: rest => c :: '.' :: rest
  mantissa ++ 'e' :: (if e < 0 then '-' else '+') :: Text.digits e.natAbs

end Decimal

namespace Binary64

/-- Plain text: positional, nothing after a whole number, and of two equally near
decimals the larger. -/
def plain : Binary64 → List Char
  | nan => "NaN".toList
  | infinite s => if s then "-inf".toList else "inf".toList
  | finite s m e =>
    let body := if m = 0 then ['0'] else (Decimal.shortest .up m e).positional []
    if s then '-' :: body else body

/-- The text of a JSON number: positional with at least one place from `1e-5` up to
below `1e16`, with an exponent elsewhere.  Only finite numbers have one. -/
def json : Binary64 → List Char
  | finite s m e =>
    let body :=
      if m = 0 then "0.0".toList
      else
        let d := Decimal.shortest .even m e
        let p := d.point.2
        if -5 < p ∧ p ≤ 16 then d.positional ".0".toList else d.scientific
    if s then '-' :: body else body
  | _ => "null".toList

example : plain (ofRatio false 1 10) = "0.1".toList := by decide +kernel
example : json (ofRatio false (Nat.pow 10 16) 1) = "1e+16".toList := by decide +kernel
example : json (ofRatio false 1 100000) = "0.00001".toList := by decide +kernel
example : json (ofRatio true 0 1) = "-0.0".toList := by decide

end Binary64

end TabularQuery
