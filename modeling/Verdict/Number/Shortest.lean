import Verdict.Number.Rounding

/-!
# The shortest decimal of a number

A decimal stands for a number if the number is the nearest to it. The reals with that property form an interval around the value `m * 2 ^ q`, ending halfway to the neighbours and holding its ends exactly when `m` is even. The shortest decimal is found on grids of one, two, … seventeen significant digits: of a grid only the two points around the value can lie in the interval when any does, so the first grid with a hit has the fewest digits, and of two hits the nearer is taken.
-/

namespace Verdict

/-- The decimal `digits * 10 ^ exponent`. -/
structure Decimal where
  digits : Nat
  exponent : Int
deriving DecidableEq

namespace Decimal

/-- Compares `digits * 10 ^ exponent` with `m * 2 ^ q`. -/
def compareBinary (d : Decimal) (m : Nat) (q : Int) : Ordering :=
  compare (d.digits * Nat.pow 10 d.exponent.toNat * Nat.pow 2 (-q).toNat)
    (m * Nat.pow 2 q.toNat * Nat.pow 10 (-d.exponent).toNat)

/-- Moves the zeros at the end of the digits into the exponent. -/
def trim (d : Decimal) : Decimal := go (Binary64.digitCount d.digits) d
where
  go : Nat → Decimal → Decimal
    | 0, d => d
    | fuel + 1, d => if d.digits != 0 && d.digits % 10 == 0 then go fuel ⟨d.digits / 10, d.exponent + 1⟩ else d

end Decimal

namespace Binary64

/-- The decimal lies among the reals whose nearest number has this magnitude. Below a power of two the neighbour is half as far away. -/
def isReadFrom (x : Binary64) (d : Decimal) : Bool :=
  let m := x.significand
  let q := x.exponent - 2
  let narrow := m == hiddenBit && 2 * hiddenBit ≤ x.magnitude
  let below := d.compareBinary (if narrow then 4 * m - 1 else 4 * m - 2) q
  let above := d.compareBinary (4 * m + 2) q
  let ends := m % 2 == 0
  (below == .gt || ends && below == .eq) && (above == .lt || ends && above == .eq)

/-- The place of the leading digit: the least `k` with `m * 2 ^ q < 10 ^ k`. -/
def decimalPlace (x : Binary64) : Int :=
  let estimate : Int := ((x.significand.log2 : Int) + x.exponent) * 30103 / 100000 - 1
  let fits (k : Int) : Bool := Decimal.compareBinary ⟨1, k⟩ x.significand x.exponent == .gt
  if fits estimate then estimate
  else if fits (estimate + 1) then estimate + 1
  else if fits (estimate + 2) then estimate + 2
  else estimate + 3

/-- The point that stands for `x` on the grid of `count` significant digits, if there is one. -/
def onGrid? (x : Binary64) (place : Int) (count : Nat) : Option Decimal :=
  let unit := place - count
  let num := x.significand * Nat.pow 2 x.exponent.toNat * Nat.pow 10 (-unit).toNat
  let den := Nat.pow 2 (-x.exponent).toNat * Nat.pow 10 unit.toNat
  let low : Decimal := ⟨num / den, unit⟩
  let high : Decimal := ⟨num / den + 1, unit⟩
  match x.isReadFrom low, x.isReadFrom high with
  | true, true => some ⟨roundHalfEven num den, unit⟩
  | true, false => some low
  | false, true => some high
  | false, false => none

/-- The shortest decimal that stands for the magnitude of a finite number other than zero. Seventeen digits always suffice; the exact value closes the definition. -/
def shortestDecimal (x : Binary64) : Decimal :=
  let exact : Decimal := if x.exponent < 0
    then ⟨x.significand * Nat.pow 5 (-x.exponent).toNat, x.exponent⟩
    else ⟨x.significand * Nat.pow 2 x.exponent.toNat, 0⟩
  ((List.range 17).findSome? fun n => x.onGrid? x.decimalPlace (n + 1)).getD exact |>.trim

end Binary64

end Verdict
