import Verdict.Number.Binary64

/-!
# Rounding to the nearest number

Every integer, fraction and decimal becomes a number in one way: the nearest one, and of two equally near the one with an even significand. The rounded significand is added to the exponent's place in the word instead of being masked into it, so a significand that rounds up to the next power of two carries into the exponent by itself, and a magnitude that carries past the largest finite one is infinity.
-/

namespace Verdict

/-- The quotient rounded to the nearest natural number, a half going to the even neighbour. -/
def roundHalfEven (num den : Nat) : Nat :=
  let quotient := num / den
  match compare (2 * (num % den)) den with
  | .lt => quotient
  | .gt => quotient + 1
  | .eq => if quotient % 2 == 0 then quotient else quotient + 1

namespace Binary64

/-- The exponent `q` for which `num / den / 2 ^ q` has fifty-three bits, or the least exponent there is. -/
def unitExponent (num den : Nat) : Int :=
  let q : Int := (num.log2 : Int) - den.log2 - 53
  let q := if 2 * hiddenBit * (den * Nat.pow 2 q.toNat) ≤ num * Nat.pow 2 (-q).toNat then q + 1 else q
  max q (-1074)

/-- The magnitude nearest to `num / den`. -/
def magnitudeOfRatio (num den : Nat) : Nat :=
  if num == 0 then 0
  else
    let q := unitExponent num den
    let m := roundHalfEven (num * Nat.pow 2 (-q).toNat) (den * Nat.pow 2 q.toNat)
    min infiniteMagnitude ((q + 1074).toNat * hiddenBit + m)

/-- The number nearest to `num / den`, with a sign of its own so that zero can be negative. -/
def ofRatio (negative : Bool) (num den : Nat) : Binary64 :=
  ofMagnitude negative (magnitudeOfRatio num den)

def ofInt (n : Int) : Binary64 := ofRatio (decide (n < 0)) n.natAbs 1

/-- The number of decimal digits. -/
def digitCount (n : Nat) : Nat := (Nat.toDigits 10 n).length

/-- The number nearest to `digits * 10 ^ exponent`. A decimal with its leading digit beyond the four hundredth place on either side is infinite or zero without being computed. -/
def ofDecimal (negative : Bool) (digits : Nat) (exponent : Int) : Binary64 :=
  if digits == 0 then ofMagnitude negative 0
  else
    let leading := exponent + digitCount digits
    if 400 < leading then infinity negative
    else if leading < -400 then ofMagnitude negative 0
    else ofRatio negative (digits * Nat.pow 10 exponent.toNat) (Nat.pow 10 (-exponent).toNat)

end Binary64

end Verdict
