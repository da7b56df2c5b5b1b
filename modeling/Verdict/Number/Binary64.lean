/-!
# Binary64 numbers

A number is the 64-bit word that encodes it: one sign bit above eleven exponent bits above fifty-two fraction bits. Reading the word without its sign as a natural number, the magnitude, orders the non-negative numbers, because a larger exponent outweighs every fraction and infinity lies above all finite magnitudes. So the order of numbers is the order of the integers `rank`, and the rest of the project compares numbers only through `compare?`.
-/

namespace Verdict

/-- A double-precision number, by its encoding. Two encodings of zero and many of `NaN` exist, so equality of encodings is not equality of numbers. -/
structure Binary64 where
  bits : UInt64
deriving DecidableEq

namespace Binary64

/-- The least exponent bit, which is also the weight of the leading digit that is not stored. -/
def hiddenBit : Nat := 0x10000000000000

def signBit : Nat := 0x8000000000000000

/-- The magnitude at which infinity is encoded; the larger magnitudes are those of `NaN`. -/
def infiniteMagnitude : Nat := 2047 * hiddenBit

def isNegative (x : Binary64) : Bool := decide (signBit ≤ x.bits.toNat)

def magnitude (x : Binary64) : Nat := x.bits.toNat % signBit

/-- Sets the sign beside a magnitude below the sign bit. -/
def ofMagnitude (negative : Bool) (magnitude : Nat) : Binary64 :=
  ⟨UInt64.ofNat ((if negative then signBit else 0) + magnitude)⟩

def zero : Binary64 := ofMagnitude false 0

def negativeZero : Binary64 := ofMagnitude true 0

def infinity (negative : Bool) : Binary64 := ofMagnitude negative infiniteMagnitude

def nan : Binary64 := ofMagnitude false (infiniteMagnitude + hiddenBit / 2)

def isNaN (x : Binary64) : Bool := decide (infiniteMagnitude < x.magnitude)

def isFinite (x : Binary64) : Bool := decide (x.magnitude < infiniteMagnitude)

/-! ### Order -/

/-- The signed magnitude. Both zeros have rank `0`, so they are equal as numbers. -/
def rank (x : Binary64) : Int := if x.isNegative then -(x.magnitude : Int) else x.magnitude

/-- How two numbers compare; `NaN` compares with nothing, not even with itself. -/
def compare? (x y : Binary64) : Option Ordering :=
  if x.isNaN || y.isNaN then none else some (compare x.rank y.rank)

def equals (x y : Binary64) : Bool := x.compare? y == some .eq

/-! ### The value of a finite number -/

/-- The whole number `m` of a finite number whose absolute value is `m * 2 ^ q`. -/
def significand (x : Binary64) : Nat :=
  if x.magnitude < hiddenBit then x.magnitude else hiddenBit + x.magnitude % hiddenBit

/-- The exponent `q` of a finite number whose absolute value is `m * 2 ^ q`. -/
def exponent (x : Binary64) : Int :=
  if x.magnitude < hiddenBit then -1074 else (x.magnitude / hiddenBit : Nat) - 1075

/-- The integer part of a finite number, its fraction cut off. -/
def truncate (x : Binary64) : Int :=
  let whole := x.significand * Nat.pow 2 x.exponent.toNat / Nat.pow 2 (-x.exponent).toNat
  if x.isNegative then -(whole : Int) else whole

/-- Finite and without a fraction. -/
def isIntegral (x : Binary64) : Bool :=
  x.isFinite && x.significand * Nat.pow 2 x.exponent.toNat % Nat.pow 2 (-x.exponent).toNat == 0

end Binary64

end Verdict
