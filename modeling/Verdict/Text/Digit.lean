/-!
# Digits

Numbers as digits in a base up to sixteen, with the letters from `a` to `f` in either case above nine, and characters by the number of their code. Reading and writing put the highest digit first.
-/

namespace Verdict.Digit

/-- The value of a digit, if it is one in the base. -/
def value? (base : Nat) (c : Char) : Option Nat :=
  let value :=
    if '0' ≤ c ∧ c ≤ '9' then c.toNat - '0'.toNat
    else if 'a' ≤ c ∧ c ≤ 'f' then c.toNat - 'a'.toNat + 10
    else if 'A' ≤ c ∧ c ≤ 'F' then c.toNat - 'A'.toNat + 10
    else base
  if value < base then some value else none

/-- The number that digits write after those that wrote `start`. -/
def numberFrom? (base start : Nat) : List Char → Option Nat
  | [] => some start
  | c :: rest => (value? base c).bind fun digit => numberFrom? base (base * start + digit) rest

/-- The number that digits write; no digits at all write zero. -/
def number? (base : Nat) (digits : List Char) : Option Nat := numberFrom? base 0 digits

/-- The number that characters write which are known to be digits. -/
def number (base : Nat) (digits : List Char) : Nat := (number? base digits).getD 0

/-- The lowest `count` digits of a number. -/
def lowest (base : Nat) : (count n : Nat) → List Nat
  | 0, _ => []
  | count + 1, n => lowest base count (n / base) ++ [n % base]

/-- The character with a code; surrogates and codes beyond the last plane have none. -/
def charOfCode? (code : Nat) : Option Char :=
  if code < 0xD800 ∨ 0xDFFF < code ∧ code ≤ 0x10FFFF then some (Char.ofNat code) else none

end Verdict.Digit
