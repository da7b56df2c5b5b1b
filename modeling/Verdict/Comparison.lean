import Verdict.Value

/-!
# Comparing a value with a query

A query compares leaves more loosely than `Value.equals` does: dates are the same when they fall into the same millisecond, and a pattern in the query holds of the texts it matches. Ordering is known between two numbers, two texts or two dates, and between nothing else.
-/

namespace Verdict

/-- The four orderings a query can ask for. -/
inductive Comparison where
  | greater
  | greaterOrEqual
  | less
  | lessOrEqual
deriving DecidableEq

namespace Value

/-- Whether a value satisfies a leaf of a query. -/
def satisfies : (value query : Value) → Bool
  | .identifier a, .identifier b => a.equals b
  | .identifier _, _ => false
  | _, .identifier _ => false
  | .date a, .date b => a.toMillis == b.toMillis
  | .date _, _ => false
  | _, .date _ => false
  | .string s, .pattern p => p.isMatch s
  | value, query => value.equals query

/-- How two values compare, if they do. Texts are ordered by their code points. -/
def order? : Value → Value → Option Ordering
  | .number a, .number b => a.compare? b
  | .string a, .string b => some (compare a b)
  | .date a, .date b => some (compare a.toMillis b.toMillis)
  | _, _ => none

end Value

namespace Comparison

/-- The orderings of a value against a bound that a comparison admits. -/
def admits : Comparison → Ordering → Bool
  | greater, o => o == .gt
  | greaterOrEqual, o => o != .lt
  | less, o => o == .lt
  | lessOrEqual, o => o != .gt

/-- Whether a value stands to a bound as the comparison says. -/
def holds (comparison : Comparison) (value bound : Value) : Bool := (value.order? bound).any comparison.admits

end Comparison

end Verdict
