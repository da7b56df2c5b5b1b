import Verdict.Time.Calendar

/-!
# Instants

A point in time, by whole seconds since the start of 1970 and the nanoseconds after them. The last second of a minute may run on for a second more, which is how a leap second is kept. Two instants are the same date to a query when they fall into the same millisecond, `toMillis`.
-/

namespace Verdict

structure Instant where
  seconds : Int
  nanos : Nat
deriving DecidableEq

namespace Instant

/-- The days from the start of the year zero to the start of 1970. -/
def epochDays : Int := 719528

def daySeconds : Int := 86400

/-- The first second of the year -262143 and the last second of the year 262142. -/
def minSeconds : Int := -8334601228800

def maxSeconds : Int := 8210266876799

/-- An instant in the range of years; only the last second of a minute holds more than a billion nanoseconds. -/
def ofParts? (seconds : Int) (nanos : Nat) : Option Instant :=
  if minSeconds ≤ seconds ∧ seconds ≤ maxSeconds ∧
      (nanos < 1000000000 ∨ nanos < 2000000000 ∧ seconds % 60 = 59) then
    some ⟨seconds, nanos⟩
  else none

def ofMillis? (millis : Int) : Option Instant :=
  ofParts? (millis / 1000) ((millis % 1000).toNat * 1000000)

/-- The millisecond an instant falls into. -/
def toMillis (t : Instant) : Int := t.seconds * 1000 + (t.nanos / 1000000 : Nat)

/-- The calendar day, and the second of that day. -/
def date (t : Instant) : CivilDate := CivilDate.ofDays (t.seconds / daySeconds + epochDays)

def secondOfDay (t : Instant) : Nat := (t.seconds % daySeconds).toNat

/-- The second that `second` seconds after the start of a day is. -/
def secondsOf (date : CivilDate) (second : Int) : Int := (date.toDays - epochDays) * daySeconds + second

end Instant

end Verdict
