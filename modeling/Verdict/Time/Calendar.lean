/-!
# The calendar

Days of the proleptic Gregorian calendar, counted from the first of January of the year zero. The years before a year are counted in closed form: every fourth is a leap year, but not every hundredth, yet every four hundredth. Inside a year a day is found by walking down the lengths of the months.
-/

namespace Verdict

/-- A year, a month from `1` and a day from `1`. -/
structure CivilDate where
  year : Int
  month : Nat
  day : Nat
deriving DecidableEq

namespace CivilDate

def isLeapYear (year : Int) : Bool := year % 4 == 0 && (year % 100 != 0 || year % 400 == 0)

def monthLengths (year : Int) : List Nat :=
  [31, if isLeapYear year then 29 else 28, 31, 30, 31, 30, 31, 31, 30, 31, 30, 31]

/-- The days before the first of January; among the years from zero on, those divisible by four are the first of every four. -/
def daysBeforeYear (year : Int) : Int :=
  365 * year + (year + 3) / 4 - (year + 99) / 100 + (year + 399) / 400

/-- A day that the calendar has. -/
def isValid (date : CivilDate) : Bool :=
  match (monthLengths date.year)[date.month - 1]? with
  | some length => 1 ≤ date.month && 1 ≤ date.day && date.day ≤ length
  | none => false

def isLastOfMonth (date : CivilDate) : Bool := (monthLengths date.year)[date.month - 1]? == some date.day

def toDays (date : CivilDate) : Int :=
  daysBeforeYear date.year +
    (((monthLengths date.year).take (date.month - 1)).foldl (· + ·) 0 + (date.day - 1) : Nat)

/-- Walks down the months to the one that holds the day. -/
def ofDayOfYear (year : Int) (month : Nat) : List Nat → Nat → CivilDate
  | length :: rest, day => if day < length then ⟨year, month, day + 1⟩ else ofDayOfYear year (month + 1) rest (day - length)
  | [], day => ⟨year, month, day + 1⟩

/-- The year that holds a day; the estimate by the mean length of a year is off by one at most. -/
def yearOfDays (days : Int) : Int :=
  let estimate := days * 400 / 146097
  if days < daysBeforeYear estimate then estimate - 1
  else if daysBeforeYear (estimate + 1) ≤ days then estimate + 1
  else estimate

def ofDays (days : Int) : CivilDate :=
  let year := yearOfDays days
  ofDayOfYear year 1 (monthLengths year) (days - daysBeforeYear year).toNat

end CivilDate

end Verdict
