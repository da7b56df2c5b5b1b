import Verdict.Text.Digit
import Verdict.Time.Instant

/-!
# Timestamps

The written form of an instant, `2020-01-31T23:59:59.999Z`. Writing cuts to the millisecond and gives a year outside four digits a sign. Reading takes four digits of a year only, any single character of one byte between the day and the time, any number of digits of a fraction, and an offset; what it reads is cut to the millisecond toward the start of 1970. The second `60` is read only at the very end of a month, as the millisecond before.
-/

namespace Verdict.Timestamp

/-! ### Writing -/

/-- Decimal digits, filled up with zeros in front. -/
def padded (width n : Nat) : List Char :=
  let digits := Nat.toDigits 10 n
  List.replicate (width - digits.length) '0' ++ digits

def yearText (year : Int) : List Char :=
  if 0 ≤ year ∧ year ≤ 9999 then padded 4 year.toNat
  else (if year < 0 then '-' else '+') :: padded 4 year.natAbs

/-- The text of an instant, to the millisecond. -/
def write (t : Instant) : String :=
  let date := t.date
  let leap := 1000000000 ≤ t.nanos
  let second := t.secondOfDay % 60 + if leap then 1 else 0
  let nanos := if leap then t.nanos - 1000000000 else t.nanos
  String.ofList <|
    yearText date.year ++ '-' :: padded 2 date.month ++ '-' :: padded 2 date.day ++
    'T' :: padded 2 (t.secondOfDay / 3600) ++ ':' :: padded 2 (t.secondOfDay / 60 % 60) ++ ':' :: padded 2 second ++
    '.' :: padded 3 (nanos / 1000000) ++ ['Z']

/-! ### Reading -/

/-- Exactly `count` decimal digits and the text after them. -/
def digits? : (count : Nat) → List Char → Option (Nat × List Char)
  | count, text => go 0 count text
where
  go (value : Nat) : Nat → List Char → Option (Nat × List Char)
    | 0, text => some (value, text)
    | count + 1, c :: text => (Digit.value? 10 c).bind fun digit => go (10 * value + digit) count text
    | _ + 1, [] => none

/-- One character that satisfies a test, and the text after it. -/
def mark? (accepts : Char → Bool) : List Char → Option (List Char)
  | c :: text => if accepts c then some text else none
  | [] => none

/-- The nanoseconds of a fraction, which is a point and at least one digit, or nothing. Digits after the ninth are dropped. -/
def fraction? : List Char → Option (Nat × List Char)
  | '.' :: text =>
    let digits := text.takeWhile Char.isDigit
    if digits.isEmpty then none
    else
      let nine := (digits ++ List.replicate 9 '0').take 9
      some (Digit.number 10 nine, text.dropWhile Char.isDigit)
  | text => some (0, text)

/-- An offset from universal time, in seconds. -/
def offset? : List Char → Option (Int × List Char)
  | [] => none
  | c :: text =>
    if c == 'Z' || c == 'z' then some (0, text)
    else if c == '+' || c == '-' then do
      let (hour, text) ← digits? 2 text
      let text ← mark? (· == ':') text
      let (minute, text) ← digits? 2 text
      guard (hour ≤ 23 ∧ minute ≤ 59)
      let seconds : Int := (hour * 3600 + minute * 60 : Nat)
      return (if c == '-' then -seconds else seconds, text)
    else none

/-- The parts of a timestamp as they are written: local date and time, nanoseconds, and offset. -/
structure Fields where
  date : CivilDate
  hour : Nat
  minute : Nat
  second : Nat
  nanos : Nat
  offset : Int

def fields? (text : List Char) : Option Fields := do
  let (year, text) ← digits? 4 text
  let text ← mark? (· == '-') text
  let (month, text) ← digits? 2 text
  let text ← mark? (· == '-') text
  let (day, text) ← digits? 2 text
  let text ← mark? (·.toNat < 128) text
  let (hour, text) ← digits? 2 text
  let text ← mark? (· == ':') text
  let (minute, text) ← digits? 2 text
  let text ← mark? (· == ':') text
  let (second, text) ← digits? 2 text
  let (nanos, text) ← fraction? text
  let (offset, text) ← offset? text
  guard text.isEmpty
  return ⟨⟨year, month, day⟩, hour, minute, second, nanos, offset⟩

/-- The instant of the fields in nanoseconds since the start of 1970, if there is such a day and time. -/
def Fields.toNanos? (f : Fields) : Option Int := do
  guard (f.date.isValid && f.hour ≤ 23 && f.minute ≤ 59 && f.second ≤ 60)
  let leap := f.second == 60
  let second := if leap then 59 else f.second
  let nanos := if leap then 999999999 else f.nanos
  let seconds := Instant.secondsOf f.date ((f.hour * 3600 + f.minute * 60 + second : Nat) - f.offset)
  let utc : Instant := ⟨seconds, nanos⟩
  guard (!leap || utc.secondOfDay == 86399 && utc.date.isLastOfMonth)
  return seconds * 1000000000 + nanos

/-- The instant that a timestamp writes, cut to the millisecond toward the start of 1970. -/
def read? (text : String) : Option Instant := do
  let fields ← fields? text.toList
  let nanos ← fields.toNanos?
  Instant.ofMillis? (nanos.tdiv 1000000)

end Verdict.Timestamp
