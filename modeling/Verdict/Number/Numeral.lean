import Verdict.Number.Rounding
import Verdict.Text.Digit

/-!
# Decimal numerals

The parts of a number as it is written: digits, perhaps a fraction, perhaps an exponent. `Numeral.ofChars?` only takes the text apart, so a part may be there and hold no digit; which numerals a format admits is for the format to say.
-/

namespace Verdict

structure Numeral where
  negative : Bool
  whole : List Char
  fraction? : Option (List Char)
  exponent? : Option (Bool × List Char)

namespace Numeral

/-- An exponent that is present, and nothing after it. -/
def exponentOfChars? : List Char → Option (Option (Bool × List Char))
  | [] => some none
  | mark :: rest =>
    if mark = 'e' ∨ mark = 'E' then
      let (negative, digits) := match rest with
        | '-' :: digits => (true, digits)
        | '+' :: digits => (false, digits)
        | digits => (false, digits)
      if digits.all Char.isDigit then some (some (negative, digits)) else none
    else none

/-- Takes a whole text apart. -/
def ofChars? (text : List Char) : Option Numeral :=
  let (negative, text) := match text with
    | '-' :: text => (true, text)
    | text => (false, text)
  let whole := text.takeWhile Char.isDigit
  match text.dropWhile Char.isDigit with
  | '.' :: rest =>
    (exponentOfChars? (rest.dropWhile Char.isDigit)).map
      (⟨negative, whole, some (rest.takeWhile Char.isDigit), ·⟩)
  | rest => (exponentOfChars? rest).map (⟨negative, whole, none, ·⟩)

/-- No fraction and no exponent. -/
def isWhole (n : Numeral) : Bool := n.fraction?.isNone && n.exponent?.isNone

/-- Every exponent has a digit. -/
def hasExponentDigits (n : Numeral) : Bool := n.exponent?.all fun e => !e.2.isEmpty

def toInt (n : Numeral) : Int := if n.negative then -(Digit.number 10 n.whole : Int) else Digit.number 10 n.whole

/-- The number nearest to the numeral's value. -/
def toBinary64 (n : Numeral) : Binary64 :=
  let fraction := n.fraction?.getD []
  let exponent : Int := match n.exponent? with
    | none => 0
    | some (true, digits) => -(Digit.number 10 digits : Int)
    | some (false, digits) => Digit.number 10 digits
  Binary64.ofDecimal n.negative (Digit.number 10 (n.whole ++ fraction)) (exponent - fraction.length)

end Numeral

end Verdict
