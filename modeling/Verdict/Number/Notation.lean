import Verdict.Number.Shortest

/-!
# Writing numbers

Numbers are written with the fewest digits that stand for them. `Layout` holds the decisions that are left to the format: where positional notation begins and ends, and how an exponent is written.
-/

namespace Verdict

/-- How the digits of a number are laid out. -/
structure Layout where
  /-- the least exponent of the leading digit that is written positionally -/
  plainFrom : Int
  /-- the least exponent of the leading digit that is too large to be written positionally -/
  plainBelow : Int
  /-- the mark before an exponent -/
  exponentMark : String
  /-- the sign of an exponent that is not negative -/
  exponentPlus : String

/-- Texts are positional from `0.00001` up to sixteen integer digits, always with a decimal; other numbers carry a signed exponent. -/
def jsonLayout : Layout := ⟨-5, 16, "e", "+"⟩

namespace Layout

def zeros (n : Nat) : String := String.ofList (List.replicate n '0')

/-- Lays out a decimal without a trailing zero among its digits. -/
def render (layout : Layout) (d : Decimal) : String :=
  let digits := Nat.repr d.digits
  let count := digits.length
  let leading : Int := d.exponent + count - 1
  if layout.plainFrom ≤ leading && leading < layout.plainBelow then
    if 0 ≤ d.exponent then digits ++ zeros d.exponent.toNat ++ ".0"
    else if leading < 0 then "0." ++ zeros (-leading - 1).toNat ++ digits
    else
      let whole := (leading + 1).toNat
      String.ofList (digits.toList.take whole) ++ "." ++ String.ofList (digits.toList.drop whole)
  else
    let fraction := String.ofList (digits.toList.drop 1)
    String.ofList (digits.toList.take 1) ++ (if fraction == "" then "" else "." ++ fraction) ++
      layout.exponentMark ++ (if leading < 0 then "-" else layout.exponentPlus) ++ Nat.repr leading.natAbs

/-- The text of a finite number. -/
def number (layout : Layout) (x : Binary64) : String :=
  (if x.isNegative then "-" else "") ++ if x.significand == 0 then "0.0" else layout.render x.shortestDecimal

end Layout

end Verdict
