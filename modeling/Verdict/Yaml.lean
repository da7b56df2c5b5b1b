import Verdict.Record
import Verdict.Number.Numeral

/-!
# YAML trees

The tree that a YAML text writes: scalars, sequences and mappings. Only a plain scalar, one without quotes, can stand for anything but its text: nothing and `null` for null, two words for the truth values, and numerals for numbers. A sequence of digits that starts with a zero is a text.
-/

namespace Verdict

inductive Yaml where
  | scalar (plain : Bool) (text : String)
  | sequence (items : List Yaml)
  | mapping (entries : List (String × Yaml))
deriving Inhabited

namespace Yaml

/-- The scalar that is written by nothing at all. -/
def nothing : Yaml := scalar true ""

/-! ### Plain scalars -/

def isNullText (text : String) : Bool := ["", "~", "null", "Null", "NULL"].contains text

def flagOfText? (text : String) : Option Bool :=
  if ["true", "True", "TRUE"].contains text then some true
  else if ["false", "False", "FALSE"].contains text then some false
  else none

/-- The number that digits write in a base; there has to be a digit. -/
def natOfDigits? (base : Nat) (digits : List Char) : Option Nat :=
  if digits.isEmpty then none else Digit.number? base digits

/-- Digits that start with a zero without being the number zero. -/
def isZeroFilled (digits : List Char) : Bool :=
  1 < digits.length && digits.head? == some '0' && digits.all Char.isDigit

/-- An integer without its sign: hexadecimal, octal or binary after a mark, else decimal. -/
def naturalOfText? (text : List Char) : Option Nat :=
  match text with
  | '0' :: 'x' :: digits => natOfDigits? 16 digits
  | '0' :: 'o' :: digits => natOfDigits? 8 digits
  | '0' :: 'b' :: digits => natOfDigits? 2 digits
  | digits => if isZeroFilled digits then none else natOfDigits? 10 digits

def intOfText? (text : List Char) : Option Int :=
  match text with
  | '-' :: text => (naturalOfText? text).map fun n => -(n : Int)
  | '+' :: text => (naturalOfText? text).map fun n => (n : Int)
  | text => (naturalOfText? text).map fun n => (n : Int)

/-- A decimal with perhaps a sign, a fraction and an exponent. A part without digits is allowed beside one with digits. -/
def finiteOfText? (text : List Char) : Option Binary64 := do
  let unsigned ← match text with
    | '+' :: '-' :: _ => none
    | '+' :: text => some text
    | text => some text
  let numeral ← Numeral.ofChars? unsigned
  guard (!(numeral.whole.isEmpty && (numeral.fraction?.getD []).isEmpty) && numeral.hasExponentDigits)
  guard numeral.toBinary64.isFinite
  return numeral.toBinary64

/-- The words that stand for numbers that are not finite. -/
def isNonFiniteText (text : String) : Bool :=
  [".inf", ".Inf", ".INF", "+.inf", "+.Inf", "+.INF", "-.inf", "-.Inf", "-.INF", ".nan", ".NaN", ".NAN"].contains text

/-- Sixteen bytes can hold an integer of this size. -/
def isWideInteger (n : Int) : Bool := -0x80000000000000000000000000000000 ≤ n && n ≤ 0xffffffffffffffffffffffffffffffff

/-- The JSON tree of a plain scalar. A number that is not finite has none but null, and an integer of more than eight bytes is refused up to sixteen bytes and approximated beyond. -/
def plainJson? (text : String) : Option Json :=
  let chars := text.toList
  let unsigned := match chars with
    | '-' :: rest | '+' :: rest => rest
    | rest => rest
  let decimal : Json :=
    if isNonFiniteText text then .null
    else match if isZeroFilled unsigned then none else finiteOfText? chars with
      | some x => .double x
      | none => .string text
  if isNullText text then some .null
  else match flagOfText? text with
    | some b => some (.bool b)
    | none =>
      match intOfText? chars with
      | some n =>
        if Json.minSigned ≤ n ∧ n ≤ Json.maxUnsigned then some (.int n)
        else if isWideInteger n then none
        else some decimal
      | none => some decimal

/-! ### Trees -/

mutual

/-- The JSON tree of a YAML tree. A key that is written twice keeps its first place and its last value. -/
def toJson? : Yaml → Option Json
  | scalar true text => plainJson? text
  | scalar false text => some (.string text)
  | sequence items => (itemsToJson? items).map .array
  | mapping entries => (entriesToJson? entries).map (.object ∘ Keyed.ofList)
termination_by structural tree => tree

def itemsToJson? : List Yaml → Option (List Json)
  | [] => some []
  | item :: rest => do
    let json ← toJson? item
    let jsons ← itemsToJson? rest
    return json :: jsons
termination_by structural items => items

def entriesToJson? : List (String × Yaml) → Option (List (String × Json))
  | [] => some []
  | (key, value) :: rest => do
    let json ← toJson? value
    let members ← entriesToJson? rest
    return (key, json) :: members
termination_by structural entries => entries

end

mutual

/-- How deep sequences and mappings nest. -/
def nesting : Yaml → Nat
  | scalar _ _ => 0
  | sequence items => nestingOfItems items + 1
  | mapping entries => nestingOfEntries entries + 1
termination_by structural tree => tree

def nestingOfItems : List Yaml → Nat
  | [] => 0
  | item :: rest => max (nesting item) (nestingOfItems rest)
termination_by structural items => items

def nestingOfEntries : List (String × Yaml) → Nat
  | [] => 0
  | (_, value) :: rest => max (nesting value) (nestingOfEntries rest)
termination_by structural entries => entries

end

/-- Records in YAML take the text of any scalar where a text is asked for, and nothing at all for an empty sequence or an absent part. -/
instance : Tree Yaml where
  text?
    | scalar _ text => some text
    | _ => none
  flag?
    | scalar true text => flagOfText? text
    | _ => none
  isNull
    | scalar true text => isNullText text
    | _ => false
  case?
    | scalar _ text => some text
    | _ => none
  items?
    | sequence items => some items
    | scalar true "" => some []
    | _ => none
  sequence?
    | sequence items => some items
    | _ => none
  members?
    | mapping entries => some entries
    | scalar true "" => some []
    | _ => none
  json? := toJson?

end Yaml

end Verdict
