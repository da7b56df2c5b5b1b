import Verdict.Json
import Verdict.Number.Numeral

/-!
# Reading JSON texts

Reads one JSON value with nothing but blanks around it. A key that is written twice keeps its first place and its last value. Nesting is bounded by the caller: each open bracket takes one from `nesting`, and a value that needs more is refused. The steps are bounded by the length of the text, which every step but the one from a bracket to its first element shortens.
-/

namespace Verdict.Json

def isBlank (c : Char) : Bool := c == ' ' || c == '\t' || c == '\n' || c == '\r'

def skipBlanks (text : List Char) : List Char := text.dropWhile isBlank

/-- The character of an escape with one letter. -/
def simpleEscape? : Char → Option Char
  | '"' => some '"'
  | '\\' => some '\\'
  | '/' => some '/'
  | 'b' => some '\x08'
  | 'f' => some '\x0c'
  | 'n' => some '\n'
  | 'r' => some '\r'
  | 't' => some '\t'
  | _ => none

/-- The characters up to the closing quote, collected in reverse. A unit of a surrogate pair is refused without its partner. -/
def stringBody : List Char → List Char → Option (String × List Char)
  | collected, '"' :: rest => some (String.ofList collected.reverse, rest)
  | collected, '\\' :: 'u' :: a :: b :: c :: d :: rest =>
    match Digit.number? 16 [a, b, c, d] with
    | none => none
    | some unit =>
      if 0xD800 ≤ unit ∧ unit < 0xDC00 then
        match rest with
        | '\\' :: 'u' :: a :: b :: c :: d :: rest =>
          match Digit.number? 16 [a, b, c, d] with
          | none => none
          | some low =>
            if 0xDC00 ≤ low ∧ low < 0xE000 then
              stringBody (Char.ofNat (0x10000 + (unit - 0xD800) * 0x400 + (low - 0xDC00)) :: collected) rest
            else none
        | _ => none
      else if 0xDC00 ≤ unit ∧ unit < 0xE000 then none
      else stringBody (Char.ofNat unit :: collected) rest
  | collected, '\\' :: c :: rest =>
    match simpleEscape? c with
    | none => none
    | some c => stringBody (c :: collected) rest
  | collected, c :: rest => if c.toNat < 0x20 then none else stringBody (c :: collected) rest
  | _, [] => none
termination_by structural _ text => text

def isNumberChar (c : Char) : Bool := c.isDigit || c == '-' || c == '+' || c == '.' || c == 'e' || c == 'E'

/-- The number a numeral stands for: an integer if it is written as one and fits, else a finite double. -/
def ofNumeral? (n : Numeral) : Option Json :=
  if n.whole.isEmpty || (n.whole.head? == some '0' && n.whole.length != 1) || n.fraction? == some [] ||
      !n.hasExponentDigits then none
  else if n.isWhole && decide (minSigned ≤ n.toInt ∧ n.toInt ≤ maxUnsigned) && !(n.negative && n.toInt == 0) then
    some (.int n.toInt)
  else if n.toBinary64.isFinite then some (.double n.toBinary64)
  else none

def number? (text : List Char) : Option (Json × List Char) := do
  let numeral ← Numeral.ofChars? (text.takeWhile isNumberChar)
  let json ← ofNumeral? numeral
  return (json, text.dropWhile isNumberChar)

mutual

/-- Reads a value; the text starts at its first character. -/
def value? (nesting : Nat) : Nat → List Char → Option (Json × List Char)
  | 0, _ => none
  | fuel + 1, text =>
    match text with
    | 'n' :: 'u' :: 'l' :: 'l' :: rest => some (.null, rest)
    | 't' :: 'r' :: 'u' :: 'e' :: rest => some (.bool true, rest)
    | 'f' :: 'a' :: 'l' :: 's' :: 'e' :: rest => some (.bool false, rest)
    | '"' :: rest => (stringBody [] rest).map fun (s, rest) => (.string s, rest)
    | '[' :: rest =>
      if nesting = 0 then none
      else match skipBlanks rest with
        | ']' :: rest => some (.array [], rest)
        | rest => items? (nesting - 1) fuel [] rest
    | '\x7b' :: rest =>
      if nesting = 0 then none
      else match skipBlanks rest with
        | '\x7d' :: rest => some (.object [], rest)
        | rest => members? (nesting - 1) fuel [] rest
    | text => number? text

/-- Reads the remaining elements of an array, of which there is at least one. -/
def items? (nesting : Nat) : Nat → List Json → List Char → Option (Json × List Char)
  | 0, _, _ => none
  | fuel + 1, done, text =>
    match value? nesting fuel text with
    | none => none
    | some (item, rest) =>
      match skipBlanks rest with
      | ',' :: rest => items? nesting fuel (item :: done) (skipBlanks rest)
      | ']' :: rest => some (.array (item :: done).reverse, rest)
      | _ => none

/-- Reads the remaining members of an object, of which there is at least one. -/
def members? (nesting : Nat) : Nat → List (String × Json) → List Char → Option (Json × List Char)
  | 0, _, _ => none
  | fuel + 1, done, text =>
    match text with
    | '"' :: rest =>
      match stringBody [] rest with
      | none => none
      | some (key, rest) =>
        match skipBlanks rest with
        | ':' :: rest =>
          match value? nesting fuel (skipBlanks rest) with
          | none => none
          | some (value, rest) =>
            match skipBlanks rest with
            | ',' :: rest => members? nesting fuel ((key, value) :: done) (skipBlanks rest)
            | '\x7d' :: rest => some (.object (Keyed.ofList ((key, value) :: done).reverse), rest)
            | _ => none
        | _ => none
    | _ => none

end

/-- Reads a text whose brackets nest at most `nesting` deep. -/
def parseNested? (nesting : Nat) (text : String) : Option Json :=
  match value? nesting (2 * text.length + 2) (skipBlanks text.toList) with
  | some (json, rest) => if (skipBlanks rest).isEmpty then some json else none
  | none => none

/-- Reads a text with any nesting. -/
def parse? (text : String) : Option Json := parseNested? text.length text

end Verdict.Json
