import Verdict.Regex.Expr
import Verdict.Text.Digit
import Verdict.Unicode.Category
import Verdict.Unicode.Folding

/-!
# Flags and escapes

The flags that are in force at a place of a pattern, and what a backslash means there. Reading consumes a list of characters and fails on anything that no pattern may hold. Where blanks and comments are ignored they are also passed over inside hexadecimal escapes, names and counts.
-/

namespace Verdict.Regex

structure Flags where
  ignoreCase : Bool
  multiLine : Bool
  dotAll : Bool
  swapGreed : Bool
  unicode : Bool
  returnLines : Bool
  ignoreBlanks : Bool

namespace Flags

def initial : Flags := ⟨false, false, false, false, true, false, false⟩

/-- Sets the flag that a letter names. -/
def set? (flags : Flags) (letter : Char) (value : Bool) : Option Flags :=
  match letter with
  | 'i' => some { flags with ignoreCase := value }
  | 'm' => some { flags with multiLine := value }
  | 's' => some { flags with dotAll := value }
  | 'U' => some { flags with swapGreed := value }
  | 'u' => some { flags with unicode := value }
  | 'R' => some { flags with returnLines := value }
  | 'x' => some { flags with ignoreBlanks := value }
  | _ => none

/-- Reads flag letters up to a colon or a closing parenthesis, which is kept. No letter and no minus sign may be repeated, and a minus sign must be followed by a letter. -/
def read? (flags : Flags) (seen : List Char) : List Char → Option (Flags × List Char)
  | [] => none
  | c :: rest =>
    if c == ':' || c == ')' then if seen.head? == some '-' then none else some (flags, c :: rest)
    else if seen.contains c then none
    else if c == '-' then read? flags (c :: seen) rest
    else match flags.set? c !(seen.contains '-') with
      | none => none
      | some flags => read? flags (c :: seen) rest

end Flags

def isBlank (c : Char) : Bool := Unicode.whiteSpace.contains c.toNat

/-- Drops blanks, and comments from a number sign to the end of its line. -/
def dropIgnored : (inComment : Bool) → List Char → List Char
  | _, [] => []
  | true, c :: rest => dropIgnored (c != '\n') rest
  | false, c :: rest =>
    if isBlank c then dropIgnored false rest
    else if c == '#' then dropIgnored true rest
    else c :: rest

def Flags.skip (flags : Flags) (text : List Char) : List Char :=
  if flags.ignoreBlanks then dropIgnored false text else text

/-! ### Sets under flags -/

/-- Closes a set under case if case is ignored and complements it if it is negated. Without Unicode only ASCII characters may be left. -/
def Flags.seal? (flags : Flags) (negated : Bool) (set : CodeSet) : Option CodeSet :=
  if flags.unicode then
    let set := if flags.ignoreCase then Unicode.foldCase set else set
    some (if negated then set.complement else set)
  else
    let set := if flags.ignoreCase then Unicode.foldAsciiCase set else set
    let set := if negated then set.complementUpTo 0xFF else set
    if set.isWithin 0x7F then some set else none

def asciiDigit : CodeSet := .range 0x30 0x39

def asciiSpace : CodeSet := .ofRanges [(0x09, 0x0D), (0x20, 0x20)]

def asciiWord : CodeSet := .ofRanges [(0x30, 0x39), (0x41, 0x5A), (0x5F, 0x5F), (0x61, 0x7A)]

/-- The class that a letter after a backslash names; a capital letter is its complement. -/
def Flags.shorthand? (flags : Flags) (letter : Char) : Option CodeSet :=
  let set? := match letter.toLower with
    | 'd' => some (if flags.unicode then Unicode.decimalDigit else asciiDigit)
    | 's' => some (if flags.unicode then Unicode.whiteSpace else asciiSpace)
    | 'w' => some (if flags.unicode then Unicode.wordCharacter else asciiWord)
    | _ => none
  set?.bind fun set =>
    if letter.isUpper then if flags.unicode then some set.complement else none else some set

/-- The set of one character, with its other cases if case is ignored. -/
def Flags.character (flags : Flags) (c : Char) : CodeSet :=
  if !flags.ignoreCase then .singleton c.toNat
  else if flags.unicode then Unicode.foldCase (.singleton c.toNat)
  else Unicode.foldAsciiCase (.singleton c.toNat)

/-- What the point stands for. It needs Unicode, because it could else match a part of a character. -/
def Flags.dot? (flags : Flags) : Option CodeSet :=
  if !flags.unicode then none
  else if flags.dotAll then some (.range 0 CodeSet.greatest)
  else if flags.returnLines then some (CodeSet.ofRanges [(0x0A, 0x0A), (0x0D, 0x0D)]).complement
  else some (CodeSet.singleton 0x0A).complement

/-! ### Escapes -/

/-- What an escape stands for. A character may have been written as a byte, by two hexadecimal digits. -/
inductive Atom where
  | char (c : Char) (byte : Bool)
  | set (set : CodeSet)
  | assertion (condition : Assertion)

/-- A character outside of a class. A byte above ASCII is no character unless Unicode is on. -/
def Flags.literal? (flags : Flags) (c : Char) (byte : Bool) : Option CodeSet :=
  if !flags.unicode && byte && 0x7F < c.toNat then none else some (flags.character c)

def isMeta (c : Char) : Bool := "\\.+*?()|[]\x7b\x7d^$#&-~".toList.contains c

/-- Characters that may be escaped without need: ASCII but for letters, digits and angle brackets. -/
def isEscapable (c : Char) : Bool :=
  isMeta c || c.toNat < 128 && !c.isAlphanum && c != '<' && c != '>'

/-- Reads as many hexadecimal digits as asked for. -/
def Flags.hexDigits? (flags : Flags) : (count value : Nat) → List Char → Option (Char × List Char)
  | 0, value, text => (Digit.charOfCode? value).map (·, text)
  | count + 1, value, text =>
    match flags.skip text with
    | [] => none
    | c :: rest =>
      match Digit.value? 16 c with
      | none => none
      | some digit => flags.hexDigits? count (16 * value + digit) rest

/-- Drops the ignored characters that follow, and gives the text up to a closing brace and the rest. -/
def Flags.untilBrace? (flags : Flags) : (fuel : Nat) → List Char → List Char → Option (List Char × List Char)
  | 0, _, _ => none
  | fuel + 1, collected, text =>
    match flags.skip text with
    | [] => none
    | '\x7d' :: rest => some (collected.reverse, rest)
    | c :: rest => flags.untilBrace? fuel (c :: collected) rest

/-- Reads the code of a character, after the letter that says how many digits it has. -/
def Flags.hex? (flags : Flags) (count : Nat) (text : List Char) : Option (Atom × List Char) :=
  match flags.skip text with
  | '\x7b' :: rest => do
    let (digits, rest) ← flags.untilBrace? (rest.length + 1) [] rest
    guard !digits.isEmpty
    let c ← (Digit.number? 16 digits).bind Digit.charOfCode?
    return (.char c false, flags.skip rest)
  | text => do
    let (c, rest) ← flags.hexDigits? count 0 text
    return (.char c (count == 2), flags.skip rest)

/-- The text before the first occurrence of one of the marks, and the text after it. -/
def splitAtMark? (marks : List (List Char)) : List Char → List Char → Option (List Char × List Char)
  | _, [] => none
  | before, c :: rest =>
    match marks.find? (·.isPrefixOf (c :: rest)) with
    | some mark => some (before.reverse, (c :: rest).drop mark.length)
    | none => splitAtMark? marks (c :: before) rest

/-- The set of a class by name, which may be a property and its value. -/
def classNamed? (name : List Char) : Option CodeSet :=
  match splitAtMark? [['!', '=']] [] name <|> splitAtMark? [[':']] [] name <|> splitAtMark? [['=']] [] name with
  | some (property, value) => Unicode.valued? property value
  | none => Unicode.named? name

/-- Reads the name of a class, after its letter: one character, or a name in braces. -/
def Flags.namedClass? (flags : Flags) (negated : Bool) (text : List Char) : Option (Atom × List Char) := do
  guard flags.unicode
  let (name, rest) ← match flags.skip text with
    | [] => none
    | '\\' :: _ => none
    | '\x7b' :: rest => flags.untilBrace? (rest.length + 1) [] rest
    | c :: rest => some ([c], flags.skip rest)
  let set ← classNamed? name
  let set ← flags.seal? negated set
  return (.set set, rest)

def isEdgeLetter (c : Char) : Bool := c.isAlpha || c == '-'

/-- Reads the name of a word edge in braces, after the opening brace. If it does not begin like a name the brace belongs to a repetition instead, which is the inner `none`. -/
def Flags.edge? (flags : Flags) (text : List Char) : Option (Option (WordEdge × List Char)) :=
  match flags.skip text with
  | [] => none
  | c :: rest =>
    if !isEdgeLetter c then some none
    else do
      let (name, rest) ← flags.untilBrace? (rest.length + 2) [] (c :: rest)
      match String.ofList name with
      | "start" => some (some (.opening, rest))
      | "end" => some (some (.closing, rest))
      | "start-half" => some (some (.openingHalf, rest))
      | "end-half" => some (some (.closingHalf, rest))
      | _ => none

/-- Reads an escape, after its backslash. -/
def Flags.escape? (flags : Flags) : List Char → Option (Atom × List Char)
  | [] => none
  | c :: rest =>
    let word (edge : WordEdge) : Atom := .assertion (.word edge !flags.unicode)
    let plain (c : Char) : Atom := .char c false
    if isEscapable c then some (plain c, rest)
    else match c with
      | 'x' => flags.hex? 2 rest
      | 'u' => flags.hex? 4 rest
      | 'U' => flags.hex? 8 rest
      | 'p' => flags.namedClass? false rest
      | 'P' => flags.namedClass? true rest
      | 'a' => some (plain '\x07', rest)
      | 'f' => some (plain '\x0c', rest)
      | 't' => some (plain '\t', rest)
      | 'n' => some (plain '\n', rest)
      | 'r' => some (plain '\r', rest)
      | 'v' => some (plain '\x0b', rest)
      | 'A' => some (.assertion .textStart, rest)
      | 'z' => some (.assertion .textEnd, rest)
      | 'B' => some (word .noBoundary, rest)
      | '<' => some (word .opening, rest)
      | '>' => some (word .closing, rest)
      | 'b' =>
        match rest with
        | '\x7b' :: inner =>
          match flags.edge? inner with
          | none => none
          | some none => some (word .boundary, rest)
          | some (some (edge, rest)) => some (word edge, rest)
        | rest => some (word .boundary, rest)
      | c => (flags.shorthand? c).map fun set => (.set set, rest)

end Verdict.Regex
