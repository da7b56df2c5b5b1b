import Verdict.Regex.Escape

/-!
# Classes in brackets

A bracketed class is a union of characters, ranges, escapes, named ASCII classes and further brackets, or such unions joined by operations that all bind alike and group to the left. Every operand is closed under case before it is joined. Beside its set a class reports how deep it nests: brackets, unions of several items and operations each count one.
-/

namespace Verdict.Regex

/-- The operations between unions. -/
inductive SetOperation where
  | intersection
  | difference
  | symmetricDifference

/-- A set that was read, and how deep its text nests. -/
structure Nested where
  set : CodeSet
  nesting : Nat

def asciiClass? (name : String) : Option CodeSet :=
  match name with
  | "alnum" => some (.ofRanges [(0x30, 0x39), (0x41, 0x5A), (0x61, 0x7A)])
  | "alpha" => some (.ofRanges [(0x41, 0x5A), (0x61, 0x7A)])
  | "ascii" => some (.range 0 0x7F)
  | "blank" => some (.ofRanges [(0x09, 0x09), (0x20, 0x20)])
  | "cntrl" => some (.ofRanges [(0x00, 0x1F), (0x7F, 0x7F)])
  | "digit" => some asciiDigit
  | "graph" => some (.range 0x21 0x7E)
  | "lower" => some (.range 0x61 0x7A)
  | "print" => some (.range 0x20 0x7E)
  | "punct" => some (.ofRanges [(0x21, 0x2F), (0x3A, 0x40), (0x5B, 0x60), (0x7B, 0x7E)])
  | "space" => some asciiSpace
  | "upper" => some (.range 0x41 0x5A)
  | "word" => some asciiWord
  | "xdigit" => some (.ofRanges [(0x30, 0x39), (0x41, 0x46), (0x61, 0x66)])
  | _ => none

/-- Reads a named ASCII class such as `[:^alpha:]`, after its opening bracket. Text that is not of this form opens a further bracket instead. -/
def asciiClassAt? (text : List Char) : Option (Bool × CodeSet × List Char) :=
  match text with
  | ':' :: rest =>
    let (negated, rest) := match rest with
      | '^' :: rest => (true, rest)
      | rest => (false, rest)
    match rest.dropWhile (· != ':') with
    | ':' :: ']' :: after => (asciiClass? (String.ofList (rest.takeWhile (· != ':')))).map (negated, ·, after)
    | _ => none
  | _ => none

/-- One item of a class: a character or an escape. -/
def Flags.item? (flags : Flags) : List Char → Option (Atom × List Char)
  | [] => none
  | '\\' :: rest => flags.escape? rest
  | c :: rest => some (.char c false, rest)

/-- The code of a character in a class. Without Unicode only ASCII is allowed. -/
def Flags.classCode? (flags : Flags) : Atom → Option Nat
  | .char c _ => if flags.unicode || c.toNat < 128 then some c.toNat else none
  | _ => none

/-- Reads a range, or an item that does not begin one. A hyphen before a closing bracket or another hyphen makes no range. -/
def Flags.rangeOrItem? (flags : Flags) (text : List Char) : Option (CodeSet × List Char) := do
  let (atom, rest) ← flags.item? text
  let single : Option CodeSet := match atom with
    | .set set => some set
    | .char _ _ => (flags.classCode? atom).map .singleton
    | .assertion _ => none
  match flags.skip rest with
  | [] => none
  | '-' :: after =>
    match flags.skip after with
    | [] => none
    | ']' :: _ | '-' :: _ => single.map (·, '-' :: after)
    | after => do
      let first ← flags.classCode? atom
      let (atom, rest) ← flags.item? after
      let last ← flags.classCode? atom
      if first ≤ last then some (.range first last, rest) else none
  | rest => single.map (·, rest)

/-- Joins the items of a union. -/
def unionOf : List Nested → Nested
  | [] => ⟨.empty, 0⟩
  | [item] => item
  | items => ⟨.ofRanges (items.flatMap (·.set.ranges.toList)), (items.map (·.nesting)).foldl max 0 + 1⟩

/-- Joins a left operand to the union after it, if there is one. -/
def Flags.combine (flags : Flags) (left? : Option (SetOperation × Nested)) (right : Nested) : Nested :=
  match left? with
  | none => right
  | some (operation, left) =>
    let close (set : CodeSet) : CodeSet :=
      if !flags.ignoreCase then set else if flags.unicode then Unicode.foldCase set else Unicode.foldAsciiCase set
    let (a, b) := (close left.set, close right.set)
    let set := match operation with
      | .intersection => a.intersection b
      | .difference => a.difference b
      | .symmetricDifference => a.symmetricDifference b
    ⟨set, max left.nesting right.nesting + 1⟩

/-- What opens a bracket: a caret that negates, any number of hyphens that stand for themselves, and a closing bracket that stands for itself if it comes first of all. -/
def Flags.opening (flags : Flags) (text : List Char) : Bool × List Nested × List Char :=
  let (negated, text) := match flags.skip text with
    | '^' :: rest => (true, flags.skip rest)
    | rest => (false, rest)
  let (hyphens, text) := hyphens text.length text
  match hyphens, text with
  | [], ']' :: rest => (negated, [⟨.singleton ']'.toNat, 0⟩], flags.skip rest)
  | hyphens, text => (negated, hyphens, text)
where
  hyphens : Nat → List Char → List Nested × List Char
    | fuel + 1, '-' :: rest =>
      let (items, rest) := hyphens fuel (flags.skip rest)
      (⟨.singleton '-'.toNat, 0⟩ :: items, rest)
    | _, text => ([], text)

/-- Reads a class up to its closing bracket, given what of it was read before. -/
def Flags.classBody? (flags : Flags) :
    (fuel : Nat) → (negated : Bool) → Option (SetOperation × Nested) → List Nested → List Char → Option (Nested × List Char)
  | 0, _, _, _, _ => none
  | fuel + 1, negated, left?, items, text =>
    match flags.skip text with
    | [] => none
    | '[' :: rest =>
      match asciiClassAt? rest with
      | some (negatedClass, set, rest) => do
        let set ← flags.seal? negatedClass set
        flags.classBody? fuel negated left? (⟨set, 0⟩ :: items) rest
      | none => do
        let (negatedInner, innerItems, rest) := flags.opening rest
        let (inner, rest) ← flags.classBody? fuel negatedInner none innerItems rest
        flags.classBody? fuel negated left? (inner :: items) rest
    | ']' :: rest => do
      let whole := flags.combine left? (unionOf items)
      let set ← flags.seal? negated whole.set
      return (⟨set, whole.nesting + 1⟩, rest)
    | '&' :: '&' :: rest =>
      flags.classBody? fuel negated (some (.intersection, flags.combine left? (unionOf items))) [] rest
    | '-' :: '-' :: rest =>
      flags.classBody? fuel negated (some (.difference, flags.combine left? (unionOf items))) [] rest
    | '~' :: '~' :: rest =>
      flags.classBody? fuel negated (some (.symmetricDifference, flags.combine left? (unionOf items))) [] rest
    | text => do
      let (set, rest) ← flags.rangeOrItem? text
      flags.classBody? fuel negated left? (⟨set, 0⟩ :: items) rest

/-- Reads a class, after its opening bracket. -/
def Flags.class? (flags : Flags) (text : List Char) : Option (Nested × List Char) :=
  let (negated, items, rest) := flags.opening text
  flags.classBody? (text.length + 2) negated none items rest

end Verdict.Regex
