import Verdict.Text.Digit

/-!
# Sets of code points

A set of code points is kept as its maximal ranges in ascending order, so two sets with the same members are the same value and membership is a binary search. Union sorts all ranges and joins those that touch; the other operations reduce to union and complement.
-/

namespace Verdict

/-- The ranges of a set of code points, both ends included, ascending and not touching. -/
structure CodeSet where
  ranges : Array (Nat × Nat)
deriving DecidableEq

namespace CodeSet

def empty : CodeSet := ⟨#[]⟩

def greatest : Nat := 0x10FFFF

/-- Joins ascending ranges that overlap or touch. -/
def join : List (Nat × Nat) → List (Nat × Nat)
  | [] => []
  | range :: rest => go range rest
where
  go (current : Nat × Nat) : List (Nat × Nat) → List (Nat × Nat)
    | [] => [current]
    | range :: rest =>
      if range.1 ≤ current.2 + 1 then go (current.1, max current.2 range.2) rest
      else current :: go range rest

/-- The set of the members of some ranges, in any order. -/
def ofRanges (ranges : List (Nat × Nat)) : CodeSet :=
  ⟨(join (ranges.mergeSort fun a b => a.1 ≤ b.1)).toArray⟩

def singleton (code : Nat) : CodeSet := ⟨#[(code, code)]⟩

def range (first last : Nat) : CodeSet := ⟨#[(first, last)]⟩

/-- Whether a code lies in one of the ranges from `low` on and before `high`. -/
def search (ranges : Array (Nat × Nat)) (code : Nat) (low high : Nat) : Bool :=
  if low < high then
    let middle := (low + high) / 2
    match ranges[middle]? with
    | none => false
    | some (first, last) =>
      if code < first then search ranges code low middle
      else if last < code then search ranges code (middle + 1) high
      else true
  else false
termination_by high - low

def contains (set : CodeSet) (code : Nat) : Bool := search set.ranges code 0 set.ranges.size

def isEmpty (set : CodeSet) : Bool := set.ranges.isEmpty

def union (a b : CodeSet) : CodeSet := ofRanges (a.ranges.toList ++ b.ranges.toList)

/-- The gaps before, between and after ascending ranges, from a first code to a last one. -/
def gaps (first last : Nat) : List (Nat × Nat) → List (Nat × Nat)
  | [] => if first ≤ last then [(first, last)] else []
  | range :: rest =>
    if first < range.1 then (first, range.1 - 1) :: gaps (range.2 + 1) last rest else gaps (range.2 + 1) last rest

/-- The codes up to `last` that are not in the set. -/
def complementUpTo (last : Nat) (set : CodeSet) : CodeSet := ⟨(gaps 0 last set.ranges.toList).toArray⟩

def complement (set : CodeSet) : CodeSet := set.complementUpTo greatest

def intersection (a b : CodeSet) : CodeSet := (a.complement.union b.complement).complement

def difference (a b : CodeSet) : CodeSet := a.intersection b.complement

def symmetricDifference (a b : CodeSet) : CodeSet := (a.union b).difference (a.intersection b)

/-- No member is above `last`. -/
def isWithin (last : Nat) (set : CodeSet) : Bool := set.ranges.all fun range => range.2 ≤ last

/-! ### Tables -/

/-- Splits a table at its blanks and line ends. -/
def words (text : String) : List (List Char) :=
  let (word, words) := text.toList.foldr
    (fun c (word, words) => if c == ' ' || c == '\n' then ([], if word.isEmpty then words else word :: words)
      else (c :: word, words)) ([], [])
  if word.isEmpty then words else word :: words

def isHexDigit (c : Char) : Bool := c.isDigit || 'a' ≤ c && c ≤ 'f'

/-- The range that a word such as `41` or `41-5a` writes. -/
def rangeOfWord (word : List Char) : Nat × Nat :=
  match word.span (· != '-') with
  | (first, _ :: last) => (Digit.number 16 first, Digit.number 16 last)
  | (first, []) => (Digit.number 16 first, Digit.number 16 first)

/-- The set that a table of ranges writes. -/
def ofTable (text : String) : CodeSet := ofRanges ((words text).map rangeOfWord)

/-- The runs that a table of first codes and labels writes: first code, last code and label. -/
def runsOfTable (text : String) : List (Nat × Nat × String) :=
  let starts := (words text).map fun word =>
    (Digit.number 16 (word.takeWhile isHexDigit), String.ofList (word.dropWhile isHexDigit))
  starts.zip ((starts.drop 1).map (·.1 - 1) ++ [greatest]) |>.map fun ((first, label), last) => (first, last, label)

/-- The codes of all runs whose label satisfies a test. -/
def ofRuns (runs : List (Nat × Nat × String)) (accepts : String → Bool) : CodeSet :=
  ofRanges (runs.filterMap fun (first, last, label) => if accepts label then some (first, last) else none)

end CodeSet

end Verdict
