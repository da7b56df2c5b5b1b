import Verdict.Unicode.CodeSet
import Verdict.Unicode.FoldingTable

/-!
# Matching without regard to case

Characters that differ in case only form small classes, such as `k`, `K` and the Kelvin sign. Closing a set under these classes makes membership independent of case.
-/

namespace Verdict.Unicode

open CodeSet

/-- The classes of characters that differ in case only. -/
def caseClasses : List (List Nat) :=
  (words foldingTable).map fun word => (splitAtCommas word).map (Digit.number 16)
where
  splitAtCommas (word : List Char) : List (List Char) :=
    let (code, codes) := word.foldr
      (fun c (code, codes) => if c == ',' then ([], code :: codes) else (c :: code, codes)) ([], [])
    code :: codes

/-- Adds every character that differs from a member in case only. -/
def foldCase (set : CodeSet) : CodeSet :=
  set.union (ofRanges ((caseClasses.filter (·.any set.contains)).flatten.map fun code => (code, code)))

/-- Adds the other case of every ASCII letter of a set. -/
def foldAsciiCase (set : CodeSet) : CodeSet :=
  let lower := set.intersection (range 0x61 0x7A)
  let upper := set.intersection (range 0x41 0x5A)
  set.union (ofRanges (lower.ranges.toList.map (fun (a, b) => (a - 32, b - 32)) ++
    upper.ranges.toList.map fun (a, b) => (a + 32, b + 32)))

end Verdict.Unicode
