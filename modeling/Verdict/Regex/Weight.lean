import Verdict.Regex.Expr

/-!
# The weight of an expression

An expression is accepted only if the automaton that runs over the bytes of a text fits ten mebibytes. Its size is computed from the expression without building it: a repetition weighs as much as its copies, a character as much as its bytes, and a class as much as the byte paths to its characters, where paths share their beginnings.
-/

namespace Verdict.Regex

/-- The bytes of one state, and of one more edge out of it. -/
def stateWeight : Nat := 32

def edgeWeight : Nat := 4

def maxWeight : Nat := 10 * 1024 * 1024

/-- The bytes of a code point in UTF-8. -/
def utf8Bytes (code : Nat) : List Nat :=
  if code < 0x80 then [code]
  else if code < 0x800 then [0xC0 + code / 64, 0x80 + code % 64]
  else if code < 0x10000 then [0xE0 + code / 4096, 0x80 + code / 64 % 64, 0x80 + code % 64]
  else [0xF0 + code / 262144, 0x80 + code / 4096 % 64, 0x80 + code / 64 % 64, 0x80 + code % 64]

/-- The first place at which a range of codes has to be cut so that every byte of its codes varies on its own: where the number of bytes changes, and where bytes at the end do not run through all their values. The cut is the last code of the part before it. -/
def cut? (first last : Nat) : Option Nat :=
  let lengths := [0x7F, 0x7FF, 0xFFFF].find? fun bound => first ≤ bound && bound < last
  match lengths with
  | some bound => some bound
  | none =>
    if last < 0x80 then none
    else [64, 4096, 262144].findSome? fun block =>
      if first / block == last / block then none
      else if first % block != 0 then some (first / block * block + (block - 1))
      else if last % block != block - 1 then some (last / block * block - 1)
      else none

/-- The byte paths of a range: one range of bytes for each place. -/
def paths : (fuel : Nat) → (first last : Nat) → List (List (Nat × Nat))
  | 0, first, last => [(utf8Bytes first).zip (utf8Bytes last)]
  | fuel + 1, first, last =>
    match cut? first last with
    | some bound => paths fuel first bound ++ paths fuel (bound + 1) last
    | none => [(utf8Bytes first).zip (utf8Bytes last)]

/-- The length of the longest common beginning. -/
def sharedLength : List (Nat × Nat) → List (Nat × Nat) → Nat
  | a :: as, b :: bs => if a == b then sharedLength as bs + 1 else 0
  | _, _ => 0

/-- The states of ascending paths that share their beginnings. -/
def pathStates : (previous : List (Nat × Nat)) → List (List (Nat × Nat)) → Nat
  | _, [] => 0
  | previous, path :: rest => path.length - sharedLength previous path + pathStates path rest

def classWeight (set : CodeSet) : Nat :=
  match set.ranges.toList with
  | [] => stateWeight
  | [(first, last)] =>
    if first == last then stateWeight * (utf8Bytes first).length
    else if last < 0x80 then 2 * stateWeight
    else wide [(first, last)]
  | ranges => if set.isWithin 0x7F then 2 * stateWeight + 2 * edgeWeight * ranges.length else wide ranges
where
  wide (ranges : List (Nat × Nat)) : Nat :=
    let all := ranges.flatMap fun (first, last) => paths 32 first last
    2 * stateWeight + stateWeight * pathStates [] all + edgeWeight * all.length

namespace Expr

mutual

def weight : Expr → Nat
  | empty | flags | assertion _ => stateWeight
  | chars set | bracketed _ set => classWeight set
  | repetition body least most? =>
    let copy := weight body
    match bounds body least most? with
    | (least, none) => max least 1 * copy + stateWeight + 2 * edgeWeight
    | (least, some most) =>
      least * copy + (most - least) * (copy + stateWeight + 2 * edgeWeight) + (if least == most then 0 else stateWeight)
  | group captures body => weight body + if captures then 2 * stateWeight else 0
  | concat parts => weightOfList parts
  | alternation branches => weightOfList branches + 2 * stateWeight + edgeWeight * branches.length
termination_by structural e => e

def weightOfList : List Expr → Nat
  | [] => 0
  | e :: rest => weight e + weightOfList rest
termination_by structural es => es

end

end Expr

end Verdict.Regex
