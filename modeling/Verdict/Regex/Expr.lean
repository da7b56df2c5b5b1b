import Verdict.Unicode.CodeSet

/-!
# Regular expressions

The tree of an expression once its flags are spent: every leaf is a set of characters or a condition on the gap between two characters. Which alternative or how many repetitions a match prefers is not kept, because a search only tells whether there is a match.
-/

namespace Verdict.Regex

/-- What the characters around a gap say about words. -/
inductive WordEdge where
  | boundary
  | noBoundary
  | opening
  | closing
  | openingHalf
  | closingHalf
deriving DecidableEq

/-- A condition on the gap between two characters. -/
inductive Assertion where
  | textStart
  | textEnd
  | lineStart
  | lineEnd
  /-- a line may also end with a carriage return, alone or before the line feed -/
  | returnLineStart
  | returnLineEnd
  | word (edge : WordEdge) (ascii : Bool)
deriving DecidableEq

inductive Expr where
  | empty
  /-- a group of flags that applies to what follows it -/
  | flags
  | chars (set : CodeSet)
  /-- a class in brackets, with the depth to which brackets, unions and operations nest in it -/
  | bracketed (nesting : Nat) (set : CodeSet)
  | assertion (condition : Assertion)
  | repetition (body : Expr) (least : Nat) (most? : Option Nat)
  | group (captures : Bool) (body : Expr)
  | concat (parts : List Expr)
  | alternation (branches : List Expr)

namespace Expr

/-- A sequence is a node of its own only if it has two parts. -/
def ofParts : List Expr → Expr
  | [] => empty
  | [part] => part
  | parts => concat parts

def ofBranches : List Expr → Expr
  | [] => empty
  | [branch] => branch
  | branches => alternation branches

/-- A repetition needs an expression to repeat. -/
def isRepeatable : Expr → Bool
  | empty | flags => false
  | _ => true

mutual

/-- How deep nodes nest; single leaves do not count. -/
def nesting : Expr → Nat
  | empty | flags | chars _ | assertion _ => 0
  | bracketed depth _ => depth
  | repetition body _ _ => nesting body + 1
  | group _ body => nesting body + 1
  | concat parts => nestingOfList parts + 1
  | alternation branches => nestingOfList branches + 1
termination_by structural e => e

def nestingOfList : List Expr → Nat
  | [] => 0
  | e :: rest => max (nesting e) (nestingOfList rest)
termination_by structural es => es

end

mutual

/-- Matches no character, whatever it matches. -/
def isZeroWidth : Expr → Bool
  | empty | flags | assertion _ => true
  | chars _ | bracketed _ _ => false
  | repetition body _ most? => most? == some 0 || isZeroWidth body
  | group _ body => isZeroWidth body
  | concat parts => areZeroWidth parts
  | alternation branches => areZeroWidth branches
termination_by structural e => e

def areZeroWidth : List Expr → Bool
  | [] => true
  | e :: rest => isZeroWidth e && areZeroWidth rest
termination_by structural es => es

end

/-- The bounds of a repetition; an expression that matches no character need not be repeated. -/
def bounds (body : Expr) (least : Nat) (most? : Option Nat) : Nat × Option Nat :=
  if body.isZeroWidth then (min least 1, some (min (most?.getD 1) 1)) else (least, most?)

end Expr

end Verdict.Regex
