import Verdict.Regex.Weight
import Verdict.Unicode.Category

/-!
# Searching

A search reads a text once, from left to right. A mark on a leaf says that some match in progress has just read a character at that leaf. Reading the next character moves every mark on to the leaves that can follow, and a new match may begin at every gap, so the marks stand for all matches in progress at once and the work for a character is bounded by the size of the expression.

Whether an expression can pass over a gap without reading depends on the characters around the gap, so `passes`, `ends` and `step` all take the gap.
-/

namespace Verdict.Regex

/-- An expression in which repetitions are spelled out and leaves carry marks. -/
inductive Term where
  | empty
  | assertion (condition : Assertion)
  | chars (marked : Bool) (set : CodeSet)
  | seq (first second : Term)
  | alt (first second : Term)
  | star (body : Term)

/-- The characters before and after a place in a text. -/
structure Gap where
  before? : Option Char
  after? : Option Char

def isWordChar (ascii : Bool) (c? : Option Char) : Bool :=
  match c? with
  | none => false
  | some c => if ascii || c.toNat < 128 then c.isAlphanum || c == '_' else Unicode.wordCharacter.contains c.toNat

def Assertion.holds (gap : Gap) : Assertion → Bool
  | textStart => gap.before?.isNone
  | textEnd => gap.after?.isNone
  | lineStart => gap.before?.isNone || gap.before? == some '\n'
  | lineEnd => gap.after?.isNone || gap.after? == some '\n'
  | returnLineStart =>
    gap.before?.isNone || gap.before? == some '\n' || gap.before? == some '\r' && gap.after? != some '\n'
  | returnLineEnd =>
    gap.after?.isNone || gap.after? == some '\r' || gap.after? == some '\n' && gap.before? != some '\r'
  | word edge ascii =>
    let before := isWordChar ascii gap.before?
    let after := isWordChar ascii gap.after?
    match edge with
    | .boundary => before != after
    | .noBoundary => before == after
    | .opening => !before && after
    | .closing => before && !after
    | .openingHalf => !before
    | .closingHalf => !after

namespace Term

/-- Matches the empty text at a gap. -/
def passes (gap : Gap) : Term → Bool
  | empty => true
  | assertion condition => condition.holds gap
  | chars _ _ => false
  | seq first second => passes gap first && passes gap second
  | alt first second => passes gap first || passes gap second
  | star _ => true

/-- Some match in progress can end at a gap. -/
def ends (gap : Gap) : Term → Bool
  | empty | assertion _ => false
  | chars marked _ => marked
  | seq first second => ends gap first && passes gap second || ends gap second
  | alt first second => ends gap first || ends gap second
  | star body => ends gap body

/-- What reading a character makes of a term, and what was so before: whether the term could be passed over at the gap and whether a match could end there. -/
structure Stepped where
  term : Term
  passed : Bool
  ended : Bool

/-- Reads the character after a gap. If `enters`, a match may come to the term at the gap. -/
def step (gap : Gap) (c : Char) (enters : Bool) : Term → Stepped
  | empty => ⟨empty, true, false⟩
  | assertion condition => ⟨assertion condition, condition.holds gap, false⟩
  | chars marked set => ⟨chars (enters && set.contains c.toNat) set, false, marked⟩
  | seq first second =>
    let a := step gap c enters first
    let b := step gap c (enters && a.passed || a.ended) second
    ⟨seq a.term b.term, a.passed && b.passed, a.ended && b.passed || b.ended⟩
  | alt first second =>
    let a := step gap c enters first
    let b := step gap c enters second
    ⟨alt a.term b.term, a.passed || b.passed, a.ended || b.ended⟩
  | star body =>
    let ended := ends gap body
    let a := step gap c (enters || ended) body
    ⟨star a.term, true, ended⟩

/-- Whether a match ends somewhere in the rest of a text, given the marks of those in progress. -/
def search (before? : Option Char) (term : Term) : List Char → Bool
  | [] => term.ends ⟨before?, none⟩ || term.passes ⟨before?, none⟩
  | c :: rest =>
    let stepped := term.step ⟨before?, some c⟩ c true
    stepped.ended || stepped.passed || search (some c) stepped.term rest

/-- A term so many times in a row, halved again and again so that it nests only as deep as a logarithm. -/
def power (term : Term) (count : Nat) : Term :=
  if count = 0 then empty
  else if count = 1 then term
  else
    let half := power term (count / 2)
    if count % 2 = 0 then seq half half else seq (seq half half) term
termination_by count

end Term

namespace Expr

mutual

/-- Spells out repetitions. -/
def toTerm : Expr → Term
  | empty | flags => .empty
  | chars set | bracketed _ set => .chars false set
  | assertion condition => .assertion condition
  | repetition body least most? =>
    let term := toTerm body
    match bounds body least most? with
    | (0, none) => .star term
    | (least, none) => .seq (term.power least) (.star term)
    | (least, some most) => .seq (term.power least) ((Term.alt .empty term).power (most - least))
  | group _ body => toTerm body
  | concat parts => sequenceTerm parts
  | alternation branches => alternativesTerm branches
termination_by structural e => e

def sequenceTerm : List Expr → Term
  | [] => .empty
  | [e] => toTerm e
  | e :: rest => .seq (toTerm e) (sequenceTerm rest)
termination_by structural es => es

def alternativesTerm : List Expr → Term
  | [] => .empty
  | [e] => toTerm e
  | e :: rest => .alt (toTerm e) (alternativesTerm rest)
termination_by structural es => es

end

end Expr

end Verdict.Regex
