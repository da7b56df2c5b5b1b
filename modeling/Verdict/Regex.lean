import Verdict.Regex.Reader
import Verdict.Regex.Search

/-!
# Patterns of text

A pattern that was read and is not too heavy, ready to be searched for.
-/

namespace Verdict

structure Regex where
  term : Regex.Term

namespace Regex

/-- Why a text is no pattern to search for. -/
inductive Fault where
  | unreadable
  | tooHeavy
deriving DecidableEq

def Fault.message : Fault → String
  | unreadable => "regex parse error: the text is no pattern"
  | tooHeavy => "Compiled regex exceeds size limit of " ++ toString maxWeight ++ " bytes."

def compile (pattern : String) : Except Fault Regex :=
  match Expr.read? pattern with
  | some expr => if expr.weight ≤ maxWeight then .ok ⟨expr.toTerm⟩ else .error .tooHeavy
  | none => .error .unreadable

/-- The pattern matches somewhere in the text. -/
def isMatch (regex : Regex) (text : String) : Bool := regex.term.search none text.toList

end Regex

end Verdict
