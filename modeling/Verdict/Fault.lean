import Verdict.LiteralError
import Verdict.Rejection

/-!
# Faults

Everything that can keep a query from an answer: a literal that stands for no value, or a query that is rejected.
-/

namespace Verdict

inductive Fault where
  | literal (cause : LiteralError)
  | rejection (cause : Rejection)
deriving DecidableEq

namespace Fault

def name : Fault → String
  | literal cause => cause.name
  | rejection cause => cause.name

def message : Fault → String
  | literal cause => cause.message
  | rejection cause => cause.message

/-- The kind under which a fault counts as a reason; a literal's fault does not. -/
def kind? : Fault → Option ReasonKind
  | literal _ => none
  | rejection cause => some cause.kind

end Fault

end Verdict
