import Verdict.Regex

/-!
# Faults of literals

Why a literal does not stand for a value. The wording of each fault is in `message` alone.
-/

namespace Verdict

/-- What is wrong with a pattern that is not too long. -/
inductive PatternFault where
  | notText
  | unknownOption (option : Char)
  | regex (cause : Regex.Fault)
deriving DecidableEq

def PatternFault.message : PatternFault → String
  | notText => "expected a string"
  | unknownOption option => "unknown regex option '" ++ option.toString ++ "'"
  | regex cause => cause.message

inductive LiteralError where
  | invalidPattern (source : String) (fault : PatternFault)
  | patternTooLong (length limit : Nat)
  | invalidDate (text : String)
  | invalidObjectId (text : String)
  | notADocument (found : String)
deriving DecidableEq

namespace LiteralError

/-- The name under which fixtures expect a fault. -/
def name : LiteralError → String
  | invalidPattern .. => "InvalidPattern"
  | patternTooLong .. => "PatternTooLong"
  | invalidDate _ => "InvalidDate"
  | invalidObjectId _ => "InvalidObjectId"
  | notADocument _ => "NotADocument"

def message : LiteralError → String
  | invalidPattern source fault => "invalid pattern \"" ++ source ++ "\": " ++ fault.message
  | patternTooLong length limit => s!"pattern length is {length}, but maximum allowed is {limit}"
  | invalidDate text => s!"invalid date \"{text}\""
  | invalidObjectId text => s!"invalid object id \"{text}\", expected 24 hex characters"
  | notADocument found => s!"expected a document, found {found}"

end LiteralError

end Verdict
