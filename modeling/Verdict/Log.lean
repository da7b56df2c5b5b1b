import Verdict.Trial

/-!
# Log lines

The journal of a trial as a log for people: a line says when, how severe, which part speaks, and what happened. How much of it is shown depends on the verbosity that was asked for: nothing, then what was decided, then also every step.
-/

namespace Verdict

inductive Severity where
  | debug
  | trace
deriving DecidableEq

namespace Severity

def name : Severity → String
  | debug => "DEBUG"
  | trace => "TRACE"

/-- The least verbosity that shows a line. -/
def threshold : Severity → Nat
  | debug => 1
  | trace => 2

end Severity

structure LogLine where
  severity : Severity
  speaker : String
  text : String
deriving DecidableEq

namespace LogLine

/-- A line under a time stamp. -/
def render (stamp : String) (l : LogLine) : String :=
  stamp ++ " " ++ l.severity.name ++ " " ++ l.speaker ++ ": " ++ l.text ++ "\n"

/-- The lines that a verbosity shows. -/
def shown (verbosity : Nat) (lines : List LogLine) : List LogLine :=
  lines.filter (·.severity.threshold ≤ verbosity)

end LogLine

def Event.logLine : Event → LogLine
  | dispatch operator propertyPath queryPath =>
    ⟨.trace, "docmatch::engine", "dispatch operator=" ++ operator.name ++ " property_path=" ++
      Quoted.quote propertyPath ++ " query_path=" ++ Quoted.quote queryPath⟩
  | rejected cause => ⟨.debug, "docmatch::engine", "query rejected error=" ++ cause.message⟩

end Verdict
