import Verdict.LiteralError

/-!
# Patterns

A pattern value is a source with options, and the regular expression that they stand for. The expression is determined by source and options, so patterns are compared by these alone.
-/

namespace Verdict

/-- The pattern text of a source whose options are in force from its start. -/
def flaggedSource (source options : String) : String :=
  if options == "" then source else "(?" ++ options ++ ")" ++ source

structure Pattern where
  source : String
  options : String
  regex : Regex
  compiled : Regex.compile (flaggedSource source options) = .ok regex

namespace Pattern

/-- The greatest length of a source in bytes. -/
def maxLength : Nat := 4096

def isOption (c : Char) : Bool := c == 'i' || c == 'm' || c == 's' || c == 'x'

/-- A pattern is refused for its length first, then for an unknown option, then for its text. -/
def ofSource (source options : String) : Except LiteralError Pattern :=
  if maxLength < source.utf8ByteSize then .error (.patternTooLong source.utf8ByteSize maxLength)
  else match options.toList.find? (!isOption ·) with
    | some c => .error (.invalidPattern source (.unknownOption c))
    | none =>
      match h : Regex.compile (flaggedSource source options) with
      | .ok regex => .ok ⟨source, options, regex, h⟩
      | .error fault => .error (.invalidPattern source (.regex fault))

def isMatch (pattern : Pattern) (text : String) : Bool := pattern.regex.isMatch text

def equals (a b : Pattern) : Bool := a.source == b.source && a.options == b.options

end Pattern

end Verdict
