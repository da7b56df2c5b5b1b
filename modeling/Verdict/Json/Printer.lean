import Verdict.Json
import Verdict.Number.Notation

/-!
# Writing JSON texts

Two texts of a tree: `compact` has no blank in it, `pretty` puts every element on a line of its own, two blanks deeper than its container. Only the quote, the backslash and the control characters are escaped. A number that is not finite has no JSON text and is written `null`.
-/

namespace Verdict.Json

def hexDigit (n : Nat) : Char := Nat.digitChar n

/-- A character inside a string. -/
def escaped (c : Char) : List Char :=
  match c with
  | '"' => ['\\', '"']
  | '\\' => ['\\', '\\']
  | '\x08' => ['\\', 'b']
  | '\x0c' => ['\\', 'f']
  | '\n' => ['\\', 'n']
  | '\r' => ['\\', 'r']
  | '\t' => ['\\', 't']
  | c =>
    if c.toNat < 0x20 then ['\\', 'u', '0', '0', hexDigit (c.toNat / 16), hexDigit (c.toNat % 16)] else [c]

def quoted (s : String) : String := "\"" ++ String.ofList (s.toList.flatMap escaped) ++ "\""

def leafText : Json → String
  | null => "null"
  | bool b => if b then "true" else "false"
  | int n => toString n
  | double x => if x.isFinite then jsonLayout.number x else "null"
  | string s => quoted s
  | array _ => "[]"
  | object _ => "\x7b\x7d"

mutual

def compact : Json → String
  | array items => "[" ++ String.intercalate "," (compactItems items) ++ "]"
  | object members => "\x7b" ++ String.intercalate "," (compactMembers members) ++ "\x7d"
  | leaf => leafText leaf
termination_by structural json => json

def compactItems : List Json → List String
  | [] => []
  | item :: rest => compact item :: compactItems rest
termination_by structural items => items

def compactMembers : List (String × Json) → List String
  | [] => []
  | (key, value) :: rest => (quoted key ++ ":" ++ compact value) :: compactMembers rest
termination_by structural members => members

end

def margin (depth : Nat) : String := String.ofList (List.replicate (2 * depth) ' ')

/-- The lines of a container between its brackets. -/
def block (opening closing : String) (depth : Nat) (elements : List String) : String :=
  match elements with
  | [] => opening ++ closing
  | elements =>
    opening ++ "\n" ++ String.intercalate ",\n" (elements.map (margin (depth + 1) ++ ·)) ++ "\n" ++ margin depth ++ closing

mutual

/-- The text of a tree that starts `depth` levels deep. -/
def prettyAt (depth : Nat) : Json → String
  | array items => block "[" "]" depth (prettyItems (depth + 1) items)
  | object members => block "\x7b" "\x7d" depth (prettyMembers (depth + 1) members)
  | leaf => leafText leaf
termination_by structural json => json

def prettyItems (depth : Nat) : List Json → List String
  | [] => []
  | item :: rest => prettyAt depth item :: prettyItems depth rest
termination_by structural items => items

def prettyMembers (depth : Nat) : List (String × Json) → List String
  | [] => []
  | (key, value) :: rest => (quoted key ++ ": " ++ prettyAt depth value) :: prettyMembers depth rest
termination_by structural members => members

end

def pretty (json : Json) : String := prettyAt 0 json

end Verdict.Json
