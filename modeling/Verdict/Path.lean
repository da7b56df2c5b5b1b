import Verdict.Value

/-!
# Paths

A path names a place below a value: keys joined by points. Joining puts a point only between two texts that are not empty, so the empty path is the place itself.
-/

namespace Verdict.Path

def join (path segment : String) : String :=
  if path == "" then segment else if segment == "" then path else path ++ "." ++ segment

/-- The texts between the points of a text, of which there is always one more than there are points. -/
def splitPoints : List Char → List (List Char)
  | [] => [[]]
  | c :: rest =>
    if c = '.' then [] :: splitPoints rest
    else match splitPoints rest with
      | [] => [[c]]
      | segment :: segments => (c :: segment) :: segments

def segments (path : String) : List String := (splitPoints path.toList).map String.ofList

/-- The segment that stands for a place in an array. -/
def element (index : Nat) : String := "[" ++ toString index ++ "]"

end Verdict.Path

namespace Verdict.Value

/-- Follows the keys of a path, each from the value reached before. -/
def resolve? (value : Value) (path : String) : Option Value :=
  (Path.segments path).foldlM (fun value key => value.get? key) value

end Verdict.Value
