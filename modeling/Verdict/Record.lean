import Verdict.Json

/-!
# Records in trees

A record is written as a mapping from the names of its parts, which may hold other entries too, or as a sequence of its parts in order, of which the last may be left out. Trees of different texts read leaves differently; `Tree` says how, and the records of the project are read from any tree.
-/

namespace Verdict

class Tree (α : Type) where
  text? : α → Option String
  flag? : α → Option Bool
  isNull : α → Bool
  /-- the name of one of several cases -/
  case? : α → Option String
  items? : α → Option (List α)
  /-- the items, if the tree is written as a sequence and not as the absence of one -/
  sequence? : α → Option (List α)
  members? : α → Option (List (String × α))
  json? : α → Option Json

namespace Tree

variable {α β : Type} [Tree α]

/-- The parts of a record under their names. A part that is written twice makes no record. -/
def parts? (names : List String) (tree : α) : Option (List (Option α)) :=
  match sequence? tree with
  | some items =>
    if items.length ≤ names.length then
      some (items.map some ++ List.replicate (names.length - items.length) none)
    else none
  | none => do
    let members ← members? tree
    if names.all fun name => (members.filter (·.1 == name)).length ≤ 1 then
      return names.map fun name => (members.find? (·.1 == name)).map (·.2)
    else none

/-- Reads every item of a list. -/
def list? (read? : α → Option β) (tree : α) : Option (List β) := (items? tree).bind (·.mapM read?)

/-- Reads a part that may be missing or null. -/
def optional? (read? : α → Option β) : Option α → Option (Option β)
  | none => some none
  | some tree => if isNull tree then some none else (read? tree).map some

end Tree

instance : Tree Json where
  text?
    | .string s => some s
    | _ => none
  flag?
    | .bool b => some b
    | _ => none
  isNull
    | .null => true
    | _ => false
  case?
    | .string s => some s
    | .object [(name, .null)] => some name
    | _ => none
  items?
    | .array items => some items
    | _ => none
  sequence?
    | .array items => some items
    | _ => none
  members?
    | .object members => some members
    | _ => none
  json? := some

end Verdict
