import Verdict.Explanation
import Verdict.Record

/-!
# Reports

Explanations as records: written in JSON, and read from any tree.
-/

namespace Verdict

namespace Reason

def toJson (r : Reason) : Json :=
  .object [("propertyPath", .string r.propertyPath), ("queryPath", .string r.queryPath), ("type", .string r.kind.name)]

def ofTree? {α : Type} [Tree α] (tree : α) : Option Reason := do
  match ← Tree.parts? ["propertyPath", "queryPath", "type"] tree with
  | [some propertyPath, some queryPath, some kind] =>
    return ⟨← Tree.text? propertyPath, ← Tree.text? queryPath, ← (← Tree.case? kind) |> ReasonKind.ofName?⟩
  | _ => none

end Reason

namespace Explanation

def toJson (e : Explanation) : Json :=
  .object [("match", .bool e.matched), ("reasons", .array (e.reasons.map Reason.toJson))]

def ofTree? {α : Type} [Tree α] (tree : α) : Option Explanation := do
  match ← Tree.parts? ["match", "reasons"] tree with
  | [some matched, some reasons] => return ⟨← Tree.flag? matched, ← Tree.list? Reason.ofTree? reasons⟩
  | _ => none

end Explanation

end Verdict
