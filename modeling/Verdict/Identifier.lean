import Verdict.Text.Digit
import Verdict.Text.Quoted

/-!
# Identifiers

Identifiers are leaves that decide for themselves what they are equal to. Object ids and numbers are equal to themselves alone. Identifiers of every other kind bring an equality of their own, which is not known here: it may hold of different identifiers, depend on the side it is asked from, or not even hold of the identifier itself. Nothing in the project takes it to be symmetric, transitive or reflexive.
-/

namespace Verdict

/-! ### Object ids -/

/-- Twelve bytes, the first one the highest. Ids are ordered as their bytes are. -/
structure ObjectId where
  value : BitVec 96
deriving DecidableEq

namespace ObjectId

def order (a b : ObjectId) : Ordering := compare a.value.toNat b.value.toNat

def bytes (id : ObjectId) : List Nat := Digit.lowest 256 12 id.value.toNat

def ofBytes (bytes : List Nat) : ObjectId := ⟨BitVec.ofNat 96 (bytes.foldl (256 * · + ·) 0)⟩

def toHex (id : ObjectId) : String := String.ofList ((Digit.lowest 16 24 id.value.toNat).map Nat.digitChar)

/-- Reads exactly twenty-four hexadecimal digits. -/
def ofHex? (text : String) : Option ObjectId :=
  if text.toList.length = 24 then (Digit.number? 16 text.toList).map (⟨BitVec.ofNat 96 ·⟩) else none

def quoted (id : ObjectId) : String := "ObjectId(" ++ Quoted.quote id.toHex ++ ")"

end ObjectId

/-! ### Identifiers of all kinds -/

/-- What can be seen of an identifier whose kind is not known here. -/
structure ForeignId where
  /-- tells its identifiers from those of all other kinds -/
  kind : String
  content : String
  typeName : String := "identifier"
  text : String
deriving DecidableEq

/-- What an identifier shows of itself to one that is asked whether it equals it. -/
inductive Identifier.View where
  | object (id : ObjectId)
  | numeric (id : Int)
  | foreign (id : ForeignId)
deriving DecidableEq

inductive Identifier where
  | object (id : ObjectId)
  | numeric (id : Int)
  /-- an identifier that answers for itself what it equals, from what it is shown -/
  | foreign (id : ForeignId) (answer : Identifier.View → Bool)

namespace Identifier

def view : Identifier → View
  | object id => .object id
  | numeric id => .numeric id
  | foreign id _ => .foreign id

/-- What an identifier answers when it is asked whether it equals another. -/
def equals : Identifier → Identifier → Bool
  | object a, object b => a == b
  | numeric a, numeric b => a == b
  | foreign _ answer, other => answer other.view
  | _, _ => false

def typeName : Identifier → String
  | object _ => "object_id"
  | numeric _ => "numeric_id"
  | foreign id _ => id.typeName

def text : Identifier → String
  | object id => id.toHex
  | numeric id => toString id
  | foreign id _ => id.text

/-- The identifier of some kind that holds a text and is equal to those of its kind alone, namely to those whose text is the `same` as its own. -/
def ofText (kind : String) (same : String → String → Bool) (content : String) : Identifier :=
  let id : ForeignId := { kind, content, text := kind ++ "(" ++ Quoted.quote content ++ ")" }
  foreign id fun
    | .foreign other => kind == other.kind && same content other.content
    | _ => false

@[simp] theorem ofText_equals_ofText (kind : String) (same : String → String → Bool) (a b : String) :
    (ofText kind same a).equals (ofText kind same b) = same a b := by
  simp [ofText, equals, view]

end Identifier

end Verdict
