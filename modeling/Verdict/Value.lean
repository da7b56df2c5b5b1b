import Verdict.Keyed
import Verdict.Identifier
import Verdict.Pattern
import Verdict.Number.Binary64
import Verdict.Time.Instant

/-!
# Values

Documents, and the queries about them, are trees of values. Arrays and documents are the inner nodes; every other value is a leaf and called primitive. A document keeps its entries in the order in which their keys were first written and holds each key once, as `Keyed` builds it. A value that is absent is not a value: `undefined` is a leaf that a document can hold.
-/

namespace Verdict

inductive Value where
  | undefined
  | null
  | bool (b : Bool)
  | number (x : Binary64)
  | string (s : String)
  | date (t : Instant)
  | identifier (id : Identifier)
  | pattern (p : Pattern)
  | array (items : List Value)
  | document (entries : List (String × Value))

instance : Inhabited Value := ⟨.undefined⟩

/-- The entries of a document that is known to be one. -/
abbrev Document := List (String × Value)

namespace Value

def typeName : Value → String
  | undefined => "undefined"
  | null => "null"
  | bool _ => "bool"
  | number _ => "number"
  | string _ => "string"
  | date _ => "date"
  | identifier id => id.typeName
  | pattern _ => "pattern"
  | array _ => "array"
  | document _ => "document"

def isPrimitive : Value → Bool
  | array _ | document _ => false
  | _ => true

/-- The greatest number of eight bytes. -/
def maxArrayIndex : Nat := 0xffffffffffffffff

/-- The number of an array's place, as a key writes it: decimal digits with perhaps a plus sign in front. -/
def arrayIndex? (key : String) : Option Nat :=
  let digits := match key.toList with
    | '+' :: digits => digits
    | digits => digits
  if digits.isEmpty then none
  else (Digit.number? 10 digits).filter (· ≤ maxArrayIndex)

/-- What a value holds under a key. -/
def get? (value : Value) (key : String) : Option Value :=
  match value with
  | document entries => Keyed.find? key entries
  | array items => (arrayIndex? key).bind (items[·]?)
  | _ => none

/-! ### Equality -/

mutual

/-- Equality of whole values. Numbers are equal as numbers, so `NaN` is not equal to itself; identifiers decide for themselves; dates are equal to the nanosecond; documents are equal entry by entry, in order. -/
def equals : Value → Value → Bool
  | undefined, undefined => true
  | null, null => true
  | bool a, bool b => a == b
  | number a, number b => a.equals b
  | string a, string b => a == b
  | date a, date b => a == b
  | identifier a, identifier b => a.equals b
  | pattern a, pattern b => a.equals b
  | array as, array bs => equalsItems as bs
  | document as, document bs => equalsEntries as bs
  | _, _ => false
termination_by structural value => value

def equalsItems : List Value → List Value → Bool
  | [], [] => true
  | a :: as, b :: bs => equals a b && equalsItems as bs
  | _, _ => false
termination_by structural items => items

def equalsEntries : List (String × Value) → List (String × Value) → Bool
  | [], [] => true
  | (k, a) :: as, (l, b) :: bs => k == l && equals a b && equalsEntries as bs
  | _, _ => false
termination_by structural entries => entries

end

end Value

end Verdict
