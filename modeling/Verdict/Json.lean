import Verdict.Number.Binary64
import Verdict.Keyed

/-!
# JSON trees

The tree a JSON text stands for. Members keep their order. An integer that fits 64 bits, signed or unsigned, is kept apart from a double, because some literals accept only the one and because the two are written differently.
-/

namespace Verdict

inductive Json where
  | null
  | bool (b : Bool)
  | int (n : Int)
  | double (x : Binary64)
  | string (s : String)
  | array (items : List Json)
  | object (members : List (String × Json))
deriving Inhabited

namespace Json

/-- The least and the greatest 64-bit signed integer. -/
def minSigned : Int := -0x8000000000000000

def maxSigned : Int := 0x7fffffffffffffff

/-- The greatest 64-bit unsigned integer. -/
def maxUnsigned : Int := 0xffffffffffffffff

def typeName : Json → String
  | null => "null"
  | bool _ => "bool"
  | int _ | double _ => "number"
  | string _ => "string"
  | array _ => "array"
  | object _ => "object"

/-- The member of an object under a key. -/
def member? (key : String) : Json → Option Json
  | object members => Keyed.find? key members
  | _ => none

end Json

end Verdict
