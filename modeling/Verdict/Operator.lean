import Verdict.Comparison
import Verdict.Path

/-!
# Operators and keys

A key of a query is an operator if it begins with a dollar sign, a path if it has a point in it, and else the name of an entry. A key that begins with a dollar sign and names no operator is still an operator, one that no query may use.
-/

namespace Verdict

inductive Operator where
  | and
  | or
  | not
  | eq
  | ne
  | compare (comparison : Comparison)
  | isIn
  | notIn
  | elemMatch
deriving DecidableEq

namespace Operator

def name : Operator → String
  | and => "$and"
  | or => "$or"
  | not => "$not"
  | eq => "$eq"
  | ne => "$ne"
  | compare .greater => "$gt"
  | compare .greaterOrEqual => "$gte"
  | compare .less => "$lt"
  | compare .lessOrEqual => "$lte"
  | isIn => "$in"
  | notIn => "$nin"
  | elemMatch => "$elemMatch"

def all : List Operator :=
  [and, or, not, eq, ne, compare .greater, compare .greaterOrEqual, compare .less, compare .lessOrEqual, isIn, notIn,
    elemMatch]

def ofName? (name : String) : Option Operator := all.find? (·.name == name)

/-- The comparison that an operator makes, if it makes one. -/
def comparison? : Operator → Option Comparison
  | compare comparison => some comparison
  | _ => none

end Operator

/-- How a field of a query finds the value that it tests. -/
inductive Field where
  /-- the entry under a name, which may be missing -/
  | plain (name : String)
  /-- the value at a path, which is undefined if it is missing -/
  | dotted (path : String)
deriving DecidableEq

/-- What a key of a query is. -/
inductive Key where
  | operator (name : String)
  | field (field : Field)
deriving DecidableEq

namespace Key

def classify (key : String) : Key :=
  if key.toList.head? = some '$' then operator key
  else if '.' ∈ key.toList then field (.dotted key)
  else field (.plain key)

end Key

namespace Field

/-- The value that a field tests. -/
def value? (field : Field) (value : Value) : Option Value :=
  match field with
  | plain name => value.get? name
  | dotted path => some ((value.resolve? path).getD .undefined)

/-- The segment of a property path that a field adds. -/
def property : Field → String
  | plain name => name
  | dotted path => path

/-- The segment of a query path that a field adds. A path is quoted, so that it is not taken for several fields. -/
def query : Field → String
  | plain name => name
  | dotted path => "\"" ++ path ++ "\""

end Field

end Verdict
