import Verdict.Operator
import Verdict.Explanation

/-!
# Rejections

Why a query cannot be evaluated. A rejection is never a verdict: it ends an evaluation without one. All of them but `notAnArray` can be told from the query alone.
-/

namespace Verdict

/-- The shape that an operator asks of its payload. -/
inductive PayloadShape where
  | clauses
  | queryOrPrimitive
  | primitive
  | primitives
  | query
deriving DecidableEq

def PayloadShape.phrase : PayloadShape → String
  | clauses => "an array of query documents"
  | queryOrPrimitive => "a query document or a primitive"
  | primitive => "a primitive"
  | primitives => "an array of primitives"
  | query => "a query document"

inductive Rejection where
  | invalidOperator (name queryPath : String)
  | invalidPayload (operator : Operator) (expected : PayloadShape) (queryPath : String)
  | nonPrimitiveElement (operator : Operator) (index : Nat) (queryPath : String)
  | notAnArray (operator : Operator) (propertyPath : String)
  | depthExceeded (depth limit : Nat)
deriving DecidableEq

namespace Rejection

/-- The name under which fixtures expect a rejection. -/
def name : Rejection → String
  | invalidOperator .. => "InvalidOperator"
  | invalidPayload .. => "InvalidPayload"
  | nonPrimitiveElement .. => "NonPrimitiveElement"
  | notAnArray .. => "NotAnArray"
  | depthExceeded .. => "DepthExceeded"

def message : Rejection → String
  | invalidOperator name queryPath => s!"no logic for query operator \"{name}\" (at \"{queryPath}\")"
  | invalidPayload operator expected queryPath =>
    "value for query operator " ++ operator.name ++ " must be " ++ expected.phrase ++ s!" (at \"{queryPath}\")"
  | nonPrimitiveElement operator index queryPath =>
    s!"non-primitive value at index {index} in " ++ operator.name ++ s!" clause (at \"{queryPath}\")"
  | notAnArray operator propertyPath =>
    "cannot use " ++ operator.name ++ s!" for non-array property \"{propertyPath}\""
  | depthExceeded depth limit => s!"query nesting depth is {depth}, but maximum allowed is {limit}"

/-- The kind under which a rejection counts as a reason. -/
def kind (_ : Rejection) : ReasonKind := .invalidOperator

end Rejection

end Verdict
