import Verdict.Query.Condition
import Verdict.Trial

/-!
# Evaluating a query

An evaluation follows the query, not the document, so it ends with the query. Every condition of a node is evaluated, in order, and only then is the verdict drawn. Clauses are evaluated up to the first that decides, and its explanation alone stands for all of them. Elements are all evaluated.
-/

namespace Verdict

/-- Query nodes may nest this deep. -/
def maxDepth : Nat := 100

/-- Enters one more node. -/
def Position.enter (p : Position) : Trial Position :=
  if maxDepth < p.descend.depth then .reject (.depthExceeded p.descend.depth maxDepth) else pure p.descend

namespace Value

/-- The value, or one of its elements if it is an array, satisfies one of the candidates. -/
def isAmong (value : Value) (candidates : List Value) : Bool :=
  candidates.any fun candidate =>
    match value with
    | array items => items.any (·.satisfies candidate)
    | value => value.satisfies candidate

end Value

/-- The place of an operator, after the journal has it. -/
def Condition.dispatch (condition : Condition) (p : Position) : Trial Position :=
  match condition.operator? with
  | none => pure p
  | some operator => do
    Trial.record (.dispatch operator p.propertyPath p.queryPath)
    return p.withQuery operator.name

mutual

/-- Evaluates a node. A node without conditions holds. -/
def Query.evaluate : Query → Value → Position → Trial Explanation
  | .all conditions, value, p => do
    let p ← p.enter
    if conditions.isEmpty then return p.explain .hasNoKeys true
    let parts ← evaluateConditions conditions value p
    return .all parts
termination_by structural query => query

def evaluateConditions : List Condition → Value → Position → Trial (List Explanation)
  | [], _, _ => return []
  | condition :: rest, value, p => do
    let part ← condition.evaluate value p
    let parts ← evaluateConditions rest value p
    return part :: parts
termination_by structural conditions => conditions

def Condition.evaluate : Condition → Value → Position → Trial Explanation
  | .unknownOperator name, _, p => .reject (.invalidOperator name (Path.join p.queryPath name))
  | .malformed operator fault, _, p => do
    let p ← (Condition.malformed operator fault).dispatch p
    .reject (fault.rejection operator p.queryPath)
  | .leaf field expected, value, p =>
    let p := p.extend field.property field.query
    match field.value? value with
    | some value => return p.explain .equal (value.satisfies expected)
    | none => return p.explain .hasNoPath false
  | .node field query, value, p =>
    let p := p.extend field.property field.query
    match field.value? value with
    | some value => query.evaluate value p
    | none => return p.explain .hasNoPath false
  | .clauses junction queries, value, p => do
    let p ← (Condition.clauses junction queries).dispatch p
    evaluateClauses junction queries value p 0
  | .negation query, value, p => do
    let p ← (Condition.negation query).dispatch p
    let explanation ← query.evaluate value p
    return explanation.invert
  | .test leafTest operand, value, p => do
    let p ← (Condition.test leafTest operand).dispatch p
    return p.explain leafTest.kind (leafTest.holds value operand)
  | .membership wanted candidates, value, p => do
    let p ← (Condition.membership wanted candidates).dispatch p
    return p.explain (if wanted then .inSet else .notInSet) (value.isAmong candidates == wanted)
  | .element query, value, p => do
    let p ← (Condition.element query).dispatch p
    match value with
    | .array [] => return p.explain .elementMatch false
    | .array items =>
      let parts ← Trial.each (fun (item, index) => query.evaluate item (p.withProperty (Path.element index))) items.zipIdx
      return .any parts
    | _ => .reject (.notAnArray .elemMatch p.propertyPath)
termination_by structural condition => condition

/-- Evaluates clauses from an index on. A clause decides if it holds and one has to hold, or if it fails and all have to hold. -/
def evaluateClauses (junction : Junction) : List Query → Value → Position → Nat → Trial Explanation
  | [], _, _, _ => return ⟨junction == .and, []⟩
  | query :: rest, value, p, index => do
    let first ← query.evaluate value (p.withQuery (Path.element index))
    if first.matched == (junction == .or) then return first
    let others ← evaluateClauses junction rest value p (index + 1)
    if others.matched == (junction == .or) then return others
    return ⟨others.matched, first.reasons ++ others.reasons⟩
termination_by structural queries => queries

end

end Verdict
