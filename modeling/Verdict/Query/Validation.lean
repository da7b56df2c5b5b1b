import Verdict.Query.Evaluation

/-!
# Checking a query

Checking walks a query without a document and finds the first fault that does not depend on one. It goes into every node, also into those that an evaluation might never come to, and applies no operator, so its journal can only hold a rejection. A negated array is rejected without an entry in the journal.
-/

namespace Verdict

mutual

def Query.validate : Query → Position → Trial Unit
  | .all conditions, p => do
    let p ← p.enter
    validateConditions conditions p
termination_by structural query => query

def validateConditions : List Condition → Position → Trial Unit
  | [], _ => return ()
  | condition :: rest, p => do
    condition.validate p
    validateConditions rest p
termination_by structural conditions => conditions

def Condition.validate : Condition → Position → Trial Unit
  | .unknownOperator name, p => .reject (.invalidOperator name (Path.join p.queryPath name))
  | .malformed operator fault, p =>
    let rejection := fault.rejection operator (p.withQuery operator.name).queryPath
    if operator = .not then .rejectSilently rejection else .reject rejection
  | .leaf _ _, _ | .test _ _, _ | .membership _ _, _ => return ()
  | .node field query, p => query.validate (p.extend field.property field.query)
  | .clauses junction queries, p => validateClauses queries (p.withQuery junction.operator.name) 0
  | .negation query, p => query.validate (p.withQuery Operator.not.name)
  | .element query, p => query.validate (p.withQuery Operator.elemMatch.name)
termination_by structural condition => condition

def validateClauses : List Query → Position → Nat → Trial Unit
  | [], _, _ => return ()
  | query :: rest, p, index => do
    query.validate (p.withQuery (Path.element index))
    validateClauses rest p (index + 1)
termination_by structural queries => queries

end

end Verdict
