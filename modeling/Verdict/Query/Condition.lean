import Verdict.Rejection

/-!
# Queries

A query is a tree of conditions, read off a document once. Reading decides what every key asks for and keeps a payload of the wrong shape as a condition of its own, `malformed`, because such a payload is a fault only where an evaluation comes to it. So evaluation and checking see the same conditions and need not look at payloads again.
-/

namespace Verdict

/-- What a payload of the wrong shape is rejected for. -/
inductive PayloadFault where
  | shape (expected : PayloadShape)
  | element (index : Nat)
deriving DecidableEq

/-- Tests of a value against a leaf. -/
inductive LeafTest where
  /-- equal -/
  | eq
  /-- not equal, and explained as an inequality of values -/
  | ne
  /-- not equal, and explained as a failed equality -/
  | not
  | compare (comparison : Comparison)
deriving DecidableEq

/-- Whether all clauses have to hold, or one. -/
inductive Junction where
  | and
  | or
deriving DecidableEq

mutual

/-- A node of a query: conditions that all have to hold. -/
inductive Query where
  | all (conditions : List Condition)

/-- What one key of a node asks for. -/
inductive Condition where
  | unknownOperator (name : String)
  | malformed (operator : Operator) (fault : PayloadFault)
  /-- the value of a field equals a leaf -/
  | leaf (field : Field) (expected : Value)
  /-- the value of a field satisfies a node -/
  | node (field : Field) (query : Query)
  | clauses (junction : Junction) (queries : List Query)
  | negation (query : Query)
  | test (test : LeafTest) (operand : Value)
  /-- the value, or one of its elements, is among the candidates; or, if not `wanted`, is not -/
  | membership (wanted : Bool) (candidates : List Value)
  /-- some element of the value satisfies a node -/
  | element (query : Query)

end

namespace LeafTest

def operator : LeafTest → Operator
  | eq => .eq
  | ne => .ne
  | not => .not
  | compare comparison => .compare comparison

def kind : LeafTest → ReasonKind
  | eq | not => .equal
  | ne => .notEqual
  | compare _ => .inequality

def holds (test : LeafTest) (value operand : Value) : Bool :=
  match test with
  | eq => value.satisfies operand
  | ne | not => !value.satisfies operand
  | compare comparison => comparison.holds value operand

end LeafTest

def Junction.operator : Junction → Operator
  | and => .and
  | or => .or

namespace Condition

/-- The operator that a condition applies; fields and unknown operators apply none. -/
def operator? : Condition → Option Operator
  | unknownOperator _ | leaf _ _ | node _ _ => none
  | malformed operator _ => some operator
  | clauses junction _ => some junction.operator
  | negation _ => some .not
  | test leafTest _ => some leafTest.operator
  | membership wanted _ => some (if wanted then .isIn else .notIn)
  | element _ => some .elemMatch

end Condition

/-- The rejection of a malformed payload at a place in the query. -/
def PayloadFault.rejection (fault : PayloadFault) (operator : Operator) (queryPath : String) : Rejection :=
  match fault with
  | shape expected => .invalidPayload operator expected queryPath
  | element index => .nonPrimitiveElement operator index queryPath

/-! ### Reading a query -/

/-- A condition on clauses, which all have to be documents. -/
def Condition.ofClauses (junction : Junction) (queries? : Option (List Query)) : Condition :=
  match queries? with
  | some queries => .clauses junction queries
  | none => .malformed junction.operator (.shape .clauses)

/-- A condition on a leaf: the payload has to be primitive. -/
def Condition.ofLeafTest (test : LeafTest) (payload : Value) : Condition :=
  if payload.isPrimitive then .test test payload else .malformed test.operator (.shape .primitive)

/-- A condition on membership: the payload has to be an array of primitives. -/
def Condition.ofMembership (wanted : Bool) (payload : Value) : Condition :=
  let operator : Operator := if wanted then .isIn else .notIn
  match payload with
  | .array items =>
    match items.findIdx? (!·.isPrimitive) with
    | some index => .malformed operator (.element index)
    | none => .membership wanted items
  | _ => .malformed operator (.shape .primitives)

mutual

/-- What a key with a payload asks for. -/
def Condition.ofEntry (key : String) (payload : Value) : Condition :=
  match Key.classify key with
  | .field field =>
    match payload with
    | .document entries => .node field (.all (conditionsOfEntries entries))
    | .array items => .node field (.all (conditionsOfItems 0 items))
    | leaf => .leaf field leaf
  | .operator name =>
    match Operator.ofName? name with
    | none => .unknownOperator name
    | some .and =>
      match payload with
      | .array items => .ofClauses .and (clausesOfItems? items)
      | _ => .ofClauses .and none
    | some .or =>
      match payload with
      | .array items => .ofClauses .or (clausesOfItems? items)
      | _ => .ofClauses .or none
    | some .not =>
      match payload with
      | .document entries => .negation (.all (conditionsOfEntries entries))
      | .array _ => .malformed .not (.shape .queryOrPrimitive)
      | leaf => .test .not leaf
    | some .eq => .ofLeafTest .eq payload
    | some .ne => .ofLeafTest .ne payload
    | some (.compare comparison) => .ofLeafTest (.compare comparison) payload
    | some .isIn => .ofMembership true payload
    | some .notIn => .ofMembership false payload
    | some .elemMatch =>
      match payload with
      | .document entries => .element (.all (conditionsOfEntries entries))
      | _ => .malformed .elemMatch (.shape .query)
termination_by structural payload

/-- The conditions of a document, in order. -/
def conditionsOfEntries : List (String × Value) → List Condition
  | [] => []
  | (key, payload) :: rest => .ofEntry key payload :: conditionsOfEntries rest
termination_by structural entries => entries

/-- The conditions of an array from a place on: each element belongs to its place as to a key. -/
def conditionsOfItems (index : Nat) : List Value → List Condition
  | [] => []
  | payload :: rest => .ofEntry (toString index) payload :: conditionsOfItems (index + 1) rest
termination_by structural items => items

/-- Clauses, if all elements are documents. -/
def clausesOfItems? : List Value → Option (List Query)
  | [] => some []
  | .document entries :: rest => (clausesOfItems? rest).map (.all (conditionsOfEntries entries) :: ·)
  | _ :: _ => none
termination_by structural items => items

end

/-- The query that a document writes. -/
def Query.ofDocument (document : Document) : Query := .all (conditionsOfEntries document)

end Verdict
