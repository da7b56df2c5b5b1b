import Verdict.Query.Condition

/-!
# How a query document is read

A query document is a value, and the values below it play three parts: a node with keys of its own,
the payload of a key, or a leaf. `Reading` lists what a key and its payload are read as, one rule
for each kind of condition; reading follows these rules (`reading_ofEntry`), and they leave it no
choice (`Reading.read_eq`). A payload is malformed exactly where `Operator.payloadFault?`, which
looks at the payload alone, finds a fault.

Properties of query documents are proved by `Value.queryInduction`: a node by its payloads, and a
key by its payload as a node and by the nodes right below the payload.
-/

namespace Verdict

/-! ### Nodes and payloads -/

namespace Value

def isDocument : Value → Bool
  | document _ => true
  | _ => false

/-- The values right below a value. -/
def children : Value → List Value
  | array items => items
  | document entries => entries.map Prod.snd
  | _ => []

/-- The keys of a value that stands as a node of a query, with their payloads. An element of an
array has its place for a key. -/
def nodeEntries : Value → List (String × Value)
  | array items => items.zipIdx.map fun place => (toString place.2, place.1)
  | document entries => entries
  | _ => []

theorem mem_children_of_mem_nodeEntries {value payload : Value} {key : String}
    (h : (key, payload) ∈ value.nodeEntries) : payload ∈ value.children := by
  cases value with
  | array items =>
      obtain ⟨⟨item, index⟩, hmem, heq⟩ := List.mem_map.1 h
      obtain rfl : item = payload := congrArg Prod.snd heq
      exact List.fst_mem_of_mem_zipIdx hmem
  | document entries => exact List.mem_map.2 ⟨_, h, rfl⟩
  | _ => exact absurd h List.not_mem_nil

private theorem sizeOf_lt_of_mem_children {value child : Value} (h : child ∈ value.children) :
    sizeOf child < sizeOf value := by
  cases value with
  | array items =>
      have := List.sizeOf_lt_of_mem (show child ∈ items from h)
      simp only [array.sizeOf_spec]
      omega
  | document entries =>
      obtain ⟨⟨key, payload⟩, hmem, rfl⟩ := List.mem_map.1 h
      have := List.sizeOf_lt_of_mem hmem
      simp only [Prod.mk.sizeOf_spec] at this
      simp only [document.sizeOf_spec]
      omega
  | _ => exact absurd h List.not_mem_nil

theorem childrenInduction {motive : Value → Prop}
    (step : ∀ value, (∀ child ∈ value.children, motive child) → motive value)
    (value : Value) : motive value := by
  apply step
  intro child hchild
  exact childrenInduction step child
termination_by sizeOf value
decreasing_by exact sizeOf_lt_of_mem_children hchild

/-- What holds of a node by its payloads, and of a payload by itself as a node and by the nodes
right below it, holds of all payloads and nodes. -/
theorem queryInduction {payload node : Value → Prop}
    (hnode : ∀ value, (∀ child ∈ value.children, payload child) → node value)
    (hpayload : ∀ value, node value → (∀ child ∈ value.children, node child) → payload value)
    (value : Value) : payload value ∧ node value := by
  induction value using childrenInduction with
  | step value ih =>
      have hvalue : node value := hnode value fun child hchild => (ih child hchild).1
      exact ⟨hpayload value hvalue fun child hchild => (ih child hchild).2, hvalue⟩

end Value

/-- The condition that a key with a payload writes. -/
def Condition.read (entry : String × Value) : Condition := .ofEntry entry.1 entry.2

/-- The query that a value writes as a node. -/
def Query.ofNode (value : Value) : Query := .all (value.nodeEntries.map Condition.read)

theorem conditionsOfEntries_eq_map (entries : List (String × Value)) :
    conditionsOfEntries entries = entries.map Condition.read := by
  induction entries with
  | nil => rfl
  | cons entry rest ih =>
      rw [conditionsOfEntries, ih, List.map_cons]
      rfl

theorem conditionsOfItems_eq_map (index : Nat) (items : List Value) :
    conditionsOfItems index items =
      (items.zipIdx index).map fun place => .read (toString place.2, place.1) := by
  induction items generalizing index with
  | nil => rfl
  | cons item rest ih =>
      rw [conditionsOfItems, ih, List.zipIdx_cons, List.map_cons]
      rfl

theorem Query.ofNode_document (entries : List (String × Value)) :
    Query.ofNode (.document entries) = .all (conditionsOfEntries entries) := by
  rw [conditionsOfEntries_eq_map]
  rfl

theorem Query.ofNode_array (items : List Value) :
    Query.ofNode (.array items) = .all (conditionsOfItems 0 items) := by
  rw [conditionsOfItems_eq_map, ofNode, Value.nodeEntries, List.map_map]
  rfl

theorem clausesOfItems?_eq (items : List Value) :
    clausesOfItems? items =
      if items.all Value.isDocument then some (items.map Query.ofNode) else none := by
  induction items with
  | nil => rfl
  | cons item rest ih =>
      cases item with
      | document entries =>
          rw [clausesOfItems?, ih, ← Query.ofNode_document]
          cases hrest : rest.all Value.isDocument <;> simp [hrest, Value.isDocument]
      | _ => rfl

/-! ### Operators and the payloads they ask for -/

theorem classify_operator_name (operator : Operator) :
    Key.classify operator.name = .operator operator.name := by
  cases operator with
  | compare comparison => cases comparison <;> decide
  | _ => decide

namespace Operator

theorem ofName?_name (operator : Operator) : ofName? operator.name = some operator := by
  cases operator with
  | compare comparison => cases comparison <;> decide
  | _ => decide

theorem eq_name_of_ofName? {name : String} {operator : Operator}
    (h : ofName? name = some operator) : name = operator.name := by
  have hname := List.find?_some h
  exact (eq_of_beq hname).symm

/-- What is wrong with a payload for an operator, if anything is. -/
def payloadFault? : Operator → Value → Option PayloadFault
  | and, .array items | or, .array items =>
    if items.all Value.isDocument then none else some (.shape .clauses)
  | and, _ | or, _ => some (.shape .clauses)
  | not, .array _ => some (.shape .queryOrPrimitive)
  | not, _ => none
  | eq, operand | ne, operand | compare _, operand =>
    if operand.isPrimitive then none else some (.shape .primitive)
  | isIn, .array candidates | notIn, .array candidates =>
    (candidates.findIdx? (!·.isPrimitive)).map .element
  | isIn, _ | notIn, _ => some (.shape .primitives)
  | elemMatch, .document _ => none
  | elemMatch, _ => some (.shape .query)

theorem payloadFault?_clauses (junction : Junction) {items : List Value}
    (h : ∀ item ∈ items, item.isDocument = true) :
    junction.operator.payloadFault? (.array items) = none := by
  cases junction <;> exact if_pos (List.all_eq_true.2 h)

theorem payloadFault?_test (leafTest : LeafTest) {operand : Value}
    (h : operand.isPrimitive = true) : leafTest.operator.payloadFault? operand = none := by
  cases leafTest with
  | not => cases operand <;> first | rfl | cases h
  | _ => exact if_pos h

theorem payloadFault?_membership (wanted : Bool) {candidates : List Value}
    (h : ∀ candidate ∈ candidates, candidate.isPrimitive = true) :
    (if wanted then isIn else notIn).payloadFault? (.array candidates) = none := by
  have hindex : candidates.findIdx? (!·.isPrimitive) = none :=
    List.findIdx?_eq_none_iff.2 fun candidate hmem => by simp [h candidate hmem]
  cases wanted <;> exact congrArg (Option.map _) hindex

end Operator

/-! ### Reading a key -/

/-- The key and a payload are read as a condition. -/
inductive Reading (key : String) : Value → Condition → Prop
  | leaf {field : Field} {expected : Value} (hkey : Key.classify key = .field field)
      (hleaf : expected.isPrimitive = true) : Reading key expected (.leaf field expected)
  | node {field : Field} {payload : Value} (hkey : Key.classify key = .field field)
      (hnode : payload.isPrimitive = false) : Reading key payload (.node field (.ofNode payload))
  | unknownOperator {name : String} {payload : Value} (hkey : Key.classify key = .operator name)
      (hname : Operator.ofName? name = none) : Reading key payload (.unknownOperator name)
  | malformed {operator : Operator} {payload : Value} {fault : PayloadFault}
      (hkey : Key.classify key = .operator operator.name)
      (hfault : operator.payloadFault? payload = some fault) :
      Reading key payload (.malformed operator fault)
  | clauses {junction : Junction} {items : List Value}
      (hkey : Key.classify key = .operator junction.operator.name)
      (hclauses : ∀ item ∈ items, item.isDocument = true) :
      Reading key (.array items) (.clauses junction (items.map .ofNode))
  | negation {entries : List (String × Value)}
      (hkey : Key.classify key = .operator Operator.not.name) :
      Reading key (.document entries) (.negation (.ofNode (.document entries)))
  | test {leafTest : LeafTest} {operand : Value}
      (hkey : Key.classify key = .operator leafTest.operator.name)
      (hleaf : operand.isPrimitive = true) : Reading key operand (.test leafTest operand)
  | membership {wanted : Bool} {candidates : List Value}
      (hkey : Key.classify key = .operator (if wanted then Operator.isIn else .notIn).name)
      (hleaves : ∀ candidate ∈ candidates, candidate.isPrimitive = true) :
      Reading key (.array candidates) (.membership wanted candidates)
  | element {entries : List (String × Value)}
      (hkey : Key.classify key = .operator Operator.elemMatch.name) :
      Reading key (.document entries) (.element (.ofNode (.document entries)))

namespace Reading

variable {key : String} {payload : Value}

private theorem ofClauses (junction : Junction) (items : List Value)
    (hkey : Key.classify key = .operator junction.operator.name) :
    Reading key (.array items) (.ofClauses junction (clausesOfItems? items)) := by
  rw [clausesOfItems?_eq]
  cases hclauses : items.all Value.isDocument with
  | true => exact .clauses hkey (List.all_eq_true.1 hclauses)
  | false =>
      refine .malformed hkey ?_
      cases junction <;> simp [Junction.operator, Operator.payloadFault?, hclauses]

private theorem ofLeafTest (leafTest : LeafTest) (htest : leafTest ≠ .not)
    (hkey : Key.classify key = .operator leafTest.operator.name) :
    Reading key payload (.ofLeafTest leafTest payload) := by
  rw [Condition.ofLeafTest]
  cases hleaf : payload.isPrimitive with
  | true => exact .test hkey hleaf
  | false =>
      refine .malformed hkey ?_
      cases leafTest with
      | not => exact absurd rfl htest
      | _ => simp [LeafTest.operator, Operator.payloadFault?, hleaf]

private theorem ofMembership (wanted : Bool)
    (hkey : Key.classify key = .operator (if wanted then Operator.isIn else .notIn).name) :
    Reading key payload (.ofMembership wanted payload) := by
  cases payload with
  | array candidates =>
      rw [Condition.ofMembership]
      split
      · rename_i index hindex
        refine .malformed hkey ?_
        cases wanted <;> simp [Operator.payloadFault?, hindex]
      · rename_i hindex
        refine .membership hkey fun candidate hmem => ?_
        simpa using List.findIdx?_eq_none_iff.1 hindex candidate hmem
  | _ =>
      refine .malformed hkey ?_
      cases wanted <;> rfl

end Reading

/-- Reading follows the rules. -/
theorem reading_ofEntry (key : String) (payload : Value) :
    Reading key payload (.ofEntry key payload) := by
  rw [Condition.ofEntry.eq_def]
  cases hkey : Key.classify key with
  | field field =>
      cases payload with
      | document entries =>
          change Reading key _ (.node field (.all (conditionsOfEntries entries)))
          rw [← Query.ofNode_document]
          exact .node hkey rfl
      | array items =>
          change Reading key _ (.node field (.all (conditionsOfItems 0 items)))
          rw [← Query.ofNode_array]
          exact .node hkey rfl
      | _ => exact .leaf hkey rfl
  | operator name =>
      dsimp only
      cases hname : Operator.ofName? name with
      | none => exact .unknownOperator hkey hname
      | some operator =>
          obtain rfl := Operator.eq_name_of_ofName? hname
          cases operator with
          | and =>
              cases payload with
              | array items => exact Reading.ofClauses .and items hkey
              | _ => exact .malformed hkey rfl
          | or =>
              cases payload with
              | array items => exact Reading.ofClauses .or items hkey
              | _ => exact .malformed hkey rfl
          | not =>
              cases payload with
              | document entries =>
                  change Reading key _ (.negation (.all (conditionsOfEntries entries)))
                  rw [← Query.ofNode_document]
                  exact .negation hkey
              | array items => exact .malformed hkey rfl
              -- a leaf below a negation is a test of its own
              | _ => exact @Reading.test key .not _ hkey rfl
          | eq => exact Reading.ofLeafTest .eq (by decide) hkey
          | ne => exact Reading.ofLeafTest .ne (by decide) hkey
          | compare comparison => exact Reading.ofLeafTest (.compare comparison) (by simp) hkey
          | isIn => exact Reading.ofMembership true hkey
          | notIn => exact Reading.ofMembership false hkey
          | elemMatch =>
              cases payload with
              | document entries =>
                  change Reading key _ (.element (.all (conditionsOfEntries entries)))
                  rw [← Query.ofNode_document]
                  exact .element hkey
              | _ => exact .malformed hkey rfl

/-- What a key and its payload are read as, to be told apart by the rules. -/
theorem exists_reading (key : String) (payload : Value) :
    ∃ condition, Condition.read (key, payload) = condition ∧ Reading key payload condition :=
  ⟨_, rfl, reading_ofEntry key payload⟩

/-- A payload that has a fault is kept as malformed. -/
private theorem ofEntry_of_payloadFault? {key : String} {operator : Operator} {payload : Value}
    {fault : PayloadFault} (hkey : Key.classify key = .operator operator.name)
    (hfault : operator.payloadFault? payload = some fault) :
    Condition.ofEntry key payload = .malformed operator fault := by
  rw [Condition.ofEntry.eq_def]
  simp only [hkey, Operator.ofName?_name]
  cases operator with
  | and | or =>
      cases payload with
      | array items =>
          rw [Operator.payloadFault?] at hfault
          split at hfault
          · cases hfault
          · rename_i hclauses
            cases hfault
            simp only [clausesOfItems?_eq, if_neg hclauses]
            rfl
      | _ => cases hfault; rfl
  | not =>
      cases payload with
      | array items => cases hfault; rfl
      | _ => cases hfault
  | eq | ne | compare comparison =>
      rw [Operator.payloadFault?] at hfault
      split at hfault
      · cases hfault
      · rename_i hleaf
        cases hfault
        exact if_neg hleaf
  | isIn | notIn =>
      cases payload with
      | array candidates =>
          obtain ⟨index, hindex, rfl⟩ := Option.map_eq_some_iff.1 hfault
          simp only [Condition.ofMembership, hindex]
          rfl
      | _ => cases hfault; rfl
  | elemMatch =>
      cases payload with
      | document entries => cases hfault
      | _ => cases hfault; rfl

/-- The rules leave no choice: what they read a key and its payload as is what is read. -/
theorem Reading.read_eq {key : String} {payload : Value} {condition : Condition}
    (h : Reading key payload condition) : Condition.read (key, payload) = condition := by
  change Condition.ofEntry key payload = condition
  cases h with
  | malformed hkey hfault => exact ofEntry_of_payloadFault? hkey hfault
  | leaf hkey hleaf =>
      rw [Condition.ofEntry.eq_def, hkey]
      cases payload with
      | array items => cases hleaf
      | document entries => cases hleaf
      | _ => rfl
  | node hkey hnode =>
      rw [Condition.ofEntry.eq_def, hkey]
      cases payload with
      | array items => rw [Query.ofNode_array]
      | document entries => rw [Query.ofNode_document]
      | _ => cases hnode
  | unknownOperator hkey hname =>
      rw [Condition.ofEntry.eq_def, hkey]
      simp only [hname]
  | @clauses junction items hkey hclauses =>
      have hread : clausesOfItems? items = some (items.map .ofNode) := by
        rw [clausesOfItems?_eq, if_pos (List.all_eq_true.2 hclauses)]
      rw [Condition.ofEntry.eq_def, hkey]
      simp only [Operator.ofName?_name, hread]
      cases junction <;> rfl
  | negation hkey | element hkey =>
      rw [Condition.ofEntry.eq_def, hkey]
      simp only [Operator.ofName?_name, Query.ofNode_document]
  | @test leafTest _ hkey hleaf =>
      rw [Condition.ofEntry.eq_def, hkey]
      simp only [Operator.ofName?_name]
      cases leafTest with
      | not =>
          cases payload with
          | array items => cases hleaf
          | document entries => cases hleaf
          | _ => rfl
      | _ => exact if_pos hleaf
  | @membership wanted candidates hkey hleaves =>
      have hindex : candidates.findIdx? (!·.isPrimitive) = none :=
        List.findIdx?_eq_none_iff.2 fun candidate hmem => by simp [hleaves candidate hmem]
      rw [Condition.ofEntry.eq_def, hkey]
      simp only [Operator.ofName?_name]
      cases wanted <;> simp [Condition.ofMembership, hindex]

end Verdict
