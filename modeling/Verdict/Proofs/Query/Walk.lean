import Verdict.Matcher
import Verdict.Proofs.Query.Reading

/-!
# Walking through a query

A walk through a query comes to every node and to every key of every node, in order, whatever the
document may be; it goes around malformed payloads and does not go below the greatest depth.
`visits` lists what it comes to in a query document, and `Query.visits` what it comes to in the
conditions read off one. The two walks are the same (`visits_ofDocument`), so what is proved of
conditions by induction is known of documents.
-/

namespace Verdict

/-! ### Visits -/

/-- What a walk comes to: a node, with the number of nodes entered by then, or a key of a node, with
the path of that node. -/
inductive Visit (κ : Type) where
  | node (depth : Nat)
  | key (key : κ) (path : String)

namespace Visit

variable {κ ι : Type}

def map (f : κ → ι) : Visit κ → Visit ι
  | node depth => .node depth
  | key k path => .key (f k) path

/-- The visit of a node, after which its keys are visited unless it lies too deep. -/
def enter (depth : Nat) (keys : List (Visit κ)) : List (Visit κ) :=
  .node depth :: if depth ≤ maxDepth then keys else []

theorem map_enter (f : κ → ι) (depth : Nat) (keys : List (Visit κ)) :
    (enter depth keys).map (map f) = enter depth (keys.map (map f)) := by
  by_cases h : depth ≤ maxDepth <;> simp [enter, h, map]

end Visit

mutual

/-- A walk through a payload, from its key on. A malformed payload is not entered. -/
def visitsOfEntry (key : String) (payload : Value) (path : String) (depth : Nat) :
    List (Visit (String × Value)) :=
  .key (key, payload) path ::
    match Key.classify key with
    | .field field =>
      match payload with
      | .document entries =>
        Visit.enter (depth + 1) (visitsOfEntries entries (Path.join path field.query) (depth + 1))
      | .array items =>
        Visit.enter (depth + 1) (visitsOfItems 0 items (Path.join path field.query) (depth + 1))
      | _ => []
    | .operator name =>
      match Operator.ofName? name with
      | none => []
      | some operator =>
        if (operator.payloadFault? payload).isSome then []
        else match operator, payload with
          | .and, .array items | .or, .array items =>
            visitsOfClauses 0 items (Path.join path name) depth
          | .not, .document entries | .elemMatch, .document entries =>
            Visit.enter (depth + 1) (visitsOfEntries entries (Path.join path name) (depth + 1))
          | _, _ => []
termination_by structural payload

def visitsOfEntries : List (String × Value) → String → Nat → List (Visit (String × Value))
  | [], _, _ => []
  | (key, payload) :: rest, path, depth =>
    visitsOfEntry key payload path depth ++ visitsOfEntries rest path depth
termination_by structural entries => entries

def visitsOfItems (index : Nat) : List Value → String → Nat → List (Visit (String × Value))
  | [], _, _ => []
  | payload :: rest, path, depth =>
    visitsOfEntry (toString index) payload path depth ++ visitsOfItems (index + 1) rest path depth
termination_by structural items => items

def visitsOfClauses (index : Nat) : List Value → String → Nat → List (Visit (String × Value))
  | .document entries :: rest, path, depth =>
    Visit.enter (depth + 1)
        (visitsOfEntries entries (Path.join path (Path.element index)) (depth + 1)) ++
      visitsOfClauses (index + 1) rest path depth
  | _, _, _ => []
termination_by structural items => items

end

/-- A walk through a query document. -/
def visits (query : Document) : List (Visit (String × Value)) :=
  Visit.enter 1 (visitsOfEntries query "" 1)

/-- A walk through a value as a node. -/
def visitsOfNode (value : Value) (path : String) (depth : Nat) : List (Visit (String × Value)) :=
  Visit.enter (depth + 1)
    (value.nodeEntries.flatMap fun entry => visitsOfEntry entry.1 entry.2 path (depth + 1))

theorem visitsOfNode_document (entries : List (String × Value)) (path : String) (depth : Nat) :
    visitsOfNode (.document entries) path depth =
      Visit.enter (depth + 1) (visitsOfEntries entries path (depth + 1)) := by
  rw [visitsOfNode]
  congr 1
  induction entries with
  | nil => rfl
  | cons entry rest ih => exact congrArg (_ ++ ·) ih

theorem visitsOfNode_array (items : List Value) (path : String) (depth : Nat) :
    visitsOfNode (.array items) path depth =
      Visit.enter (depth + 1) (visitsOfItems 0 items path (depth + 1)) := by
  rw [visitsOfNode, Value.nodeEntries, List.flatMap_map]
  congr 1
  generalize 0 = index
  induction items generalizing index with
  | nil => rfl
  | cons item rest ih => exact congrArg (_ ++ ·) (ih (index + 1))

/-- The operators that the keys of a query document name, known or not, in the order of the keys. -/
def operatorNames (query : Document) : List String :=
  (visits query).filterMap fun
    | .node _ => none
    | .key (key, _) _ =>
      match Key.classify key with
      | .field _ => none
      | .operator name => some name

/-! ### Conditions -/

mutual

/-- A walk through a node of conditions. -/
def Query.visits : Query → String → Nat → List (Visit Condition)
  | .all conditions, path, depth =>
    Visit.enter (depth + 1) (visitsOfConditions conditions path (depth + 1))
termination_by structural query => query

def visitsOfConditions : List Condition → String → Nat → List (Visit Condition)
  | [], _, _ => []
  | condition :: rest, path, depth =>
    condition.visits path depth ++ visitsOfConditions rest path depth
termination_by structural conditions => conditions

def Condition.visits (condition : Condition) (path : String) (depth : Nat) :
    List (Visit Condition) :=
  .key condition path ::
    match condition with
    | .node field query => query.visits (Path.join path field.query) depth
    | .clauses junction queries =>
      visitsOfQueries 0 queries (Path.join path junction.operator.name) depth
    | .negation query => query.visits (Path.join path Operator.not.name) depth
    | .element query => query.visits (Path.join path Operator.elemMatch.name) depth
    | _ => []
termination_by structural condition

def visitsOfQueries (index : Nat) : List Query → String → Nat → List (Visit Condition)
  | [], _, _ => []
  | query :: rest, path, depth =>
    query.visits (Path.join path (Path.element index)) depth ++
      visitsOfQueries (index + 1) rest path depth
termination_by structural queries => queries

end

/-! ### Conditions and documents -/

private theorem visits_ofNode_of_children {value : Value}
    (h : ∀ child ∈ value.children, ∀ key path depth,
      (Condition.read (key, child)).visits path depth =
        (visitsOfEntry key child path depth).map (Visit.map Condition.read))
    (path : String) (depth : Nat) :
    (Query.ofNode value).visits path depth =
      (visitsOfNode value path depth).map (Visit.map Condition.read) := by
  rw [Query.ofNode, Query.visits, visitsOfNode, Visit.map_enter]
  congr 1
  have hentries : ∀ entry ∈ value.nodeEntries, entry.2 ∈ value.children :=
    fun entry hmem => Value.mem_children_of_mem_nodeEntries hmem
  generalize value.nodeEntries = entries at hentries
  induction entries with
  | nil => rfl
  | cons entry rest ih =>
      rw [List.map_cons, visitsOfConditions, List.flatMap_cons, List.map_append,
        ih fun other hmem => hentries other (List.mem_cons_of_mem entry hmem)]
      exact congrArg (· ++ _)
        (h entry.2 (hentries entry List.mem_cons_self) entry.1 path (depth + 1))

/-- A clause is visited as a node, at its index. -/
private theorem visitsOfQueries_map_ofNode {items : List Value}
    (hclauses : ∀ item ∈ items, item.isDocument = true)
    (h : ∀ item ∈ items, ∀ path depth,
      (Query.ofNode item).visits path depth =
        (visitsOfNode item path depth).map (Visit.map Condition.read))
    (index : Nat) (path : String) (depth : Nat) :
    visitsOfQueries index (items.map Query.ofNode) path depth =
      (visitsOfClauses index items path depth).map (Visit.map Condition.read) := by
  induction items generalizing index with
  | nil => rfl
  | cons item rest ih =>
      cases item with
      | document entries =>
          rw [List.map_cons, visitsOfQueries, visitsOfClauses, List.map_append,
            h _ List.mem_cons_self, visitsOfNode_document,
            ih (fun other hmem => hclauses other (List.mem_cons_of_mem _ hmem))
              (fun other hmem => h other (List.mem_cons_of_mem _ hmem))]
      | _ => cases hclauses _ List.mem_cons_self

private theorem visits_ofEntry_of_nodes {payload : Value}
    (hpayload : ∀ path depth,
      (Query.ofNode payload).visits path depth =
        (visitsOfNode payload path depth).map (Visit.map Condition.read))
    (hchildren : ∀ child ∈ payload.children, ∀ path depth,
      (Query.ofNode child).visits path depth =
        (visitsOfNode child path depth).map (Visit.map Condition.read))
    (key : String) (path : String) (depth : Nat) :
    (Condition.read (key, payload)).visits path depth =
      (visitsOfEntry key payload path depth).map (Visit.map Condition.read) := by
  rw [Condition.visits.eq_def, visitsOfEntry.eq_def, List.map_cons]
  refine congrArg (Visit.key _ path :: ·) ?_
  obtain ⟨condition, hcondition, hread⟩ := exists_reading key payload
  rw [hcondition]
  cases hread with
  | leaf hkey hleaf =>
      rw [hkey]
      cases payload with
      | array items => cases hleaf
      | document entries => cases hleaf
      | _ => rfl
  | @node field _ hkey hnode =>
      rw [hkey]
      have h := hpayload (Path.join path field.query) depth
      cases payload with
      | array items => exact h.trans (by rw [visitsOfNode_array])
      | document entries => exact h.trans (by rw [visitsOfNode_document])
      | _ => cases hnode
  | unknownOperator hkey hname => simp only [hkey, hname, List.map_nil]
  | malformed hkey hfault =>
      simp only [hkey, Operator.ofName?_name, hfault, Option.isSome_some, if_true, List.map_nil]
  | @clauses junction items hkey hclauses =>
      have hfault := Operator.payloadFault?_clauses junction hclauses
      simp only [hkey, Operator.ofName?_name, hfault, Option.isSome_none, Bool.false_eq_true,
        if_false]
      cases junction <;> exact visitsOfQueries_map_ofNode hclauses hchildren 0 _ depth
  | negation hkey =>
      rw [hkey]
      exact (hpayload _ depth).trans (by rw [visitsOfNode_document]; rfl)
  | element hkey =>
      rw [hkey]
      exact (hpayload _ depth).trans (by rw [visitsOfNode_document]; rfl)
  | @test leafTest _ hkey hleaf =>
      simp only [hkey, Operator.ofName?_name, Operator.payloadFault?_test leafTest hleaf,
        Option.isSome_none]
      cases leafTest with
      | not =>
          cases payload with
          | array items => cases hleaf
          | document entries => cases hleaf
          | _ => rfl
      | _ => rfl
  | @membership wanted _ hkey hleaves =>
      simp only [hkey, Operator.ofName?_name, Operator.payloadFault?_membership wanted hleaves,
        Option.isSome_none]
      cases wanted <;> rfl

/-- A value and the conditions read off it as a node are walked through alike. -/
theorem visits_ofNode (value : Value) (path : String) (depth : Nat) :
    (Query.ofNode value).visits path depth =
      (visitsOfNode value path depth).map (Visit.map Condition.read) :=
  (Value.queryInduction (fun _ => visits_ofNode_of_children)
    (fun _ => visits_ofEntry_of_nodes) value).2 path depth

theorem visits_ofDocument (query : Document) :
    (Query.ofDocument query).visits "" 0 = (visits query).map (Visit.map Condition.read) := by
  have h := visits_ofNode (.document query) "" 0
  rwa [Query.ofNode_document, visitsOfNode_document] at h

/-- Only the operator for elements is read as a condition on elements. -/
theorem operator_of_read_eq_element {key : String} {payload : Value} {query : Query}
    (h : Condition.read (key, payload) = .element query) :
    Key.classify key = .operator Operator.elemMatch.name := by
  obtain ⟨condition, hcondition, hread⟩ := exists_reading key payload
  rw [← hcondition, h] at hread
  cases hread with
  | element hkey => exact hkey

end Verdict
