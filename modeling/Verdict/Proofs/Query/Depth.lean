import Verdict.Proofs.Query.Rejections

/-!
# How deep a query may nest

`queryDepth` is the depth of a query document by its nesting alone, without a count that is carried
along. A walk comes to nodes at every depth down to this one, and to none below the first that lies
too deep (`node_mem_visits_iff`). So a query has a node too deep just in case its depth is beyond
the limit, and whoever finds that out, by checking or by evaluating, finds the same rejection
(`depthExceeded_mem_rejections_iff`). How deep the document nests does not come into it.
-/

namespace Verdict

mutual

/-- How many nodes lie below a key with its payload, one inside the other. Malformed payloads have
no nodes, and neither have leaves or candidates. -/
def depthOfEntry (key : String) (payload : Value) : Nat :=
  match Key.classify key with
  | .field _ =>
    match payload with
    | .document entries => depthOfEntries entries + 1
    | .array items => depthOfItems 0 items + 1
    | _ => 0
  | .operator name =>
    match Operator.ofName? name, payload with
    | some .and, .array clauses | some .or, .array clauses =>
      if clauses.all Value.isDocument then depthOfClauses clauses else 0
    | some .not, .document entries | some .elemMatch, .document entries =>
      depthOfEntries entries + 1
    | _, _ => 0
termination_by structural payload

def depthOfEntries : List (String × Value) → Nat
  | [] => 0
  | (key, payload) :: rest => max (depthOfEntry key payload) (depthOfEntries rest)
termination_by structural entries => entries

def depthOfItems (index : Nat) : List Value → Nat
  | [] => 0
  | payload :: rest => max (depthOfEntry (toString index) payload) (depthOfItems (index + 1) rest)
termination_by structural items => items

def depthOfClauses : List Value → Nat
  | .document entries :: rest => max (depthOfEntries entries + 1) (depthOfClauses rest)
  | _ => 0
termination_by structural clauses => clauses

end

/-- How many nodes of a query document lie one inside the other. -/
def queryDepth (query : Document) : Nat := depthOfEntries query + 1

/-- How many nodes lie below a value as a node of a query, one inside the other. -/
def depthOfNode (node : Value) : Nat :=
  (node.nodeEntries.map fun entry => depthOfEntry entry.1 entry.2).foldr max 0

theorem depthOfEntries_eq (entries : List (String × Value)) :
    depthOfEntries entries = depthOfNode (.document entries) := by
  induction entries with
  | nil => rfl
  | cons entry rest ih => exact congrArg (max _) ih

theorem depthOfItems_eq (items : List Value) :
    depthOfItems 0 items = depthOfNode (.array items) := by
  have hfrom : ∀ index, depthOfItems index items =
      ((items.zipIdx index).map fun place => depthOfEntry (toString place.2) place.1).foldr
        max 0 := by
    induction items with
    | nil => exact fun _ => rfl
    | cons item rest ih => exact fun index => congrArg (max _) (ih (index + 1))
  rw [hfrom, depthOfNode, Value.nodeEntries, List.map_map]
  rfl

theorem depthOfClauses_eq {clauses : List Value}
    (h : ∀ clause ∈ clauses, clause.isDocument = true) :
    depthOfClauses clauses = (clauses.map fun clause => depthOfNode clause + 1).foldr max 0 := by
  induction clauses with
  | nil => rfl
  | cons clause rest ih =>
      obtain ⟨hclause, hrest⟩ := List.forall_mem_cons.1 h
      cases clause with
      | document entries =>
          rw [depthOfClauses, depthOfEntries_eq, ih hrest, List.map_cons, List.foldr_cons]
      | _ => cases hclause

section

variable {key : String} {payload : Value}

theorem depthOfEntry_node {field : Field} (hkey : Key.classify key = .field field)
    (hnode : payload.isPrimitive = false) :
    depthOfEntry key payload = depthOfNode payload + 1 := by
  rw [depthOfEntry.eq_def, hkey]
  cases payload with
  | document entries => exact congrArg (· + 1) (depthOfEntries_eq entries)
  | array items => exact congrArg (· + 1) (depthOfItems_eq items)
  | _ => cases hnode

theorem depthOfEntry_clauses {junction : Junction} {items : List Value}
    (hkey : Key.classify key = .operator junction.operator.name)
    (hclauses : ∀ item ∈ items, item.isDocument = true) :
    depthOfEntry key (.array items) =
      (items.map fun item => depthOfNode item + 1).foldr max 0 := by
  rw [← depthOfClauses_eq hclauses, depthOfEntry.eq_def]
  simp only [hkey, Operator.ofName?_name]
  cases junction <;> exact if_pos (List.all_eq_true.2 hclauses)

theorem depthOfEntry_nested {operator : Operator} {entries : List (String × Value)}
    (hkey : Key.classify key = .operator operator.name)
    (hnests : operator = .not ∨ operator = .elemMatch) :
    depthOfEntry key (.document entries) = depthOfNode (.document entries) + 1 := by
  rw [← depthOfEntries_eq, depthOfEntry.eq_def]
  simp only [hkey, Operator.ofName?_name]
  obtain rfl | rfl := hnests <;> rfl

theorem depthOfEntry_unknownOperator {name : String} (hkey : Key.classify key = .operator name)
    (hname : Operator.ofName? name = none) : depthOfEntry key payload = 0 := by
  rw [depthOfEntry.eq_def]
  simp only [hkey, hname]

theorem depthOfEntry_malformed {operator : Operator} {fault : PayloadFault}
    (hkey : Key.classify key = .operator operator.name)
    (hfault : operator.payloadFault? payload = some fault) : depthOfEntry key payload = 0 := by
  rw [depthOfEntry.eq_def]
  simp only [hkey, Operator.ofName?_name]
  cases operator with
  | and | or =>
      cases payload with
      | array items =>
          rw [Operator.payloadFault?] at hfault
          split at hfault
          · cases hfault
          · rename_i hclauses
            exact if_neg hclauses
      | _ => rfl
  | not => cases payload <;> first | rfl | cases hfault
  | elemMatch => cases payload <;> first | rfl | cases hfault
  | _ => rfl

theorem depthOfEntry_membership {wanted : Bool}
    (hkey : Key.classify key = .operator (if wanted then Operator.isIn else .notIn).name) :
    depthOfEntry key payload = 0 := by
  rw [depthOfEntry.eq_def]
  simp only [hkey, Operator.ofName?_name]
  cases wanted <;> rfl

theorem depthOfEntry_leaf (hleaf : payload.isPrimitive = true) : depthOfEntry key payload = 0 := by
  rw [depthOfEntry.eq_def]
  cases payload with
  | array items => cases hleaf
  | document entries => cases hleaf
  | _ =>
      cases Key.classify key with
      | field field => rfl
      | operator name =>
          dsimp only
          cases Operator.ofName? name with
          | none => rfl
          | some operator => cases operator <;> rfl

end

/-! ### Where a walk comes to nodes -/

namespace Visit

variable {κ : Type}

/-- The nodes among visits lie at each of the first `extent` depths below `depth`, except where this
is further than one below the limit, and nowhere else. -/
def Spans (visits : List (Visit κ)) (depth extent : Nat) : Prop :=
  ∀ n, node n ∈ visits ↔ depth < n ∧ n ≤ depth + extent ∧ n ≤ maxDepth + 1

namespace Spans

variable {left right keys : List (Visit κ)} {depth extent other : Nat}

theorem nil (depth : Nat) : Spans ([] : List (Visit κ)) depth 0 := by
  intro n
  refine iff_of_false List.not_mem_nil ?_
  omega

theorem key (k : κ) (path : String) (h : Spans right depth extent) :
    Spans (.key k path :: right) depth extent := by
  intro n
  rw [List.mem_cons, ← h n]
  exact or_iff_right nofun

theorem append (hleft : Spans left depth extent) (hright : Spans right depth other) :
    Spans (left ++ right) depth (max extent other) := by
  intro n
  rw [List.mem_append, hleft n, hright n]
  omega

/-- A node adds its own depth; its keys are visited unless it is the first to lie too deep. -/
theorem enter (hdepth : depth ≤ maxDepth)
    (h : depth + 1 ≤ maxDepth → Spans keys (depth + 1) extent) :
    Spans (enter (depth + 1) keys) depth (extent + 1) := by
  intro n
  rw [Visit.enter, List.mem_cons, node.injEq]
  split
  · rename_i hentered
    rw [h hentered n]
    omega
  · simp only [List.not_mem_nil, or_false]
    omega

end Spans

end Visit

private theorem spans_ofNode_of_children {value : Value}
    (h : ∀ child ∈ value.children, ∀ key path depth, depth ≤ maxDepth →
      Visit.Spans ((Condition.read (key, child)).visits path depth) depth (depthOfEntry key child))
    (path : String) (depth : Nat) (hdepth : depth ≤ maxDepth) :
    Visit.Spans ((Query.ofNode value).visits path depth) depth (depthOfNode value + 1) := by
  rw [Query.ofNode, Query.visits, depthOfNode]
  refine .enter hdepth ?_
  intro hentered
  have hentries : ∀ entry ∈ value.nodeEntries, entry.2 ∈ value.children :=
    fun entry hmem => Value.mem_children_of_mem_nodeEntries hmem
  generalize value.nodeEntries = entries at hentries
  induction entries with
  | nil => exact .nil _
  | cons entry rest ih =>
      obtain ⟨hentry, hrest⟩ := List.forall_mem_cons.1 hentries
      exact (h entry.2 hentry entry.1 path (depth + 1) hentered).append (ih hrest)

private theorem spans_clauses {items : List Value}
    (h : ∀ item ∈ items, ∀ path depth, depth ≤ maxDepth →
      Visit.Spans ((Query.ofNode item).visits path depth) depth (depthOfNode item + 1))
    (index : Nat) (path : String) {depth : Nat} (hdepth : depth ≤ maxDepth) :
    Visit.Spans (visitsOfQueries index (items.map Query.ofNode) path depth) depth
      ((items.map fun item => depthOfNode item + 1).foldr max 0) := by
  induction items generalizing index with
  | nil => exact .nil depth
  | cons item rest ih =>
      obtain ⟨hitem, hrest⟩ := List.forall_mem_cons.1 h
      exact (hitem _ depth hdepth).append (ih hrest (index + 1))

private theorem spans_ofEntry_of_nodes {payload : Value}
    (hpayload : ∀ path depth, depth ≤ maxDepth →
      Visit.Spans ((Query.ofNode payload).visits path depth) depth (depthOfNode payload + 1))
    (hchildren : ∀ child ∈ payload.children, ∀ path depth, depth ≤ maxDepth →
      Visit.Spans ((Query.ofNode child).visits path depth) depth (depthOfNode child + 1))
    (key path : String) (depth : Nat) (hdepth : depth ≤ maxDepth) :
    Visit.Spans ((Condition.read (key, payload)).visits path depth) depth
      (depthOfEntry key payload) := by
  rw [Condition.visits.eq_def]
  refine .key _ path ?_
  obtain ⟨condition, hcondition, hread⟩ := exists_reading key payload
  rw [hcondition]
  cases hread with
  | leaf hkey hleaf =>
      rw [depthOfEntry_leaf hleaf]
      exact .nil depth
  | node hkey hnode =>
      rw [depthOfEntry_node hkey hnode]
      exact hpayload _ depth hdepth
  | unknownOperator hkey hname =>
      rw [depthOfEntry_unknownOperator hkey hname]
      exact .nil depth
  | malformed hkey hfault =>
      rw [depthOfEntry_malformed hkey hfault]
      exact .nil depth
  | clauses hkey hclauses =>
      rw [depthOfEntry_clauses hkey hclauses]
      exact spans_clauses hchildren 0 _ hdepth
  | negation hkey =>
      rw [depthOfEntry_nested hkey (.inl rfl)]
      exact hpayload _ depth hdepth
  | element hkey =>
      rw [depthOfEntry_nested hkey (.inr rfl)]
      exact hpayload _ depth hdepth
  | test hkey hleaf =>
      rw [depthOfEntry_leaf hleaf]
      exact .nil depth
  | membership hkey hleaves =>
      rw [depthOfEntry_membership hkey]
      exact .nil depth

/-- A walk through a query comes to nodes at every depth down to the query's own, but to none below
the first that lies too deep. -/
theorem node_mem_visits_iff {query : Document} {depth : Nat} :
    .node depth ∈ (Query.ofDocument query).visits "" 0 ↔
      0 < depth ∧ depth ≤ queryDepth query ∧ depth ≤ maxDepth + 1 := by
  -- a node spans one depth more than what lies below it, so nodes are related to payloads in turn
  have hspans : Visit.Spans ((Query.ofNode (.document query)).visits "" 0) 0 _ :=
    (Value.queryInduction (fun _ => spans_ofNode_of_children) (fun _ => spans_ofEntry_of_nodes)
      (.document query)).2 "" 0 (Nat.zero_le maxDepth)
  rw [Query.ofNode_document] at hspans
  rw [queryDepth, depthOfEntries_eq]
  exact (hspans depth).trans (by rw [Nat.zero_add])

/-! ### Depths that are refused -/

/-- Only a node can lie too deep. -/
theorem rejection?_ne_depthExceeded (condition : Condition) (path : String) (depth limit : Nat) :
    condition.rejection? path ≠ some (.depthExceeded depth limit) := by
  cases condition with
  | malformed operator fault => cases fault <;> exact nofun
  | _ => exact nofun

/-- A query deeper than the limit has a node that lies one too deep, and no other. -/
theorem depthExceeded_mem_rejections_iff {query : Document} {depth limit : Nat} :
    .depthExceeded depth limit ∈ rejections query ↔
      maxDepth < queryDepth query ∧ depth = maxDepth + 1 ∧ limit = maxDepth := by
  rw [rejections_eq, List.mem_filterMap]
  constructor
  · rintro ⟨visit, hvisit, hrejection⟩
    cases visit with
    | key condition path =>
        exact absurd hrejection (rejection?_ne_depthExceeded condition path depth limit)
    | node n =>
        obtain ⟨hdeep, heq⟩ := Option.ite_none_right_eq_some.1 hrejection
        obtain ⟨rfl, rfl⟩ := Rejection.depthExceeded.inj (Option.some.inj heq)
        obtain ⟨-, hquery, hlimit⟩ := node_mem_visits_iff.1 hvisit
        omega
  · rintro ⟨hdeep, rfl, rfl⟩
    refine ⟨.node (maxDepth + 1), node_mem_visits_iff.2 (by omega), ?_⟩
    rw [Visit.rejection?, if_pos (Nat.lt_succ_self maxDepth)]

theorem depthExceeded_mem_rejections_of_explain {query : Document} {value : Value}
    {depth limit : Nat} (h : explain query value = .error (.depthExceeded depth limit)) :
    .depthExceeded depth limit ∈ rejections query := by
  obtain hmem | ⟨-, path, heq⟩ := explain_error h
  · exact hmem
  · cases heq

theorem Query.validate_of_maxDepth_le {p : Position} (h : maxDepth ≤ p.depth) (query : Query) :
    query.validate p = .reject (.depthExceeded (p.depth + 1) maxDepth) := by
  cases query with
  | all conditions =>
      have hdeep : maxDepth < p.descend.depth := Nat.lt_succ_of_le h
      rw [Query.validate, Position.enter, if_pos hdeep]
      rfl

theorem Query.evaluate_of_maxDepth_le {p : Position} (h : maxDepth ≤ p.depth) (query : Query)
    (value : Value) :
    query.evaluate value p = .reject (.depthExceeded (p.depth + 1) maxDepth) := by
  cases query with
  | all conditions =>
      have hdeep : maxDepth < p.descend.depth := Nat.lt_succ_of_le h
      rw [Query.evaluate, Position.enter, if_pos hdeep]
      rfl

/-- Checking and evaluating count the same depth, and count it right: a query of at most a hundred
nodes one inside the other is never too deep, a deeper one does not pass its check, and the node
that is refused is always the first below the hundredth, which neither goes into. -/
theorem depth_limit_exact (query : Document) :
    (queryDepth query ≤ 100 → ∀ depth limit,
        validate query ≠ .error (.depthExceeded depth limit) ∧
          ∀ value, explain query value ≠ .error (.depthExceeded depth limit)) ∧
      (100 < queryDepth query → ∃ rejection, validate query = .error rejection) ∧
      (∀ depth limit,
        (validate query = .error (.depthExceeded depth limit) ∨
          ∃ value, explain query value = .error (.depthExceeded depth limit)) →
        depth = 101 ∧ limit = 100) ∧
      ∀ (node : Query) (p : Position), 100 ≤ p.depth →
        node.validate p = .reject (.depthExceeded (p.depth + 1) 100) ∧
          ∀ value, node.evaluate value p = .reject (.depthExceeded (p.depth + 1) 100) := by
  refine ⟨?_, ?_, ?_, ?_⟩
  · intro hshallow depth limit
    have hnone : .depthExceeded depth limit ∉ rejections query :=
      fun hmem => Nat.not_lt.2 hshallow (depthExceeded_mem_rejections_iff.1 hmem).1
    exact ⟨fun h => hnone (mem_rejections_of_validate h),
      fun value h => hnone (depthExceeded_mem_rejections_of_explain h)⟩
  · intro hdeep
    have hmem : .depthExceeded (maxDepth + 1) maxDepth ∈ rejections query :=
      depthExceeded_mem_rejections_iff.2 ⟨hdeep, rfl, rfl⟩
    cases houtcome : validate query with
    | error rejection => exact ⟨rejection, rfl⟩
    | ok =>
        rw [validate_eq_ok_iff.1 houtcome] at hmem
        cases hmem
  · rintro depth limit (h | ⟨value, h⟩)
    · exact (depthExceeded_mem_rejections_iff.1 (mem_rejections_of_validate h)).2
    · exact (depthExceeded_mem_rejections_iff.1 (depthExceeded_mem_rejections_of_explain h)).2
  · intro node p hdepth
    exact ⟨node.validate_of_maxDepth_le hdepth, node.evaluate_of_maxDepth_le hdepth⟩

/-- A query inside five more nodes: a clause, a list, its element, a negation and a query for
elements. -/
def inFiveNodes (query : Document) : Document :=
  [("$and", .array [.document
    [("a.b", .array [.document [("$not", .document [("$elemMatch", .document query)])]])]])]

/-- The deepest query that is not refused, and one that nests a node more. -/
theorem depth_limit_exact_nested :
    (queryDepth (Nat.repeat inFiveNodes 19
        [("a", .array [.document [("b", .document [("c", .document [])])]])]) = 100 ∧
      ∀ depth limit,
        validate (Nat.repeat inFiveNodes 19
            [("a", .array [.document [("b", .document [("c", .document [])])]])]) ≠
          .error (.depthExceeded depth limit) ∧
        ∀ value, explain (Nat.repeat inFiveNodes 19
            [("a", .array [.document [("b", .document [("c", .document [])])]])]) value ≠
          .error (.depthExceeded depth limit)) ∧
      (queryDepth (Nat.repeat inFiveNodes 20 []) = 101 ∧
        ∃ rejection, validate (Nat.repeat inFiveNodes 20 []) = .error rejection) ∧
      (∃ depth limit,
        validate (Nat.repeat inFiveNodes 20 []) = .error (.depthExceeded depth limit) ∧
          depth = 101 ∧ limit = 100) ∧
      (Query.all []).evaluate .null { Position.root with depth := 100 } =
        .reject (.depthExceeded 101 100) := by
  have hshallow : queryDepth (Nat.repeat inFiveNodes 19
      [("a", .array [.document [("b", .document [("c", .document [])])]])]) = 100 := by
    decide +kernel
  have hdeep : queryDepth (Nat.repeat inFiveNodes 20 []) = 101 := by decide +kernel
  have hrefused : validate (Nat.repeat inFiveNodes 20 []) = .error (.depthExceeded 101 100) := by
    decide +kernel
  obtain ⟨-, hfails, hexact, hstops⟩ := depth_limit_exact (Nat.repeat inFiveNodes 20 [])
  refine ⟨⟨hshallow, (depth_limit_exact _).1 (Nat.le_of_eq hshallow)⟩,
    ⟨hdeep, hfails (by rw [hdeep]; decide)⟩,
    ⟨101, 100, hrefused, hexact 101 100 (.inl hrefused)⟩, ?_⟩
  exact (hstops (.all []) { Position.root with depth := 100 } (Nat.le_refl 100)).2 .null

end Verdict
