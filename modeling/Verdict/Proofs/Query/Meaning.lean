import Mathlib.Data.List.Basic
import Verdict.Matcher
import Verdict.Proofs.Query.Outcome
import Verdict.Proofs.Query.Reading

/-!
# What a query means

`queryHolds` is the meaning of a query document without its evaluation: whether the query holds of a
value, by recursion on the document alone. It knows no places, no reasons and no rejections, and
leaves no key, clause or element out. The verdict of an evaluation that ends well is this meaning
(`means_ofNode`), wherever the evaluation started and whatever it passed over.
-/

namespace Verdict

/-- The values that a candidate is compared with: the elements of an array, or the value itself. -/
def Value.elements : Value → List Value
  | array items => items
  | value => [value]

mutual

/-- A key with its payload holds of a value. What the evaluation rejects counts as false. -/
def entryHolds (key : String) (payload value : Value) : Bool :=
  match Key.classify key with
  | .field field =>
    let holds : Value → Bool :=
      match payload with
      | .document entries => entriesHold entries
      | .array items => itemsHold 0 items
      | leaf => fun found => found.satisfies leaf
    match field with
    | .plain name => (value.get? name).any holds
    | .dotted path => holds ((value.resolve? path).getD .undefined)
  | .operator name =>
    match Operator.ofName? name, payload with
    | some .and, .array clauses => clausesHold clauses value
    | some .or, .array clauses => someClauseHolds clauses value
    | some .not, .document entries => !entriesHold entries value
    | some .not, leaf => !value.satisfies leaf
    | some .eq, operand => value.satisfies operand
    | some .ne, operand => !value.satisfies operand
    | some (.compare comparison), bound => comparison.holds value bound
    | some .isIn, .array candidates =>
      value.elements.any fun element => candidates.any element.satisfies
    | some .notIn, .array candidates =>
      !value.elements.any fun element => candidates.any element.satisfies
    | some .elemMatch, .document entries =>
      match value with
      | .array items => items.any fun item => entriesHold entries item
      | _ => false
    | _, _ => false
termination_by structural payload

def entriesHold : List (String × Value) → Value → Bool
  | [], _ => true
  | (key, payload) :: rest, value => entryHolds key payload value && entriesHold rest value
termination_by structural entries => entries

/-- An array holds of a value if each of its elements holds of what the value has in its place. -/
def itemsHold (index : Nat) : List Value → Value → Bool
  | [], _ => true
  | payload :: rest, value =>
    entryHolds (toString index) payload value && itemsHold (index + 1) rest value
termination_by structural items => items

def clausesHold : List Value → Value → Bool
  | [], _ => true
  | .document entries :: rest, value => entriesHold entries value && clausesHold rest value
  | _ :: _, _ => false
termination_by structural clauses => clauses

def someClauseHolds : List Value → Value → Bool
  | .document entries :: rest, value => entriesHold entries value || someClauseHolds rest value
  | _, _ => false
termination_by structural clauses => clauses

end

/-- A query document holds of a value. -/
def queryHolds (query : Document) (value : Value) : Bool := entriesHold query value

/-- A value holds of another as a node of a query. -/
def nodeHolds (node value : Value) : Bool :=
  node.nodeEntries.all fun entry => entryHolds entry.1 entry.2 value

theorem entriesHold_eq (entries : List (String × Value)) (value : Value) :
    entriesHold entries value = nodeHolds (.document entries) value := by
  induction entries with
  | nil => rfl
  | cons entry rest ih => exact congrArg (_ && ·) ih

theorem itemsHold_eq (items : List Value) (value : Value) :
    itemsHold 0 items value = nodeHolds (.array items) value := by
  rw [nodeHolds, Value.nodeEntries, List.all_map]
  generalize 0 = index
  induction items generalizing index with
  | nil => rfl
  | cons item rest ih => exact congrArg (_ && ·) (ih (index + 1))

theorem clausesHold_eq {clauses : List Value} (h : ∀ clause ∈ clauses, clause.isDocument = true)
    (value : Value) :
    clausesHold clauses value = clauses.all fun clause => nodeHolds clause value := by
  induction clauses with
  | nil => rfl
  | cons clause rest ih =>
      cases clause with
      | document entries =>
          have hrest := fun other hmem => h other (List.mem_cons_of_mem _ hmem)
          rw [clausesHold, List.all_cons, entriesHold_eq, ih hrest]
      | _ => cases h _ List.mem_cons_self

theorem someClauseHolds_eq {clauses : List Value} (h : ∀ clause ∈ clauses, clause.isDocument = true)
    (value : Value) :
    someClauseHolds clauses value = clauses.any fun clause => nodeHolds clause value := by
  induction clauses with
  | nil => rfl
  | cons clause rest ih =>
      cases clause with
      | document entries =>
          have hrest := fun other hmem => h other (List.mem_cons_of_mem _ hmem)
          rw [someClauseHolds, List.any_cons, entriesHold_eq, ih hrest]
      | _ => cases h _ List.mem_cons_self

/-- A value is among the candidates if one of its elements satisfies one of them. -/
theorem Value.isAmong_eq (value : Value) (candidates : List Value) :
    value.isAmong candidates =
      value.elements.any fun element => candidates.any element.satisfies := by
  rw [Bool.eq_iff_iff]
  cases value <;>
    simp only [isAmong, elements, List.any_eq_true, List.mem_singleton, exists_eq_left]
  constructor
  · rintro ⟨candidate, hcandidate, item, hitem, h⟩
    exact ⟨item, hitem, candidate, hcandidate, h⟩
  · rintro ⟨item, hitem, candidate, hcandidate, h⟩
    exact ⟨candidate, hcandidate, item, hitem, h⟩

/-! ### The verdict of an evaluation -/

namespace Explanation

theorem matched_all (parts : List Explanation) : (all parts).matched = parts.all (·.matched) := by
  cases h : parts.all (·.matched) <;> simp [all, h]

theorem matched_any (parts : List Explanation) : (any parts).matched = parts.any (·.matched) := by
  cases h : parts.any (·.matched) <;> simp [any, h]

end Explanation

/-- The verdict on a field is the verdict on the value that it finds, and false if it finds none. -/
theorem entryHolds_node {key : String} {field : Field} {payload : Value}
    (hkey : Key.classify key = .field field) (hnode : payload.isPrimitive = false)
    (value : Value) :
    entryHolds key payload value = (field.value? value).any (nodeHolds payload) := by
  rw [entryHolds.eq_def, hkey]
  have hholds : ∀ entries, entriesHold entries = nodeHolds (.document entries) :=
    fun entries => funext (entriesHold_eq entries)
  have hitems : ∀ items, itemsHold 0 items = nodeHolds (.array items) :=
    fun items => funext (itemsHold_eq items)
  cases payload with
  | array items => cases field <;> simp only [hitems, Field.value?, Option.any_some]
  | document entries => cases field <;> simp only [hholds, Field.value?, Option.any_some]
  | _ => cases hnode

theorem entryHolds_leaf {key : String} {field : Field} {expected : Value}
    (hkey : Key.classify key = .field field) (hleaf : expected.isPrimitive = true)
    (value : Value) :
    entryHolds key expected value =
      (field.value? value).any fun found => found.satisfies expected := by
  rw [entryHolds.eq_def, hkey]
  cases expected with
  | array items => cases hleaf
  | document entries => cases hleaf
  | _ => cases field <;> rfl

/-- The verdicts of a query, from any place on, are those of a function. -/
def Query.Means (query : Query) (holds : Value → Bool) : Prop :=
  ∀ value p, (query.evaluate value p).Ensures fun explanation => explanation.matched = holds value

def Condition.Means (condition : Condition) (holds : Value → Bool) : Prop :=
  ∀ value p, (condition.evaluate value p).Ensures fun explanation =>
    explanation.matched = holds value

private theorem all_matched_of_evaluateConditions {entries : List (String × Value)}
    (h : ∀ entry ∈ entries, (Condition.read entry).Means (entryHolds entry.1 entry.2))
    {value : Value} {p : Position} {parts : List Explanation}
    (hok : (evaluateConditions (entries.map Condition.read) value p).outcome = .ok parts) :
    parts.all (·.matched) = entries.all fun entry => entryHolds entry.1 entry.2 value := by
  induction entries generalizing parts with
  | nil =>
      obtain rfl := Except.ok.inj hok
      rfl
  | cons entry rest ih =>
      obtain ⟨part, others, hpart, hothers, rfl⟩ := outcome_evaluateConditions_cons_ok.1 hok
      rw [List.all_cons, List.all_cons, h entry List.mem_cons_self value p part hpart,
        ih (fun other hmem => h other (List.mem_cons_of_mem entry hmem)) hothers]

/-- The verdict on a node is the conjunction of the verdicts on its keys. -/
private theorem means_ofNode_of_children {node : Value}
    (h : ∀ child ∈ node.children, ∀ key, (Condition.read (key, child)).Means (entryHolds key child)) :
    (Query.ofNode node).Means (nodeHolds node) := by
  intro value p explanation hok
  rw [Query.ofNode, Query.outcome_evaluate] at hok
  split at hok
  · split at hok
    · rename_i hempty
      obtain rfl := Except.ok.inj hok
      rw [nodeHolds, List.map_eq_nil_iff.1 hempty]
      rfl
    · obtain ⟨parts, hparts, rfl⟩ := map_eq_ok.1 hok
      rw [Explanation.matched_all, nodeHolds]
      exact all_matched_of_evaluateConditions
        (fun entry hmem => h entry.2 (Value.mem_children_of_mem_nodeEntries hmem) entry.1) hparts
  · cases hok

/-- The verdict on all clauses, none passed over. -/
def Junction.join : Junction → List Bool → Bool
  | and, verdicts => verdicts.all id
  | or, verdicts => verdicts.any id

/-- A clause that decides makes the clauses after it irrelevant, and any other clause is itself
irrelevant. -/
theorem Junction.join_cons (junction : Junction) (first : Bool) (rest : List Bool) :
    junction.join (first :: rest) =
      if first = (junction == .or) then first else junction.join rest := by
  cases junction <;> cases first <;> rfl

private theorem matched_of_evaluateClauses {clauses : List Value}
    (h : ∀ clause ∈ clauses, (Query.ofNode clause).Means (nodeHolds clause))
    {junction : Junction} {value : Value} {p : Position} {index : Nat} {explanation : Explanation}
    (hok : (evaluateClauses junction (clauses.map Query.ofNode) value p index).outcome =
      .ok explanation) :
    explanation.matched = junction.join (clauses.map fun clause => nodeHolds clause value) := by
  induction clauses generalizing index explanation with
  | nil =>
      obtain rfl := Except.ok.inj hok
      cases junction <;> rfl
  | cons clause rest ih =>
      obtain ⟨first, hfirst, hdecided⟩ := outcome_evaluateClauses_cons_ok.1 hok
      rw [List.map_cons, Junction.join_cons, ← h clause List.mem_cons_self value _ first hfirst]
      obtain ⟨hdecides, rfl⟩ | ⟨hundecided, others, hothers, rfl⟩ := hdecided
      · rw [if_pos hdecides]
      · -- whether or not a later clause decides, the verdict is that of the later clauses
        rw [if_neg hundecided,
          ← ih (fun other hmem => h other (List.mem_cons_of_mem clause hmem)) hothers]
        split <;> rfl

/-- The verdict on elements is their disjunction. -/
private theorem any_matched_of_each {items : List Value} {run : Value × Nat → Trial Explanation}
    {holds : Value → Bool}
    (h : ∀ place, (run place).Ensures fun explanation => explanation.matched = holds place.1)
    {index : Nat} {parts : List Explanation}
    (hok : (Trial.each run (items.zipIdx index)).outcome = .ok parts) :
    parts.any (·.matched) = items.any holds := by
  induction items generalizing index parts with
  | nil =>
      obtain rfl := Except.ok.inj hok
      rfl
  | cons item rest ih =>
      obtain ⟨part, others, hpart, hothers, rfl⟩ := Trial.outcome_each_cons_ok.1 hok
      rw [List.any_cons, List.any_cons, h _ part hpart, ih hothers]

private theorem means_ofEntry_of_nodes {payload : Value}
    (hpayload : (Query.ofNode payload).Means (nodeHolds payload))
    (hchildren : ∀ child ∈ payload.children, (Query.ofNode child).Means (nodeHolds child))
    (key : String) : (Condition.read (key, payload)).Means (entryHolds key payload) := by
  intro value p explanation hok
  obtain ⟨condition, hcondition, hread⟩ := exists_reading key payload
  rw [hcondition] at hok
  cases hread with
  | leaf hkey hleaf =>
      rw [Condition.outcome_evaluate_leaf] at hok
      rw [entryHolds_leaf hkey hleaf]
      split at hok
      all_goals
        rename_i hfound
        obtain rfl := Except.ok.inj hok
        rw [hfound]
        rfl
  | node hkey hnode =>
      rw [Condition.outcome_evaluate_node] at hok
      rw [entryHolds_node hkey hnode]
      split at hok
      · rename_i found hfound
        rw [hfound]
        exact hpayload found _ _ hok
      · rename_i hfound
        obtain rfl := Except.ok.inj hok
        rw [hfound]
        rfl
  | unknownOperator hkey hname =>
      rw [Condition.outcome_evaluate_unknownOperator] at hok
      cases hok
  | malformed hkey hfault =>
      rw [Condition.outcome_evaluate_malformed] at hok
      cases hok
  | @clauses junction items hkey hclauses =>
      rw [Condition.outcome_evaluate_clauses] at hok
      rw [matched_of_evaluateClauses hchildren hok, entryHolds.eq_def]
      simp only [hkey, Operator.ofName?_name]
      cases junction with
      | and => exact (List.all_map ..).trans (clausesHold_eq hclauses value).symm
      | or => exact (List.any_map ..).trans (someClauseHolds_eq hclauses value).symm
  | negation hkey =>
      rw [Condition.outcome_evaluate_negation] at hok
      obtain ⟨inner, hinner, rfl⟩ := map_eq_ok.1 hok
      rw [entryHolds.eq_def]
      simp only [hkey, Operator.ofName?_name, entriesHold_eq]
      exact congrArg not (hpayload value _ inner hinner)
  | @test leafTest _ hkey hleaf =>
      rw [Condition.outcome_evaluate_test] at hok
      obtain rfl := Except.ok.inj hok
      rw [entryHolds.eq_def]
      simp only [hkey, Operator.ofName?_name]
      cases leafTest with
      | not =>
          -- only here does the payload decide whether a leaf or a query is negated
          cases payload with
          | document entries => cases hleaf
          | _ => rfl
      | _ => rfl
  | @membership wanted candidates hkey hleaves =>
      rw [Condition.outcome_evaluate_membership] at hok
      obtain rfl := Except.ok.inj hok
      rw [entryHolds.eq_def, hkey, Position.explain]
      simp only [Operator.ofName?_name, Value.isAmong_eq]
      cases wanted with
      | true => exact beq_true _
      | false => exact beq_false _
  | @element entries hkey =>
      rw [entryHolds.eq_def]
      simp only [hkey, Operator.ofName?_name]
      by_cases harray : ∃ items, value = .array items
      · obtain ⟨_ | ⟨item, items⟩, rfl⟩ := harray
        · rw [Condition.outcome_evaluate_element_nil] at hok
          obtain rfl := Except.ok.inj hok
          rfl
        · rw [Condition.outcome_evaluate_element_cons] at hok
          obtain ⟨parts, hparts, rfl⟩ := map_eq_ok.1 hok
          rw [Explanation.matched_any]
          refine any_matched_of_each (fun place explanation hplace => ?_) hparts
          rw [entriesHold_eq]
          exact hpayload place.1 _ explanation hplace
      · rw [Condition.outcome_evaluate_element_of_not_array p _ (not_exists.1 harray)] at hok
        cases hok

/-- A query that is read off a node means what the node means. -/
theorem means_ofNode (node : Value) : (Query.ofNode node).Means (nodeHolds node) := by
  have hboth := Value.queryInduction (fun _ => means_ofNode_of_children)
    (fun _ => means_ofEntry_of_nodes) node
  exact hboth.2

/-- The verdict of an evaluation is the meaning of the query. -/
theorem matched_eq_queryHolds {query : Document} {value : Value} {p : Position}
    {explanation : Explanation} (hok : (evaluateFrom query value p).outcome = .ok explanation) :
    explanation.matched = queryHolds query value := by
  rw [evaluateFrom, Query.ofDocument, ← Query.ofNode_document] at hok
  have hmatched := means_ofNode (.document query) value p explanation hok
  rw [hmatched, queryHolds, entriesHold_eq]

/-- The second element of an array that is reached by a path holds by the second of two clauses. -/
theorem matched_eq_queryHolds_element :
    (evaluateFrom
        [("a.b", .document [("$elemMatch",
          .document [("$or", .array [.document [("$eq", .null)], .document [("c", .null)]])])])]
        (.document [("a", .document [("b", .array [.bool true, .document [("c", .null)]])])])
        ⟨"x", "q", 3⟩).outcome =
      .ok ⟨true, [⟨"x.a.b.[1].c", "q.\"a.b\".$elemMatch.$or.[1].c", .equal⟩]⟩ ∧
    queryHolds
        [("a.b", .document [("$elemMatch",
          .document [("$or", .array [.document [("$eq", .null)], .document [("c", .null)]])])])]
        (.document [("a", .document [("b", .array [.bool true, .document [("c", .null)]])])]) =
      true := by
  refine ⟨?hok, (matched_eq_queryHolds ?hok).symm⟩
  decide

/-! ### The verdict of an outcome -/

/-- The verdict of an outcome, if it is no rejection. -/
def verdictOf? : Except Rejection Explanation → Option Bool
  | .ok explanation => some explanation.matched
  | .error _ => none

/-- The verdict of a query on a value, if it is not rejected. -/
def verdict? (query : Document) (value : Value) : Option Bool := verdictOf? (explain query value)

theorem verdict?_of_ok {query : Document} {value : Value} {explanation : Explanation}
    (h : explain query value = .ok explanation) :
    verdict? query value = some explanation.matched := by
  rw [verdict?, h, verdictOf?]

theorem verdict?_isSome_iff {query : Document} {value : Value} :
    (verdict? query value).isSome ↔ ∃ explanation, explain query value = .ok explanation := by
  rw [verdict?]
  cases explain query value <;> simp [verdictOf?]

end Verdict
