import Verdict.Query.Validation
import Verdict.Proofs.Trial

/-!
# What comes of evaluating and checking a query

One equation for every kind of condition: what comes of it, by what comes of its parts. The journal
and the dispatch of operators are done with here, so proofs about verdicts, reasons and rejections
rewrite with these equations and do not open `Condition.evaluate` or `Condition.validate`
themselves.
-/

namespace Verdict

namespace Position

theorem outcome_enter (p : Position) :
    p.enter.outcome =
      if p.depth < maxDepth then .ok p.descend
      else .error (.depthExceeded (p.depth + 1) maxDepth) := by
  by_cases h : p.depth < maxDepth
  · have hdepth : ¬ maxDepth < p.descend.depth := Nat.not_lt.2 h
    rw [enter, if_neg hdepth, if_pos h]
    rfl
  · have hdeep : maxDepth < p.descend.depth := Nat.lt_succ_of_le (Nat.le_of_not_lt h)
    rw [enter, if_pos hdeep, if_neg h]
    rfl

end Position

theorem Condition.outcome_dispatch {condition : Condition} {operator : Operator}
    (h : condition.operator? = some operator) (p : Position) :
    (condition.dispatch p).outcome = .ok (p.withQuery operator.name) := by
  rw [dispatch, h]
  rfl

/-! ### Evaluating -/

section Evaluation

variable (value : Value) (p : Position)

theorem Query.outcome_evaluate (conditions : List Condition) :
    ((Query.all conditions).evaluate value p).outcome =
      if p.depth < maxDepth then
        if conditions = [] then .ok (p.descend.explain .hasNoKeys true)
        else (evaluateConditions conditions value p.descend).outcome.map .all
      else .error (.depthExceeded (p.depth + 1) maxDepth) := by
  rw [Query.evaluate]
  by_cases hdepth : p.depth < maxDepth
  · rw [Trial.outcome_bind_of_ok (by rw [Position.outcome_enter, if_pos hdepth]), if_pos hdepth]
    cases conditions with
    | nil => rfl
    | cons first rest => exact Trial.outcome_bind_pure _ _
  · rw [Trial.outcome_bind_of_error (by rw [Position.outcome_enter, if_neg hdepth]), if_neg hdepth]

theorem evaluateConditions_eq_each (conditions : List Condition) :
    evaluateConditions conditions value p =
      Trial.each (fun condition => condition.evaluate value p) conditions := by
  induction conditions with
  | nil => rw [evaluateConditions, Trial.each]
  | cons condition rest ih => rw [evaluateConditions, Trial.each, ih]

/-- What a single check says is what it says together with no others. -/
theorem Explanation.all_singleton (e : Explanation) : all [e] = e := by
  obtain ⟨matched, reasons⟩ := e
  cases matched <;> simp [all]

/-- What comes of a node with a single key is what comes of the key. -/
theorem Query.outcome_evaluate_singleton (condition : Condition) :
    ((Query.all [condition]).evaluate value p).outcome =
      if p.depth < maxDepth then (condition.evaluate value p.descend).outcome
      else .error (.depthExceeded (p.depth + 1) maxDepth) := by
  rw [Query.outcome_evaluate, if_neg (List.cons_ne_nil condition []),
    evaluateConditions_eq_each, Trial.each]
  cases h : (condition.evaluate value p.descend).outcome with
  | ok part =>
      rw [Trial.outcome_bind_of_ok h]
      exact congrArg (fun e => ite _ (Except.ok e) _) part.all_singleton
  | error rejection =>
      rw [Trial.outcome_bind_of_error h]
      rfl

namespace Condition

-- the equations of an evaluation are needed in every case below and worked out once, here
attribute [local simp] evaluate

theorem outcome_evaluate_unknownOperator (name : String) :
    ((unknownOperator name).evaluate value p).outcome =
      .error (.invalidOperator name (Path.join p.queryPath name)) := rfl

theorem outcome_evaluate_malformed (operator : Operator) (fault : PayloadFault) :
    ((malformed operator fault).evaluate value p).outcome =
      .error (fault.rejection operator (Path.join p.queryPath operator.name)) := by
  rw [evaluate, Trial.outcome_bind_of_ok (outcome_dispatch rfl p)]
  rfl

theorem outcome_evaluate_leaf (field : Field) (expected : Value) :
    ((leaf field expected).evaluate value p).outcome =
      match field.value? value with
      | some found =>
        .ok ((p.extend field.property field.query).explain .equal (found.satisfies expected))
      | none => .ok ((p.extend field.property field.query).explain .hasNoPath false) := by
  rw [evaluate]
  cases field.value? value <;> rfl

theorem outcome_evaluate_node (field : Field) (query : Query) :
    ((node field query).evaluate value p).outcome =
      match field.value? value with
      | some found => (query.evaluate found (p.extend field.property field.query)).outcome
      | none => .ok ((p.extend field.property field.query).explain .hasNoPath false) := by
  rw [evaluate]
  cases field.value? value <;> rfl

theorem outcome_evaluate_clauses (junction : Junction) (queries : List Query) :
    ((clauses junction queries).evaluate value p).outcome =
      (evaluateClauses junction queries value (p.withQuery junction.operator.name) 0).outcome := by
  rw [evaluate, Trial.outcome_bind_of_ok (outcome_dispatch rfl p)]

theorem outcome_evaluate_negation (query : Query) :
    ((negation query).evaluate value p).outcome =
      (query.evaluate value (p.withQuery Operator.not.name)).outcome.map Explanation.invert := by
  rw [evaluate, Trial.outcome_bind_of_ok (outcome_dispatch rfl p)]
  exact Trial.outcome_bind_pure _ _

theorem outcome_evaluate_test (leafTest : LeafTest) (operand : Value) :
    ((test leafTest operand).evaluate value p).outcome =
      .ok ((p.withQuery leafTest.operator.name).explain leafTest.kind
        (leafTest.holds value operand)) := by
  rw [evaluate, Trial.outcome_bind_of_ok (outcome_dispatch rfl p)]
  rfl

theorem outcome_evaluate_membership (wanted : Bool) (candidates : List Value) :
    ((membership wanted candidates).evaluate value p).outcome =
      .ok ((p.withQuery (if wanted then Operator.isIn else .notIn).name).explain
        (if wanted then .inSet else .notInSet) (value.isAmong candidates == wanted)) := by
  rw [evaluate, Trial.outcome_bind_of_ok (outcome_dispatch rfl p)]
  rfl

theorem outcome_evaluate_element_nil (query : Query) :
    ((element query).evaluate (.array []) p).outcome =
      .ok ((p.withQuery Operator.elemMatch.name).explain .elementMatch false) := by
  rw [evaluate, Trial.outcome_bind_of_ok (outcome_dispatch rfl p)]
  rfl

theorem outcome_evaluate_element_cons (query : Query) (item : Value) (items : List Value) :
    ((element query).evaluate (.array (item :: items)) p).outcome =
      (Trial.each (fun place => query.evaluate place.1
          ((p.withQuery Operator.elemMatch.name).withProperty (Path.element place.2)))
        (item :: items).zipIdx).outcome.map .any := by
  rw [evaluate, Trial.outcome_bind_of_ok (outcome_dispatch rfl p)]
  exact Trial.outcome_bind_pure _ _

theorem outcome_evaluate_element_of_not_array (query : Query) {value : Value}
    (h : ∀ items, value ≠ .array items) :
    ((element query).evaluate value p).outcome =
      .error (.notAnArray .elemMatch p.propertyPath) := by
  rw [evaluate, Trial.outcome_bind_of_ok (outcome_dispatch rfl p)]
  cases value with
  | array items => exact absurd rfl (h items)
  | _ => rfl

end Condition

theorem outcome_evaluateConditions_cons_ok {condition : Condition} {rest : List Condition}
    {value : Value} {p : Position} {parts : List Explanation} :
    (evaluateConditions (condition :: rest) value p).outcome = .ok parts ↔
      ∃ part others, (condition.evaluate value p).outcome = .ok part ∧
        (evaluateConditions rest value p).outcome = .ok others ∧ parts = part :: others := by
  rw [evaluateConditions_eq_each, evaluateConditions_eq_each]
  exact Trial.outcome_each_cons_ok

/-- Clauses end well with the first explanation that decides, or with the reasons of all of them. -/
theorem outcome_evaluateClauses_cons_ok {junction : Junction} {query : Query} {rest : List Query}
    {value : Value} {p : Position} {index : Nat} {explanation : Explanation} :
    (evaluateClauses junction (query :: rest) value p index).outcome = .ok explanation ↔
      ∃ first, (query.evaluate value (p.withQuery (Path.element index))).outcome = .ok first ∧
        (first.matched = (junction == .or) ∧ explanation = first ∨
          first.matched ≠ (junction == .or) ∧
            ∃ others, (evaluateClauses junction rest value p (index + 1)).outcome = .ok others ∧
              explanation = if others.matched = (junction == .or) then others
                else ⟨others.matched, first.reasons ++ others.reasons⟩) := by
  rw [evaluateClauses, Trial.outcome_bind_ok]
  refine exists_congr fun first => and_congr_right fun _ => ?_
  by_cases hfirst : first.matched = (junction == .or)
  · simp [hfirst, eq_comm]
  · simp only [beq_iff_eq, hfirst, if_false, false_and, false_or, ne_eq, not_false_eq_true,
      true_and, Trial.outcome_bind_ok]
    refine exists_congr fun others => and_congr_right fun _ => ?_
    split <;> simp [eq_comm]

theorem outcome_evaluateClauses_cons_error {junction : Junction} {query : Query} {rest : List Query}
    {value : Value} {p : Position} {index : Nat} {rejection : Rejection}
    (h : (evaluateClauses junction (query :: rest) value p index).outcome = .error rejection) :
    (query.evaluate value (p.withQuery (Path.element index))).outcome = .error rejection ∨
      (evaluateClauses junction rest value p (index + 1)).outcome = .error rejection := by
  rw [evaluateClauses, Trial.outcome_bind_error] at h
  refine h.imp_right fun ⟨first, _, hrest⟩ => ?_
  split at hrest
  · cases hrest
  · rw [Trial.outcome_bind_error] at hrest
    obtain hothers | ⟨others, -, hnone⟩ := hrest
    · exact hothers
    · split at hnone <;> cases hnone

end Evaluation

end Verdict
