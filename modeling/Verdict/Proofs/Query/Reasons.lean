import Verdict.Proofs.Query.Keys
import Verdict.Proofs.Query.Outcome
import Verdict.Proofs.Query.Relocation

/-!
# The reasons of a verdict

Two facts about the reasons of any evaluation that ends well. They lie below the place where it
started (`Query.ensures_below`), and there is one at least, unless the query has `$and` or `$or`
without clauses (`Query.ensures_reasons`).
-/

namespace Verdict

/-! ### Where reasons lie -/

/-- The property path of a reason goes on from that of the place of the evaluation. -/
theorem Query.ensures_below (query : Query) (value : Value) (p : Position) :
    (query.evaluate value p).Ensures fun explanation =>
      ∀ reason ∈ explanation.reasons, ∃ rest,
        reason.propertyPath = Path.join p.propertyPath rest := by
  intro explanation hok reason hreason
  have hroot : Position.under ⟨"", "", p.depth⟩ p = p := by
    simp only [Position.under, Path.join_empty_right]
  have hunder := query.evaluate_under p value ⟨"", "", p.depth⟩
  rw [hroot] at hunder
  rw [hunder, Trial.relocate] at hok
  dsimp only at hok
  split at hok
  · obtain rfl := Except.ok.inj hok
    obtain ⟨inner, -, rfl⟩ := List.mem_map.1 hreason
    exact ⟨inner.propertyPath, rfl⟩
  · cases hok

/-! ### That there are reasons -/

theorem Explanation.flatMap_reasons_ne_nil {parts : List Explanation} (hparts : parts ≠ [])
    (h : ∀ part ∈ parts, part.reasons ≠ []) : parts.flatMap (·.reasons) ≠ [] := by
  obtain ⟨first, rest, rfl⟩ := List.exists_cons_of_ne_nil hparts
  rw [List.flatMap_cons]
  exact List.append_ne_nil_of_left_ne_nil (h first List.mem_cons_self) _

/-- The parts that decide a verdict are some of the parts, and there are such parts. -/
theorem Explanation.filter_flatMap_reasons_ne_nil {parts : List Explanation}
    {decides : Explanation → Bool} (hany : parts.any decides = true)
    (h : ∀ part ∈ parts, part.reasons ≠ []) : (parts.filter decides).flatMap (·.reasons) ≠ [] := by
  obtain ⟨part, hpart, hdecides⟩ := List.any_eq_true.1 hany
  apply flatMap_reasons_ne_nil
  · exact List.ne_nil_of_mem (List.mem_filter.2 ⟨hpart, hdecides⟩)
  · intro other hother
    exact h other (List.mem_filter.1 hother).1

theorem Explanation.all_reasons_ne_nil {parts : List Explanation} (hparts : parts ≠ [])
    (h : ∀ part ∈ parts, part.reasons ≠ []) : (all parts).reasons ≠ [] := by
  rw [all]
  split
  · exact flatMap_reasons_ne_nil hparts h
  · rename_i hall
    rw [Bool.not_eq_true, ← Bool.not_eq_true', List.not_all_eq_any_not] at hall
    exact filter_flatMap_reasons_ne_nil hall h

theorem Explanation.any_reasons_ne_nil {parts : List Explanation} (hparts : parts ≠ [])
    (h : ∀ part ∈ parts, part.reasons ≠ []) : (any parts).reasons ≠ [] := by
  rw [any]
  split
  · rename_i hany
    exact filter_flatMap_reasons_ne_nil hany h
  · exact flatMap_reasons_ne_nil hparts h

/-- Clauses that a condition has are not empty. -/
def Condition.HasClauses (condition : Condition) : Prop :=
  ∀ junction, condition ≠ .clauses junction []

mutual

theorem Query.ensures_reasons (query : Query) (value : Value) (p : Position)
    (h : ∀ condition ∈ Visit.keys (query.visits p.queryPath p.depth), condition.HasClauses) :
    (query.evaluate value p).Ensures fun explanation => explanation.reasons ≠ [] := by
  intro explanation hok
  match query with
  | .all conditions =>
      rw [Query.outcome_evaluate] at hok
      split at hok
      · rename_i hdepth
        split at hok
        · obtain rfl := Except.ok.inj hok
          exact List.cons_ne_nil _ _
        · rename_i hconditions
          rw [Query.visits, Visit.keys_enter_of_lt hdepth] at h
          obtain ⟨parts, hparts, rfl⟩ := map_eq_ok.1 hok
          obtain ⟨hlength, hall⟩ := ensures_reasons_conditions conditions value p.descend h parts hparts
          refine Explanation.all_reasons_ne_nil ?_ hall
          rintro rfl
          exact hconditions (List.eq_nil_of_length_eq_zero hlength.symm)
      · cases hok
termination_by structural query

theorem ensures_reasons_conditions (conditions : List Condition) (value : Value) (p : Position)
    (h : ∀ condition ∈ Visit.keys (visitsOfConditions conditions p.queryPath p.depth),
      condition.HasClauses) :
    (evaluateConditions conditions value p).Ensures fun parts =>
      parts.length = conditions.length ∧ ∀ part ∈ parts, part.reasons ≠ [] := by
  intro parts hok
  match conditions with
  | [] =>
      obtain rfl := Except.ok.inj hok
      exact ⟨rfl, fun _ hmem => nomatch hmem⟩
  | condition :: rest =>
      rw [visitsOfConditions, Visit.keys_append] at h
      obtain ⟨part, others, hpart, hothers, rfl⟩ := outcome_evaluateConditions_cons_ok.1 hok
      have hfirst := condition.ensures_reasons value p
        (fun c hc => h c (List.mem_append_left _ hc)) part hpart
      obtain ⟨hlength, hrest⟩ := ensures_reasons_conditions rest value p
        (fun c hc => h c (List.mem_append_right _ hc)) others hothers
      refine ⟨?_, List.forall_mem_cons.2 ⟨hfirst, hrest⟩⟩
      rw [List.length_cons, List.length_cons, hlength]
termination_by structural conditions

theorem Condition.ensures_reasons (condition : Condition) (value : Value) (p : Position)
    (h : ∀ c ∈ Visit.keys (condition.visits p.queryPath p.depth), c.HasClauses) :
    (condition.evaluate value p).Ensures fun explanation => explanation.reasons ≠ [] := by
  intro explanation hok
  match condition with
  | .unknownOperator name =>
      rw [Condition.outcome_evaluate_unknownOperator] at hok
      cases hok
  | .malformed operator fault =>
      rw [Condition.outcome_evaluate_malformed] at hok
      cases hok
  | .leaf field expected =>
      rw [Condition.outcome_evaluate_leaf] at hok
      split at hok <;> obtain rfl := Except.ok.inj hok <;> exact List.cons_ne_nil _ _
  | .test leafTest operand =>
      rw [Condition.outcome_evaluate_test] at hok
      obtain rfl := Except.ok.inj hok
      exact List.cons_ne_nil _ _
  | .membership wanted candidates =>
      rw [Condition.outcome_evaluate_membership] at hok
      obtain rfl := Except.ok.inj hok
      exact List.cons_ne_nil _ _
  | .node field query =>
      rw [Condition.visits, Visit.keys_key_cons] at h
      rw [Condition.outcome_evaluate_node] at hok
      split at hok
      · rename_i found hfound
        exact query.ensures_reasons found _ (List.forall_mem_cons.1 h).2 explanation hok
      · obtain rfl := Except.ok.inj hok
        exact List.cons_ne_nil _ _
  | .clauses junction queries =>
      rw [Condition.visits, Visit.keys_key_cons] at h
      obtain ⟨hclauses, hqueries⟩ := List.forall_mem_cons.1 h
      rw [Condition.outcome_evaluate_clauses] at hok
      refine ensures_reasons_clauses queries junction value _ 0 hqueries explanation hok (.inr ?_)
      rintro rfl
      exact hclauses junction rfl
  | .negation query =>
      rw [Condition.visits, Visit.keys_key_cons] at h
      rw [Condition.outcome_evaluate_negation] at hok
      obtain ⟨inner, hinner, rfl⟩ := map_eq_ok.1 hok
      exact query.ensures_reasons value _ (List.forall_mem_cons.1 h).2 inner hinner
  | .element query =>
      rw [Condition.visits, Visit.keys_key_cons] at h
      by_cases harray : ∃ items, value = .array items
      · obtain ⟨_ | ⟨item, items⟩, rfl⟩ := harray
        · rw [Condition.outcome_evaluate_element_nil] at hok
          obtain rfl := Except.ok.inj hok
          exact List.cons_ne_nil _ _
        · rw [Condition.outcome_evaluate_element_cons] at hok
          obtain ⟨parts, hparts, rfl⟩ := map_eq_ok.1 hok
          refine Explanation.any_reasons_ne_nil ?_ ?_
          · obtain ⟨_, _, -, -, rfl⟩ := Trial.outcome_each_cons_ok.1 hparts
            exact List.cons_ne_nil _ _
          · refine Trial.ensures_each (fun place => ?_) _ parts hparts
            exact query.ensures_reasons place.1 _ (List.forall_mem_cons.1 h).2
      · rw [Condition.outcome_evaluate_element_of_not_array p query (not_exists.1 harray)] at hok
        cases hok
termination_by structural condition

/-- The verdict that no clause decides has reasons as soon as there are clauses. -/
theorem ensures_reasons_clauses (queries : List Query) (junction : Junction) (value : Value)
    (p : Position) (index : Nat)
    (h : ∀ condition ∈ Visit.keys (visitsOfQueries index queries p.queryPath p.depth),
      condition.HasClauses) :
    (evaluateClauses junction queries value p index).Ensures fun explanation =>
      explanation.matched = (junction == .or) ∨ queries ≠ [] → explanation.reasons ≠ [] := by
  intro explanation hok hdecided
  match queries with
  | [] =>
      obtain rfl := Except.ok.inj hok
      cases junction <;> simp at hdecided
  | query :: rest =>
      rw [visitsOfQueries, Visit.keys_append] at h
      obtain ⟨first, hfirst, hcases⟩ := outcome_evaluateClauses_cons_ok.1 hok
      have hreasons := query.ensures_reasons value (p.withQuery (Path.element index))
        (fun c hc => h c (List.mem_append_left _ hc)) first hfirst
      obtain ⟨-, rfl⟩ | ⟨-, others, hothers, rfl⟩ := hcases
      · exact hreasons
      · split
        · rename_i hdecides
          exact ensures_reasons_clauses rest junction value p (index + 1)
            (fun c hc => h c (List.mem_append_right _ hc)) others hothers (.inl hdecides)
        · exact List.append_ne_nil_of_left_ne_nil hreasons _
termination_by structural queries

end

end Verdict
