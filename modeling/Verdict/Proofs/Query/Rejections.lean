import Mathlib.Data.List.Basic
import Verdict.Proofs.Query.Outcome
import Verdict.Proofs.Query.Walk

/-!
# The rejections of a query

`rejections` lists all that is wrong with a query document, by itself. Checking the query finds the
first of these rejections (`validate_eq_firstOf`), and an evaluation ends with one of them or for
want of an array (`explain_error`), whatever clauses, keys and elements it comes to.
-/

namespace Verdict

namespace Visit

variable {κ : Type}

/-- What is wrong at a visit, if anything is: a node may lie too deep, and a key may be at fault. -/
def rejection? (ofKey : κ → String → Option Rejection) : Visit κ → Option Rejection
  | node depth => if maxDepth < depth then some (.depthExceeded depth maxDepth) else none
  | key k path => ofKey k path

theorem filterMap_enter_of_lt {ofKey : κ → String → Option Rejection} {depth : Nat}
    (h : depth < maxDepth) (keys : List (Visit κ)) :
    (enter (depth + 1) keys).filterMap (rejection? ofKey) = keys.filterMap (rejection? ofKey) := by
  rw [enter, if_pos (Nat.succ_le_of_lt h)]
  exact List.filterMap_cons_none (if_neg (Nat.not_lt.2 (Nat.succ_le_of_lt h)))

theorem filterMap_enter_of_not_lt {ofKey : κ → String → Option Rejection} {depth : Nat}
    (h : ¬ depth < maxDepth) (keys : List (Visit κ)) :
    (enter (depth + 1) keys).filterMap (rejection? ofKey) =
      [.depthExceeded (depth + 1) maxDepth] := by
  rw [enter, if_neg (mt Nat.lt_of_succ_le h)]
  exact List.filterMap_cons_some (if_pos (Nat.lt_succ_of_le (Nat.le_of_not_lt h)))

end Visit

/-- What is wrong with a key and its payload in a node at a path. -/
def entryRejection? (entry : String × Value) (path : String) : Option Rejection :=
  match Key.classify entry.1 with
  | .field _ => none
  | .operator name =>
    match Operator.ofName? name with
    | none => some (.invalidOperator name (Path.join path name))
    | some operator =>
      (operator.payloadFault? entry.2).map (·.rejection operator (Path.join path name))

/-- All that is wrong with a query document, in the order of its keys. -/
def rejections (query : Document) : List Rejection :=
  (visits query).filterMap (Visit.rejection? entryRejection?)

/-! ### Conditions and documents -/

def Condition.rejection? : Condition → String → Option Rejection
  | unknownOperator name, path => some (.invalidOperator name (Path.join path name))
  | malformed operator fault, path => some (fault.rejection operator (Path.join path operator.name))
  | _, _ => none

/-- What is wrong with a key is what is wrong with the condition it is read as. -/
theorem rejection?_read (entry : String × Value) (path : String) :
    (Condition.read entry).rejection? path = entryRejection? entry path := by
  obtain ⟨key, payload⟩ := entry
  obtain ⟨condition, hcondition, hread⟩ := exists_reading key payload
  rw [hcondition, entryRejection?]
  cases hread with
  | leaf hkey hleaf => simp only [hkey, Condition.rejection?]
  | node hkey hnode => simp only [hkey, Condition.rejection?]
  | unknownOperator hkey hname => simp only [hkey, hname, Condition.rejection?]
  | malformed hkey hfault =>
      simp only [hkey, Operator.ofName?_name, hfault, Condition.rejection?, Option.map_some]
  | @clauses junction items hkey hclauses =>
      simp only [hkey, Operator.ofName?_name, Operator.payloadFault?_clauses junction hclauses,
        Condition.rejection?, Option.map_none]
  | negation hkey =>
      simp only [hkey, Operator.ofName?_name, Operator.payloadFault?, Condition.rejection?,
        Option.map_none]
  | @test leafTest _ hkey hleaf =>
      simp only [hkey, Operator.ofName?_name, Operator.payloadFault?_test leafTest hleaf,
        Condition.rejection?, Option.map_none]
  | @membership wanted _ hkey hleaves =>
      simp only [hkey, Operator.ofName?_name, Operator.payloadFault?_membership wanted hleaves,
        Condition.rejection?, Option.map_none]
  | element hkey =>
      simp only [hkey, Operator.ofName?_name, Operator.payloadFault?, Condition.rejection?,
        Option.map_none]

theorem Visit.rejection?_map_read (visit : Visit (String × Value)) :
    (visit.map Condition.read).rejection? Condition.rejection? =
      visit.rejection? entryRejection? := by
  cases visit with
  | node depth => rfl
  | key entry path => exact rejection?_read entry path

theorem rejections_eq (query : Document) :
    rejections query =
      ((Query.ofDocument query).visits "" 0).filterMap
        (Visit.rejection? Condition.rejection?) := by
  rw [visits_ofDocument, List.filterMap_map, rejections]
  exact List.filterMap_congr fun visit _ => (Visit.rejection?_map_read visit).symm

/-! ### Checking -/

/-- The outcome of a check that has found these rejections. -/
def firstOf : List Rejection → Except Rejection Unit
  | [] => .ok ()
  | rejection :: _ => .error rejection

theorem outcome_bind_eq_firstOf {first next : Trial Unit} {left right : List Rejection}
    (hfirst : first.outcome = firstOf left) (hnext : next.outcome = firstOf right) :
    (do first; next).outcome = firstOf (left ++ right) := by
  cases left with
  | nil => rw [Trial.outcome_bind_of_ok hfirst, hnext, List.nil_append]
  | cons rejection rest => rw [Trial.outcome_bind_of_error hfirst, List.cons_append, firstOf]

mutual

theorem Query.outcome_validate (query : Query) (p : Position) :
    (query.validate p).outcome =
      firstOf ((query.visits p.queryPath p.depth).filterMap
        (Visit.rejection? Condition.rejection?)) := by
  match query with
  | .all conditions =>
      rw [Query.validate, Query.visits]
      by_cases hdepth : p.depth < maxDepth
      · rw [Trial.outcome_bind_of_ok (by rw [Position.outcome_enter, if_pos hdepth]),
          outcome_validateConditions conditions p.descend, Visit.filterMap_enter_of_lt hdepth]
        rfl
      · rw [Trial.outcome_bind_of_error (by rw [Position.outcome_enter, if_neg hdepth]),
          Visit.filterMap_enter_of_not_lt hdepth]
        rfl
termination_by structural query

theorem outcome_validateConditions (conditions : List Condition) (p : Position) :
    (validateConditions conditions p).outcome =
      firstOf ((visitsOfConditions conditions p.queryPath p.depth).filterMap
        (Visit.rejection? Condition.rejection?)) := by
  match conditions with
  | [] => rfl
  | condition :: rest =>
      rw [validateConditions, visitsOfConditions, List.filterMap_append]
      exact outcome_bind_eq_firstOf (Condition.outcome_validate condition p)
        (outcome_validateConditions rest p)
termination_by structural conditions

theorem Condition.outcome_validate (condition : Condition) (p : Position) :
    (condition.validate p).outcome =
      firstOf ((condition.visits p.queryPath p.depth).filterMap
        (Visit.rejection? Condition.rejection?)) := by
  match condition with
  | .unknownOperator name => rfl
  | .malformed operator fault =>
      rw [Condition.validate]
      -- the journal has no word of a malformed negation, but the outcome is the same
      by_cases hnot : operator = .not
      · rw [if_pos hnot]
        rfl
      · rw [if_neg hnot]
        rfl
  | .leaf field expected => rfl
  | .test leafTest operand => rfl
  | .membership wanted candidates => rfl
  | .node field query => exact Query.outcome_validate query (p.extend field.property field.query)
  | .clauses junction queries =>
      exact outcome_validateClauses queries (p.withQuery junction.operator.name) 0
  | .negation query => exact Query.outcome_validate query (p.withQuery Operator.not.name)
  | .element query => exact Query.outcome_validate query (p.withQuery Operator.elemMatch.name)
termination_by structural condition

theorem outcome_validateClauses (queries : List Query) (p : Position) (index : Nat) :
    (validateClauses queries p index).outcome =
      firstOf ((visitsOfQueries index queries p.queryPath p.depth).filterMap
        (Visit.rejection? Condition.rejection?)) := by
  match queries with
  | [] => rfl
  | query :: rest =>
      rw [validateClauses, visitsOfQueries, List.filterMap_append]
      have hfirst := Query.outcome_validate query (p.withQuery (Path.element index))
      exact outcome_bind_eq_firstOf hfirst (outcome_validateClauses rest p (index + 1))
termination_by structural queries

end

/-! ### Evaluating -/

/-- An evaluation that comes to this visit can end there with this rejection. -/
def Visit.Raises (visit : Visit Condition) (rejection : Rejection) : Prop :=
  visit.rejection? Condition.rejection? = some rejection ∨
    ∃ query path propertyPath, visit = .key (.element query) path ∧
      rejection = .notAnArray .elemMatch propertyPath

def RaisedIn (visits : List (Visit Condition)) (rejection : Rejection) : Prop :=
  ∃ visit ∈ visits, visit.Raises rejection

namespace RaisedIn

variable {left right : List (Visit Condition)} {rejection : Rejection}

theorem cons (visit : Visit Condition) (h : RaisedIn right rejection) :
    RaisedIn (visit :: right) rejection :=
  h.imp fun _ ⟨hmem, hraises⟩ => ⟨List.mem_cons_of_mem visit hmem, hraises⟩

theorem append_left (right : List (Visit Condition)) (h : RaisedIn left rejection) :
    RaisedIn (left ++ right) rejection :=
  h.imp fun _ ⟨hmem, hraises⟩ => ⟨List.mem_append_left right hmem, hraises⟩

theorem append_right (left : List (Visit Condition)) (h : RaisedIn right rejection) :
    RaisedIn (left ++ right) rejection :=
  h.imp fun _ ⟨hmem, hraises⟩ => ⟨List.mem_append_right left hmem, hraises⟩

end RaisedIn

mutual

theorem Query.raisedIn (query : Query) {value : Value} {p : Position} {rejection : Rejection}
    (h : (query.evaluate value p).outcome = .error rejection) :
    RaisedIn (query.visits p.queryPath p.depth) rejection := by
  match query with
  | .all conditions =>
      rw [Query.outcome_evaluate] at h
      rw [Query.visits, Visit.enter]
      by_cases hdepth : p.depth < maxDepth
      · rw [if_pos hdepth] at h
        split at h
        · cases h
        · rw [map_eq_error, evaluateConditions_eq_each] at h
          obtain ⟨condition, hmem, hcondition⟩ := Trial.exists_of_each_error h
          rw [if_pos (Nat.succ_le_of_lt hdepth)]
          exact (raisedIn_of_mem conditions condition hmem hcondition).cons _
      · rw [if_neg hdepth] at h
        obtain rfl := Except.error.inj h
        have hdeep : maxDepth < p.depth + 1 := by omega
        exact ⟨_, List.mem_cons_self, .inl (if_pos hdeep)⟩
termination_by structural query

theorem raisedIn_of_mem (conditions : List Condition) {value : Value} {p : Position}
    {rejection : Rejection} (condition : Condition) (hmem : condition ∈ conditions)
    (h : (condition.evaluate value p).outcome = .error rejection) :
    RaisedIn (visitsOfConditions conditions p.queryPath p.depth) rejection := by
  match conditions with
  | [] => cases hmem
  | first :: rest =>
      rw [visitsOfConditions]
      obtain hfirst | hrest := List.mem_cons.1 hmem
      · rw [hfirst] at h
        exact (first.raisedIn h).append_left _
      · exact (raisedIn_of_mem rest condition hrest h).append_right _
termination_by structural conditions

theorem Condition.raisedIn (condition : Condition) {value : Value} {p : Position}
    {rejection : Rejection} (h : (condition.evaluate value p).outcome = .error rejection) :
    RaisedIn (condition.visits p.queryPath p.depth) rejection := by
  match condition with
  | .unknownOperator name =>
      rw [Condition.outcome_evaluate_unknownOperator] at h
      obtain rfl := Except.error.inj h
      exact ⟨_, List.mem_cons_self, .inl rfl⟩
  | .malformed operator fault =>
      rw [Condition.outcome_evaluate_malformed] at h
      obtain rfl := Except.error.inj h
      exact ⟨_, List.mem_cons_self, .inl rfl⟩
  | .leaf field expected =>
      rw [Condition.outcome_evaluate_leaf] at h
      split at h <;> cases h
  | .test leafTest operand =>
      rw [Condition.outcome_evaluate_test] at h
      cases h
  | .membership wanted candidates =>
      rw [Condition.outcome_evaluate_membership] at h
      cases h
  | .node field query =>
      rw [Condition.outcome_evaluate_node] at h
      split at h
      · exact (query.raisedIn h).cons _
      · cases h
  | .clauses junction queries =>
      rw [Condition.outcome_evaluate_clauses] at h
      exact (raisedIn_clauses queries h).cons _
  | .negation query =>
      rw [Condition.outcome_evaluate_negation, map_eq_error] at h
      exact (query.raisedIn h).cons _
  | .element query =>
      by_cases harray : ∃ items, value = .array items
      · obtain ⟨_ | ⟨item, items⟩, rfl⟩ := harray
        · rw [Condition.outcome_evaluate_element_nil] at h
          cases h
        · rw [Condition.outcome_evaluate_element_cons, map_eq_error] at h
          -- the walk comes to the query once, whichever element it is rejected at
          obtain ⟨place, -, hplace⟩ := Trial.exists_of_each_error h
          exact (query.raisedIn hplace).cons _
      · rw [Condition.outcome_evaluate_element_of_not_array p query (not_exists.1 harray)] at h
        obtain rfl := Except.error.inj h
        exact ⟨_, List.mem_cons_self, .inr ⟨query, _, _, rfl, rfl⟩⟩
termination_by structural condition

theorem raisedIn_clauses (queries : List Query) {junction : Junction} {value : Value} {p : Position}
    {index : Nat} {rejection : Rejection}
    (h : (evaluateClauses junction queries value p index).outcome = .error rejection) :
    RaisedIn (visitsOfQueries index queries p.queryPath p.depth) rejection := by
  match queries with
  | [] => cases h
  | query :: rest =>
      rw [visitsOfQueries]
      obtain hfirst | hrest := outcome_evaluateClauses_cons_error h
      · exact (query.raisedIn hfirst).append_left _
      · exact (raisedIn_clauses rest hrest).append_right _
termination_by structural queries

end

/-! ### Documents -/

/-- Checking finds the first rejection. -/
theorem validate_eq_firstOf (query : Document) : validate query = firstOf (rejections query) := by
  rw [rejections_eq]
  exact Query.outcome_validate (Query.ofDocument query) .root

/-- A rejection that ends an evaluation is one of the query's, or it is for want of an array of
elements. -/
theorem explain_error {query : Document} {value : Value} {rejection : Rejection}
    (h : explain query value = .error rejection) :
    rejection ∈ rejections query ∨
      Operator.elemMatch.name ∈ operatorNames query ∧
        ∃ path, rejection = .notAnArray .elemMatch path := by
  obtain ⟨visit, hvisit, hraises⟩ := Query.raisedIn (Query.ofDocument query) h
  obtain hrejection | ⟨sub, path, propertyPath, rfl, rfl⟩ := hraises
  · left
    rw [rejections_eq]
    exact List.mem_filterMap.2 ⟨visit, hvisit, hrejection⟩
  · right
    change _ ∈ (Query.ofDocument query).visits "" 0 at hvisit
    rw [visits_ofDocument] at hvisit
    obtain ⟨visit, hvisit, heq⟩ := List.mem_map.1 hvisit
    cases visit with
    | node depth => cases heq
    | key entry entryPath =>
        have hkey := operator_of_read_eq_element (Visit.key.inj heq).1
        refine ⟨List.mem_filterMap.2 ⟨_, hvisit, ?_⟩, propertyPath, rfl⟩
        simp only [hkey]

theorem validate_eq_ok_iff {query : Document} :
    validate query = .ok () ↔ rejections query = [] := by
  rw [validate_eq_firstOf]
  cases rejections query with
  | nil => exact iff_of_true rfl rfl
  | cons first rest => exact iff_of_false (fun h => nomatch h) (List.cons_ne_nil first rest)

theorem mem_rejections_of_validate {query : Document} {rejection : Rejection}
    (h : validate query = .error rejection) : rejection ∈ rejections query := by
  rw [validate_eq_firstOf] at h
  cases hrejections : rejections query with
  | nil => rw [hrejections] at h; cases h
  | cons first rest =>
      rw [hrejections] at h
      obtain rfl := Except.error.inj h
      exact List.mem_cons_self

/-- A query that passes its check is rejected by no evaluation, except for want of an array where it
asks for elements. -/
theorem explain_of_validate_eq_ok {query : Document} (h : validate query = .ok ()) (value : Value) :
    ((∃ explanation, explain query value = .ok explanation) ∨
        ∃ operator path, explain query value = .error (.notAnArray operator path)) ∧
      ("$elemMatch" ∉ operatorNames query →
        ∃ explanation, explain query value = .ok explanation) := by
  have hnone := validate_eq_ok_iff.1 h
  cases houtcome : explain query value with
  | ok explanation => exact ⟨.inl ⟨explanation, rfl⟩, fun _ => ⟨explanation, rfl⟩⟩
  | error rejection =>
      obtain hmem | ⟨hname, path, rfl⟩ := explain_error houtcome
      · rw [hnone] at hmem
        cases hmem
      · refine ⟨.inr ⟨_, path, rfl⟩, ?_⟩
        intro hnot
        exact absurd hname hnot

theorem explain_of_validate_eq_ok_nested :
    validate
        [("$or", .array
          [.document [("a.b", .array [.null])], .document [("$not", .document [("c", .null)])]])] =
      .ok () ∧
    "$elemMatch" ∉ operatorNames
        [("$or", .array
          [.document [("a.b", .array [.null])], .document [("$not", .document [("c", .null)])]])] ∧
    ∃ explanation, explain
        [("$or", .array
          [.document [("a.b", .array [.null])], .document [("$not", .document [("c", .null)])]])]
        (.array [.null]) = .ok explanation :=
  ⟨by decide, by decide, (explain_of_validate_eq_ok (by decide) _).2 (by decide)⟩

/-- Checking reports the first of the rejections, and an evaluation that is not rejected for want of
an array is rejected with one of them. -/
theorem validate_and_explain_reject_alike (query : Document) :
    (validate query = .ok () ↔ rejections query = []) ∧
      (∀ first rest, rejections query = first :: rest → validate query = .error first) ∧
      ∀ value rejection, explain query value = .error rejection →
        (∀ operator path, rejection ≠ .notAnArray operator path) →
        rejection ∈ rejections query := by
  refine ⟨validate_eq_ok_iff, ?_, ?_⟩
  · intro first rest hfirst
    rw [validate_eq_firstOf, hfirst, firstOf]
  · intro value rejection herror harray
    obtain hmem | ⟨-, path, rfl⟩ := explain_error herror
    · exact hmem
    · exact absurd rfl (harray .elemMatch path)

/-- A missing entry hides the first rejection from the evaluation, which comes to the second. -/
theorem validate_and_explain_reject_alike_missing :
    rejections [("a", .document [("$bogus", .null)]), ("$gt", .array [])] =
      [.invalidOperator "$bogus" "a.$bogus",
        .invalidPayload (.compare .greater) .primitive "$gt"] ∧
    validate [("a", .document [("$bogus", .null)]), ("$gt", .array [])] =
      .error (.invalidOperator "$bogus" "a.$bogus") ∧
    explain [("a", .document [("$bogus", .null)]), ("$gt", .array [])] .null =
      .error (.invalidPayload (.compare .greater) .primitive "$gt") ∧
    .invalidPayload (.compare .greater) .primitive "$gt" ∈
      rejections [("a", .document [("$bogus", .null)]), ("$gt", .array [])] := by
  obtain ⟨-, hfirst, hamong⟩ :=
    validate_and_explain_reject_alike [("a", .document [("$bogus", .null)]), ("$gt", .array [])]
  refine ⟨by decide, hfirst _ [.invalidPayload (.compare .greater) .primitive "$gt"] (by decide),
    by decide, hamong .null _ (by decide) ?_⟩
  intro operator path h
  cases h

end Verdict
