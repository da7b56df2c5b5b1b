import Mathlib.Data.List.Flatten
import Verdict.Matcher
import Verdict.Proofs.Query.Outcome
import Verdict.Proofs.Query.Polarity

/-!
# The checks that a query makes

`queryProbes` lists the checks that a query asks for on a document, each with its place and with the
value that it is made on. The list passes over no clause, key or element and knows no verdict, so it
does not depend on the order in which an evaluation goes and where it stops. The reasons that an
evaluation gives are those of such checks, in their order, and each check came out as it does on the
value that is listed with it (`Query.findings_foundBy`). A value that is rejected for not being an
array is one that a check asked to be an array (`Query.asksForArray`). So what holds of all checks
holds of every reason.
-/

namespace Verdict

/-- What is asked of a value. -/
inductive Check where
  /-- nothing -/
  | noKeys
  /-- that there is one -/
  | presence
  /-- that it is an array; if it is none, that is a rejection and no reason -/
  | array
  /-- that it has an element -/
  | element
  | test (leafTest : LeafTest) (operand : Value)
  | membership (wanted : Bool) (candidates : List Value)

def Check.kind? : Check → Option ReasonKind
  | noKeys => some .hasNoKeys
  | presence => some .hasNoPath
  | array => none
  | element => some .elementMatch
  | test leafTest _ => some leafTest.kind
  | membership wanted _ => some (if wanted then .inSet else .notInSet)

/-- What comes of a check on a value, or on none. -/
def Check.holds : Check → Option Value → Bool
  | noKeys, _ => true
  | presence, tested => tested.isSome
  | array, tested => tested.any fun
    | .array _ => true
    | _ => false
  | element, tested => tested.any fun
    | .array items => !items.isEmpty
    | _ => false
  | test leafTest operand, tested => tested.any (leafTest.holds · operand)
  | membership wanted candidates, tested => tested.any (·.isAmong candidates == wanted)

/-- A check at a place in the document and in the query, with the value that it is made on; there
may be none. -/
structure Probe where
  propertyPath : String
  queryPath : String
  check : Check
  tested : Option Value

def Position.probe (p : Position) (check : Check) (tested : Option Value) : Probe :=
  ⟨p.propertyPath, p.queryPath, check, tested⟩

mutual

/-- The checks that a node asks for on a value. A node that lies too deep asks for none. -/
def Query.probes : Query → Value → Position → List Probe
  | .all conditions, value, p =>
    if p.depth < maxDepth then
      if conditions.isEmpty then [p.descend.probe .noKeys value]
      else probesOfConditions conditions value p.descend
    else []
termination_by structural query => query

def probesOfConditions : List Condition → Value → Position → List Probe
  | [], _, _ => []
  | condition :: rest, value, p => condition.probes value p ++ probesOfConditions rest value p
termination_by structural conditions => conditions

def Condition.probes : Condition → Value → Position → List Probe
  | .unknownOperator _, _, _ | .malformed _ _, _, _ => []
  | .leaf field expected, value, p =>
    let p := p.extend field.property field.query
    match field.value? value with
    | some found => [p.probe (.test .eq expected) found]
    | none => [p.probe .presence none]
  | .node field query, value, p =>
    let p := p.extend field.property field.query
    match field.value? value with
    | some found => query.probes found p
    | none => [p.probe .presence none]
  | .clauses junction queries, value, p =>
    probesOfClauses queries value (p.withQuery junction.operator.name) 0
  | .negation query, value, p => query.probes value (p.withQuery Operator.not.name)
  | .test leafTest operand, value, p =>
    [(p.withQuery leafTest.operator.name).probe (.test leafTest operand) value]
  | .membership wanted candidates, value, p =>
    [(p.withQuery (if wanted then Operator.isIn else .notIn).name).probe
      (.membership wanted candidates) value]
  | .element query, value, p =>
    let p := p.withQuery Operator.elemMatch.name
    p.probe .array value ::
      match value with
      | .array [] => [p.probe .element value]
      | .array items =>
        items.zipIdx.flatMap fun place =>
          query.probes place.1 (p.withProperty (Path.element place.2))
      | _ => []
termination_by structural condition => condition

def probesOfClauses : List Query → Value → Position → Nat → List Probe
  | [], _, _, _ => []
  | query :: rest, value, p, index =>
    query.probes value (p.withQuery (Path.element index)) ++ probesOfClauses rest value p (index + 1)
termination_by structural queries => queries

end

/-- The checks that a query document asks for on a document. -/
def queryProbes (query : Document) (value : Value) : List Probe :=
  (Query.ofDocument query).probes value .root

/-! ### Findings come from checks -/

/-- The reason that a check gives, with the outcome of the check. -/
def Probe.finding? (probe : Probe) : Option (Reason × Bool) :=
  probe.check.kind?.map fun kind =>
    (⟨probe.propertyPath, probe.queryPath, kind⟩, probe.check.holds probe.tested)

/-- The findings of a judgment are among those of checks, in order: reason by reason, what came of a
check is what comes of it on the value that it is made on. -/
def FoundBy (findings : List Finding) (probes : List Probe) : Prop :=
  (findings.map fun finding => (finding.reason, finding.held)).Sublist
    (probes.filterMap Probe.finding?)

namespace FoundBy

variable {findings others : List Finding} {left right : List Probe}

theorem nil (probes : List Probe) : FoundBy [] probes := List.nil_sublist _

theorem of_sublist (hsub : findings.Sublist others) (h : FoundBy others right) :
    FoundBy findings right := (hsub.map _).trans h

theorem cons (probe : Probe) (h : FoundBy findings right) : FoundBy findings (probe :: right) :=
  h.trans ((List.sublist_cons_self probe right).filterMap _)

theorem append_left (right : List Probe) (h : FoundBy findings left) :
    FoundBy findings (left ++ right) :=
  h.trans ((List.sublist_append_left left right).filterMap _)

theorem append_right (left : List Probe) (h : FoundBy findings right) :
    FoundBy findings (left ++ right) :=
  h.trans ((List.sublist_append_right left right).filterMap _)

theorem append (hleft : FoundBy findings left) (hright : FoundBy others right) :
    FoundBy (findings ++ others) (left ++ right) := by
  rw [FoundBy, List.map_append, List.filterMap_append]
  exact List.Sublist.append hleft hright

theorem judge {p : Position} {check : Check} {kind : ReasonKind} {tested : Option Value}
    {held : Bool} (hkind : check.kind? = some kind) (hheld : check.holds tested = held) :
    FoundBy (p.judge kind held).findings [p.probe check tested] := by
  have hfinding : (p.probe check tested).finding? = some (p.reason kind, held) := by
    rw [Probe.finding?, Position.probe, hkind, hheld]
    rfl
  rw [FoundBy, List.filterMap_cons_some hfinding]
  exact List.Sublist.refl _

/-- A negation turns what a finding counts for, and not what came of its check. -/
theorem invert {judgment : Judgment} (h : FoundBy judgment.findings left) :
    FoundBy judgment.invert.findings left := by
  rw [FoundBy, Judgment.invert, List.map_map]
  exact h

end FoundBy

/-- However parts are put together, their findings are some of all their findings. -/
theorem Judgment.all_findings_sublist (parts : List Judgment) :
    (all parts).findings.Sublist (parts.flatMap (·.findings)) := by
  rw [all]
  split
  · exact List.Sublist.refl _
  · exact List.filter_sublist.flatMap _

theorem Judgment.any_findings_sublist (parts : List Judgment) :
    (any parts).findings.Sublist (parts.flatMap (·.findings)) := by
  rw [any]
  split
  · exact List.filter_sublist.flatMap _
  · exact List.Sublist.refl _

theorem ensures_foundBy_each {α : Type} {run : α → Trial Judgment} {probes : α → List Probe}
    (h : ∀ a, (run a).Ensures fun judgment => FoundBy judgment.findings (probes a)) (as : List α) :
    (Trial.each run as).Ensures fun parts =>
      FoundBy (parts.flatMap (·.findings)) (as.flatMap probes) := by
  induction as with
  | nil => exact Trial.ensures_pure (.nil _)
  | cons a rest ih =>
      refine (h a).bind fun part hpart => ?_
      refine ih.bind fun parts hparts => ?_
      exact Trial.ensures_pure (hpart.append hparts)

theorem Position.ensures_enter (p : Position) :
    p.enter.Ensures fun q => p.depth < maxDepth ∧ q = p.descend := by
  intro q hok
  rw [outcome_enter] at hok
  split at hok
  · rename_i hdepth
    exact ⟨hdepth, (Except.ok.inj hok).symm⟩
  · cases hok

theorem Condition.ensures_dispatch {condition : Condition} {operator : Operator}
    (h : condition.operator? = some operator) (p : Position) :
    (condition.dispatch p).Ensures (· = p.withQuery operator.name) := by
  intro q hok
  rw [outcome_dispatch h] at hok
  exact (Except.ok.inj hok).symm

mutual

theorem Query.findings_foundBy (query : Query) (value : Value) (p : Position) :
    (query.judge value p).Ensures fun judgment =>
      FoundBy judgment.findings (query.probes value p) := by
  match query with
  | .all conditions =>
      rw [Query.judge]
      refine p.ensures_enter.bind ?_
      rintro q ⟨hdepth, rfl⟩
      rw [Query.probes, if_pos hdepth]
      split
      · exact Trial.ensures_pure (.judge rfl rfl)
      · refine (findings_foundBy_conditions conditions value p.descend).bind fun parts hparts => ?_
        exact Trial.ensures_pure (hparts.of_sublist (Judgment.all_findings_sublist parts))
termination_by structural query

theorem findings_foundBy_conditions (conditions : List Condition) (value : Value) (p : Position) :
    (judgeConditions conditions value p).Ensures fun parts =>
      FoundBy (parts.flatMap (·.findings)) (probesOfConditions conditions value p) := by
  match conditions with
  | [] => exact Trial.ensures_pure (.nil _)
  | condition :: rest =>
      rw [judgeConditions, probesOfConditions]
      refine (condition.findings_foundBy value p).bind fun part hpart => ?_
      refine (findings_foundBy_conditions rest value p).bind fun parts hparts => ?_
      exact Trial.ensures_pure (hpart.append hparts)
termination_by structural conditions

theorem Condition.findings_foundBy (condition : Condition) (value : Value) (p : Position) :
    (condition.judge value p).Ensures fun judgment =>
      FoundBy judgment.findings (condition.probes value p) := by
  match condition with
  | .unknownOperator name => exact Trial.ensures_reject _ _
  | .malformed operator fault => exact Trial.ensures_bind fun q => Trial.ensures_reject _ _
  | .leaf field expected =>
      rw [Condition.judge, Condition.probes]
      cases field.value? value with
      | none => exact Trial.ensures_pure (.judge rfl rfl)
      | some found => exact Trial.ensures_pure (.judge rfl rfl)
  | .node field query =>
      rw [Condition.judge, Condition.probes]
      cases field.value? value with
      | none => exact Trial.ensures_pure (.judge rfl rfl)
      | some found => exact query.findings_foundBy found _
  | .clauses junction queries =>
      rw [Condition.judge]
      refine (Condition.ensures_dispatch rfl p).bind ?_
      rintro q rfl
      exact findings_foundBy_clauses queries junction value _ 0
  | .negation query =>
      rw [Condition.judge]
      refine (Condition.ensures_dispatch rfl p).bind ?_
      rintro q rfl
      refine (query.findings_foundBy value _).bind fun judgment hjudgment => ?_
      exact Trial.ensures_pure hjudgment.invert
  | .test leafTest operand =>
      rw [Condition.judge]
      refine (Condition.ensures_dispatch rfl p).bind ?_
      rintro q rfl
      exact Trial.ensures_pure (.judge rfl rfl)
  | .membership wanted candidates =>
      rw [Condition.judge]
      refine (Condition.ensures_dispatch rfl p).bind ?_
      rintro q rfl
      exact Trial.ensures_pure (.judge rfl rfl)
  | .element query =>
      rw [Condition.judge, Condition.probes.eq_def]
      refine (Condition.ensures_dispatch rfl p).bind ?_
      rintro q rfl
      cases value with
      | array items =>
          cases items with
          | nil =>
              have hnone : Check.element.holds (some (.array [])) = false := rfl
              exact Trial.ensures_pure ((FoundBy.judge rfl hnone).cons _)
          | cons item items =>
              refine (ensures_foundBy_each (fun place : Value × Nat =>
                query.findings_foundBy place.1 _) _).bind fun parts hparts => ?_
              refine Trial.ensures_pure (FoundBy.cons _ ?_)
              exact hparts.of_sublist (Judgment.any_findings_sublist parts)
      | _ => exact Trial.ensures_reject _ _
termination_by structural condition

theorem findings_foundBy_clauses (queries : List Query) (junction : Junction) (value : Value)
    (p : Position) (index : Nat) :
    (judgeClauses junction queries value p index).Ensures fun judgment =>
      FoundBy judgment.findings (probesOfClauses queries value p index) := by
  match queries with
  | [] => exact Trial.ensures_pure (.nil _)
  | query :: rest =>
      rw [judgeClauses, probesOfClauses]
      refine (query.findings_foundBy value _).bind fun first hfirst => ?_
      split
      · exact Trial.ensures_pure (hfirst.append_left _)
      · refine (findings_foundBy_clauses rest junction value p (index + 1)).bind fun others hothers => ?_
        split
        · exact Trial.ensures_pure (hothers.append_right _)
        · exact Trial.ensures_pure (hfirst.append hothers)
termination_by structural queries

end

/-! ### Rejections for want of an array come from checks -/

/-- Some check asks a value at a property path to be an array that is none. -/
def AsksForArray (probes : List Probe) (propertyPath : String) : Prop :=
  ∃ probe ∈ probes, probe.propertyPath = propertyPath ∧ ∃ value, probe.tested = some value ∧
    ∀ items, value ≠ .array items

theorem AsksForArray.mono {left right : List Probe} {propertyPath : String} (h : left ⊆ right)
    (hasks : AsksForArray left propertyPath) : AsksForArray right propertyPath :=
  hasks.imp fun _ ⟨hmem, hprobe⟩ => ⟨h hmem, hprobe⟩

mutual

theorem Query.asksForArray (query : Query) {value : Value} {p : Position} {operator : Operator}
    {propertyPath : String}
    (h : (query.evaluate value p).outcome = .error (.notAnArray operator propertyPath)) :
    AsksForArray (query.probes value p) propertyPath := by
  match query with
  | .all conditions =>
      rw [Query.outcome_evaluate] at h
      rw [Query.probes]
      split at h
      · rename_i hdepth
        rw [if_pos hdepth]
        split at h
        · cases h
        · rename_i hempty
          rw [map_eq_error, evaluateConditions_eq_each] at h
          obtain ⟨condition, hmem, hcondition⟩ := Trial.exists_of_each_error h
          rw [if_neg (mt List.isEmpty_iff.1 hempty)]
          exact asksForArray_of_mem conditions condition hmem hcondition
      · cases h
termination_by structural query

theorem asksForArray_of_mem (conditions : List Condition) {value : Value} {p : Position}
    {operator : Operator} {propertyPath : String} (condition : Condition)
    (hmem : condition ∈ conditions)
    (h : (condition.evaluate value p).outcome = .error (.notAnArray operator propertyPath)) :
    AsksForArray (probesOfConditions conditions value p) propertyPath := by
  match conditions with
  | [] => cases hmem
  | first :: rest =>
      rw [probesOfConditions]
      obtain hfirst | hrest := List.mem_cons.1 hmem
      · rw [hfirst] at h
        exact (first.asksForArray h).mono (List.subset_append_left _ _)
      · exact (asksForArray_of_mem rest condition hrest h).mono (List.subset_append_right _ _)
termination_by structural conditions

theorem Condition.asksForArray (condition : Condition) {value : Value} {p : Position}
    {operator : Operator} {propertyPath : String}
    (h : (condition.evaluate value p).outcome = .error (.notAnArray operator propertyPath)) :
    AsksForArray (condition.probes value p) propertyPath := by
  match condition with
  | .unknownOperator name =>
      rw [Condition.outcome_evaluate_unknownOperator] at h
      cases h
  | .malformed operator fault =>
      rw [Condition.outcome_evaluate_malformed] at h
      cases fault <;> cases h
  | .leaf field expected =>
      rw [Condition.outcome_evaluate_leaf] at h
      split at h <;> cases h
  | .node field query =>
      rw [Condition.outcome_evaluate_node] at h
      rw [Condition.probes]
      cases hfound : field.value? value with
      | none =>
          rw [hfound] at h
          cases h
      | some found =>
          rw [hfound] at h
          exact query.asksForArray h
  | .clauses junction queries =>
      rw [Condition.outcome_evaluate_clauses] at h
      exact asksForArray_clauses queries h
  | .negation query =>
      rw [Condition.outcome_evaluate_negation, map_eq_error] at h
      exact query.asksForArray h
  | .test leafTest operand =>
      rw [Condition.outcome_evaluate_test] at h
      cases h
  | .membership wanted candidates =>
      rw [Condition.outcome_evaluate_membership] at h
      cases h
  | .element query =>
      rw [Condition.probes.eq_def]
      by_cases harray : ∃ items, value = .array items
      · obtain ⟨_ | ⟨item, items⟩, rfl⟩ := harray
        · rw [Condition.outcome_evaluate_element_nil] at h
          cases h
        · rw [Condition.outcome_evaluate_element_cons, map_eq_error] at h
          obtain ⟨place, hmem, hplace⟩ := Trial.exists_of_each_error h
          refine (query.asksForArray hplace).mono fun probe hprobe => ?_
          exact List.mem_cons_of_mem _ (List.mem_flatMap.2 ⟨place, hmem, hprobe⟩)
      · rw [Condition.outcome_evaluate_element_of_not_array p query (not_exists.1 harray)] at h
        cases h
        exact ⟨_, List.mem_cons_self, rfl, value, rfl, not_exists.1 harray⟩
termination_by structural condition

theorem asksForArray_clauses (queries : List Query) {junction : Junction} {value : Value}
    {p : Position} {index : Nat} {operator : Operator} {propertyPath : String}
    (h : (evaluateClauses junction queries value p index).outcome =
      .error (.notAnArray operator propertyPath)) :
    AsksForArray (probesOfClauses queries value p index) propertyPath := by
  match queries with
  | [] => cases h
  | query :: rest =>
      rw [probesOfClauses]
      obtain hfirst | hrest := outcome_evaluateClauses_cons_error h
      · exact (query.asksForArray hfirst).mono (List.subset_append_left _ _)
      · exact (asksForArray_clauses rest hrest).mono (List.subset_append_right _ _)
termination_by structural queries

end

end Verdict
