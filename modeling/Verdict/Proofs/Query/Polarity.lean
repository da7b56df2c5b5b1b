import Mathlib.Data.List.Basic
import Verdict.Matcher
import Verdict.Proofs.Trial

/-!
# Reasons and the verdict they are given for

A reason names a check but not how it came out. `judgeFrom` evaluates a query as `evaluateFrom` does
and keeps, with every reason, how its check came out and which way that counts where the reason
stands now, as a negated query turns it. What it keeps aside, it is the evaluation
(`explanation_judgeFrom`). Reasons are gathered in three ways, by keys, clauses and elements, and
each passes over the reasons that count against its verdict, so all that are given for a verdict
count for it (`Query.ensures_supported`).
-/

namespace Verdict

/-- A reason with the outcome of its check, and with that outcome as it counts after the negations
around it. -/
structure Finding where
  reason : Reason
  held : Bool
  polarity : Bool
deriving DecidableEq

/-- An explanation whose reasons tell what came of their checks. -/
structure Judgment where
  matched : Bool
  findings : List Finding
deriving DecidableEq

def Finding.turn (f : Finding) : Finding := { f with polarity := !f.polarity }

/-- The judgment of a single check. -/
def Position.judge (p : Position) (kind : ReasonKind) (held : Bool) : Judgment :=
  ⟨held, [⟨p.reason kind, held, held⟩]⟩

namespace Judgment

def explanation (j : Judgment) : Explanation := ⟨j.matched, j.findings.map (·.reason)⟩

def invert (j : Judgment) : Judgment := ⟨!j.matched, j.findings.map (·.turn)⟩

def all (parts : List Judgment) : Judgment :=
  if parts.all (·.matched) then ⟨true, parts.flatMap (·.findings)⟩
  else ⟨false, (parts.filter (!·.matched)).flatMap (·.findings)⟩

def any (parts : List Judgment) : Judgment :=
  if parts.any (·.matched) then ⟨true, (parts.filter (·.matched)).flatMap (·.findings)⟩
  else ⟨false, parts.flatMap (·.findings)⟩

end Judgment

mutual

/-- Evaluates a node and keeps what came of the checks. -/
def Query.judge : Query → Value → Position → Trial Judgment
  | .all conditions, value, p => do
    let p ← p.enter
    if conditions.isEmpty then return p.judge .hasNoKeys true
    let parts ← judgeConditions conditions value p
    return .all parts
termination_by structural query => query

def judgeConditions : List Condition → Value → Position → Trial (List Judgment)
  | [], _, _ => return []
  | condition :: rest, value, p => do
    let part ← condition.judge value p
    let parts ← judgeConditions rest value p
    return part :: parts
termination_by structural conditions => conditions

def Condition.judge : Condition → Value → Position → Trial Judgment
  | .unknownOperator name, _, p => .reject (.invalidOperator name (Path.join p.queryPath name))
  | .malformed operator fault, _, p => do
    let p ← (Condition.malformed operator fault).dispatch p
    .reject (fault.rejection operator p.queryPath)
  | .leaf field expected, value, p =>
    let p := p.extend field.property field.query
    match field.value? value with
    | some value => return p.judge .equal (value.satisfies expected)
    | none => return p.judge .hasNoPath false
  | .node field query, value, p =>
    let p := p.extend field.property field.query
    match field.value? value with
    | some value => query.judge value p
    | none => return p.judge .hasNoPath false
  | .clauses junction queries, value, p => do
    let p ← (Condition.clauses junction queries).dispatch p
    judgeClauses junction queries value p 0
  | .negation query, value, p => do
    let p ← (Condition.negation query).dispatch p
    let judgment ← query.judge value p
    return judgment.invert
  | .test leafTest operand, value, p => do
    let p ← (Condition.test leafTest operand).dispatch p
    return p.judge leafTest.kind (leafTest.holds value operand)
  | .membership wanted candidates, value, p => do
    let p ← (Condition.membership wanted candidates).dispatch p
    return p.judge (if wanted then .inSet else .notInSet) (value.isAmong candidates == wanted)
  | .element query, value, p => do
    let p ← (Condition.element query).dispatch p
    match value with
    | .array [] => return p.judge .elementMatch false
    | .array items =>
      let parts ← Trial.each
        (fun (item, index) => query.judge item (p.withProperty (Path.element index))) items.zipIdx
      return .any parts
    | _ => .reject (.notAnArray .elemMatch p.propertyPath)
termination_by structural condition => condition

def judgeClauses (junction : Junction) : List Query → Value → Position → Nat → Trial Judgment
  | [], _, _, _ => return ⟨junction == .and, []⟩
  | query :: rest, value, p, index => do
    let first ← query.judge value (p.withQuery (Path.element index))
    if first.matched == (junction == .or) then return first
    let others ← judgeClauses junction rest value p (index + 1)
    if others.matched == (junction == .or) then return others
    return ⟨others.matched, first.findings ++ others.findings⟩
termination_by structural queries => queries

end

/-- Evaluates a query on a value from a place on, as `evaluateFrom`, and keeps what came of the
checks. -/
def judgeFrom (query : Document) (value : Value) (p : Position) : Trial Judgment :=
  (Query.ofDocument query).judge value p

/-! ### What is kept aside -/

namespace Judgment

theorem explanation_invert (j : Judgment) : j.invert.explanation = j.explanation.invert := by
  rw [explanation, invert, List.map_map]
  rfl

theorem reasons_flatMap (parts : List Judgment) :
    (parts.flatMap (·.findings)).map (·.reason) = (parts.map explanation).flatMap (·.reasons) := by
  rw [List.map_flatMap, List.flatMap_map]
  rfl

theorem explanation_all (parts : List Judgment) :
    (all parts).explanation = .all (parts.map explanation) := by
  have hall : (parts.map explanation).all (·.matched) = parts.all (·.matched) := List.all_map
  have hfailed : (parts.map explanation).filter (!·.matched) =
    (parts.filter (!·.matched)).map explanation := List.filter_map
  rw [all, Explanation.all, hall, hfailed, apply_ite explanation, explanation, explanation,
    reasons_flatMap, reasons_flatMap]

theorem explanation_any (parts : List Judgment) :
    (any parts).explanation = .any (parts.map explanation) := by
  have hany : (parts.map explanation).any (·.matched) = parts.any (·.matched) := List.any_map
  have hheld : (parts.map explanation).filter (·.matched) =
    (parts.filter (·.matched)).map explanation := List.filter_map
  rw [any, Explanation.any, hany, hheld, apply_ite explanation, explanation, explanation,
    reasons_flatMap, reasons_flatMap]

end Judgment

mutual

theorem Query.explanation_judge (query : Query) (value : Value) (p : Position) :
    Judgment.explanation <$> query.judge value p = query.evaluate value p := by
  match query with
  | .all conditions =>
      rw [Query.judge, Query.evaluate, map_bind]
      apply bind_congr
      intro q
      split
      · rfl
      · rw [map_bind, ← explanations_judgeConditions conditions, bind_map_left]
        apply bind_congr
        intro parts
        rw [map_pure, Judgment.explanation_all]
termination_by structural query

theorem explanations_judgeConditions (conditions : List Condition) (value : Value) (p : Position) :
    List.map Judgment.explanation <$> judgeConditions conditions value p =
      evaluateConditions conditions value p := by
  match conditions with
  | [] => rfl
  | condition :: rest =>
      rw [judgeConditions, evaluateConditions, ← condition.explanation_judge,
        ← explanations_judgeConditions rest]
      simp only [map_bind, bind_map_left, map_pure, List.map_cons]
termination_by structural conditions

theorem Condition.explanation_judge (condition : Condition) (value : Value) (p : Position) :
    Judgment.explanation <$> condition.judge value p = condition.evaluate value p := by
  match condition with
  | .unknownOperator name => rfl
  | .malformed operator fault => rfl
  | .leaf field expected =>
      rw [Condition.judge, Condition.evaluate]
      cases field.value? value <;> rfl
  | .node field query =>
      rw [Condition.judge, Condition.evaluate]
      cases field.value? value with
      | none => rfl
      | some found => exact query.explanation_judge found _
  | .clauses junction queries =>
      rw [Condition.judge, Condition.evaluate, map_bind]
      exact bind_congr fun q => explanation_judgeClauses queries junction value q 0
  | .negation query =>
      rw [Condition.judge, Condition.evaluate, map_bind]
      apply bind_congr
      intro q
      rw [map_bind, ← query.explanation_judge, bind_map_left]
      simp only [map_pure, Judgment.explanation_invert]
  | .test leafTest operand => rfl
  | .membership wanted candidates => rfl
  | .element query =>
      rw [Condition.judge, Condition.evaluate, map_bind]
      apply bind_congr
      intro q
      cases value with
      | array items =>
          cases items with
          | nil => rfl
          | cons item rest =>
              simp only [map_bind, ← query.explanation_judge, Trial.each_map, bind_map_left,
                map_pure, Judgment.explanation_any]
      | _ => rfl
termination_by structural condition

theorem explanation_judgeClauses (queries : List Query) (junction : Junction) (value : Value)
    (p : Position) (index : Nat) :
    Judgment.explanation <$> judgeClauses junction queries value p index =
      evaluateClauses junction queries value p index := by
  match queries with
  | [] => rfl
  | query :: rest =>
      rw [judgeClauses, evaluateClauses, map_bind, ← query.explanation_judge, bind_map_left]
      apply bind_congr
      intro first
      rw [show first.explanation.matched = first.matched from rfl]
      split
      · rfl
      · rw [map_bind, ← explanation_judgeClauses rest, bind_map_left]
        apply bind_congr
        intro others
        rw [show others.explanation.matched = others.matched from rfl]
        split
        · rfl
        · rw [map_pure, Judgment.explanation, List.map_append]
          rfl
termination_by structural queries

end

/-- What is kept aside does not change the evaluation, its journal included. -/
theorem explanation_judgeFrom (query : Document) (value : Value) (p : Position) :
    Judgment.explanation <$> judgeFrom query value p = evaluateFrom query value p :=
  (Query.ofDocument query).explanation_judge value p

/-! ### What is given for a verdict -/

/-- The outcomes of a check whose reason may be given at all. -/
def ReasonKind.admits : ReasonKind → Bool → Bool
  | invalidOperator, _ => false
  | hasNoKeys, held => held
  | hasNoPath, held | elementMatch, held => !held
  | _, _ => true

/-- A finding may be given for a verdict. -/
structure Finding.Supports (f : Finding) (verdict : Bool) : Prop where
  polarity_eq : f.polarity = verdict
  admitted : f.reason.kind.admits f.held = true

def Judgment.Supported (j : Judgment) : Prop := ∀ finding ∈ j.findings, finding.Supports j.matched

theorem Finding.Supports.turn {f : Finding} {verdict : Bool} (h : f.Supports verdict) :
    f.turn.Supports (!verdict) :=
  ⟨congrArg not h.polarity_eq, h.admitted⟩

namespace Judgment

theorem supported_judge (p : Position) {kind : ReasonKind} {held : Bool}
    (h : kind.admits held = true) : (p.judge kind held).Supported := by
  intro finding hfinding
  obtain rfl := List.mem_singleton.1 hfinding
  exact ⟨rfl, h⟩

theorem Supported.invert {j : Judgment} (h : j.Supported) : j.invert.Supported := by
  intro finding hfinding
  obtain ⟨inner, hinner, rfl⟩ := List.mem_map.1 hfinding
  exact (h inner hinner).turn

/-- Findings of parts that all have the same verdict are given for that verdict. -/
theorem supported_flatMap {parts : List Judgment} (h : ∀ part ∈ parts, part.Supported)
    {verdict : Bool} (hverdict : ∀ part ∈ parts, part.matched = verdict) :
    (⟨verdict, parts.flatMap (·.findings)⟩ : Judgment).Supported := by
  intro finding hfinding
  obtain ⟨part, hpart, hmem⟩ := List.mem_flatMap.1 hfinding
  have hsupports := h part hpart finding hmem
  rwa [hverdict part hpart] at hsupports

theorem supported_all {parts : List Judgment} (h : ∀ part ∈ parts, part.Supported) :
    (all parts).Supported := by
  rw [all]
  split
  · rename_i hall
    exact supported_flatMap h fun part hpart => List.all_eq_true.1 hall part hpart
  · refine supported_flatMap (fun part hpart => h part (List.mem_filter.1 hpart).1) ?_
    intro part hpart
    simpa using (List.mem_filter.1 hpart).2

theorem supported_any {parts : List Judgment} (h : ∀ part ∈ parts, part.Supported) :
    (any parts).Supported := by
  rw [any]
  split
  · refine supported_flatMap (fun part hpart => h part (List.mem_filter.1 hpart).1) ?_
    intro part hpart
    exact (List.mem_filter.1 hpart).2
  · rename_i hany
    have hnone := List.any_eq_false.1 (Bool.eq_false_iff.2 hany)
    refine supported_flatMap h ?_
    intro part hpart
    exact Bool.eq_false_iff.2 (hnone part hpart)

/-- Two clauses of which neither decides have the same verdict, so both are given for it. -/
theorem Supported.append {first others : Judgment} (hfirst : first.Supported)
    (hothers : others.Supported) (heq : first.matched = others.matched) :
    (⟨others.matched, first.findings ++ others.findings⟩ : Judgment).Supported := by
  intro finding hfinding
  obtain hmem | hmem := List.mem_append.1 hfinding
  · have hsupports := hfirst finding hmem
    rwa [heq] at hsupports
  · exact hothers finding hmem

end Judgment

theorem LeafTest.admits_kind (leafTest : LeafTest) (held : Bool) :
    leafTest.kind.admits held = true := by
  cases leafTest <;> rfl

mutual

theorem Query.ensures_supported (query : Query) (value : Value) (p : Position) :
    (query.judge value p).Ensures Judgment.Supported := by
  match query with
  | .all conditions =>
      rw [Query.judge]
      refine Trial.ensures_bind ?_
      intro q
      split
      · exact Trial.ensures_pure (Judgment.supported_judge q rfl)
      · refine (ensures_supported_conditions conditions value q).bind ?_
        intro parts hparts
        exact Trial.ensures_pure (Judgment.supported_all hparts)
termination_by structural query

theorem ensures_supported_conditions (conditions : List Condition) (value : Value) (p : Position) :
    (judgeConditions conditions value p).Ensures fun parts => ∀ part ∈ parts, part.Supported := by
  match conditions with
  | [] => exact Trial.ensures_pure fun _ hmem => nomatch hmem
  | condition :: rest =>
      rw [judgeConditions]
      refine (condition.ensures_supported value p).bind ?_
      intro part hpart
      refine (ensures_supported_conditions rest value p).bind ?_
      intro parts hparts
      exact Trial.ensures_pure (List.forall_mem_cons.2 ⟨hpart, hparts⟩)
termination_by structural conditions

theorem Condition.ensures_supported (condition : Condition) (value : Value) (p : Position) :
    (condition.judge value p).Ensures Judgment.Supported := by
  match condition with
  | .unknownOperator name => exact Trial.ensures_reject _ _
  | .malformed operator fault => exact Trial.ensures_bind fun q => Trial.ensures_reject _ _
  | .leaf field expected =>
      rw [Condition.judge]
      cases field.value? value with
      | none => exact Trial.ensures_pure (Judgment.supported_judge _ rfl)
      | some found => exact Trial.ensures_pure (Judgment.supported_judge _ rfl)
  | .node field query =>
      rw [Condition.judge]
      cases field.value? value with
      | none => exact Trial.ensures_pure (Judgment.supported_judge _ rfl)
      | some found => exact query.ensures_supported found _
  | .clauses junction queries =>
      rw [Condition.judge]
      exact Trial.ensures_bind fun q => ensures_supported_clauses queries junction value q 0
  | .negation query =>
      rw [Condition.judge]
      refine Trial.ensures_bind ?_
      intro q
      refine (query.ensures_supported value _).bind ?_
      intro judgment hjudgment
      exact Trial.ensures_pure hjudgment.invert
  | .test leafTest operand =>
      exact Trial.ensures_bind fun q =>
        Trial.ensures_pure (Judgment.supported_judge q (leafTest.admits_kind _))
  | .membership wanted candidates =>
      refine Trial.ensures_bind ?_
      intro q
      refine Trial.ensures_pure ?_
      apply Judgment.supported_judge
      cases wanted <;> rfl
  | .element query =>
      rw [Condition.judge]
      refine Trial.ensures_bind ?_
      intro q
      split
      · exact Trial.ensures_pure (Judgment.supported_judge q rfl)
      · refine (Trial.ensures_each ?_ _).bind fun parts hparts =>
          Trial.ensures_pure (Judgment.supported_any hparts)
        intro place
        exact query.ensures_supported place.1 _
      · exact Trial.ensures_reject _ _
termination_by structural condition

theorem ensures_supported_clauses (queries : List Query) (junction : Junction) (value : Value)
    (p : Position) (index : Nat) :
    (judgeClauses junction queries value p index).Ensures Judgment.Supported := by
  match queries with
  | [] => exact Trial.ensures_pure fun _ hmem => nomatch hmem
  | query :: rest =>
      rw [judgeClauses]
      refine (query.ensures_supported value _).bind ?_
      intro first hfirst
      split
      · exact Trial.ensures_pure hfirst
      · rename_i hundecided
        refine (ensures_supported_clauses rest junction value p (index + 1)).bind ?_
        intro others hothers
        split
        · exact Trial.ensures_pure hothers
        · -- neither side decides, so both have the one verdict that does not
          rename_i hothersUndecided
          have hfirstMatched : first.matched = !(junction == .or) :=
            Bool.eq_not.2 fun h => hundecided (beq_iff_eq.2 h)
          have hothersMatched : others.matched = !(junction == .or) :=
            Bool.eq_not.2 fun h => hothersUndecided (beq_iff_eq.2 h)
          exact Trial.ensures_pure (hfirst.append hothers (hfirstMatched.trans hothersMatched.symm))
termination_by structural queries

end

/-- Every reason that is given for a verdict is that of a check which, turned by the negations
around it, counts for the verdict. -/
theorem findings_support_verdict {query : Document} {value : Value} {p : Position}
    {explanation : Explanation} (hok : (evaluateFrom query value p).outcome = .ok explanation) :
    ∃ judgment, (judgeFrom query value p).outcome = .ok judgment ∧
      judgment.explanation = explanation ∧
      ∀ finding ∈ judgment.findings, finding.Supports explanation.matched := by
  rw [← explanation_judgeFrom, Trial.outcome_map] at hok
  obtain ⟨judgment, hjudgment, rfl⟩ := map_eq_ok.1 hok
  exact ⟨judgment, hjudgment, rfl,
    (Query.ofDocument query).ensures_supported value p judgment hjudgment⟩

/-- Two checks that fail, below a negation that makes them count for success. -/
theorem findings_support_verdict_negation :
    (evaluateFrom [("$not", .document
      [("$or", .array [.document [("a", .null)], .document [("$elemMatch", .document [])]])])]
        (.array []) ⟨"x", "q", 3⟩).outcome =
      .ok ⟨true, [⟨"x.a", "q.$not.$or.[0].a", .hasNoPath⟩,
        ⟨"x", "q.$not.$or.[1].$elemMatch", .elementMatch⟩]⟩ ∧
    ∃ judgment,
      (judgeFrom [("$not", .document
        [("$or", .array [.document [("a", .null)], .document [("$elemMatch", .document [])]])])]
        (.array []) ⟨"x", "q", 3⟩).outcome = .ok judgment ∧
      judgment.explanation =
        ⟨true, [⟨"x.a", "q.$not.$or.[0].a", .hasNoPath⟩,
          ⟨"x", "q.$not.$or.[1].$elemMatch", .elementMatch⟩]⟩ ∧
      ∀ finding ∈ judgment.findings, finding.Supports true :=
  ⟨by decide, findings_support_verdict (by decide)⟩

end Verdict
