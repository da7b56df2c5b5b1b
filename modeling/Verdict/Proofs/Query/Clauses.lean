import Verdict.Proofs.Query.Alike
import Verdict.Proofs.Query.Displacement
import Verdict.Proofs.Query.Meaning

/-!
# Clauses and what each of them comes to

Clauses come to what `Junction.decide` makes of the outcomes that they would have one by one
(`outcome_evaluateClauses`): the first that decides or is rejected speaks for all of them, and where
there is none, all of them speak. So clauses are compared by their outcomes, without their
evaluation. The keys of a node are clauses that must all hold, but all of them are evaluated and all
that fail are reported; `explain_splitIntoClauses` says what is left of an explanation when each key
becomes a clause of its own.
-/

namespace Verdict

/-! ### Deciding -/

/-- The outcome of clauses that have these outcomes one by one. -/
def Junction.decide (junction : Junction) :
    List (Except Rejection Explanation) → Except Rejection Explanation
  | [] => .ok ⟨junction == .and, []⟩
  | .error rejection :: _ => .error rejection
  | .ok first :: rest =>
    if first.matched = (junction == .or) then .ok first
    else (junction.decide rest).map fun others =>
      if others.matched = (junction == .or) then others
      else ⟨others.matched, first.reasons ++ others.reasons⟩

theorem outcome_evaluateClauses (queries : List Query) (junction : Junction) (value : Value)
    (p : Position) (index : Nat) :
    (evaluateClauses junction queries value p index).outcome =
      junction.decide ((queries.zipIdx index).map fun place =>
        (place.1.evaluate value (p.withQuery (Path.element place.2))).outcome) := by
  induction queries generalizing index with
  | nil => rfl
  | cons query rest ih =>
      rw [evaluateClauses, List.zipIdx_cons, List.map_cons]
      cases hfirst : (query.evaluate value (p.withQuery (Path.element index))).outcome with
      | error rejection => rw [Trial.outcome_bind_of_error hfirst, Junction.decide]
      | ok first =>
          rw [Trial.outcome_bind_of_ok hfirst, Junction.decide, ← ih]
          by_cases hdecides : first.matched = (junction == .or)
          · rw [if_pos hdecides, if_pos (beq_iff_eq.2 hdecides)]
            rfl
          · rw [if_neg hdecides, if_neg (mt beq_iff_eq.1 hdecides), ← Trial.outcome_bind_pure]
            refine congrArg Trial.outcome (bind_congr fun others => ?_)
            simp only [beq_iff_eq]
            split <;> rfl

namespace Junction

/-- Of clauses that are not rejected, the first that decides speaks for all of them. -/
theorem decide_ok (junction : Junction) (parts : List Explanation) :
    junction.decide (parts.map .ok) =
      .ok ((parts.find? fun part => part.matched == (junction == .or)).getD
        ⟨junction == .and, parts.flatMap (·.reasons)⟩) := by
  induction parts with
  | nil => rfl
  | cons first rest ih =>
      rw [List.map_cons, decide, List.find?_cons, ih, Except.map]
      by_cases hfirst : first.matched = (junction == .or)
      · rw [if_pos hfirst, beq_iff_eq.2 hfirst, Option.getD_some]
      · rw [if_neg hfirst, beq_eq_false_iff_ne.2 hfirst]
        cases hrest : rest.find? fun part => part.matched == (junction == .or) with
        | some part =>
            have hpart := List.find?_some hrest
            simp only [Option.getD_some, if_pos (beq_iff_eq.1 hpart)]
        | none =>
            -- where no clause decides, the verdict is the one that none of them has alone
            have hnone : (junction == .and) ≠ (junction == .or) := by cases junction <;> decide
            simp only [Option.getD_none, if_neg hnone, List.flatMap_cons]

theorem decide_of_undecided {junction : Junction} {parts : List Explanation}
    (h : ∀ part ∈ parts, part.matched ≠ (junction == .or)) :
    junction.decide (parts.map .ok) = .ok ⟨junction == .and, parts.flatMap (·.reasons)⟩ := by
  have hnone : parts.find? (fun part => part.matched == (junction == .or)) = none :=
    List.find?_eq_none.2 fun part hmem => mt beq_iff_eq.1 (h part hmem)
  rw [decide_ok, hnone, Option.getD_none]

theorem decide_append_cons {junction : Junction} {before after : List Explanation}
    {part : Explanation} (hbefore : ∀ other ∈ before, other.matched ≠ (junction == .or))
    (hpart : part.matched = (junction == .or)) :
    junction.decide ((before ++ part :: after).map .ok) = .ok part := by
  have hnone : before.find? (fun part => part.matched == (junction == .or)) = none :=
    List.find?_eq_none.2 fun other hmem => mt beq_iff_eq.1 (hbefore other hmem)
  have hdecides : (part.matched == (junction == .or)) = true := beq_iff_eq.2 hpart
  rw [decide_ok, List.find?_append, hnone, Option.none_or, List.find?_cons, hdecides,
    Option.getD_some]

/-- The verdict on clauses that are not rejected is the verdict on all of them. -/
theorem exists_decide_ok {outcomes : List (Except Rejection Explanation)} {verdicts : List Bool}
    (h : List.Forall₂ (fun outcome verdict => ∃ reasons, outcome = .ok ⟨verdict, reasons⟩)
      outcomes verdicts) (junction : Junction) :
    ∃ reasons, junction.decide outcomes = .ok ⟨junction.join verdicts, reasons⟩ := by
  induction h with
  | nil => cases junction <;> exact ⟨[], rfl⟩
  | cons hfirst _ ih =>
      obtain ⟨reasons, rfl⟩ := hfirst
      obtain ⟨others, hothers⟩ := ih
      rw [decide, join_cons, hothers]
      dsimp only [Except.map]
      split
      · exact ⟨reasons, rfl⟩
      · split
        · exact ⟨others, rfl⟩
        · exact ⟨reasons ++ others, rfl⟩

end Junction

theorem Query.ofDocument_clauses (junction : Junction) (queries : List Document) :
    Query.ofDocument [(junction.operator.name, .array (queries.map .document))] =
      .all [.clauses junction (queries.map Query.ofDocument)] := by
  have hread : Reading junction.operator.name (.array (queries.map .document)) _ :=
    .clauses (classify_operator_name junction.operator) (List.forall_mem_map.2 fun _ _ => rfl)
  rw [Query.ofDocument, conditionsOfEntries_eq_map, List.map_singleton, hread.read_eq, List.map_map]
  refine congrArg (fun queries => Query.all [.clauses junction queries]) (List.map_congr_left ?_)
  exact fun query _ => Query.ofNode_document query

/-- What a query document comes to that asks for clauses and for nothing else. -/
theorem outcome_evaluate_ofClauses {p : Position} (hroom : p.depth < maxDepth)
    (junction : Junction) (queries : List Document) (value : Value) :
    ((Query.ofDocument [(junction.operator.name, .array (queries.map .document))]).evaluate
        value p).outcome =
      junction.decide (queries.zipIdx.map fun place =>
        ((Query.ofDocument place.1).evaluate value
          ((p.descend.withQuery junction.operator.name).withQuery
            (Path.element place.2))).outcome) := by
  rw [Query.ofDocument_clauses, Query.outcome_evaluate_singleton, if_pos hroom,
    Condition.outcome_evaluate_clauses, outcome_evaluateClauses, List.zipIdx_map, List.map_map]
  rfl

/-! ### A clause for each key -/

/-- A query document as clauses that must all hold, one for each of its keys. -/
def splitIntoClauses (query : Document) : Document :=
  [("$and", .array (query.map fun entry => .document [entry]))]

/-- The place of a clause of `splitIntoClauses`. -/
def clausePlace (index : Nat) : Position :=
  (Position.root.withQuery "$and").withQuery (Path.element index)

theorem queryDepth_singleton_le {query : Document} {entry : String × Value} (h : entry ∈ query) :
    queryDepth [entry] ≤ queryDepth query := by
  have hentry := depthOfEntry_le_of_mem (show entry ∈ (Value.document query).nodeEntries from h)
  rw [← depthOfEntries_eq] at hentry
  rw [queryDepth, queryDepth, depthOfEntries, depthOfEntries, Nat.max_zero]
  exact Nat.succ_le_succ hentry

/-- What a query document with a single key comes to is what its key adds to a larger one. -/
theorem explain_singleton (entry : String × Value) (value : Value) :
    explain [entry] value = ((Condition.read entry).evaluate value Position.root.descend).outcome := by
  rw [explain, evaluateFrom, Query.ofDocument, conditionsOfEntries_eq_map, List.map_singleton,
    Query.outcome_evaluate_singleton, if_pos (by decide)]

theorem explain_eq_ok_iff {query : Document} (hquery : query ≠ []) {value : Value}
    {explanation : Explanation} :
    explain query value = .ok explanation ↔
      ∃ parts, List.Forall₂ (fun entry part => explain [entry] value = .ok part) query parts ∧
        explanation = .all parts := by
  have hconditions : query.map Condition.read ≠ [] := mt List.map_eq_nil_iff.1 hquery
  rw [explain, evaluateFrom, Query.ofDocument, conditionsOfEntries_eq_map, Query.outcome_evaluate,
    if_pos (by decide), if_neg hconditions, evaluateConditions_eq_each, map_eq_ok]
  simp only [Trial.outcome_each_ok, List.forall₂_map_left_iff, explain_singleton]

/-- The clause of a key says what the key says by itself, in the place of the clause. -/
theorem outcome_evaluate_clause {query : Document} (hdepth : queryDepth query < maxDepth)
    {entry : String × Value} (hentry : entry ∈ query) {value : Value} {part : Explanation}
    (hok : explain [entry] value = .ok part) (index : Nat) :
    ((Query.ofDocument [entry]).evaluate value ((clausePlace index).atDepth 1)).outcome =
      .ok (part.under (clausePlace index)) := by
  have hroom : ((clausePlace index).atDepth 1).depth + queryDepth [entry] ≤ maxDepth := by
    have hle := queryDepth_singleton_le hentry
    change 1 + _ ≤ _
    omega
  rw [Query.ofDocument_evaluate_eq_relocate hroom, Trial.relocate_of_ok hok]
  rfl

theorem explain_splitIntoClauses_eq {query : Document} (hdepth : queryDepth query < maxDepth)
    {value : Value} {parts : List Explanation}
    (hparts : List.Forall₂ (fun entry part => explain [entry] value = .ok part) query parts) :
    explain (splitIntoClauses query) value =
      Junction.and.decide
        ((parts.zipIdx.map fun place => place.1.under (clausePlace place.2)).map .ok) := by
  have hclauses : splitIntoClauses query =
      [(Junction.and.operator.name, .array ((query.map fun entry => [entry]).map .document))] := by
    rw [List.map_map]
    rfl
  rw [hclauses, explain, evaluateFrom, outcome_evaluate_ofClauses (by decide), List.zipIdx_map,
    List.map_map, List.map_map]
  refine congrArg Junction.and.decide ?_
  refine map_eq_of_forall₂ (forall₂_zipIdx (forall₂_and_mem hparts) 0) ?_
  rintro ⟨entry, index⟩ ⟨part, _⟩ ⟨⟨hok, hentry, -⟩, rfl⟩
  exact outcome_evaluate_clause hdepth hentry hok index

/-- Parts that hold decide nothing among clauses that must all hold. -/
theorem undecided_of_matched {places : List (Explanation × Nat)}
    (h : ∀ place ∈ places, place.1.matched = true) :
    ∀ part ∈ places.map fun place => place.1.under (clausePlace place.2),
      part.matched ≠ (Junction.and == .or) := by
  refine List.forall_mem_map.2 fun place hmem => ?_
  rw [Explanation.under, h place hmem]
  decide

/-- The first part that fails, where not all parts hold. -/
theorem Explanation.exists_first_of_all {parts : List Explanation}
    (h : (all parts).matched = false) :
    ∃ before part after, parts = before ++ part :: after ∧
      (∀ other ∈ before, other.matched = true) ∧ part.matched = false := by
  cases hfirst : parts.find? (!·.matched) with
  | none =>
      have hall := List.find?_eq_none.1 hfirst
      rw [matched_all, List.all_eq_false] at h
      obtain ⟨part, hmem, hfailed⟩ := h
      exact absurd (by simpa using hfailed) (hall part hmem)
  | some part =>
      obtain ⟨hfailed, before, after, rfl, hbefore⟩ := List.find?_eq_some_iff_append.1 hfirst
      refine ⟨before, part, after, rfl, fun other hmem => ?_, by simpa using hfailed⟩
      simpa using hbefore other hmem

/-- Clauses are evaluated only up to the first that fails, and so the keys after it are not heard. -/
theorem explain_splitIntoClauses {query : Document} (hquery : query ≠ [])
    (hdepth : queryDepth query ≤ 99) {value : Value} {explanation : Explanation}
    (hok : explain query value = .ok explanation) :
    ∃ parts, List.Forall₂ (fun entry part => explain [entry] value = .ok part) query parts ∧
      explanation = .all parts ∧
      (explanation.matched = true →
        explanation.reasons = parts.flatMap (·.reasons) ∧
          explain (splitIntoClauses query) value =
            .ok ⟨true, parts.zipIdx.flatMap fun place =>
              (place.1.under (clausePlace place.2)).reasons⟩) ∧
      (explanation.matched = false →
        ∃ before part after, parts = before ++ part :: after ∧
          (∀ other ∈ before, other.matched = true) ∧ part.matched = false ∧
          explain (splitIntoClauses query) value =
            .ok (part.under (clausePlace before.length))) := by
  obtain ⟨parts, hparts, rfl⟩ := (explain_eq_ok_iff hquery).1 hok
  rw [explain_splitIntoClauses_eq (Nat.lt_succ_of_le hdepth) hparts]
  refine ⟨parts, hparts, rfl, ?_, ?_⟩
  · intro hmatched
    rw [Explanation.matched_all] at hmatched
    have hplaces : ∀ place ∈ parts.zipIdx, place.1.matched = true := fun place hmem =>
      List.all_eq_true.1 hmatched place.1 (List.fst_mem_of_mem_zipIdx hmem)
    rw [Junction.decide_of_undecided (undecided_of_matched hplaces), Explanation.all,
      if_pos hmatched, List.flatMap_map]
    exact ⟨rfl, rfl⟩
  · intro hfailed
    obtain ⟨before, part, after, rfl, hbefore, hpart⟩ := Explanation.exists_first_of_all hfailed
    refine ⟨before, part, after, rfl, hbefore, hpart, ?_⟩
    rw [List.zipIdx_append, List.zipIdx_cons, List.map_append, List.map_cons, Nat.zero_add]
    exact Junction.decide_append_cons (undecided_of_matched fun place hmem =>
      hbefore place.1 (List.fst_mem_of_mem_zipIdx hmem)) hpart

/-- The second of three keys is the first that fails, and the reason of the third is lost. -/
theorem explain_splitIntoClauses_failed :
    queryDepth [("a", .null), ("b", .document [("$not", .null)]), ("c.d", .bool true)] ≤ 99 ∧
    explain [("a", .null), ("b", .document [("$not", .null)]), ("c.d", .bool true)]
        (.document [("a", .null), ("b", .null)]) =
      .ok ⟨false, [⟨"b", "b.$not", .equal⟩, ⟨"c.d", "\"c.d\"", .equal⟩]⟩ ∧
    explain
        (splitIntoClauses [("a", .null), ("b", .document [("$not", .null)]), ("c.d", .bool true)])
        (.document [("a", .null), ("b", .null)]) =
      .ok ⟨false, [⟨"b", "$and.[1].b.$not", .equal⟩]⟩ ∧
    ∃ parts : List Explanation, ∃ before part after, parts = before ++ part :: after ∧
      (∀ other ∈ before, other.matched = true) ∧ part.matched = false ∧
      List.Forall₂ (fun entry part =>
          explain [entry] (.document [("a", .null), ("b", .null)]) = .ok part)
        [("a", .null), ("b", .document [("$not", .null)]), ("c.d", .bool true)] parts ∧
      explain
          (splitIntoClauses [("a", .null), ("b", .document [("$not", .null)]), ("c.d", .bool true)])
          (.document [("a", .null), ("b", .null)]) =
        .ok (part.under (clausePlace before.length)) := by
  have hdepth :
      queryDepth [("a", .null), ("b", .document [("$not", .null)]), ("c.d", .bool true)] ≤ 99 := by
    decide
  have hok : explain [("a", .null), ("b", .document [("$not", .null)]), ("c.d", .bool true)]
      (.document [("a", .null), ("b", .null)]) =
        .ok ⟨false, [⟨"b", "b.$not", .equal⟩, ⟨"c.d", "\"c.d\"", .equal⟩]⟩ := by decide
  obtain ⟨parts, hparts, -, -, hfailed⟩ :=
    explain_splitIntoClauses (List.cons_ne_nil _ _) hdepth hok
  obtain ⟨before, part, after, hsplit, hbefore, hpart, hclauses⟩ := hfailed rfl
  exact ⟨hdepth, hok, by decide,
    parts, before, part, after, hsplit, hbefore, hpart, hparts, hclauses⟩

end Verdict
