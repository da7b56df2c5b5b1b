import Verdict.Proofs.Query.Clauses

/-!
# Negations of clauses and of negations

A negation turns a verdict around and keeps the reasons. Clauses of which one has to hold stop at
the first that holds; the negations of these clauses, all of which have to hold, stop at the first
that fails, which is the same one, and either report what that clause says or what all of them say.
So De Morgan's laws hold of whole explanations (`Junction.invert_decide`), and of the query
documents that write them, since on either side a clause is evaluated below as many nodes.
-/

namespace Verdict

def Junction.dual : Junction → Junction
  | and => or
  | or => and

/-- What decides clauses decides, turned around, the clauses of the other kind. -/
theorem Junction.invert_decides_iff (junction : Junction) (e : Explanation) :
    e.invert.matched = (junction.dual == .or) ↔ e.matched = (junction == .or) := by
  change (!e.matched) = _ ↔ _
  cases junction <;> cases e.matched <;> decide

/-- Outcomes that are all turned around are decided the other way around, by the same clause. -/
theorem Junction.invert_decide (junction : Junction)
    (outcomes : List (Except Rejection Explanation)) :
    (junction.decide outcomes).map Explanation.invert =
      junction.dual.decide (outcomes.map (Except.map Explanation.invert)) := by
  induction outcomes with
  | nil => cases junction <;> rfl
  | cons outcome rest ih =>
      cases outcome with
      | error rejection => rfl
      | ok first =>
          rw [decide, List.map_cons, Except.map, decide, ← ih]
          simp only [junction.invert_decides_iff]
          split
          · rfl
          · cases junction.decide rest with
            | error rejection => rfl
            | ok others =>
                simp only [Except.map, junction.invert_decides_iff]
                split <;> rfl

theorem Junction.sameBut_decide {related : String → String → Prop}
    {outcomes others : List (Except Rejection Explanation)}
    (h : List.Forall₂ (SameBut related) outcomes others) (junction : Junction) :
    SameBut related (junction.decide outcomes) (junction.decide others) := by
  induction h with
  | nil => exact .ok _ .nil
  | @cons _ _ rest otherRest hfirst _ ih =>
      cases hfirst with
      | error hrejection => exact .error hrejection
      | @ok matched reasons otherReasons hreasons =>
          rw [decide, decide]
          dsimp only
          split
          · exact .ok matched hreasons
          · generalize junction.decide rest = outcome at ih ⊢
            generalize junction.decide otherRest = other at ih ⊢
            cases ih with
            | error hrejection => exact .error hrejection
            | ok decided hothers =>
                dsimp only [Except.map]
                split
                · exact .ok decided hothers
                · exact .ok decided (List.rel_append hreasons hothers)

theorem Query.ofDocument_negation (query : Document) :
    Query.ofDocument [("$not", .document query)] = .all [.negation (Query.ofDocument query)] := by
  have hread : Reading "$not" (.document query) _ := .negation (classify_operator_name .not)
  rw [Query.ofDocument, conditionsOfEntries_eq_map, List.map_singleton, hread.read_eq,
    Query.ofNode_document]
  rfl

/-- What a query document comes to that negates another and asks for nothing else. -/
theorem outcome_evaluate_ofNegation {p : Position} (hroom : p.depth < maxDepth) (query : Document)
    (value : Value) :
    ((Query.ofDocument [("$not", .document query)]).evaluate value p).outcome =
      ((Query.ofDocument query).evaluate value (p.descend.withQuery "$not")).outcome.map
        Explanation.invert := by
  rw [Query.ofDocument_negation, Query.outcome_evaluate_singleton, if_pos hroom]
  exact Condition.outcome_evaluate_negation _ _ _

/-! ### De Morgan's laws -/

/-- The path of a clause among clauses that are negated together. -/
def negatedClausePath (junction : Junction) (index : Nat) : String :=
  Path.join (Path.join "$not" junction.operator.name) (Path.element index)

/-- The path of what is negated by a clause. -/
def clauseNegationPath (junction : Junction) (index : Nat) : String :=
  Path.join (Path.join junction.operator.name (Path.element index)) "$not"

theorem explain_negatedClauses (junction : Junction) (queries : List Document) (value : Value) :
    explain [("$not", .document [(junction.operator.name, .array (queries.map .document))])]
        value =
      junction.dual.decide (queries.zipIdx.map fun place =>
        ((Query.ofDocument place.1).evaluate value
          ⟨"", negatedClausePath junction place.2, 2⟩).outcome.map Explanation.invert) := by
  rw [explain, evaluateFrom, outcome_evaluate_ofNegation (by decide),
    outcome_evaluate_ofClauses (by decide), Junction.invert_decide, List.map_map]
  rfl

theorem explain_clausesOfNegations (junction : Junction) (queries : List Document)
    (value : Value) :
    explain [(junction.operator.name,
        .array (queries.map fun query => .document [("$not", .document query)]))] value =
      junction.decide (queries.zipIdx.map fun place =>
        ((Query.ofDocument place.1).evaluate value
          ⟨"", clauseNegationPath junction place.2, 2⟩).outcome.map Explanation.invert) := by
  have hclauses : (queries.map fun query => Value.document [("$not", .document query)]) =
      (queries.map fun query => [("$not", .document query)]).map .document :=
    (List.map_map ..).symm
  rw [hclauses, explain, evaluateFrom, outcome_evaluate_ofClauses (by decide), List.zipIdx_map,
    List.map_map]
  refine congrArg junction.decide (List.map_congr_left fun place _ => ?_)
  exact outcome_evaluate_ofNegation (show 1 < maxDepth by decide) _ value

theorem deMorgan_sameBut (junction : Junction) (queries : List Document) (value : Value) :
    SameBut (fun path other => ∃ index < queries.length,
        Path.GoOnAlike (negatedClausePath junction index)
          (clauseNegationPath junction.dual index) path other)
      (explain [("$not", .document [(junction.operator.name, .array (queries.map .document))])]
        value)
      (explain [(junction.dual.operator.name,
        .array (queries.map fun query => .document [("$not", .document query)]))] value) := by
  rw [explain_negatedClauses, explain_clausesOfNegations]
  refine Junction.sameBut_decide ?_ junction.dual
  rw [List.forall₂_map_left_iff, List.forall₂_map_right_iff, List.forall₂_same]
  rintro ⟨query, index⟩ hmem
  have hindex : index < queries.length := List.snd_lt_of_mem_zipIdx hmem
  have hclause := @Query.sameBut_evaluate ⟨"", negatedClausePath junction index, 2⟩
    ⟨"", clauseNegationPath junction.dual index, 2⟩ rfl rfl (Query.ofDocument query) value
  exact hclause.invert.mono fun path other h => ⟨index, hindex, h⟩

/-! ### Double negation -/

/-- The place of a query that is negated twice. -/
def twiceNegatedPlace : Position := (Position.root.withQuery "$not").withQuery "$not"

theorem map_invert_map_invert (outcome : Except Rejection Explanation) :
    (outcome.map Explanation.invert).map Explanation.invert = outcome := by
  cases outcome with
  | error rejection => rfl
  | ok e => simp only [Except.map, Explanation.invert, Bool.not_not]

theorem explain_not_not {query : Document} (hdepth : queryDepth query ≤ 98) (value : Value) :
    explain [("$not", .document [("$not", .document query)])] value =
      ((evaluateFrom query value .root).relocate twiceNegatedPlace
        (Explanation.under · twiceNegatedPlace)).outcome := by
  have hroom : (twiceNegatedPlace.atDepth 2).depth + queryDepth query ≤ maxDepth :=
    Nat.add_le_add_left hdepth 2
  rw [explain, evaluateFrom, outcome_evaluate_ofNegation (by decide),
    outcome_evaluate_ofNegation (by decide), map_invert_map_invert]
  exact congrArg Trial.outcome (Query.ofDocument_evaluate_eq_relocate hroom value)

/-- Negated clauses are explained as the clauses of the other kind that negate each of them, but for
the paths of the query, and so are they rejected; and what is negated twice is explained and
rejected as it is by itself, two negations further down. -/
theorem explain_deMorgan_and_not_not (value : Value) :
    (∀ (junction : Junction) (queries : List Document),
      SameBut (fun path other => ∃ index < queries.length,
          Path.GoOnAlike (negatedClausePath junction index)
            (clauseNegationPath junction.dual index) path other)
        (explain [("$not", .document [(junction.operator.name, .array (queries.map .document))])]
          value)
        (explain [(junction.dual.operator.name,
          .array (queries.map fun query => .document [("$not", .document query)]))] value)) ∧
    ∀ query, queryDepth query ≤ 98 →
      (∀ explanation, explain query value = .ok explanation →
        explain [("$not", .document [("$not", .document query)])] value =
          .ok (explanation.under twiceNegatedPlace)) ∧
      ∀ rejection, explain query value = .error rejection →
        explain [("$not", .document [("$not", .document query)])] value =
          .error (rejection.under twiceNegatedPlace) := by
  refine ⟨fun junction queries => deMorgan_sameBut junction queries value, ?_⟩
  intro query hdepth
  rw [explain_not_not hdepth]
  constructor
  · intro explanation hok
    rw [Trial.relocate_of_ok hok]
  · intro rejection herror
    rw [Trial.relocate_of_error herror]

/-- Of two clauses the second decides, and what it says is kept by two negations. -/
theorem explain_deMorgan_and_not_not_second :
    explain [("$not", .document [("$or", .array [.document [("a", .null)],
        .document [("b", .document [("$elemMatch", .document [])])]])])]
        (.document [("b", .array [.null])]) =
      .ok ⟨false, [⟨"b.[0]", "$not.$or.[1].b.$elemMatch", .hasNoKeys⟩]⟩ ∧
    SameBut (fun path other => ∃ index < 2,
        Path.GoOnAlike (negatedClausePath .or index) (clauseNegationPath .and index) path other)
      (explain [("$not", .document [("$or", .array [.document [("a", .null)],
        .document [("b", .document [("$elemMatch", .document [])])]])])]
        (.document [("b", .array [.null])]))
      (explain [("$and", .array [.document [("$not", .document [("a", .null)])],
        .document [("$not", .document [("b", .document [("$elemMatch", .document [])])])]])]
        (.document [("b", .array [.null])])) ∧
    queryDepth [("b", .document [("$elemMatch", .document [])])] ≤ 98 ∧
    explain [("$not", .document
        [("$not", .document [("b", .document [("$elemMatch", .document [])])])])]
        (.document [("b", .array [.null])]) =
      .ok ⟨true, [⟨"b.[0]", "$not.$not.b.$elemMatch", .hasNoKeys⟩]⟩ := by
  obtain ⟨hdual, htwice⟩ := explain_deMorgan_and_not_not (.document [("b", .array [.null])])
  have hdepth : queryDepth [("b", .document [("$elemMatch", .document [])])] ≤ 98 := by decide
  have hok : explain [("b", .document [("$elemMatch", .document [])])]
      (.document [("b", .array [.null])]) =
        .ok ⟨true, [⟨"b.[0]", "b.$elemMatch", .hasNoKeys⟩]⟩ := by decide
  exact ⟨by decide,
    hdual .or [[("a", .null)], [("b", .document [("$elemMatch", .document [])])]],
    hdepth, (htwice _ hdepth).1 _ hok⟩

end Verdict
