import Verdict.Proofs.Query.Clauses

/-!
# Filtering

A filter puts its query to one value after the other and keeps those for which it holds; the first
value that is rejected ends it (`filter_eq_ok_iff`, `filter_eq_error_iff`). Clauses that must all
hold may as well be put to the values in turn, each to the values that are left by the clauses
before it (`filterInTurn`). The one goes through the clauses for each value and the other through
the values for each clause, but both put a clause to a value only if all clauses before it hold of
the value. So, value by value, both come to the same verdict (`verdictInTurn?`).
-/

namespace Verdict

/-! ### One query -/

theorem filter_cons_ok {query : Document} {value : Value} {rest selected : List Value} :
    filter query (value :: rest) = .ok selected ↔
      ∃ explanation others, explain query value = .ok explanation ∧
        filter query rest = .ok others ∧
        selected = if explanation.matched then value :: others else others := by
  rw [filter, Matcher.select, Trial.outcome_bind_ok]
  refine exists_congr fun explanation => ?_
  rw [Trial.outcome_bind_ok, ← exists_and_left]
  refine exists_congr fun others => and_congr_right fun _ => and_congr_right fun _ => ?_
  rw [Trial.outcome_pure, Except.ok.injEq, eq_comm]

theorem filter_cons_error {query : Document} {value : Value} {rest : List Value}
    {rejection : Rejection} :
    filter query (value :: rest) = .error rejection ↔
      explain query value = .error rejection ∨
        (∃ explanation, explain query value = .ok explanation) ∧
          filter query rest = .error rejection := by
  rw [filter, Matcher.select, Trial.outcome_bind_error]
  refine or_congr Iff.rfl ?_
  rw [← exists_and_right]
  refine exists_congr fun explanation => and_congr_right fun _ => ?_
  rw [Trial.outcome_bind_pure, map_eq_error]
  rfl

/-- A filter keeps the values for which the query holds, if none is rejected. -/
theorem filter_eq_ok_iff {query : Document} {values selected : List Value} :
    filter query values = .ok selected ↔
      (∀ value ∈ values, (verdict? query value).isSome) ∧
        selected = values.filter fun value => verdict? query value = some true := by
  induction values generalizing selected with
  | nil =>
      exact ⟨fun h => ⟨List.forall_mem_nil _, (Except.ok.inj h).symm⟩, fun ⟨_, h⟩ => h ▸ rfl⟩
  | cons value rest ih =>
      rw [filter_cons_ok, List.forall_mem_cons, verdict?_isSome_iff]
      constructor
      · rintro ⟨explanation, others, hok, hothers, rfl⟩
        obtain ⟨hrest, rfl⟩ := ih.1 hothers
        refine ⟨⟨⟨explanation, hok⟩, hrest⟩, ?_⟩
        simp [List.filter_cons, verdict?_of_ok hok]
      · rintro ⟨⟨⟨explanation, hok⟩, hrest⟩, rfl⟩
        refine ⟨explanation, _, hok, ih.2 ⟨hrest, rfl⟩, ?_⟩
        simp [List.filter_cons, verdict?_of_ok hok]

/-- A filter ends with the rejection of the first value that is rejected. -/
theorem filter_eq_error_iff {query : Document} {values : List Value} {rejection : Rejection} :
    filter query values = .error rejection ↔
      ∃ before value after, values = before ++ value :: after ∧
        (∀ other ∈ before, (verdict? query other).isSome) ∧
        explain query value = .error rejection := by
  induction values with
  | nil =>
      change Except.ok [] = .error rejection ↔ _
      simp
  | cons first rest ih =>
      rw [filter_cons_error, ih, ← verdict?_isSome_iff]
      constructor
      · rintro (herror | ⟨hfirst, before, value, after, rfl, hbefore, herror⟩)
        · exact ⟨[], first, rest, rfl, List.forall_mem_nil _, herror⟩
        · refine ⟨first :: before, value, after, rfl, ?_, herror⟩
          exact List.forall_mem_cons.2 ⟨hfirst, hbefore⟩
      · rintro ⟨before, value, after, hsplit, hbefore, herror⟩
        cases before with
        | nil =>
            obtain ⟨rfl, rfl⟩ := List.cons.inj hsplit
            exact .inl herror
        | cons other others =>
            obtain ⟨rfl, rfl⟩ := List.cons.inj hsplit
            obtain ⟨hfirst, hrest⟩ := List.forall_mem_cons.1 hbefore
            exact .inr ⟨hfirst, others, value, after, rfl, hrest, herror⟩

/-! ### Several queries in turn -/

/-- Filters with each query in turn what the queries before it have left. -/
def filterInTurn : List Document → List Value → Except Rejection (List Value)
  | [], values => .ok values
  | query :: rest, values => do
    let left ← filter query values
    filterInTurn rest left

/-- The verdict on a value that queries are put to in turn, up to the first that does not hold. -/
def verdictInTurn? : List Document → Value → Option Bool
  | [], _ => some true
  | query :: rest, value => do
    if ← verdict? query value then verdictInTurn? rest value else some false

section

variable {query : Document} {rest : List Document} {value : Value}

theorem verdictInTurn?_cons_eq_true :
    verdictInTurn? (query :: rest) value = some true ↔
      verdictInTurn? rest value = some true ∧ verdict? query value = some true := by
  rw [verdictInTurn?]
  cases verdict? query value with
  | none => simp
  | some holds => cases holds <;> simp

/-- A query is put to a value only where the query before it holds. -/
theorem verdictInTurn?_cons_isSome :
    (verdictInTurn? (query :: rest) value).isSome ↔
      (verdict? query value).isSome ∧
        (verdict? query value = some true → (verdictInTurn? rest value).isSome) := by
  rw [verdictInTurn?]
  cases verdict? query value with
  | none => simp
  | some holds => cases holds <;> simp

theorem filterInTurn_cons_ok {values selected : List Value} :
    filterInTurn (query :: rest) values = .ok selected ↔
      ∃ left, filter query values = .ok left ∧ filterInTurn rest left = .ok selected := by
  rw [filterInTurn]
  cases filter query values with
  | error rejection => exact iff_of_false nofun fun ⟨_, hleft, _⟩ => nomatch hleft
  | ok left => exact ⟨fun h => ⟨left, rfl, h⟩, fun ⟨_, hleft, h⟩ => Except.ok.inj hleft ▸ h⟩

end

/-- Filtering in turn keeps the values for which all queries hold, if none is rejected by the first
query that does not hold of it, or by one before that. -/
theorem filterInTurn_eq_ok_iff {queries : List Document} {values selected : List Value} :
    filterInTurn queries values = .ok selected ↔
      (∀ value ∈ values, (verdictInTurn? queries value).isSome) ∧
        selected = values.filter fun value => verdictInTurn? queries value = some true := by
  induction queries generalizing values selected with
  | nil => simp [filterInTurn, verdictInTurn?, eq_comm]
  | cons query rest ih =>
      simp only [filterInTurn_cons_ok, filter_eq_ok_iff, ih, verdictInTurn?_cons_isSome,
        verdictInTurn?_cons_eq_true, Bool.decide_and, ← List.filter_filter]
      constructor
      · rintro ⟨_, ⟨hfirst, rfl⟩, hrest, rfl⟩
        refine ⟨fun value hmem => ⟨hfirst value hmem, fun hholds => hrest value ?_⟩, rfl⟩
        exact List.mem_filter.2 ⟨hmem, decide_eq_true hholds⟩
      · rintro ⟨hall, rfl⟩
        refine ⟨_, ⟨fun value hmem => (hall value hmem).1, rfl⟩, fun value hmem => ?_, rfl⟩
        obtain ⟨hvalue, hholds⟩ := List.mem_filter.1 hmem
        exact (hall value hvalue).2 (of_decide_eq_true hholds)

/-! ### Clauses -/

/-- Clauses that must all hold have the verdict of their queries put to the value in turn. -/
theorem verdictOf?_decide_and {α : Type} {outcome : α → Except Rejection Explanation}
    {query : α → Document} {value : Value} {places : List α}
    (h : ∀ place ∈ places, verdictOf? (outcome place) = verdict? (query place) value) :
    verdictOf? (Junction.and.decide (places.map outcome)) =
      verdictInTurn? (places.map query) value := by
  induction places with
  | nil => rfl
  | cons place rest ih =>
      obtain ⟨hfirst, hrest⟩ := List.forall_mem_cons.1 h
      have hdecides : (Junction.and == Junction.or) = false := rfl
      rw [List.map_cons, List.map_cons, verdictInTurn?, ← hfirst, ← ih hrest]
      cases outcome place with
      | error rejection => rfl
      | ok first =>
          rw [Junction.decide, hdecides]
          by_cases hfailed : first.matched = false
          · rw [if_pos hfailed]
            simp [verdictOf?, hfailed]
          · rw [if_neg hfailed]
            rw [Bool.not_eq_false] at hfailed
            cases Junction.and.decide (rest.map outcome) with
            | error rejection => simp [verdictOf?, Except.map, hfailed]
            | ok others =>
                simp only [verdictOf?, Except.map]
                split <;> simp [hfailed]

/-- Where an evaluation starts makes no difference to its verdict. -/
theorem verdictOf?_relocate (trial : Trial Explanation) (origin : Position) :
    verdictOf? (trial.relocate origin (Explanation.under · origin)).outcome =
      verdictOf? trial.outcome := by
  cases h : trial.outcome with
  | ok explanation =>
      rw [Trial.relocate_of_ok h]
      rfl
  | error rejection =>
      rw [Trial.relocate_of_error h]
      rfl

theorem verdict?_clauses {queries : List Document}
    (hdepth : ∀ query ∈ queries, queryDepth query ≤ 99) (value : Value) :
    verdict? [("$and", .array (queries.map .document))] value = verdictInTurn? queries value := by
  have hclauses := outcome_evaluate_ofClauses (p := .root) (by decide) .and queries value
  have hplaces : ∀ place ∈ queries.zipIdx, verdictOf?
      ((Query.ofDocument place.1).evaluate value
        ((Position.root.descend.withQuery "$and").withQuery (Path.element place.2))).outcome =
      verdict? place.1 value := by
    rintro ⟨query, index⟩ hmem
    have hroom := Nat.add_le_add_left (hdepth query (List.fst_mem_of_mem_zipIdx hmem)) 1
    rw [Query.ofDocument_evaluate_eq_relocate hroom]
    exact verdictOf?_relocate _ _
  have hverdict := verdictOf?_decide_and hplaces
  rw [List.zipIdx_map_fst] at hverdict
  exact (congrArg verdictOf? hclauses).trans hverdict

/-- A filter keeps the values for which its query holds, each as often as it comes and in their
order, unless there is a value that is rejected; then it ends with the rejection of the first one.
And clauses that must all hold may be put to the values in turn instead. -/
theorem filter_exact_and_in_turn :
    (∀ query values,
      (∀ selected, filter query values = .ok selected ↔
        (∀ value ∈ values, ∃ explanation, explain query value = .ok explanation) ∧
          selected = values.filter fun value => verdict? query value = some true) ∧
      ∀ rejection, filter query values = .error rejection ↔
        ∃ before value after, values = before ++ value :: after ∧
          (∀ other ∈ before, ∃ explanation, explain query other = .ok explanation) ∧
          explain query value = .error rejection) ∧
    ∀ queries : List Document, (∀ query ∈ queries, queryDepth query ≤ 99) →
      ∀ values selected, filter [("$and", .array (queries.map .document))] values = .ok selected ↔
        filterInTurn queries values = .ok selected := by
  simp only [← verdict?_isSome_iff]
  refine ⟨fun query values => ⟨fun _ => filter_eq_ok_iff, fun _ => filter_eq_error_iff⟩, ?_⟩
  intro queries hdepth values selected
  rw [filter_eq_ok_iff, filterInTurn_eq_ok_iff]
  simp only [verdict?_clauses hdepth]

/-- The second query is rejected by two of the values, of which the first query does not hold. -/
theorem filter_exact_and_in_turn_rejected :
    (∀ query ∈ [[("a", .null)], [("b", .document [("$elemMatch", .document [])])]],
      queryDepth query ≤ 99) ∧
    filter [("$and", .array [.document [("a", .null)],
          .document [("b", .document [("$elemMatch", .document [])])]])]
        [.document [("a", .null), ("b", .array [.null])], .document [("b", .null)],
          .document [("a", .null), ("b", .array [])], .document [("b", .bool true)],
          .document [("a", .null), ("b", .array [.null])]] =
      .ok [.document [("a", .null), ("b", .array [.null])],
        .document [("a", .null), ("b", .array [.null])]] ∧
    filter [("b", .document [("$elemMatch", .document [])])]
        [.document [("a", .null), ("b", .array [.null])], .document [("b", .null)],
          .document [("b", .bool true)]] =
      .error (.notAnArray .elemMatch "b") := by
  have hdepth : ∀ query ∈ [[("a", .null)], [("b", .document [("$elemMatch", .document [])])]],
      queryDepth query ≤ 99 := by decide
  have hfirst : explain [("b", .document [("$elemMatch", .document [])])]
      (.document [("a", .null), ("b", .array [.null])]) =
        .ok ⟨true, [⟨"b.[0]", "b.$elemMatch", .hasNoKeys⟩]⟩ := by decide
  refine ⟨hdepth, (filter_exact_and_in_turn.2 _ hdepth _ _).2 rfl,
    ((filter_exact_and_in_turn.1 _ _).2 _).2 ⟨[_], _, [_], rfl, ?_, rfl⟩⟩
  exact List.forall_mem_singleton.2 ⟨_, hfirst⟩

end Verdict
