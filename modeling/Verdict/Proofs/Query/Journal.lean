import Mathlib.Data.List.Flatten
import Verdict.Log
import Verdict.Proofs.Query.Rejections

/-!
# What is written to the journal

An evaluation writes every operator that it applies, and last, if it is rejected, the rejection.
`Trial.Logs` says so of a trial, together with what its result has to do with its journal, and is
closed under the ways in which trials are composed. Whatever reason could only come from an operator
is backed by what the journal says of that operator (`Explanation.IsLogged`).

A check applies no operator, so it writes the rejection that it ends with or nothing
(`Trial.Checks`). Here the two differ: the journal of a check has no word of a negated array.
-/

namespace Verdict

/-- The event is the application of an operator. -/
def Event.isDispatch : Event → Bool
  | dispatch .. => true
  | rejected _ => false

/-! ### Journals of composed trials -/

namespace Trial

variable {α β : Type}

theorem journal_bind_of_ok {first : Trial α} {a : α} (h : first.outcome = .ok a)
    (next : α → Trial β) : (first >>= next).journal = first.journal ++ (next a).journal := by
  change (Trial.bind first next).journal = _
  simp only [Trial.bind, h]

theorem journal_bind_of_error {first : Trial α} {rejection : Rejection}
    (h : first.outcome = .error rejection) (next : α → Trial β) :
    (first >>= next).journal = first.journal := by
  change (Trial.bind first next).journal = _
  simp only [Trial.bind, h]

/-- Only applications of operators are written, and last, if the trial is rejected, the rejection.
What the trial ends well with fits what was written. -/
inductive Logs (trial : Trial α) (post : List Event → α → Prop) : Prop
  | ok {a : α} (houtcome : trial.outcome = .ok a)
      (hdispatches : ∀ event ∈ trial.journal, event.isDispatch = true) (h : post trial.journal a)
  | rejected {rejection : Rejection} {dispatches : List Event}
      (houtcome : trial.outcome = .error rejection)
      (hdispatches : ∀ event ∈ dispatches, event.isDispatch = true)
      (hjournal : trial.journal = dispatches ++ [.rejected rejection])

theorem logs_reject (rejection : Rejection) (post : List Event → α → Prop) :
    (reject rejection : Trial α).Logs post := .rejected rfl (List.forall_mem_nil _) rfl

namespace Logs

variable {mid : List Event → α → Prop} {post : List Event → β → Prop}

theorem pure {b : β} (h : post [] b) : (Pure.pure b : Trial β).Logs post :=
  .ok rfl (List.forall_mem_nil _) h

theorem mono {trial : Trial β} {weaker : List Event → β → Prop} (h : trial.Logs post)
    (himp : ∀ journal b, post journal b → weaker journal b) : trial.Logs weaker := by
  cases h with
  | ok houtcome hdispatches hpost => exact .ok houtcome hdispatches (himp _ _ hpost)
  | rejected houtcome hdispatches hjournal => exact .rejected houtcome hdispatches hjournal

/-- The second trial continues the journal of the first. -/
theorem bind {first : Trial α} {next : α → Trial β} (hfirst : first.Logs mid)
    (hnext : ∀ earlier a, mid earlier a →
      (next a).Logs fun later b => post (earlier ++ later) b) :
    (first >>= next).Logs post := by
  cases hfirst with
  | rejected houtcome hdispatches hjournal =>
      exact .rejected (outcome_bind_of_error houtcome next) hdispatches
        ((journal_bind_of_error houtcome next).trans hjournal)
  | ok houtcome hdispatches hmid =>
      have hjournal := journal_bind_of_ok houtcome next
      cases hnext _ _ hmid with
      | ok hb hlater hpost =>
          refine .ok ((outcome_bind_of_ok houtcome next).trans hb) ?_ ?_
          · rw [hjournal]
            exact List.forall_mem_append.2 ⟨hdispatches, hlater⟩
          · rw [hjournal]
            exact hpost
      | rejected hb hlater htail =>
          -- the first trial wrote no rejection, so that of the second is the only one
          refine .rejected ((outcome_bind_of_ok houtcome next).trans hb)
            (List.forall_mem_append.2 ⟨hdispatches, hlater⟩) ?_
          rw [hjournal, htail, List.append_assoc]

/-- A last step that only changes the result writes nothing. -/
theorem bind_pure {first : Trial α} {f : α → β}
    (h : first.Logs fun journal a => post journal (f a)) :
    (first >>= fun a => Pure.pure (f a)).Logs post := by
  refine h.bind ?_
  intro journal a ha
  refine .pure ?_
  rwa [List.append_nil]

/-- Results that fit their own parts of the journal fit the whole of it, if writing more does not
spoil that. -/
theorem cons {first : Trial β} {others : Trial (List β)} (hfirst : first.Logs post)
    (hothers : others.Logs fun journal bs => ∀ b ∈ bs, post journal b)
    (hmore : ∀ {journal more b}, journal ⊆ more → post journal b → post more b) :
    (do let b ← first; let bs ← others; Pure.pure (b :: bs) : Trial (List β)).Logs
      fun journal bs => ∀ b ∈ bs, post journal b := by
  refine hfirst.bind ?_
  intro earlier b hb
  refine (hothers.mono ?_).bind_pure
  intro later bs hbs
  refine List.forall_mem_cons.2 ⟨hmore (List.subset_append_left _ _) hb, ?_⟩
  exact fun other hmem => hmore (List.subset_append_right _ _) (hbs other hmem)

theorem each {run : α → Trial β} (h : ∀ a, (run a).Logs post)
    (hmore : ∀ {journal more b}, journal ⊆ more → post journal b → post more b) (as : List α) :
    (Trial.each run as).Logs fun journal bs => ∀ b ∈ bs, post journal b := by
  induction as with
  | nil => exact .pure (List.forall_mem_nil _)
  | cons a rest ih => exact (h a).cons ih hmore

end Logs

end Trial

/-! ### Reasons that only operators give -/

/-- If only an operator can have given the reason, the journal has an operator applied where the
reason lies in the value, and the reason lies in the query where the name of that operator leads. -/
def Reason.IsLogged (reason : Reason) (journal : List Event) : Prop :=
  reason.kind ∈ [.notEqual, .inSet, .notInSet, .inequality, .elementMatch] →
    ∃ operator queryPath, .dispatch operator reason.propertyPath queryPath ∈ journal ∧
      Path.join queryPath operator.name = reason.queryPath

namespace Explanation

def IsLogged (explanation : Explanation) (journal : List Event) : Prop :=
  ∀ reason ∈ explanation.reasons, reason.IsLogged journal

variable {journal more : List Event}

theorem IsLogged.mono {explanation : Explanation} (hsubset : journal ⊆ more)
    (h : explanation.IsLogged journal) : explanation.IsLogged more := by
  intro reason hmem hkind
  obtain ⟨operator, queryPath, hdispatch, hpath⟩ := h reason hmem hkind
  exact ⟨operator, queryPath, hsubset hdispatch, hpath⟩

theorem isLogged_of_reasons_sublist {explanation : Explanation} {parts : List Explanation}
    (hsublist : explanation.reasons.Sublist (parts.flatMap (·.reasons)))
    (h : ∀ part ∈ parts, part.IsLogged journal) : explanation.IsLogged journal := by
  intro reason hreason
  obtain ⟨part, hpart, hmem⟩ := List.mem_flatMap.1 (hsublist.subset hreason)
  exact h part hpart reason hmem

/-- However parts are put together, their reasons are some of all their reasons. -/
theorem all_reasons_sublist (parts : List Explanation) :
    (all parts).reasons.Sublist (parts.flatMap (·.reasons)) := by
  rw [all]
  split
  · exact List.Sublist.refl _
  · exact List.filter_sublist.flatMap _

theorem any_reasons_sublist (parts : List Explanation) :
    (any parts).reasons.Sublist (parts.flatMap (·.reasons)) := by
  rw [any]
  split
  · exact List.filter_sublist.flatMap _
  · exact List.Sublist.refl _

end Explanation

namespace Position

/-- The reason that an operator gives once it has been applied. -/
theorem isLogged_explain_withQuery (p : Position) (operator : Operator) (kind : ReasonKind)
    (matched : Bool) (later : List Event) :
    ((p.withQuery operator.name).explain kind matched).IsLogged
      (.dispatch operator p.propertyPath p.queryPath :: later) := by
  intro reason hreason _
  obtain rfl := List.mem_singleton.1 hreason
  exact ⟨operator, p.queryPath, List.mem_cons_self, rfl⟩

theorem isLogged_explain (p : Position) {kind : ReasonKind}
    (hkind : kind ∉ [.notEqual, .inSet, .notInSet, .inequality, .elementMatch]) (matched : Bool)
    (journal : List Event) : (p.explain kind matched).IsLogged journal := by
  intro reason hreason
  obtain rfl := List.mem_singleton.1 hreason
  exact fun h => absurd h hkind

/-! ### Evaluating -/

theorem logs_enter (p : Position) : p.enter.Logs fun _ entered => entered = p.descend := by
  rw [enter]
  split
  · exact Trial.logs_reject _ _
  · exact .pure rfl

end Position

/-- Whatever follows, the operator has been written at the place where it is applied. -/
theorem Condition.logs_dispatch_bind {α : Type} {condition : Condition} {operator : Operator}
    (h : condition.operator? = some operator) {p : Position} {next : Position → Trial α}
    {post : List Event → α → Prop}
    (hnext : (next (p.withQuery operator.name)).Logs fun later a =>
      post (.dispatch operator p.propertyPath p.queryPath :: later) a) :
    (condition.dispatch p >>= next).Logs post := by
  have hdispatch : (condition.dispatch p).Logs fun journal applied =>
      journal = [.dispatch operator p.propertyPath p.queryPath] ∧
        applied = p.withQuery operator.name := by
    rw [dispatch, h]
    exact .ok rfl (List.forall_mem_singleton.2 rfl) ⟨rfl, rfl⟩
  refine hdispatch.bind ?_
  rintro _ _ ⟨rfl, rfl⟩
  exact hnext

mutual

theorem Query.logs (query : Query) (value : Value) (p : Position) :
    (query.evaluate value p).Logs fun journal explanation => explanation.IsLogged journal := by
  match query with
  | .all conditions =>
      rw [Query.evaluate]
      refine p.logs_enter.bind ?_
      rintro entering _ rfl
      split
      · exact .pure (p.descend.isLogged_explain (by decide) true _)
      · refine ((logs_conditions conditions value p.descend).mono ?_).bind_pure
        intro journal parts hparts
        refine Explanation.isLogged_of_reasons_sublist (Explanation.all_reasons_sublist parts) ?_
        exact fun part hmem => (hparts part hmem).mono (List.subset_append_right _ _)
termination_by structural query

theorem logs_conditions (conditions : List Condition) (value : Value) (p : Position) :
    (evaluateConditions conditions value p).Logs fun journal parts =>
      ∀ part ∈ parts, part.IsLogged journal := by
  match conditions with
  | [] => exact .pure (List.forall_mem_nil _)
  | condition :: rest =>
      rw [evaluateConditions]
      exact (condition.logs value p).cons (logs_conditions rest value p) Explanation.IsLogged.mono
termination_by structural conditions

theorem Condition.logs (condition : Condition) (value : Value) (p : Position) :
    (condition.evaluate value p).Logs fun journal explanation => explanation.IsLogged journal := by
  match condition with
  | .unknownOperator name => exact Trial.logs_reject _ _
  | .malformed operator fault =>
      rw [Condition.evaluate]
      exact Condition.logs_dispatch_bind rfl (Trial.logs_reject _ _)
  | .leaf field expected =>
      rw [Condition.evaluate]
      split
      · exact .pure (Position.isLogged_explain _ (by decide) _ _)
      · exact .pure (Position.isLogged_explain _ (by decide) _ _)
  | .node field query =>
      rw [Condition.evaluate]
      split
      · exact query.logs _ _
      · exact .pure (Position.isLogged_explain _ (by decide) _ _)
  | .clauses junction queries =>
      rw [Condition.evaluate]
      refine Condition.logs_dispatch_bind rfl ?_
      refine (logs_clauses queries junction value _ 0).mono ?_
      exact fun _ _ h => h.mono (List.subset_cons_self _ _)
  | .negation query =>
      rw [Condition.evaluate]
      refine Condition.logs_dispatch_bind rfl ?_
      refine ((query.logs value _).mono ?_).bind_pure
      intro journal explanation h
      -- the opposite verdict has the same reasons
      have hinvert : explanation.invert.IsLogged journal := h
      exact hinvert.mono (List.subset_cons_self _ _)
  | .test leafTest operand =>
      rw [Condition.evaluate]
      refine Condition.logs_dispatch_bind rfl ?_
      exact .pure (p.isLogged_explain_withQuery _ _ _ _)
  | .membership wanted candidates =>
      rw [Condition.evaluate]
      refine Condition.logs_dispatch_bind rfl ?_
      exact .pure (p.isLogged_explain_withQuery _ _ _ _)
  | .element query =>
      rw [Condition.evaluate]
      refine Condition.logs_dispatch_bind rfl ?_
      split
      · exact .pure (p.isLogged_explain_withQuery _ _ _ _)
      · refine ((Trial.Logs.each (fun (place : Value × Nat) => query.logs place.1 _)
          Explanation.IsLogged.mono _).mono ?_).bind_pure
        intro journal parts hparts
        refine Explanation.isLogged_of_reasons_sublist (Explanation.any_reasons_sublist parts) ?_
        exact fun part hmem => (hparts part hmem).mono (List.subset_cons_self _ _)
      · exact Trial.logs_reject _ _
termination_by structural condition

theorem logs_clauses (queries : List Query) (junction : Junction) (value : Value) (p : Position)
    (index : Nat) :
    (evaluateClauses junction queries value p index).Logs fun journal explanation =>
      explanation.IsLogged journal := by
  match queries with
  | [] => exact .pure (List.forall_mem_nil _)
  | query :: rest =>
      rw [evaluateClauses]
      refine (query.logs value _).bind ?_
      intro earlier first hfirst
      split
      · refine .pure ?_
        rwa [List.append_nil]
      · refine (logs_clauses rest junction value p (index + 1)).bind ?_
        intro later others hothers
        have hothers' := hothers.mono (List.subset_append_right earlier later)
        split
        · refine .pure ?_
          rwa [List.append_nil]
        · refine .pure ?_
          rw [List.append_nil]
          exact List.forall_mem_append.2 ⟨hfirst.mono (List.subset_append_left _ _), hothers'⟩
termination_by structural queries

end

/-- An evaluation that ends well has written the operators that it applied and nothing else, the
ones among them that its reasons name; one that is rejected has written the rejection last. -/
theorem evaluateFrom_journal (query : Document) (value : Value) (p : Position) :
    (∀ explanation, (evaluateFrom query value p).outcome = .ok explanation →
        (∀ event ∈ (evaluateFrom query value p).journal, event.isDispatch = true) ∧
          ∀ reason ∈ explanation.reasons,
            reason.kind ∈ [.notEqual, .inSet, .notInSet, .inequality, .elementMatch] →
            ∃ operator queryPath,
              .dispatch operator reason.propertyPath queryPath ∈
                (evaluateFrom query value p).journal ∧
              Path.join queryPath operator.name = reason.queryPath) ∧
      ∀ rejection, (evaluateFrom query value p).outcome = .error rejection →
        ∃ dispatches, (∀ event ∈ dispatches, event.isDispatch = true) ∧
          (evaluateFrom query value p).journal = dispatches ++ [.rejected rejection] ∧
          (Event.rejected rejection).logLine.text =
            "query rejected error=" ++ rejection.message := by
  obtain ⟨houtcome, hdispatches, hreasons⟩ | ⟨houtcome, hdispatches, hjournal⟩ :=
    (Query.ofDocument query).logs value p
  · constructor
    · intro explanation hok
      obtain rfl := Except.ok.inj (houtcome.symm.trans hok)
      exact ⟨hdispatches, hreasons⟩
    · intro rejection herror
      cases houtcome.symm.trans herror
  · constructor
    · intro explanation hok
      cases houtcome.symm.trans hok
    · intro rejection herror
      obtain rfl := Except.error.inj (houtcome.symm.trans herror)
      exact ⟨_, hdispatches, hjournal, rfl⟩

/-- A query for elements, of a list and of a value that is none. -/
theorem evaluateFrom_journal_element :
    (∃ operator queryPath,
      .dispatch operator "a.[0]" queryPath ∈
        (evaluateFrom [("a", .document [("$elemMatch", .document [("$ne", .null)])])]
          (.document [("a", .array [.bool true])]) .root).journal ∧
      Path.join queryPath operator.name = "a.$elemMatch.$ne") ∧
    ∃ dispatches, (∀ event ∈ dispatches, event.isDispatch = true) ∧
      (evaluateFrom [("a", .document [("$elemMatch", .document [("$ne", .null)])])]
          (.document [("a", .null)]) .root).journal =
        dispatches ++ [.rejected (.notAnArray .elemMatch "a")] := by
  constructor
  · obtain ⟨hok, -⟩ := evaluateFrom_journal
      [("a", .document [("$elemMatch", .document [("$ne", .null)])])]
      (.document [("a", .array [.bool true])]) .root
    obtain ⟨-, hreasons⟩ := hok ⟨true, [⟨"a.[0]", "a.$elemMatch.$ne", .notEqual⟩]⟩ (by decide)
    exact hreasons _ List.mem_cons_self (by decide)
  · obtain ⟨-, herror⟩ := evaluateFrom_journal
      [("a", .document [("$elemMatch", .document [("$ne", .null)])])]
      (.document [("a", .null)]) .root
    obtain ⟨dispatches, hdispatches, hjournal, -⟩ :=
      herror (.notAnArray .elemMatch "a") (by decide)
    exact ⟨dispatches, hdispatches, hjournal⟩

/-! ### Checking -/

/-- What a check that ends with the rejection writes: the rejection, unless it is of the payload of
a negation. -/
def Rejection.checkJournal : Rejection → List Event
  | .invalidPayload .not _ _ | .nonPrimitiveElement .not _ _ => []
  | rejection => [.rejected rejection]

namespace Trial

variable {α β : Type}

/-- The trial writes nothing but what a check writes of the rejection that it ends with. -/
inductive Checks (trial : Trial α) : Prop
  | ok {a : α} (houtcome : trial.outcome = .ok a) (hjournal : trial.journal = [])
  | rejected {rejection : Rejection} (houtcome : trial.outcome = .error rejection)
      (hjournal : trial.journal = rejection.checkJournal)

theorem checks_pure (a : α) : (pure a : Trial α).Checks := .ok rfl rfl

theorem Checks.bind {first : Trial α} {next : α → Trial β} (hfirst : first.Checks)
    (hnext : ∀ a, (next a).Checks) : (first >>= next).Checks := by
  cases hfirst with
  | rejected houtcome hjournal =>
      exact .rejected (outcome_bind_of_error houtcome next)
        ((journal_bind_of_error houtcome next).trans hjournal)
  | @ok a houtcome hjournal =>
      have hlater : (first >>= next).journal = (next a).journal := by
        rw [journal_bind_of_ok houtcome next, hjournal, List.nil_append]
      cases hnext a with
      | ok hb hnone =>
          exact .ok ((outcome_bind_of_ok houtcome next).trans hb) (hlater.trans hnone)
      | rejected hb htail =>
          exact .rejected ((outcome_bind_of_ok houtcome next).trans hb) (hlater.trans htail)

end Trial

theorem Position.checks_enter (p : Position) : p.enter.Checks := by
  rw [enter]
  split
  · exact .rejected rfl rfl
  · exact Trial.checks_pure _

theorem PayloadFault.checkJournal_rejection (fault : PayloadFault) (operator : Operator)
    (queryPath : String) :
    (fault.rejection operator queryPath).checkJournal =
      if operator = .not then [] else [.rejected (fault.rejection operator queryPath)] := by
  cases fault <;> cases operator <;> rfl

mutual

theorem Query.checks (query : Query) (p : Position) : (query.validate p).Checks := by
  match query with
  | .all conditions =>
      rw [Query.validate]
      exact p.checks_enter.bind (checks_conditions conditions)
termination_by structural query

theorem checks_conditions (conditions : List Condition) (p : Position) :
    (validateConditions conditions p).Checks := by
  match conditions with
  | [] => exact Trial.checks_pure ()
  | condition :: rest =>
      rw [validateConditions]
      exact (condition.checks p).bind fun _ => checks_conditions rest p
termination_by structural conditions

theorem Condition.checks (condition : Condition) (p : Position) :
    (condition.validate p).Checks := by
  match condition with
  | .unknownOperator name => exact .rejected rfl rfl
  | .malformed operator fault =>
      -- every other condition rejects aloud or passes
      have hjournal := fault.checkJournal_rejection operator (p.withQuery operator.name).queryPath
      rw [Condition.validate]
      split at hjournal
      · rename_i hnot
        rw [if_pos hnot]
        exact .rejected rfl hjournal.symm
      · rename_i hnot
        rw [if_neg hnot]
        exact .rejected rfl hjournal.symm
  | .leaf field expected | .test leafTest operand | .membership wanted candidates =>
      exact Trial.checks_pure ()
  | .node field query | .negation query | .element query => exact query.checks _
  | .clauses junction queries => exact checks_clauses queries _ 0
termination_by structural condition

theorem checks_clauses (queries : List Query) (p : Position) (index : Nat) :
    (validateClauses queries p index).Checks := by
  match queries with
  | [] => exact Trial.checks_pure ()
  | query :: rest =>
      rw [validateClauses]
      exact (query.checks _).bind fun _ => checks_clauses rest p (index + 1)
termination_by structural queries

end

/-- The only rejection of a query that a check does not write is that of a negated array. -/
theorem checkJournal_of_mem_rejections {query : Document} {rejection : Rejection}
    (h : rejection ∈ rejections query) :
    rejection.checkJournal = [.rejected rejection] ∨
      ∃ path, rejection = .invalidPayload .not .queryOrPrimitive path := by
  obtain ⟨visit, -, hvisit⟩ := List.mem_filterMap.1 h
  cases visit with
  | node depth =>
      obtain ⟨-, heq⟩ := Option.ite_none_right_eq_some.1 hvisit
      obtain rfl := Option.some.inj heq
      exact .inl rfl
  | key entry path =>
      rw [Visit.rejection?, entryRejection?] at hvisit
      split at hvisit
      · cases hvisit
      · split at hvisit
        · obtain rfl := Option.some.inj hvisit
          exact .inl rfl
        · rename_i operator _
          obtain ⟨fault, hfault, rfl⟩ := Option.map_eq_some_iff.1 hvisit
          by_cases hnot : operator = .not
          · subst hnot
            right
            generalize entry.2 = payload at hfault
            cases payload with
            | array items =>
                obtain rfl := Option.some.inj hfault
                exact ⟨_, rfl⟩
            | _ => cases hfault
          · left
            rw [fault.checkJournal_rejection, if_neg hnot]

/-- A check writes the rejection that it ends with and nothing else, but for a negated array, which
it rejects without a word. -/
theorem check_journal (query : Document) :
    (validate query = .ok () → (check query).journal = []) ∧
      (∀ rejection, validate query = .error rejection →
        (∀ path, rejection ≠ .invalidPayload .not .queryOrPrimitive path) →
        (check query).journal = [.rejected rejection] ∧
          (Event.rejected rejection).logLine.text = "query rejected error=" ++ rejection.message) ∧
      ∀ path, validate query = .error (.invalidPayload .not .queryOrPrimitive path) →
        (check query).journal = [] := by
  obtain ⟨houtcome, hjournal⟩ | ⟨houtcome, hjournal⟩ := (Query.ofDocument query).checks .root
  · refine ⟨fun _ => hjournal, ?_, ?_⟩
    · intro rejection herror
      cases houtcome.symm.trans herror
    · intro path herror
      cases houtcome.symm.trans herror
  · refine ⟨?_, ?_, ?_⟩
    · intro hok
      cases houtcome.symm.trans hok
    · intro rejection herror hword
      obtain rfl := Except.error.inj (houtcome.symm.trans herror)
      obtain hwritten | ⟨path, hnot⟩ :=
        checkJournal_of_mem_rejections (mem_rejections_of_validate herror)
      · exact ⟨hjournal.trans hwritten, rfl⟩
      · exact absurd hnot (hword path)
    · intro path herror
      obtain rfl := Except.error.inj (houtcome.symm.trans herror)
      exact hjournal

/-- A query that passes, an unknown operator below a field, and an array negated in a clause. -/
theorem check_journal_clause :
    (check [("a", .document [("$not", .null)])]).journal = [] ∧
      (check [("a", .document [("$where", .null)])]).journal =
        [.rejected (.invalidOperator "$where" "a.$where")] ∧
      (check [("$or", .array [.document [("$not", .array [])]])]).journal = [] :=
  ⟨(check_journal _).1 (by decide),
    ((check_journal _).2.1 (.invalidOperator "$where" "a.$where") (by decide) nofun).1,
    (check_journal _).2.2 "$or.[0].$not" (by decide)⟩

/-- A check finds that an array is negated and does not write so. -/
theorem check_journal_negated_array :
    validate [("$not", .array [.bool true])] =
        .error (.invalidPayload .not .queryOrPrimitive "$not") ∧
      (check [("$not", .array [.bool true])]).journal ≠
        [.rejected (.invalidPayload .not .queryOrPrimitive "$not")] := by
  decide

end Verdict
