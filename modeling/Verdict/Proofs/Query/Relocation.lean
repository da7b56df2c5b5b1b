import Mathlib.Data.List.Basic
import Verdict.Matcher
import Verdict.Proofs.Path
import Verdict.Proofs.Trial

/-!
# Evaluating from another place

An evaluation only ever extends the paths that it starts with. So what it finds from one place is
what it finds from the root, with the paths of that place in front of every path in it:
`evaluate_under` says so of the whole trial, reasons, rejection and journal, for a start at any
depth. Joining paths is associative without conditions, so empty keys and empty paths need no care.
-/

namespace Verdict

variable {α β γ δ : Type}

/-! ### Below an origin -/

/-- A place found from the root, as it is called from outside: its paths go on from an origin. -/
def Position.under (p origin : Position) : Position :=
  ⟨Path.join origin.propertyPath p.propertyPath, Path.join origin.queryPath p.queryPath, p.depth⟩

def Reason.under (r : Reason) (origin : Position) : Reason :=
  ⟨Path.join origin.propertyPath r.propertyPath, Path.join origin.queryPath r.queryPath, r.kind⟩

def Explanation.under (e : Explanation) (origin : Position) : Explanation :=
  ⟨e.matched, e.reasons.map (·.under origin)⟩

/-- Depths are counted and not named by a path, so they stay. -/
def Rejection.under (origin : Position) : Rejection → Rejection
  | invalidOperator name queryPath => .invalidOperator name (Path.join origin.queryPath queryPath)
  | invalidPayload operator expected queryPath =>
    .invalidPayload operator expected (Path.join origin.queryPath queryPath)
  | nonPrimitiveElement operator index queryPath =>
    .nonPrimitiveElement operator index (Path.join origin.queryPath queryPath)
  | notAnArray operator propertyPath =>
    .notAnArray operator (Path.join origin.propertyPath propertyPath)
  | depthExceeded depth limit => .depthExceeded depth limit

def Event.under (origin : Position) : Event → Event
  | dispatch operator propertyPath queryPath =>
    .dispatch operator (Path.join origin.propertyPath propertyPath)
      (Path.join origin.queryPath queryPath)
  | rejected rejection => .rejected (rejection.under origin)

/-- A trial below an origin, journal and rejection included, and its result changed by a function. -/
def Trial.relocate (trial : Trial α) (origin : Position) (f : α → β) : Trial β where
  journal := trial.journal.map (Event.under origin)
  outcome := match trial.outcome with
    | .ok a => .ok (f a)
    | .error rejection => .error (rejection.under origin)

/-! ### Trials below an origin -/

namespace Trial

variable {origin : Position}

theorem relocate_of_ok {trial : Trial α} {a : α} (h : trial.outcome = .ok a) (f : α → β) :
    trial.relocate origin f = ⟨trial.journal.map (Event.under origin), .ok (f a)⟩ := by
  rw [relocate, h]

theorem relocate_of_error {trial : Trial α} {rejection : Rejection}
    (h : trial.outcome = .error rejection) (f : α → β) :
    trial.relocate origin f =
      ⟨trial.journal.map (Event.under origin), .error (rejection.under origin)⟩ := by
  rw [relocate, h]

/-- Steps that are each taken below an origin are taken below it together. -/
theorem bind_relocate {first : Trial α} {first' : Trial β} {next : α → Trial γ}
    {next' : β → Trial δ} {f : α → β} {g : γ → δ} (hfirst : first' = first.relocate origin f)
    (hnext : ∀ a, next' (f a) = (next a).relocate origin g) :
    (first' >>= next') = (first >>= next).relocate origin g := by
  rw [hfirst]
  change Trial.bind _ next' = (Trial.bind first next).relocate origin g
  cases h : first.outcome with
  | ok a =>
      rw [relocate_of_ok h]
      simp only [Trial.bind, h, hnext, relocate, List.map_append]
  | error rejection =>
      rw [relocate_of_error h]
      simp only [Trial.bind, h, relocate]

theorem each_relocate {run : α → Trial β} {run' : α → Trial γ} {f : β → γ}
    (h : ∀ a, run' a = (run a).relocate origin f) (as : List α) :
    each run' as = (each run as).relocate origin (List.map f) := by
  induction as with
  | nil => rfl
  | cons a rest ih =>
      refine bind_relocate (h a) fun b => ?_
      exact bind_relocate ih fun bs => rfl

end Trial

/-! ### Places below an origin -/

namespace Position

variable (p origin : Position)

theorem withQuery_under (segment : String) :
    (p.under origin).withQuery segment = (p.withQuery segment).under origin := by
  simp only [withQuery, under, Path.join_assoc]

theorem withProperty_under (segment : String) :
    (p.under origin).withProperty segment = (p.withProperty segment).under origin := by
  simp only [withProperty, under, Path.join_assoc]

theorem extend_under (property query : String) :
    (p.under origin).extend property query = (p.extend property query).under origin := by
  rw [extend, extend, withProperty_under, withQuery_under]

theorem enter_under :
    (p.under origin).enter = p.enter.relocate origin (Position.under · origin) := by
  rw [enter, enter]
  change (if maxDepth < p.descend.depth then _ else _) = _
  split <;> rfl

theorem dispatch_under (condition : Condition) :
    condition.dispatch (p.under origin) =
      (condition.dispatch p).relocate origin (Position.under · origin) := by
  rw [Condition.dispatch, Condition.dispatch]
  cases condition.operator? with
  | none => rfl
  | some operator =>
      refine Trial.bind_relocate (f := id) rfl fun _ => ?_
      exact congrArg pure (p.withQuery_under origin operator.name)

end Position

theorem PayloadFault.rejection_under (fault : PayloadFault) (operator : Operator)
    (p origin : Position) :
    fault.rejection operator (p.under origin).queryPath =
      (fault.rejection operator p.queryPath).under origin := by
  cases fault <;> rfl

namespace Explanation

variable (origin : Position)

theorem flatMap_under (parts : List Explanation) :
    (parts.map (·.under origin)).flatMap (·.reasons) =
      (parts.flatMap (·.reasons)).map (·.under origin) := by
  rw [List.flatMap_map, List.map_flatMap]
  rfl

theorem all_under (parts : List Explanation) :
    all (parts.map (·.under origin)) = (all parts).under origin := by
  have hall : (parts.map (·.under origin)).all (·.matched) = parts.all (·.matched) := List.all_map
  have hfailed : (parts.map (·.under origin)).filter (!·.matched) =
    (parts.filter (!·.matched)).map (·.under origin) := List.filter_map
  rw [all, all, hall, hfailed, flatMap_under, flatMap_under, apply_ite (Explanation.under · origin)]
  rfl

theorem any_under (parts : List Explanation) :
    any (parts.map (·.under origin)) = (any parts).under origin := by
  have hany : (parts.map (·.under origin)).any (·.matched) = parts.any (·.matched) := List.any_map
  have hheld : (parts.map (·.under origin)).filter (·.matched) =
    (parts.filter (·.matched)).map (·.under origin) := List.filter_map
  rw [any, any, hany, hheld, flatMap_under, flatMap_under, apply_ite (Explanation.under · origin)]
  rfl

end Explanation

/-! ### Evaluations below an origin -/

section

variable (origin : Position)

mutual

theorem Query.evaluate_under (query : Query) (value : Value) (p : Position) :
    query.evaluate value (p.under origin) =
      (query.evaluate value p).relocate origin (Explanation.under · origin) := by
  match query with
  | .all conditions =>
      rw [Query.evaluate, Query.evaluate]
      refine Trial.bind_relocate (p.enter_under origin) fun q => ?_
      split
      · rfl
      · refine Trial.bind_relocate (evaluateConditions_under conditions value q) fun parts => ?_
        exact congrArg pure (Explanation.all_under origin parts)
termination_by structural query

theorem evaluateConditions_under (conditions : List Condition) (value : Value) (p : Position) :
    evaluateConditions conditions value (p.under origin) =
      (evaluateConditions conditions value p).relocate origin
        (List.map (Explanation.under · origin)) := by
  match conditions with
  | [] => rfl
  | condition :: rest =>
      rw [evaluateConditions, evaluateConditions]
      refine Trial.bind_relocate (condition.evaluate_under value p) fun part => ?_
      exact Trial.bind_relocate (evaluateConditions_under rest value p) fun parts => rfl
termination_by structural conditions

theorem Condition.evaluate_under (condition : Condition) (value : Value) (p : Position) :
    condition.evaluate value (p.under origin) =
      (condition.evaluate value p).relocate origin (Explanation.under · origin) := by
  match condition with
  | .unknownOperator name =>
      rw [Condition.evaluate, Condition.evaluate, Position.under, Path.join_assoc]
      rfl
  | .malformed operator fault =>
      rw [Condition.evaluate, Condition.evaluate]
      refine Trial.bind_relocate (p.dispatch_under origin _) fun q => ?_
      rw [fault.rejection_under]
      rfl
  | .leaf field expected =>
      rw [Condition.evaluate, Condition.evaluate, Position.extend_under]
      cases field.value? value <;> rfl
  | .node field query =>
      rw [Condition.evaluate, Condition.evaluate, Position.extend_under]
      cases field.value? value with
      | none => rfl
      | some found => exact query.evaluate_under found _
  | .clauses junction queries =>
      rw [Condition.evaluate, Condition.evaluate]
      refine Trial.bind_relocate (p.dispatch_under origin _) fun q => ?_
      exact evaluateClauses_under queries junction value q 0
  | .negation query =>
      rw [Condition.evaluate, Condition.evaluate]
      refine Trial.bind_relocate (p.dispatch_under origin _) fun q => ?_
      exact Trial.bind_relocate (query.evaluate_under value q) fun explanation => rfl
  | .test leafTest operand =>
      rw [Condition.evaluate, Condition.evaluate]
      exact Trial.bind_relocate (p.dispatch_under origin _) fun q => rfl
  | .membership wanted candidates =>
      rw [Condition.evaluate, Condition.evaluate]
      exact Trial.bind_relocate (p.dispatch_under origin _) fun q => rfl
  | .element query =>
      rw [Condition.evaluate, Condition.evaluate]
      refine Trial.bind_relocate (p.dispatch_under origin _) fun q => ?_
      split
      · rfl
      · refine Trial.bind_relocate (f := List.map (Explanation.under · origin)) ?_ fun parts => ?_
        · apply Trial.each_relocate
          rintro ⟨item, index⟩
          dsimp only
          rw [Position.withProperty_under]
          exact query.evaluate_under item _
        · exact congrArg pure (Explanation.any_under origin parts)
      · rfl
termination_by structural condition

theorem evaluateClauses_under (queries : List Query) (junction : Junction) (value : Value)
    (p : Position) (index : Nat) :
    evaluateClauses junction queries value (p.under origin) index =
      (evaluateClauses junction queries value p index).relocate origin
        (Explanation.under · origin) := by
  match queries with
  | [] => rfl
  | query :: rest =>
      rw [evaluateClauses, evaluateClauses, Position.withQuery_under]
      refine Trial.bind_relocate (query.evaluate_under value _) fun first => ?_
      rw [show (first.under origin).matched = first.matched from rfl]
      split
      · rfl
      · have hrest := evaluateClauses_under rest junction value p (index + 1)
        refine Trial.bind_relocate hrest fun others => ?_
        rw [show (others.under origin).matched = others.matched from rfl]
        split
        · rfl
        · change pure (⟨_, _⟩ : Explanation) = pure (⟨_, _⟩ : Explanation)
          rw [Explanation.under, Explanation.under, ← List.map_append]
termination_by structural queries

end

end

/-! ### Places that an evaluation may start from -/

/-- The places that are reached from the root by naming segments. -/
inductive Position.Reachable : Position → Prop
  | root : Reachable .root
  | withProperty {p : Position} (segment : String) (h : Reachable p) :
      Reachable (p.withProperty segment)
  | withQuery {p : Position} (segment : String) (h : Reachable p) : Reachable (p.withQuery segment)
  | extend {p : Position} (property query : String) (h : Reachable p) :
      Reachable (p.extend property query)

/-- No node is entered by naming a segment. -/
theorem Position.Reachable.depth_eq {p : Position} (h : p.Reachable) : p.depth = 0 := by
  induction h with
  | root => rfl
  | withProperty segment _ ih => exact ih
  | withQuery segment _ ih => exact ih
  | extend property query _ ih => exact ih

/-- A place is the root below that place, except that nodes are counted from there. -/
theorem Position.root_under (p : Position) : root.under p = { p with depth := 0 } := by
  simp only [under, root, Path.join_empty_right]

/-- An evaluation from a place finds what an evaluation from the root finds, below that place: the
same verdict and kinds of reasons in the same order, or the same rejection, and the same journal. -/
theorem evaluateFrom_eq_relocate {p : Position} (h : p.Reachable) (query : Document)
    (value : Value) :
    evaluateFrom query value p =
      (evaluateFrom query value .root).relocate p (Explanation.under · p) := by
  have hroot : Position.root.under p = p := by
    rw [Position.root_under, ← h.depth_eq]
  have hunder := (Query.ofDocument query).evaluate_under p value .root
  rwa [hroot] at hunder

/-- The second element is a document that holds null under `a.b`, so the reason comes from the first
one alone. An empty key adds nothing to either path. -/
theorem evaluateFrom_eq_relocate_element :
    (Position.root.extend "x" "q").Reachable ∧
    (evaluateFrom [("", .document [("$elemMatch", .document [("$not", .document [("a.b", .null)])])])]
        (.document [("", .array [.null, .document [("a", .document [("b", .null)])]])]) .root).outcome =
      .ok ⟨true, [⟨"[0].a.b", "$elemMatch.$not.\"a.b\"", .equal⟩]⟩ ∧
    evaluateFrom [("", .document [("$elemMatch", .document [("$not", .document [("a.b", .null)])])])]
        (.document [("", .array [.null, .document [("a", .document [("b", .null)])]])])
        (Position.root.extend "x" "q") =
      (evaluateFrom [("", .document [("$elemMatch", .document [("$not", .document [("a.b", .null)])])])]
        (.document [("", .array [.null, .document [("a", .document [("b", .null)])]])])
        .root).relocate (Position.root.extend "x" "q")
          (Explanation.under · (Position.root.extend "x" "q")) :=
  ⟨.extend "x" "q" .root, by decide, evaluateFrom_eq_relocate (.extend "x" "q" .root) _ _⟩

end Verdict
