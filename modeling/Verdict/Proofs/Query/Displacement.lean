import Mathlib.Data.List.MinMax
import Verdict.Proofs.Query.Depth
import Verdict.Proofs.Query.Relocation

/-!
# Evaluating in another place

The number of nodes above a query decides only whether the query still has room. Where it has, the
evaluation is the same at every depth (`Query.ignoresDepth_ofNode`), so it is the evaluation from
the root, below the place where it starts (`Query.evaluate_eq_relocate_root`). Evaluations of one
query that start in two places of the query have outcomes that are the same but for the paths of
the query, which go on alike from either place (`SameBut`).
-/

namespace Verdict

/-! ### Room for a query -/

/-- The same place below another number of nodes. -/
def Position.atDepth (p : Position) (depth : Nat) : Position := { p with depth := depth }

/-- As far as `extent` nodes one inside the other have room, the depth makes no difference. -/
def Query.IgnoresDepth (query : Query) (extent : Nat) : Prop :=
  ∀ value (p : Position) depth, p.depth + extent ≤ maxDepth → depth + extent ≤ maxDepth →
    query.evaluate value (p.atDepth depth) = query.evaluate value p

def Condition.IgnoresDepth (condition : Condition) (extent : Nat) : Prop :=
  ∀ value (p : Position) depth, p.depth + extent ≤ maxDepth → depth + extent ≤ maxDepth →
    condition.evaluate value (p.atDepth depth) = condition.evaluate value p

namespace Position

theorem enter_of_lt {p : Position} (h : p.depth < maxDepth) : p.enter = pure p.descend := by
  have hdepth : ¬ maxDepth < p.descend.depth := Nat.not_lt.2 h
  rw [enter, if_neg hdepth]

/-- The node that is entered has taken one from the room. -/
theorem room_descend {p : Position} {extent : Nat} (h : p.depth + (extent + 1) ≤ maxDepth) :
    p.descend.depth + extent ≤ maxDepth := by
  change p.depth + 1 + extent ≤ maxDepth
  omega

end Position

theorem Condition.dispatch_bind {α : Type} {condition : Condition} {operator : Operator}
    (h : condition.operator? = some operator) (p : Position) (next : Position → Trial α) :
    (condition.dispatch p >>= next) =
      (Trial.record (.dispatch operator p.propertyPath p.queryPath) >>= fun _ =>
        next (p.withQuery operator.name)) := by
  rw [dispatch, h]
  simp only [bind_assoc, pure_bind]

theorem evaluateConditions_ignoresDepth {conditions : List Condition} {extent : Nat}
    (h : ∀ condition ∈ conditions, condition.IgnoresDepth extent) (value : Value) (p : Position)
    (depth : Nat) (hroom : p.depth + extent ≤ maxDepth) (hdepth : depth + extent ≤ maxDepth) :
    evaluateConditions conditions value (p.atDepth depth) = evaluateConditions conditions value p := by
  induction conditions with
  | nil => rfl
  | cons condition rest ih =>
      obtain ⟨hfirst, hrest⟩ := List.forall_mem_cons.1 h
      rw [evaluateConditions, evaluateConditions, hfirst value p depth hroom hdepth, ih hrest]

theorem evaluateClauses_ignoresDepth {queries : List Query} {extent : Nat}
    (h : ∀ query ∈ queries, query.IgnoresDepth extent) (junction : Junction) (value : Value)
    (p : Position) (depth : Nat) (hroom : p.depth + extent ≤ maxDepth)
    (hdepth : depth + extent ≤ maxDepth) (index : Nat) :
    evaluateClauses junction queries value (p.atDepth depth) index =
      evaluateClauses junction queries value p index := by
  induction queries generalizing index with
  | nil => rfl
  | cons query rest ih =>
      obtain ⟨hfirst, hrest⟩ := List.forall_mem_cons.1 h
      have hclause := hfirst value (p.withQuery (Path.element index)) depth hroom hdepth
      change query.evaluate value ((p.atDepth depth).withQuery (Path.element index)) = _ at hclause
      rw [evaluateClauses, evaluateClauses, hclause, ih hrest]

theorem Condition.IgnoresDepth.mono {condition : Condition} {extent more : Nat}
    (hextent : extent ≤ more) (h : condition.IgnoresDepth extent) : condition.IgnoresDepth more :=
  fun value p depth hroom hdepth => h value p depth (by omega) (by omega)

theorem Query.IgnoresDepth.mono {query : Query} {extent more : Nat} (hextent : extent ≤ more)
    (h : query.IgnoresDepth extent) : query.IgnoresDepth more :=
  fun value p depth hroom hdepth => h value p depth (by omega) (by omega)

theorem depthOfEntry_le_of_mem {node payload : Value} {key : String}
    (h : (key, payload) ∈ node.nodeEntries) : depthOfEntry key payload ≤ depthOfNode node :=
  List.le_max_of_le' 0 (List.mem_map.2 ⟨_, h, rfl⟩) (Nat.le_refl _)

private theorem ignoresDepth_ofNode_of_children {node : Value}
    (h : ∀ child ∈ node.children, ∀ key,
      (Condition.read (key, child)).IgnoresDepth (depthOfEntry key child)) :
    (Query.ofNode node).IgnoresDepth (depthOfNode node + 1) := by
  intro value p depth hroom hdepth
  have hentries : ∀ condition ∈ node.nodeEntries.map Condition.read,
      condition.IgnoresDepth (depthOfNode node) := by
    refine List.forall_mem_map.2 ?_
    rintro ⟨key, payload⟩ hmem
    exact (h payload (Value.mem_children_of_mem_nodeEntries hmem) key).mono
      (depthOfEntry_le_of_mem hmem)
  have hp : p.depth < maxDepth := by omega
  have hat : (p.atDepth depth).depth < maxDepth := by
    change depth < maxDepth
    omega
  rw [Query.ofNode, Query.evaluate, Query.evaluate, Position.enter_of_lt hp,
    Position.enter_of_lt hat, pure_bind, pure_bind]
  -- a node enters one more at either depth, and its keys have one less to go
  have hconditions := evaluateConditions_ignoresDepth hentries value p.descend (depth + 1)
    (Position.room_descend hroom) (by omega)
  change evaluateConditions _ value (p.atDepth depth).descend = _ at hconditions
  rw [hconditions]
  rfl

private theorem ignoresDepth_read_of_nodes {payload : Value}
    (hpayload : (Query.ofNode payload).IgnoresDepth (depthOfNode payload + 1))
    (hchildren : ∀ child ∈ payload.children,
      (Query.ofNode child).IgnoresDepth (depthOfNode child + 1))
    (key : String) :
    (Condition.read (key, payload)).IgnoresDepth (depthOfEntry key payload) := by
  obtain ⟨condition, hcondition, hread⟩ := exists_reading key payload
  rw [hcondition]
  intro value p depth hroom hdepth
  cases hread with
  | leaf hkey hleaf =>
      rw [Condition.evaluate, Condition.evaluate]
      rfl
  | @node field _ hkey hnode =>
      rw [depthOfEntry_node hkey hnode] at hroom hdepth
      rw [Condition.evaluate, Condition.evaluate]
      cases field.value? value with
      | none => rfl
      | some found => exact hpayload found (p.extend field.property field.query) depth hroom hdepth
  | unknownOperator hkey hname => rfl
  | malformed hkey hfault =>
      rw [Condition.evaluate, Condition.evaluate, Condition.dispatch_bind rfl,
        Condition.dispatch_bind rfl]
      rfl
  | @clauses junction items hkey hclauses =>
      rw [depthOfEntry_clauses hkey hclauses] at hroom hdepth
      have hqueries : ∀ query ∈ items.map Query.ofNode, query.IgnoresDepth
          ((items.map fun item => depthOfNode item + 1).foldr max 0) := by
        refine List.forall_mem_map.2 fun item hmem => (hchildren item hmem).mono ?_
        exact List.le_max_of_le' 0 (List.mem_map.2 ⟨item, hmem, rfl⟩) (Nat.le_refl _)
      rw [Condition.evaluate, Condition.evaluate, Condition.dispatch_bind rfl,
        Condition.dispatch_bind rfl]
      refine bind_congr fun _ => ?_
      exact evaluateClauses_ignoresDepth hqueries junction value
        (p.withQuery junction.operator.name) depth hroom hdepth 0
  | negation hkey =>
      rw [depthOfEntry_nested hkey (.inl rfl)] at hroom hdepth
      rw [Condition.evaluate, Condition.evaluate, Condition.dispatch_bind rfl,
        Condition.dispatch_bind rfl]
      refine bind_congr fun _ => ?_
      have hquery := hpayload value (p.withQuery Operator.not.name) depth hroom hdepth
      exact congrArg (· >>= _) hquery
  | test hkey hleaf | membership hkey hleaves =>
      rw [Condition.evaluate, Condition.evaluate, Condition.dispatch_bind rfl,
        Condition.dispatch_bind rfl]
      rfl
  | element hkey =>
      rw [depthOfEntry_nested hkey (.inr rfl)] at hroom hdepth
      rw [Condition.evaluate, Condition.evaluate, Condition.dispatch_bind rfl,
        Condition.dispatch_bind rfl]
      refine bind_congr fun _ => ?_
      split
      · rfl
      · refine congrArg (· >>= _) (congrArg (Trial.each · _) ?_)
        funext place
        exact hpayload place.1
          ((p.withQuery Operator.elemMatch.name).withProperty (Path.element place.2)) depth hroom
          hdepth
      · rfl

/-- A query is evaluated the same at all depths at which it has room. -/
theorem Query.ignoresDepth_ofNode (node : Value) :
    (Query.ofNode node).IgnoresDepth (depthOfNode node + 1) := by
  have hboth := Value.queryInduction (fun _ => ignoresDepth_ofNode_of_children)
    (fun _ => ignoresDepth_read_of_nodes) node
  exact hboth.2

/-- An evaluation with room to end is the evaluation from the root, below the place where it
starts. -/
theorem Query.evaluate_eq_relocate_root {node : Value} {p : Position}
    (hroom : p.depth + depthOfNode node < maxDepth) (value : Value) :
    (Query.ofNode node).evaluate value p =
      ((Query.ofNode node).evaluate value .root).relocate p (Explanation.under · p) := by
  have hdepth := Query.ignoresDepth_ofNode node value p 0 hroom (by omega)
  rw [← hdepth, ← Query.evaluate_under, Position.root_under]
  rfl

theorem Query.ofDocument_evaluate_eq_relocate {query : Document} {p : Position}
    (hroom : p.depth + queryDepth query ≤ maxDepth) (value : Value) :
    (Query.ofDocument query).evaluate value p =
      (evaluateFrom query value .root).relocate p (Explanation.under · p) := by
  rw [queryDepth, depthOfEntries_eq] at hroom
  rw [evaluateFrom, Query.ofDocument, ← Query.ofNode_document]
  exact Query.evaluate_eq_relocate_root hroom value

/-! ### The same but for paths of the query -/

/-- Paths that go on alike from two places. -/
def Path.GoOnAlike (origin other : String) (path moved : String) : Prop :=
  ∃ rest, path = Path.join origin rest ∧ moved = Path.join other rest

/-- The same reason, for related places in the query. -/
inductive Reason.SameBut (related : String → String → Prop) : Reason → Reason → Prop
  | mk (propertyPath : String) (kind : ReasonKind) {path other : String} (h : related path other) :
      SameBut related ⟨propertyPath, path, kind⟩ ⟨propertyPath, other, kind⟩

/-- The same rejection, of related places in the query. -/
inductive Rejection.SameBut (related : String → String → Prop) : Rejection → Rejection → Prop
  | invalidOperator (name : String) {path other : String} (h : related path other) :
      SameBut related (.invalidOperator name path) (.invalidOperator name other)
  | invalidPayload (operator : Operator) (expected : PayloadShape) {path other : String}
      (h : related path other) :
      SameBut related (.invalidPayload operator expected path)
        (.invalidPayload operator expected other)
  | nonPrimitiveElement (operator : Operator) (index : Nat) {path other : String}
      (h : related path other) :
      SameBut related (.nonPrimitiveElement operator index path)
        (.nonPrimitiveElement operator index other)
  | notAnArray (operator : Operator) (propertyPath : String) :
      SameBut related (.notAnArray operator propertyPath) (.notAnArray operator propertyPath)
  | depthExceeded (depth limit : Nat) :
      SameBut related (.depthExceeded depth limit) (.depthExceeded depth limit)

/-- The same verdict for the same reasons in the same order, or the same rejection, where only the
paths of the query differ, and those are related. -/
inductive SameBut (related : String → String → Prop) :
    Except Rejection Explanation → Except Rejection Explanation → Prop
  | ok (matched : Bool) {reasons others : List Reason}
      (h : List.Forall₂ (Reason.SameBut related) reasons others) :
      SameBut related (.ok ⟨matched, reasons⟩) (.ok ⟨matched, others⟩)
  | error {rejection other : Rejection} (h : rejection.SameBut related other) :
      SameBut related (.error rejection) (.error other)

section

variable {related : String → String → Prop}

theorem Rejection.SameBut.mono {weaker : String → String → Prop}
    (hweaker : ∀ path other, related path other → weaker path other) {rejection other : Rejection}
    (h : rejection.SameBut related other) : rejection.SameBut weaker other := by
  cases h with
  | invalidOperator name h => exact .invalidOperator name (hweaker _ _ h)
  | invalidPayload operator expected h => exact .invalidPayload operator expected (hweaker _ _ h)
  | nonPrimitiveElement operator index h =>
      exact .nonPrimitiveElement operator index (hweaker _ _ h)
  | notAnArray operator propertyPath => exact .notAnArray operator propertyPath
  | depthExceeded depth limit => exact .depthExceeded depth limit

theorem SameBut.mono {weaker : String → String → Prop}
    (hweaker : ∀ path other, related path other → weaker path other)
    {outcome other : Except Rejection Explanation} (h : SameBut related outcome other) :
    SameBut weaker outcome other := by
  cases h with
  | ok matched h =>
      refine .ok matched (h.imp ?_)
      rintro _ _ ⟨propertyPath, kind, h⟩
      exact ⟨propertyPath, kind, hweaker _ _ h⟩
  | error h => exact .error (h.mono hweaker)

theorem SameBut.invert {outcome other : Except Rejection Explanation}
    (h : SameBut related outcome other) :
    SameBut related (outcome.map Explanation.invert) (other.map Explanation.invert) := by
  cases h with
  | ok matched h => exact .ok (!matched) h
  | error h => exact .error h

end

section

variable {origin other : Position} (hproperty : origin.propertyPath = other.propertyPath)
include hproperty

theorem Reason.sameBut_under (r : Reason) :
    (r.under origin).SameBut (Path.GoOnAlike origin.queryPath other.queryPath) (r.under other) := by
  rw [under, under, hproperty]
  exact ⟨_, _, r.queryPath, rfl, rfl⟩

theorem Rejection.sameBut_under (r : Rejection) :
    (r.under origin).SameBut (Path.GoOnAlike origin.queryPath other.queryPath) (r.under other) := by
  cases r with
  | invalidOperator name path => exact .invalidOperator name ⟨path, rfl, rfl⟩
  | invalidPayload operator expected path => exact .invalidPayload operator expected ⟨path, rfl, rfl⟩
  | nonPrimitiveElement operator index path =>
      exact .nonPrimitiveElement operator index ⟨path, rfl, rfl⟩
  | notAnArray operator propertyPath =>
      rw [under, under, hproperty]
      exact .notAnArray operator _
  | depthExceeded depth limit => exact .depthExceeded depth limit

/-- A trial below two places ends with the same but for where in the query these are. -/
theorem Trial.sameBut_relocate (trial : Trial Explanation) :
    SameBut (Path.GoOnAlike origin.queryPath other.queryPath)
      (trial.relocate origin (Explanation.under · origin)).outcome
      (trial.relocate other (Explanation.under · other)).outcome := by
  cases h : trial.outcome with
  | ok e =>
      rw [relocate_of_ok h, relocate_of_ok h]
      refine .ok e.matched ?_
      rw [List.forall₂_map_left_iff, List.forall₂_map_right_iff, List.forall₂_same]
      exact fun r _ => r.sameBut_under hproperty
  | error rejection =>
      rw [relocate_of_error h, relocate_of_error h]
      exact .error (rejection.sameBut_under hproperty)

theorem Query.sameBut_evaluate (hdepth : origin.depth = other.depth) (query : Query)
    (value : Value) :
    SameBut (Path.GoOnAlike origin.queryPath other.queryPath)
      (query.evaluate value origin).outcome (query.evaluate value other).outcome := by
  have hunder : ∀ p : Position, (⟨"", "", p.depth⟩ : Position).under p = p := fun p => by
    simp only [Position.under, Path.join_empty_right]
  have horigin := query.evaluate_under origin value ⟨"", "", origin.depth⟩
  have hother := query.evaluate_under other value ⟨"", "", other.depth⟩
  rw [hunder] at horigin hother
  rw [horigin, hother, hdepth]
  exact Trial.sameBut_relocate hproperty _

end

end Verdict
