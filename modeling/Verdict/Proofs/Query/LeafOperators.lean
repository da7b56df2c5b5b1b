import Verdict.Proofs.Query.DottedKeys
import Verdict.Proofs.Query.Negation

/-!
# Operators on leaves by each other

Each operator on leaves can be written by others: equality as a leaf by itself, inequality as a
negation, membership as clauses of equalities, or, where the value is an array, of queries for an
element. `HasVerdict` says what a query document with one key has for a verdict, and that it is not
rejected; there is one rule for each operator, and the verdicts of the ways to write an operator are
compared as Booleans (`verdicts_of_leafOperators`).
-/

namespace Verdict

/-- Wherever it stands with room for `extent` nodes, a query document is explained, with this
verdict. -/
def HasVerdict (extent : Nat) (query : Document) (value : Value) (verdict : Bool) : Prop :=
  ∀ p : Position, p.depth + extent ≤ maxDepth →
    ∃ reasons, ((Query.ofDocument query).evaluate value p).outcome = .ok ⟨verdict, reasons⟩

theorem Value.isAmong_of_not_array {value : Value} (h : ∀ items, value ≠ .array items)
    (candidates : List Value) : value.isAmong candidates = candidates.any value.satisfies := by
  cases value with
  | array items => exact absurd rfl (h items)
  | _ => rfl

namespace HasVerdict

variable {extent : Nat} {query : Document} {value : Value} {verdict : Bool}

theorem of_reading {key : String} {payload : Value} {condition : Condition}
    (hread : Reading key payload condition)
    (h : ∀ p : Position, p.depth + extent ≤ maxDepth →
      ∃ reasons, (condition.evaluate value p).outcome = .ok ⟨verdict, reasons⟩) :
    HasVerdict (extent + 1) [(key, payload)] value verdict := by
  intro p hroom
  rw [Query.ofDocument, conditionsOfEntries_eq_map, List.map_singleton, hread.read_eq,
    Query.outcome_evaluate_singleton, if_pos (by omega)]
  exact h p.descend (Position.room_descend hroom)

theorem test (leafTest : LeafTest) {operand : Value} (hleaf : operand.isPrimitive = true)
    (value : Value) :
    HasVerdict 1 [(leafTest.operator.name, operand)] value (leafTest.holds value operand) := by
  refine .of_reading (.test (classify_operator_name leafTest.operator) hleaf) fun p _ => ?_
  rw [Condition.outcome_evaluate_test]
  exact ⟨_, rfl⟩

theorem membership (wanted : Bool) {candidates : List Value}
    (hleaves : ∀ candidate ∈ candidates, candidate.isPrimitive = true) (value : Value) :
    HasVerdict 1 [((if wanted then Operator.isIn else .notIn).name, .array candidates)] value
      (value.isAmong candidates == wanted) := by
  refine .of_reading (.membership (classify_operator_name _) hleaves) fun p _ => ?_
  rw [Condition.outcome_evaluate_membership]
  exact ⟨_, rfl⟩

theorem isIn {candidates : List Value}
    (hleaves : ∀ candidate ∈ candidates, candidate.isPrimitive = true) (value : Value) :
    HasVerdict 1 [("$in", .array candidates)] value (value.isAmong candidates) := by
  have h := membership true hleaves value
  rwa [beq_true] at h

theorem notIn {candidates : List Value}
    (hleaves : ∀ candidate ∈ candidates, candidate.isPrimitive = true) (value : Value) :
    HasVerdict 1 [("$nin", .array candidates)] value (!value.isAmong candidates) := by
  have h := membership false hleaves value
  rwa [beq_false] at h

theorem negation (h : HasVerdict extent query value verdict) :
    HasVerdict (extent + 1) [("$not", .document query)] value (!verdict) := by
  intro p hroom
  obtain ⟨reasons, hok⟩ := h (p.descend.withQuery "$not") (Position.room_descend hroom)
  rw [outcome_evaluate_ofNegation (by omega), hok]
  exact ⟨reasons, rfl⟩

theorem clauses {α : Type} (junction : Junction) {as : List α} {query : α → Document}
    {verdict : α → Bool} (h : ∀ a ∈ as, HasVerdict extent (query a) value (verdict a)) :
    HasVerdict (extent + 1)
      [(junction.operator.name, .array (as.map fun a => .document (query a)))] value
      (junction.join (as.map verdict)) := by
  intro p hroom
  have hqueries : (as.map fun a => Value.document (query a)) = (as.map query).map .document :=
    (List.map_map ..).symm
  have hverdicts : as.map verdict = as.zipIdx.map (verdict ∘ Prod.fst) := by
    rw [← List.map_map, List.zipIdx_map_fst]
  rw [hqueries, outcome_evaluate_ofClauses (by omega), List.zipIdx_map, List.map_map, hverdicts]
  refine Junction.exists_decide_ok ?_ junction
  rw [List.forall₂_map_left_iff, List.forall₂_map_right_iff, List.forall₂_same]
  intro place hmem
  exact h place.1 (List.fst_mem_of_mem_zipIdx hmem) _ (Position.room_descend hroom)

theorem element {items : List Value} {verdicts : Value → Bool}
    (h : ∀ item ∈ items, HasVerdict extent query item (verdicts item)) :
    HasVerdict (extent + 1) [("$elemMatch", .document query)] (.array items)
      (items.any verdicts) := by
  refine .of_reading (.element (classify_operator_name .elemMatch)) fun p hroom => ?_
  rw [Query.ofNode_document]
  cases items with
  | nil => exact ⟨_, Condition.outcome_evaluate_element_nil p _⟩
  | cons first rest =>
      have hplaces : ∀ place ∈ (first :: rest).zipIdx, ∃ part,
          ((Query.ofDocument query).evaluate place.1
            ((p.withQuery Operator.elemMatch.name).withProperty
              (Path.element place.2))).outcome = .ok part ∧
            part.matched = verdicts place.1 := by
        intro place hmem
        have hitem := h place.1 (List.fst_mem_of_mem_zipIdx hmem)
        obtain ⟨reasons, hok⟩ :=
          hitem ((p.withQuery Operator.elemMatch.name).withProperty (Path.element place.2)) hroom
        exact ⟨⟨verdicts place.1, reasons⟩, hok, rfl⟩
      obtain ⟨parts, hparts, hmatched⟩ := Trial.exists_outcome_each_ok hplaces
      have hany : parts.any (·.matched) = (first :: rest).any verdicts := by
        rw [← List.zipIdx_map_fst 0 (first :: rest), List.any_map]
        exact (any_eq_of_forall₂ hmatched fun _ _ h => h.symm).symm
      rw [Condition.outcome_evaluate_element_cons]
      refine ⟨(Explanation.any parts).reasons, ?_⟩
      rw [← hany, ← Explanation.matched_any]
      exact congrArg (Except.map Explanation.any) hparts

/-! ### Membership by clauses -/

section

variable {candidates : List Value}
  (hleaves : ∀ candidate ∈ candidates, candidate.isPrimitive = true)
include hleaves

theorem someEqual (hnot : ∀ items, value ≠ .array items) :
    HasVerdict 2
      [("$or", .array (candidates.map fun candidate => .document [("$eq", candidate)]))] value
      (value.isAmong candidates) := by
  have h := HasVerdict.clauses .or fun candidate hmem =>
    HasVerdict.test .eq (hleaves candidate hmem) value
  rw [Value.isAmong_of_not_array hnot]
  rwa [Junction.join, List.any_map] at h

theorem allUnequal (hnot : ∀ items, value ≠ .array items) :
    HasVerdict 2
      [("$and", .array (candidates.map fun candidate => .document [("$ne", candidate)]))] value
      (!value.isAmong candidates) := by
  have h := HasVerdict.clauses .and fun candidate hmem =>
    HasVerdict.test .ne (hleaves candidate hmem) value
  rw [Value.isAmong_of_not_array hnot, List.not_any_eq_all_not]
  rwa [Junction.join, List.all_map] at h

/-- An array is among the candidates if, for one of them, it has an element that is equal. -/
theorem someElementEqual (items : List Value) :
    HasVerdict 3
      [("$or", .array (candidates.map fun candidate =>
        .document [("$elemMatch", .document [("$eq", candidate)])]))] (.array items)
      ((Value.array items).isAmong candidates) := by
  have h := HasVerdict.clauses .or fun candidate hmem =>
    HasVerdict.element fun item (_ : item ∈ items) =>
      HasVerdict.test .eq (hleaves candidate hmem) item
  rwa [Junction.join, List.any_map] at h

end

end HasVerdict

/-! ### The same verdict in several ways -/

/-- A query document is explained, with this verdict. -/
def GivesVerdict (query : Document) (value : Value) (verdict : Bool) : Prop :=
  ∃ reasons, explain query value = .ok ⟨verdict, reasons⟩

section

variable {key : String} {field : Field} (hkey : Key.classify key = .field field) {value : Value}
include hkey

/-- The verdict on a field is the verdict on the value that it finds, and false if it finds none. -/
theorem givesVerdict_payload {payload : Value} {verdict : Value → Bool}
    (h : ∀ found, field.value? value = some found → ∃ reasons,
      (evaluatePayload payload found
        (Position.root.descend.extend field.property field.query)).outcome =
          .ok ⟨verdict found, reasons⟩) :
    GivesVerdict [(key, payload)] value ((field.value? value).any verdict) := by
  rw [GivesVerdict, explain, evaluateFrom, outcome_evaluate_ofField hkey (by decide)]
  cases hfound : field.value? value with
  | none => exact ⟨_, rfl⟩
  | some found => exact h found hfound

theorem givesVerdict_field {extent : Nat} (hextent : extent < maxDepth) {query : Document}
    {verdict : Value → Bool}
    (h : ∀ found, field.value? value = some found →
      HasVerdict extent query found (verdict found)) :
    GivesVerdict [(key, .document query)] value ((field.value? value).any verdict) := by
  have hroom : Position.root.depth + (extent + 1) ≤ maxDepth := by
    rwa [show Position.root.depth = 0 from rfl, Nat.zero_add]
  refine givesVerdict_payload hkey fun found hfound => ?_
  rw [evaluatePayload_document]
  exact h found hfound _ (Position.room_descend hroom)

theorem givesVerdict_leaf {leaf : Value} (hleaf : leaf.isPrimitive = true) :
    GivesVerdict [(key, leaf)] value ((field.value? value).any (·.satisfies leaf)) := by
  refine givesVerdict_payload hkey fun found _ => ?_
  rw [evaluatePayload, if_pos hleaf]
  exact ⟨_, rfl⟩

end

/-- Payloads of a field that are other ways to write an operator on leaves are all explained, and
with one verdict, whatever the field finds, or if it finds nothing. -/
theorem verdicts_of_leafOperators {key : String} {field : Field}
    (hkey : Key.classify key = .field field) {leaf : Value} (hleaf : leaf.isPrimitive = true)
    {candidates : List Value}
    (hleaves : ∀ candidate ∈ candidates, candidate.isPrimitive = true) (value : Value) :
    (∀ payload ∈ [leaf, .document [("$eq", leaf)]],
      GivesVerdict [(key, payload)] value
        ((field.value? value).any fun found => found.satisfies leaf)) ∧
    (∀ payload ∈ [.document [("$ne", leaf)], .document [("$not", leaf)],
        .document [("$not", .document [("$eq", leaf)])]],
      GivesVerdict [(key, payload)] value
        ((field.value? value).any fun found => !found.satisfies leaf)) ∧
    (∀ payload ∈ [.document [("$nin", .array candidates)],
        .document [("$not", .document [("$in", .array candidates)])]],
      GivesVerdict [(key, payload)] value
        ((field.value? value).any fun found => !found.isAmong candidates)) ∧
    ((∀ items, field.value? value ≠ some (.array items)) →
      (∀ payload ∈ [.document [("$in", .array candidates)], .document [("$or",
          .array (candidates.map fun candidate => .document [("$eq", candidate)]))]],
        GivesVerdict [(key, payload)] value
          ((field.value? value).any fun found => found.isAmong candidates)) ∧
      ∀ payload ∈ [.document [("$nin", .array candidates)], .document [("$and",
          .array (candidates.map fun candidate => .document [("$ne", candidate)]))]],
        GivesVerdict [(key, payload)] value
          ((field.value? value).any fun found => !found.isAmong candidates)) ∧
    ∀ items, field.value? value = some (.array items) →
      ∀ payload ∈ [.document [("$in", .array candidates)], .document [("$or",
          .array (candidates.map fun candidate =>
            .document [("$elemMatch", .document [("$eq", candidate)])]))]],
        GivesVerdict [(key, payload)] value
          ((field.value? value).any fun found => found.isAmong candidates) := by
  have hin : GivesVerdict [(key, .document [("$in", .array candidates)])] value _ :=
    givesVerdict_field hkey (by decide) fun found _ => .isIn hleaves found
  have hnin : GivesVerdict [(key, .document [("$nin", .array candidates)])] value _ :=
    givesVerdict_field hkey (by decide) fun found _ => .notIn hleaves found
  have htest : ∀ leafTest : LeafTest, GivesVerdict
      [(key, .document [(leafTest.operator.name, leaf)])] value _ :=
    fun leafTest => givesVerdict_field hkey (by decide) fun found _ => .test leafTest hleaf found
  refine ⟨?_, ?_, ?_, fun hnot => ⟨?_, ?_⟩, fun items hitems => ?_⟩
  · exact List.forall_mem_cons.2
      ⟨givesVerdict_leaf hkey hleaf, List.forall_mem_singleton.2 (htest .eq)⟩
  · refine List.forall_mem_cons.2 ⟨htest .ne, List.forall_mem_cons.2
      ⟨htest .not, List.forall_mem_singleton.2 ?_⟩⟩
    exact givesVerdict_field hkey (by decide) fun found _ =>
      (HasVerdict.test .eq hleaf found).negation
  · refine List.forall_mem_cons.2 ⟨hnin, List.forall_mem_singleton.2 ?_⟩
    exact givesVerdict_field hkey (by decide) fun found _ =>
      (HasVerdict.isIn hleaves found).negation
  · refine List.forall_mem_cons.2 ⟨hin, List.forall_mem_singleton.2 ?_⟩
    refine givesVerdict_field hkey (show 2 < maxDepth by decide) fun found hfound => ?_
    exact .someEqual hleaves fun items hitems => hnot items (hfound.trans (congrArg some hitems))
  · refine List.forall_mem_cons.2 ⟨hnin, List.forall_mem_singleton.2 ?_⟩
    refine givesVerdict_field hkey (show 2 < maxDepth by decide) fun found hfound => ?_
    exact .allUnequal hleaves fun items hitems => hnot items (hfound.trans (congrArg some hitems))
  · refine List.forall_mem_cons.2 ⟨hin, List.forall_mem_singleton.2 ?_⟩
    refine givesVerdict_field hkey (show 3 < maxDepth by decide) fun found hfound => ?_
    obtain rfl : .array items = found := Option.some.inj (hitems.symm.trans hfound)
    exact .someElementEqual hleaves items

/-- An array inside an array is no candidate, but what stands beside it is; and a path that leads
nowhere finds the undefined value, which is not among the candidates. -/
theorem verdicts_of_leafOperators_nestedArray :
    Key.classify "a.b" = .field (.dotted "a.b") ∧ Value.null.isPrimitive = true ∧
    (∀ candidate ∈ [Value.null, .bool true], candidate.isPrimitive = true) ∧
    (∀ payload ∈ [.document [("$ne", .null)], .document [("$not", .null)],
        .document [("$not", .document [("$eq", .null)])]],
      GivesVerdict [("a.b", payload)] (.document []) true) ∧
    (∀ payload ∈ [.document [("$nin", .array [.null, .bool true])], .document [("$and",
        .array [.document [("$ne", .null)], .document [("$ne", .bool true)]])]],
      GivesVerdict [("a.b", payload)] (.document []) true) ∧
    ∀ payload ∈ [.document [("$in", .array [.null, .bool true])], .document [("$or",
        .array [.document [("$elemMatch", .document [("$eq", .null)])],
          .document [("$elemMatch", .document [("$eq", .bool true)])]])]],
      GivesVerdict [("a.b", payload)]
        (.document [("a", .document [("b", .array [.array [.null], .bool true])])]) true := by
  have hkey : Key.classify "a.b" = .field (.dotted "a.b") := by decide
  have hleaf : Value.null.isPrimitive = true := rfl
  have hleaves : ∀ candidate ∈ [Value.null, .bool true], candidate.isPrimitive = true := by decide
  have hnowhere : (Field.dotted "a.b").value? (.document []) = some .undefined := rfl
  obtain ⟨-, hunequal, -, hother, -⟩ := verdicts_of_leafOperators hkey hleaf hleaves (.document [])
  obtain ⟨-, -, -, -, harray⟩ := verdicts_of_leafOperators hkey hleaf hleaves
    (.document [("a", .document [("b", .array [.array [.null], .bool true])])])
  refine ⟨hkey, hleaf, hleaves, hunequal, ?_, harray _ rfl⟩
  exact (hother fun items h => by cases hnowhere.symm.trans h).2

end Verdict
