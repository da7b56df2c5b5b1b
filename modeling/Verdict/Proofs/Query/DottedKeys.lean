import Verdict.Proofs.Query.Displacement
import Verdict.Proofs.Query.Sufficiency

/-!
# Keys that are paths

A path as a key finds its value at once; the nodes that name the segments of the path one inside the
other find it one segment at a time. Where the path leads somewhere, both put the same value to the
payload, at different depths and with another spelling of the path in the query, and so they say the
same (`explain_dotted_and_nested`). Where it leads nowhere they part: the path tests that there is
nothing, and the nodes stop at the first segment that is missing.
-/

namespace Verdict

/-! ### What stands below a field -/

/-- Puts a value to the payload of a field: a leaf that it has to satisfy, or a node. -/
def evaluatePayload (payload value : Value) (p : Position) : Trial Explanation :=
  if payload.isPrimitive then pure (p.explain .equal (value.satisfies payload))
  else (Query.ofNode payload).evaluate value p

/-- How many nodes of the payload of a field lie one inside the other. -/
def depthOfPayload (payload : Value) : Nat :=
  if payload.isPrimitive then 0 else depthOfNode payload + 1

theorem depthOfEntry_field {key : String} {field : Field} (hkey : Key.classify key = .field field)
    (payload : Value) : depthOfEntry key payload = depthOfPayload payload := by
  rw [depthOfPayload]
  cases hleaf : payload.isPrimitive with
  | true => exact depthOfEntry_leaf hleaf
  | false => exact depthOfEntry_node hkey hleaf

theorem depthOfPayload_document (entries : Document) :
    depthOfPayload (.document entries) = queryDepth entries := by
  rw [queryDepth, depthOfEntries_eq]
  rfl

theorem evaluatePayload_document (entries : Document) (value : Value) (p : Position) :
    evaluatePayload (.document entries) value p = (Query.ofDocument entries).evaluate value p := by
  rw [Query.ofDocument, ← Query.ofNode_document]
  rfl

/-- What a key comes to that tests a field, by what its payload comes to. -/
theorem Condition.outcome_evaluate_field {key : String} {field : Field}
    (hkey : Key.classify key = .field field) (payload value : Value) (p : Position) :
    ((Condition.read (key, payload)).evaluate value p).outcome =
      match field.value? value with
      | some found => (evaluatePayload payload found (p.extend field.property field.query)).outcome
      | none => .ok ((p.extend field.property field.query).explain .hasNoPath false) := by
  cases hleaf : payload.isPrimitive with
  | true =>
      rw [(Reading.leaf hkey hleaf).read_eq, outcome_evaluate_leaf]
      cases field.value? value with
      | none => rfl
      | some found => simp only [evaluatePayload, if_pos hleaf, Trial.outcome_pure]
  | false =>
      rw [(Reading.node hkey hleaf).read_eq, outcome_evaluate_node]
      cases field.value? value with
      | none => rfl
      | some found => simp only [evaluatePayload, if_neg (Bool.eq_false_iff.1 hleaf)]

/-- What a query document comes to that tests one field and asks for nothing else. -/
theorem outcome_evaluate_ofField {key : String} {field : Field}
    (hkey : Key.classify key = .field field) {p : Position} (hroom : p.depth < maxDepth)
    (payload value : Value) :
    ((Query.ofDocument [(key, payload)]).evaluate value p).outcome =
      match field.value? value with
      | some found =>
        (evaluatePayload payload found (p.descend.extend field.property field.query)).outcome
      | none => .ok ((p.descend.extend field.property field.query).explain .hasNoPath false) := by
  rw [Query.ofDocument, conditionsOfEntries_eq_map, List.map_singleton,
    Query.outcome_evaluate_singleton, if_pos hroom]
  exact Condition.outcome_evaluate_field hkey payload value p.descend

/-- With room to end, a payload says the same at any two depths, but for where in the query it
stands. -/
theorem sameBut_evaluatePayload {p q : Position} {payload : Value}
    (hproperty : p.propertyPath = q.propertyPath)
    (hp : p.depth + depthOfPayload payload ≤ maxDepth)
    (hq : q.depth + depthOfPayload payload ≤ maxDepth) (value : Value) :
    SameBut (Path.GoOnAlike p.queryPath q.queryPath) (evaluatePayload payload value p).outcome
      (evaluatePayload payload value q).outcome := by
  rw [evaluatePayload, evaluatePayload]
  rw [depthOfPayload] at hp hq
  cases hleaf : payload.isPrimitive with
  | true =>
      refine .ok _ (.cons ?_ .nil)
      rw [Position.reason, Position.reason, hproperty]
      refine ⟨_, _, "", ?_, ?_⟩ <;> rw [Path.join_empty_right]
  | false =>
      rw [hleaf] at hp hq
      have hnode : ∀ r : Position, r.depth + (depthOfNode payload + 1) ≤ maxDepth →
          (Query.ofNode payload).evaluate value r =
            ((Query.ofNode payload).evaluate value .root).relocate r (Explanation.under · r) :=
        fun _ hroom => Query.evaluate_eq_relocate_root hroom value
      simp only [Bool.false_eq_true, if_false, hnode p hp, hnode q hq]
      exact Trial.sameBut_relocate hproperty _

/-! ### Nodes for the segments of a path -/

/-- Nodes with one key each, one inside the other, and a payload below the last. -/
def nestedPayload (keys : List String) (payload : Value) : Value :=
  keys.foldr (fun key inner => .document [(key, inner)]) payload

/-- The query document that names keys one inside the other. -/
def nestedQuery : List String → Value → Document
  | [], _ => []
  | key :: rest, payload => [(key, nestedPayload rest payload)]

/-- The place below keys that are named one inside the other. -/
def Position.below (p : Position) (keys : List String) : Position :=
  ⟨Path.join p.propertyPath (Path.ofSegments keys), Path.join p.queryPath (Path.ofSegments keys),
    p.depth + keys.length⟩

/-- A segment of a path that is the name of an entry. -/
structure IsSegment (key : String) : Prop where
  ne_empty : key ≠ ""
  no_point : '.' ∉ key.toList
  no_dollar : key.toList.head? ≠ some '$'

instance (key : String) : Decidable (IsSegment key) :=
  decidable_of_iff (key ≠ "" ∧ '.' ∉ key.toList ∧ key.toList.head? ≠ some '$')
    ⟨fun ⟨hempty, hpoint, hdollar⟩ => ⟨hempty, hpoint, hdollar⟩,
      fun ⟨hempty, hpoint, hdollar⟩ => ⟨hempty, hpoint, hdollar⟩⟩

theorem IsSegment.classify {key : String} (h : IsSegment key) :
    Key.classify key = .field (.plain key) := by
  rw [Key.classify, if_neg h.no_dollar, if_neg h.no_point]

theorem depthOfPayload_nested {keys : List String} (hsegments : ∀ key ∈ keys, IsSegment key)
    (payload : Value) :
    depthOfPayload (nestedPayload keys payload) = keys.length + depthOfPayload payload := by
  induction keys with
  | nil => exact (Nat.zero_add _).symm
  | cons key rest ih =>
      obtain ⟨hkey, hrest⟩ := List.forall_mem_cons.1 hsegments
      change depthOfPayload (.document [(key, nestedPayload rest payload)]) = _
      rw [depthOfPayload_document, queryDepth, depthOfEntries, depthOfEntries, Nat.max_zero,
        depthOfEntry_field hkey.classify, ih hrest, List.length_cons]
      omega

namespace Position

theorem below_nil (p : Position) : p.below [] = p := by
  rw [below, Path.ofSegments, String.intercalate_nil, Path.join_empty_right, Path.join_empty_right]
  rfl

theorem below_cons {key : String} {rest : List String}
    (h : ∀ other ∈ key :: rest, IsSegment other) (p : Position) :
    p.below (key :: rest) = (p.descend.extend key key).below rest := by
  have hpath := Path.ofSegments_cons fun other hmem => (h other hmem).ne_empty
  rw [below, below, hpath, ← Path.join_assoc, ← Path.join_assoc, List.length_cons,
    Nat.add_comm rest.length, ← Nat.add_assoc]
  rfl

end Position

/-- Nodes one inside the other follow their keys and put what they come to to the payload, or they
stop at the first key that leads nowhere, whatever the payload is. -/
theorem outcome_evaluatePayload_nested {keys : List String}
    (hsegments : ∀ key ∈ keys, IsSegment key) {p : Position}
    (hroom : p.depth + keys.length ≤ maxDepth) (payload value : Value) :
    (evaluatePayload (nestedPayload keys payload) value p).outcome =
      match value.follow? keys with
      | some found => (evaluatePayload payload found (p.below keys)).outcome
      | none =>
        .ok ((p.below (keys.take (value.steps keys + 1))).explain .hasNoPath false) := by
  induction keys generalizing value p with
  | nil => exact congrArg (fun q => (evaluatePayload payload value q).outcome) p.below_nil.symm
  | cons key rest ih =>
      obtain ⟨hkey, hrest⟩ := List.forall_mem_cons.1 hsegments
      rw [List.length_cons] at hroom
      have hentered : p.depth < maxDepth := by omega
      change (evaluatePayload (.document [(key, nestedPayload rest payload)]) value p).outcome = _
      rw [evaluatePayload_document, outcome_evaluate_ofField hkey.classify hentered, Value.follow?,
        List.foldlM_cons, Value.steps, Field.value?]
      cases value.get? key with
      | none =>
          have hbelow : p.below [key] = p.descend.extend key key := by
            rw [p.below_cons (List.forall_mem_singleton.2 hkey), Position.below_nil]
          exact congrArg (fun q : Position => Except.ok (q.explain .hasNoPath false)) hbelow.symm
      | some found =>
          have hinner := ih hrest (p := p.descend.extend key key) (Position.room_descend hroom) found
          have htaken : ∀ other ∈ key :: rest.take (found.steps rest + 1), IsSegment other :=
            List.forall_mem_cons.2 ⟨hkey, fun other hmem => hrest other (List.mem_of_mem_take hmem)⟩
          rw [List.take_succ_cons, p.below_cons hsegments, p.below_cons htaken]
          exact hinner

/-! ### A path and the nodes that spell it out -/

section

variable {keys : List String} (hsegments : ∀ key ∈ keys, IsSegment key)
include hsegments

theorem classify_ofSegments (hcount : 2 ≤ keys.length) :
    Key.classify (Path.ofSegments keys) = .field (.dotted (Path.ofSegments keys)) := by
  obtain ⟨first, second, rest, rfl⟩ : ∃ first second rest, keys = first :: second :: rest := by
    match keys with
    | first :: second :: rest => exact ⟨first, second, rest, rfl⟩
  have hfirst := hsegments first List.mem_cons_self
  have hchars : (Path.ofSegments (first :: second :: rest)).toList =
      first.toList ++ '.' :: (Path.ofSegments (second :: rest)).toList := by
    rw [Path.ofSegments, String.intercalate_cons_cons]
    simp [Path.ofSegments, String.toList_append]
  have hdollar : (Path.ofSegments (first :: second :: rest)).toList.head? ≠ some '$' := by
    have hchar : first.toList ≠ [] := fun h => hfirst.ne_empty (String.toList_eq_nil_iff.1 h)
    rw [hchars, List.head?_append_of_ne_nil _ hchar]
    exact hfirst.no_dollar
  rw [Key.classify, if_neg hdollar, if_pos]
  rw [hchars]
  exact List.mem_append_right _ List.mem_cons_self

theorem resolve?_ofSegments (hkeys : keys ≠ []) (value : Value) :
    value.resolve? (Path.ofSegments keys) = value.follow? keys := by
  rw [Value.resolve?, Path.segments_ofSegments hkeys fun key hmem => (hsegments key hmem).no_point]
  rfl

theorem explain_dotted (hcount : 2 ≤ keys.length) (payload value : Value) :
    explain [(Path.ofSegments keys, payload)] value =
      (evaluatePayload payload ((value.resolve? (Path.ofSegments keys)).getD .undefined)
        ⟨Path.ofSegments keys, "\"" ++ Path.ofSegments keys ++ "\"", 1⟩).outcome := by
  rw [explain, evaluateFrom,
    outcome_evaluate_ofField (classify_ofSegments hsegments hcount) (by decide)]
  rfl

theorem explain_nestedQuery (hkeys : keys ≠ []) (hroom : keys.length ≤ maxDepth)
    (payload value : Value) :
    explain (nestedQuery keys payload) value =
      match value.follow? keys with
      | some found => (evaluatePayload payload found (Position.root.below keys)).outcome
      | none =>
        .ok ((Position.root.below (keys.take (value.steps keys + 1))).explain .hasNoPath false) := by
  have hquery : explain (nestedQuery keys payload) value =
      (evaluatePayload (nestedPayload keys payload) value .root).outcome := by
    obtain ⟨key, rest, rfl⟩ := List.exists_cons_of_ne_nil hkeys
    exact congrArg Trial.outcome (evaluatePayload_document _ value .root).symm
  have hroot : Position.root.depth + keys.length ≤ maxDepth := by
    rwa [show Position.root.depth = 0 from rfl, Nat.zero_add]
  rw [hquery, outcome_evaluatePayload_nested hsegments hroot]

end

/-- The keys that can be followed are the first keys, up to the first that leads nowhere. -/
theorem Value.follow?_take_isSome_iff {value : Value} {keys : List String} {count : Nat}
    (hcount : count ≤ keys.length) :
    (value.follow? (keys.take count)).isSome ↔ count ≤ value.steps keys := by
  induction keys generalizing value count with
  | nil =>
      obtain rfl := Nat.le_zero.1 hcount
      exact iff_of_true rfl (Nat.zero_le _)
  | cons key rest ih =>
      cases count with
      | zero => exact iff_of_true rfl (Nat.zero_le _)
      | succ count =>
          rw [List.take_succ_cons, follow?, List.foldlM_cons, steps]
          cases value.get? key with
          | none => exact iff_of_false Bool.false_ne_true (Nat.not_succ_le_zero count)
          | some found =>
              exact (ih (Nat.le_of_succ_le_succ hcount)).trans Nat.succ_le_succ_iff.symm

/-- A path as a key says what the nodes say that spell it out, if it leads somewhere, but for the
spelling of the path in the query. If it leads nowhere, the nodes fail at the shortest part of the
path that leads nowhere, whatever the payload is, and the path puts the undefined value to it. -/
theorem explain_dotted_and_nested {keys : List String} (hcount : 2 ≤ keys.length)
    (hsegments : ∀ key ∈ keys, IsSegment key) {payload : Value}
    (hdepth : queryDepth (nestedQuery keys payload) ≤ 100) (value : Value) :
    (∀ found, value.resolve? (Path.ofSegments keys) = some found →
      SameBut
        (Path.GoOnAlike ("\"" ++ Path.ofSegments keys ++ "\"") (Path.ofSegments keys))
        (explain [(Path.ofSegments keys, payload)] value)
        (explain (nestedQuery keys payload) value)) ∧
    (value.resolve? (Path.ofSegments keys) = none →
      (∃ count, 0 < count ∧ count ≤ keys.length ∧
        value.resolve? (Path.ofSegments (keys.take count)) = none ∧
        (∀ fewer, 0 < fewer → fewer < count →
          (value.resolve? (Path.ofSegments (keys.take fewer))).isSome) ∧
        explain (nestedQuery keys payload) value =
          .ok ⟨false, [⟨Path.ofSegments (keys.take count), Path.ofSegments (keys.take count),
            .hasNoPath⟩]⟩) ∧
      explain [(Path.ofSegments keys, payload)] value =
        (evaluatePayload payload .undefined
          ⟨Path.ofSegments keys, "\"" ++ Path.ofSegments keys ++ "\"", 1⟩).outcome) := by
  have hkeys : keys ≠ [] := List.ne_nil_of_length_pos (by omega)
  have hextent : keys.length + depthOfPayload payload ≤ maxDepth := by
    obtain ⟨key, rest, rfl⟩ := List.exists_cons_of_ne_nil hkeys
    rw [← depthOfPayload_nested hsegments]
    exact (depthOfPayload_document _).trans_le hdepth
  have htaken : ∀ count, 0 < count →
      value.resolve? (Path.ofSegments (keys.take count)) = value.follow? (keys.take count) := by
    intro count hpositive
    refine resolve?_ofSegments (fun key hmem => hsegments key (List.mem_of_mem_take hmem)) ?_ value
    simpa [hkeys] using Nat.ne_of_gt hpositive
  rw [explain_dotted hsegments hcount,
    explain_nestedQuery hsegments hkeys (Nat.le_trans (Nat.le_add_right _ _) hextent),
    resolve?_ofSegments hsegments hkeys]
  constructor
  · intro found hfound
    rw [hfound]
    refine @sameBut_evaluatePayload ⟨_, _, 1⟩ (Position.root.below keys) payload rfl ?_ ?_ found
    · change 1 + _ ≤ _
      omega
    · change 0 + _ + _ ≤ _
      omega
  · intro hnone
    rw [hnone]
    have hsteps : value.steps keys < keys.length := by
      have hlt := Value.steps_lt_of_follow?_eq_none hnone []
      rwa [List.append_nil] at hlt
    refine ⟨⟨value.steps keys + 1, Nat.succ_pos _, hsteps, ?_, ?_, rfl⟩, rfl⟩
    · rw [htaken _ (Nat.succ_pos _), ← Option.not_isSome_iff_eq_none,
        Value.follow?_take_isSome_iff hsteps]
      exact Nat.not_succ_le_self _
    · intro fewer hpositive hfewer
      rw [htaken fewer hpositive, Value.follow?_take_isSome_iff (by omega)]
      exact Nat.le_of_lt_succ hfewer

/-- An unknown operator below a path is a fault where the path leads to a value. Where the array has
no element in this place, the nodes do not come to it. -/
theorem explain_dotted_and_nested_unknown :
    (∀ key ∈ ["a", "0", "b"], IsSegment key) ∧
    queryDepth (nestedQuery ["a", "0", "b"] (.document [("$bogus", .null)])) ≤ 100 ∧
    (Value.document [("a", .array [.document [("b", .null)]])]).resolve?
        (Path.ofSegments ["a", "0", "b"]) = some .null ∧
    explain [("a.0.b", .document [("$bogus", .null)])]
        (.document [("a", .array [.document [("b", .null)]])]) =
      .error (.invalidOperator "$bogus" "\"a.0.b\".$bogus") ∧
    SameBut (Path.GoOnAlike "\"a.0.b\"" "a.0.b")
      (explain [("a.0.b", .document [("$bogus", .null)])]
        (.document [("a", .array [.document [("b", .null)]])]))
      (explain [("a", .document [("0", .document [("b", .document [("$bogus", .null)])])])]
        (.document [("a", .array [.document [("b", .null)]])])) ∧
    (Value.document [("a", .array [])]).resolve? (Path.ofSegments ["a", "0", "b"]) = none ∧
    explain [("a", .document [("0", .document [("b", .document [("$bogus", .null)])])])]
        (.document [("a", .array [])]) =
      .ok ⟨false, [⟨"a.0", "a.0", .hasNoPath⟩]⟩ ∧
    explain [("a.0.b", .document [("$bogus", .null)])] (.document [("a", .array [])]) =
      (evaluatePayload (.document [("$bogus", .null)]) .undefined
        ⟨"a.0.b", "\"a.0.b\"", 1⟩).outcome := by
  have hsegments : ∀ key ∈ ["a", "0", "b"], IsSegment key := by decide
  have hdepth : queryDepth (nestedQuery ["a", "0", "b"] (.document [("$bogus", .null)])) ≤ 100 := by
    decide
  have hfound : (Value.document [("a", .array [.document [("b", .null)]])]).resolve?
      (Path.ofSegments ["a", "0", "b"]) = some .null := rfl
  have hnone : (Value.document [("a", .array [])]).resolve?
      (Path.ofSegments ["a", "0", "b"]) = none := by decide
  have hsame := (explain_dotted_and_nested (by decide) hsegments hdepth _).1 _ hfound
  have hdotted := ((explain_dotted_and_nested (by decide) hsegments hdepth _).2 hnone).2
  exact ⟨hsegments, hdepth, hfound, by decide, hsame, hnone, by decide, hdotted⟩

end Verdict
