import Verdict.Proofs.Query.DottedKeys
import Verdict.Proofs.Value.Extension

/-!
# Queries by example

A query without operators and paths is an example of what it asks for: it names entries, places of
arrays and leaves. It is rejected only for its depth, and whether it holds is a matter of the value
alone (`holds_evaluatePayload_iff`). It asks only for what must be there, so what holds of a value
holds of every extension (`payloadHolds_of_extends`), and a document is an example of itself
(`payloadHolds_self`).
-/

namespace Verdict

/-! ### Keys that name entries -/

/-- A key that names an entry: it is neither an operator nor a path. -/
def IsPlainKey (key : String) : Prop := key.toList.head? ≠ some '$' ∧ '.' ∉ key.toList

instance (key : String) : Decidable (IsPlainKey key) :=
  inferInstanceAs (Decidable (_ ∧ _))

theorem isPlainKey_iff {key : String} :
    IsPlainKey key ↔ Key.classify key = .field (.plain key) := by
  rw [IsPlainKey, Key.classify]
  split
  · simp_all
  · split <;> simp_all

theorem isPlainKey_toString (index : Nat) : IsPlainKey (toString index) :=
  isPlainKey_iff.2 (Key.classify_toString index)

namespace Value

/-- Every key of a value names an entry, at every depth. -/
abbrev HasPlainKeys (value : Value) : Prop := value.EveryEntry fun entry => IsPlainKey entry.1

theorem HasPlainKeys.classify {value child : Value} {key : String} (h : value.HasPlainKeys)
    (hmem : (key, child) ∈ value.nodeEntries) : Key.classify key = .field (.plain key) :=
  isPlainKey_iff.1 (h.nodeEntries (fun index _ => isPlainKey_toString index) _ hmem)

end Value

/-! ### What such a query means -/

/-- The payload of a field holds of a value: the value satisfies it, or it holds as a node. -/
def payloadHolds (payload value : Value) : Bool :=
  if payload.isPrimitive then value.satisfies payload else nodeHolds payload value

theorem payloadHolds_of_isPrimitive {leaf : Value} (h : leaf.isPrimitive = true) :
    payloadHolds leaf = fun value => value.satisfies leaf := funext fun _ => if_pos h

theorem payloadHolds_of_not_isPrimitive {node : Value} (h : node.isPrimitive = false) :
    payloadHolds node = nodeHolds node := funext fun _ => if_neg (Bool.eq_false_iff.1 h)

theorem entryHolds_field {key : String} {field : Field} (hkey : Key.classify key = .field field)
    (payload value : Value) :
    entryHolds key payload value = (field.value? value).any (payloadHolds payload) := by
  cases hleaf : payload.isPrimitive with
  | true => rw [entryHolds_leaf hkey hleaf, payloadHolds_of_isPrimitive hleaf]
  | false => rw [entryHolds_node hkey hleaf, payloadHolds_of_not_isPrimitive hleaf]

/-! ### What such a query comes to -/

theorem depthOfNode_le {node : Value} {bound : Nat}
    (h : ∀ key payload, (key, payload) ∈ node.nodeEntries → depthOfEntry key payload ≤ bound) :
    depthOfNode node ≤ bound :=
  List.max_le_of_forall_le _ _ (List.forall_mem_map.2 fun entry => h entry.1 entry.2)

/-- There is room for a node if there is room for the node itself and for each of its keys. -/
theorem room_for_node_iff {node : Value} {depth : Nat} :
    depth + (depthOfNode node + 1) ≤ maxDepth ↔
      depth < maxDepth ∧
        ∀ entry ∈ node.nodeEntries, depth + 1 + depthOfEntry entry.1 entry.2 ≤ maxDepth := by
  constructor
  · intro h
    refine ⟨by omega, fun entry hmem => ?_⟩
    have hle : depthOfEntry entry.1 entry.2 ≤ depthOfNode node := depthOfEntry_le_of_mem hmem
    omega
  · rintro ⟨hdepth, hentries⟩
    have hle : depthOfNode node ≤ maxDepth - (depth + 1) := by
      refine depthOfNode_le fun key payload hmem => ?_
      have hentry : depth + 1 + depthOfEntry key payload ≤ maxDepth := hentries _ hmem
      omega
    omega

/-- An evaluation ends well, with a verdict that holds. -/
def Trial.Holds (trial : Trial Explanation) : Prop := verdictOf? trial.outcome = some true

theorem Trial.holds_iff {trial : Trial Explanation} :
    trial.Holds ↔ ∃ explanation, trial.outcome = .ok explanation ∧ explanation.matched = true := by
  rw [Holds]
  cases trial.outcome <;> simp [verdictOf?]

theorem forall_holds_iff {conditions : List Condition} {value : Value} {p : Position} :
    (∀ condition ∈ conditions, (condition.evaluate value p).Holds) ↔
      ∃ parts, (evaluateConditions conditions value p).outcome = .ok parts ∧
        parts.all (·.matched) = true := by
  induction conditions with
  | nil => simp [evaluateConditions]
  | cons condition rest ih =>
      rw [List.forall_mem_cons, ih, Trial.holds_iff]
      simp only [outcome_evaluateConditions_cons_ok]
      constructor
      · rintro ⟨⟨part, hpart, hmatched⟩, others, hothers, hall⟩
        refine ⟨_, ⟨part, others, hpart, hothers, rfl⟩, ?_⟩
        exact Bool.and_eq_true_iff.2 ⟨hmatched, hall⟩
      · rintro ⟨_, ⟨part, others, hpart, hothers, rfl⟩, hall⟩
        obtain ⟨hmatched, hall⟩ := Bool.and_eq_true_iff.1 hall
        exact ⟨⟨part, hpart, hmatched⟩, others, hothers, hall⟩

/-- A node holds if there is room for it and all of its keys hold. -/
theorem holds_evaluate_ofNode_iff {node value : Value} {p : Position} :
    ((Query.ofNode node).evaluate value p).Holds ↔
      p.depth < maxDepth ∧
        ∀ entry ∈ node.nodeEntries, ((Condition.read entry).evaluate value p.descend).Holds := by
  have hkeys := @forall_holds_iff (node.nodeEntries.map Condition.read) value p.descend
  rw [List.forall_mem_map] at hkeys
  rw [hkeys, Trial.holds_iff, Query.ofNode, Query.outcome_evaluate]
  by_cases hdepth : p.depth < maxDepth
  · rw [if_pos hdepth]
    by_cases hempty : node.nodeEntries.map Condition.read = []
    · simp [hempty, hdepth, Position.explain, evaluateConditions]
    · rw [if_neg hempty]
      simp only [map_eq_ok, hdepth, true_and]
      constructor
      · rintro ⟨_, ⟨parts, hparts, rfl⟩, hmatched⟩
        exact ⟨parts, hparts, (Explanation.matched_all parts).symm.trans hmatched⟩
      · rintro ⟨parts, hparts, hall⟩
        exact ⟨_, ⟨parts, hparts, rfl⟩, (Explanation.matched_all parts).trans hall⟩
  · simp [hdepth]

/-- A query that only names entries holds just in case there is room for it and it means to. -/
theorem holds_evaluatePayload_iff {payload : Value} (hplain : payload.HasPlainKeys) (value : Value)
    {p : Position} (hp : p.depth ≤ maxDepth) :
    (evaluatePayload payload value p).Holds ↔
      p.depth + depthOfPayload payload ≤ maxDepth ∧ payloadHolds payload value = true := by
  induction payload using Value.childrenInduction generalizing value p with
  | step payload ih =>
      cases hleaf : payload.isPrimitive with
      | true =>
          rw [evaluatePayload, depthOfPayload, payloadHolds_of_isPrimitive hleaf, if_pos hleaf,
            if_pos hleaf]
          simp [Trial.Holds, verdictOf?, Position.explain, hp]
      | false =>
          have hentries : p.depth < maxDepth → ∀ entry ∈ payload.nodeEntries,
              (((Condition.read entry).evaluate value p.descend).Holds ↔
                p.depth + 1 + depthOfEntry entry.1 entry.2 ≤ maxDepth ∧
                  entryHolds entry.1 entry.2 value = true) := by
            rintro hroom ⟨key, child⟩ hmem
            have hkey := hplain.classify hmem
            have hchild := Value.mem_children_of_mem_nodeEntries hmem
            rw [Trial.Holds, Condition.outcome_evaluate_field hkey, entryHolds_field hkey,
              depthOfEntry_field hkey]
            cases hfound : (Field.plain key).value? value with
            | none => simp [verdictOf?, Position.explain]
            | some found => exact ih child hchild (hplain.of_mem_children hchild) found hroom
          rw [evaluatePayload, if_neg (Bool.eq_false_iff.1 hleaf), holds_evaluate_ofNode_iff,
            depthOfPayload, if_neg (Bool.eq_false_iff.1 hleaf), room_for_node_iff,
            payloadHolds_of_not_isPrimitive hleaf, nodeHolds, List.all_eq_true, and_assoc,
            ← forall₂_and]
          exact and_congr_right fun hroom => forall₂_congr (hentries hroom)

theorem verdict?_eq_some_true_iff {query : Document} (hplain : (Value.document query).HasPlainKeys)
    (value : Value) :
    verdict? query value = some true ↔
      queryDepth query ≤ maxDepth ∧ payloadHolds (.document query) value = true := by
  have hholds := holds_evaluatePayload_iff hplain value (p := .root) (Nat.zero_le _)
  rw [evaluatePayload_document, depthOfPayload_document, Position.root, Nat.zero_add] at hholds
  exact hholds

/-! ### A value and its extensions -/

/-- What holds of a value holds of its extensions. -/
theorem payloadHolds_of_extends {payload : Value} (hplain : payload.HasPlainKeys)
    {value extended : Value} (hextends : value.Extends extended)
    (h : payloadHolds payload value = true) : payloadHolds payload extended = true := by
  induction payload using Value.childrenInduction generalizing value extended with
  | step payload ih =>
      cases hleaf : payload.isPrimitive with
      | true =>
          rw [payloadHolds_of_isPrimitive hleaf] at h ⊢
          cases hvalue : value.isPrimitive with
          | true => rwa [← hextends.eq_of_isPrimitive hvalue]
          | false => cases (Value.satisfies_of_not_isPrimitive hvalue hleaf).symm.trans h
      | false =>
          rw [payloadHolds_of_not_isPrimitive hleaf, nodeHolds, List.all_eq_true] at h ⊢
          rintro ⟨key, child⟩ hmem
          have hkey := hplain.classify hmem
          have hchild := Value.mem_children_of_mem_nodeEntries hmem
          have hentry := h _ hmem
          rw [entryHolds_field hkey] at hentry ⊢
          obtain ⟨found, hfound, hholds⟩ := (Option.any_eq_true _ _).1 hentry
          obtain ⟨other, hother, hfoundExtends⟩ := hextends.get? hfound
          refine (Option.any_eq_true _ _).2 ⟨other, hother, ?_⟩
          exact ih child hchild (hplain.of_mem_children hchild) hfoundExtends hholds

/-- A value that finds itself at every depth holds of itself. -/
theorem payloadHolds_self {value : Value} (hplain : value.HasPlainKeys)
    (hdistinct : value.HasDistinctKeys) (hordinary : ∀ part ∈ value.parts, part.IsOrdinary) :
    payloadHolds value value = true := by
  induction value using Value.childrenInduction with
  | step value ih =>
      have hvalue := hordinary value value.mem_parts_self
      cases hleaf : value.isPrimitive with
      | true =>
          rw [payloadHolds_of_isPrimitive hleaf]
          exact Value.satisfies_self hleaf hvalue
      | false =>
          rw [payloadHolds_of_not_isPrimitive hleaf, nodeHolds, List.all_eq_true]
          rintro ⟨key, child⟩ hmem
          have hchild := Value.mem_children_of_mem_nodeEntries hmem
          rw [entryHolds_field (hplain.classify hmem)]
          refine (Option.any_eq_true _ _).2
            ⟨child, Value.get?_of_mem_nodeEntries hdistinct hvalue hmem, ?_⟩
          exact ih child hchild (hplain.of_mem_children hchild) (hdistinct.of_mem_children hchild)
            fun part hpart => hordinary part (Value.parts_subset_of_mem_children hchild hpart)

/-- A query that only names entries is no deeper than its containers. -/
theorem depthOfPayload_le_nesting {payload : Value} (hplain : payload.HasPlainKeys) :
    depthOfPayload payload ≤ payload.nesting := by
  induction payload using Value.childrenInduction with
  | step payload ih =>
      rw [depthOfPayload]
      split
      · exact Nat.zero_le _
      · rename_i hcontainer
        have hpos := Value.nesting_pos (Bool.eq_false_iff.2 hcontainer)
        have hle : depthOfNode payload ≤ payload.nesting - 1 := by
          refine depthOfNode_le fun key child hmem => ?_
          have hchild := Value.mem_children_of_mem_nodeEntries hmem
          have hdepth := ih child hchild (hplain.of_mem_children hchild)
          have hlt := Value.nesting_lt_of_mem_children hchild
          rw [depthOfEntry_field (hplain.classify hmem)]
          omega
        omega

/-- A document that only names entries holds of itself and of its extensions, and a query document
that only names entries holds of all extensions of what it holds of. -/
theorem holds_of_itself_and_extensions :
    (∀ document : Document, (Value.document document).HasPlainKeys →
      (Value.document document).HasDistinctKeys →
      (∀ part ∈ (Value.document document).parts, part.IsOrdinary) →
      (Value.document document).nesting ≤ 100 →
      verdict? document (.document document) = some true ∧
        ∀ extended, (Value.document document).Extends extended →
          verdict? document extended = some true) ∧
    ∀ query value extended, (Value.document query).HasPlainKeys → Value.Extends value extended →
      verdict? query value = some true → verdict? query extended = some true := by
  have hextensions : ∀ query value extended, (Value.document query).HasPlainKeys →
      Value.Extends value extended →
      verdict? query value = some true → verdict? query extended = some true := by
    intro query value extended hplain hextends h
    obtain ⟨hroom, hholds⟩ := (verdict?_eq_some_true_iff hplain value).1 h
    exact (verdict?_eq_some_true_iff hplain extended).2
      ⟨hroom, payloadHolds_of_extends hplain hextends hholds⟩
  refine ⟨fun document hplain hdistinct hordinary hnesting => ?_, hextensions⟩
  have hdepth := depthOfPayload_le_nesting hplain
  rw [depthOfPayload_document] at hdepth
  have hself : verdict? document (.document document) = some true :=
    (verdict?_eq_some_true_iff hplain _).2
      ⟨Nat.le_trans hdepth hnesting, payloadHolds_self hplain hdistinct hordinary⟩
  exact ⟨hself, fun extended hextends => hextensions _ _ extended hplain hextends hself⟩

/-- The extension has more keys, also in the inner document, in another order, and more elements,
also in the inner array. The query names a place by its number. -/
theorem holds_of_itself_and_extensions_inner :
    ∃ document query extended : Document,
      document = [("a", .array [.document [("b", .undefined)], .array []]),
        ("", .array [.number Binary64.negativeZero, .identifier (.numeric 7)])] ∧
      query = [("a", .document [("1", .array []), ("0", .document [("b", .undefined)])])] ∧
      extended = [("", .array [.number Binary64.negativeZero, .identifier (.numeric 7), .null]),
        ("$c.d", .bool true),
        ("a", .array [.document [("b.c", .null), ("b", .undefined)], .array [.null]])] ∧
      ((Value.document document).HasPlainKeys ∧ (Value.document document).HasDistinctKeys ∧
        (∀ part ∈ (Value.document document).parts, part.IsOrdinary) ∧
        (Value.document document).nesting ≤ 100) ∧
      (Value.document query).HasPlainKeys ∧
      (Value.document document).Extends (.document extended) ∧
      verdict? document (.document document) = some true ∧
      verdict? document (.document extended) = some true ∧
      verdict? query (.document extended) = some true := by
  have hleaf : Value.Extends .undefined .undefined := .leaf rfl
  have harray : Value.Extends (.array []) (.array [.null]) := .array .nil
  have hleaves : List.Forall₂ Value.Extends
      [.number Binary64.negativeZero, .identifier (.numeric 7)]
      [.number Binary64.negativeZero, .identifier (.numeric 7)] :=
    .cons (.leaf rfl) (.cons (.leaf rfl) .nil)
  have hinner : Value.Extends (.document [("b", .undefined)])
      (.document [("b.c", .null), ("b", .undefined)]) := by
    refine @Value.Extends.document _ [("b", .undefined)] _ rfl (.cons hleaf .nil) ?_
    simp only [Keyed.find?]
    grind
  have hextends : Value.Extends
      (.document [("a", .array [.document [("b", .undefined)], .array []]),
        ("", .array [.number Binary64.negativeZero, .identifier (.numeric 7)])])
      (.document [("", .array [.number Binary64.negativeZero, .identifier (.numeric 7), .null]),
        ("$c.d", .bool true),
        ("a", .array [.document [("b.c", .null), ("b", .undefined)], .array [.null]])]) := by
    refine @Value.Extends.document _
      [("a", .array [.document [("b.c", .null), ("b", .undefined)], .array [.null]]),
        ("", .array [.number Binary64.negativeZero, .identifier (.numeric 7), .null])] _ rfl
      (.cons (.array (.cons hinner (.cons harray .nil))) (.cons (.array hleaves) .nil)) ?_
    simp only [Keyed.find?]
    grind
  have hquery : (Value.document [("a", .document [("1", .array []),
      ("0", .document [("b", .undefined)])])]).HasPlainKeys := by decide
  obtain ⟨hdocument, hquerying⟩ := holds_of_itself_and_extensions
  obtain ⟨hself, hmore⟩ := hdocument [("a", .array [.document [("b", .undefined)], .array []]),
    ("", .array [.number Binary64.negativeZero, .identifier (.numeric 7)])]
    (by decide) (by decide) (by decide) (by decide)
  exact ⟨_, _, _, rfl, rfl, rfl, by decide, hquery, hextends, hself, hmore _ hextends,
    hquerying _ _ _ hquery hextends (by decide)⟩

end Verdict
