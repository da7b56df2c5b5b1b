import Mathlib.Data.List.Flatten
import Verdict.Proofs.Query.Sufficiency

/-!
# No verdict without reasons

A verdict has reasons, and so has every verdict inside of it: a node that fails gives reasons of
each of its keys that fail, and a node that holds gives reasons of all of its keys. This is said of
every node in a query, wherever it is evaluated (`reasons_of_every_key`). Only clauses can be
missing, so it is enough that `$and` and `$or` have some.
-/

namespace Verdict

/-- A key that has clauses if it asks for clauses. -/
def HasSomeClause (entry : String × Value) : Prop :=
  entry.1 = "$and" ∨ entry.1 = "$or" → entry.2.isEmptyArray = false

instance (entry : String × Value) : Decidable (HasSomeClause entry) :=
  inferInstanceAs (Decidable (_ → _))

/-- A place in an array asks for no clauses. -/
theorem hasSomeClause_place (index : Nat) (item : Value) : HasSomeClause (toString index, item) := by
  have hfield := Key.classify_toString index
  rintro (hkey | hkey) <;> rw [show toString index = _ from hkey] at hfield <;> cases hfield

theorem everyKeyReads_hasClauses {node : Value} (h : node.EveryEntry HasSomeClause) :
    EveryKeyReads Condition.HasClauses node := by
  intro part hpart entry hentry
  exact hasClauses_read ((h.of_mem_parts hpart).nodeEntries hasSomeClause_place entry hentry)

/-- The reasons of a part that has the verdict of all parts are given for it. -/
theorem Explanation.reasons_sublist_all {parts : List Explanation} {part : Explanation}
    (hpart : part ∈ parts) (h : part.matched = (all parts).matched) :
    part.reasons.Sublist (all parts).reasons := by
  have hamong : ∀ others : List Explanation, part ∈ others →
      part.reasons.Sublist (others.flatMap (·.reasons)) := by
    intro others hmem
    have hsub := (List.singleton_sublist.2 hmem).flatMap (·.reasons)
    rwa [List.flatMap_singleton] at hsub
  rw [matched_all] at h
  rw [all]
  split
  · exact hamong parts hpart
  · rename_i hfails
    refine hamong _ (List.mem_filter.2 ⟨hpart, ?_⟩)
    rw [h, Bool.eq_false_iff.2 hfails, Bool.not_false]

/-- What the keys of a node come to by themselves, where all of them have clauses: every key has
reasons, and those of the keys with the verdict of the node are among the reasons of the node. -/
theorem exists_parts_of_evaluate_ofNode {node value : Value} (h : node.EveryEntry HasSomeClause)
    {p : Position} {explanation : Explanation}
    (hok : ((Query.ofNode node).evaluate value p).outcome = .ok explanation) :
    ∃ parts,
      List.Forall₂ (fun entry part =>
        ((Condition.read entry).evaluate value p.descend).outcome = .ok part)
        node.nodeEntries parts ∧
      explanation.matched = parts.all (·.matched) ∧
      ∀ part ∈ parts, part.matched = explanation.matched →
        part.reasons ≠ [] ∧ part.reasons.Sublist explanation.reasons := by
  have hkeys := forall_mem_keys_ofNode (everyKeyReads_hasClauses h) p.queryPath p.depth
  rw [Query.ofNode, Query.visits] at hkeys
  rw [Query.ofNode, Query.outcome_evaluate] at hok
  split at hok
  · rename_i hdepth
    rw [Visit.keys_enter_of_lt hdepth] at hkeys
    split at hok
    · rename_i hempty
      obtain rfl := Except.ok.inj hok
      rw [List.map_eq_nil_iff.1 hempty]
      exact ⟨[], .nil, rfl, List.forall_mem_nil _⟩
    · obtain ⟨parts, hparts, rfl⟩ := map_eq_ok.1 hok
      obtain ⟨-, hreasons⟩ := ensures_reasons_conditions _ value p.descend hkeys parts hparts
      rw [evaluateConditions_eq_each, Trial.outcome_each_ok, List.forall₂_map_left_iff] at hparts
      refine ⟨parts, hparts, Explanation.matched_all parts, fun part hpart hmatched => ?_⟩
      exact ⟨hreasons part hpart, Explanation.reasons_sublist_all hpart hmatched⟩
  · cases hok

/-- Every verdict of a query is explained, and so is every verdict of a node inside of it, by each
key that decides it: if a node fails, by each key that fails, and if it holds, by every key. -/
theorem reasons_of_every_key {query : Document}
    (hclauses : (Value.document query).EveryEntry HasSomeClause) :
    (∀ value p explanation, (evaluateFrom query value p).outcome = .ok explanation →
      explanation.reasons ≠ []) ∧
    ∀ node ∈ (Value.document query).parts, ∀ value p explanation,
      ((Query.ofNode node).evaluate value p).outcome = .ok explanation →
      explanation.reasons ≠ [] ∧
      ∃ parts,
        List.Forall₂ (fun entry part =>
          ((Condition.read entry).evaluate value p.descend).outcome = .ok part)
          node.nodeEntries parts ∧
        explanation.matched = parts.all (·.matched) ∧
        ∀ part ∈ parts, part.matched = explanation.matched →
          part.reasons ≠ [] ∧ part.reasons.Sublist explanation.reasons := by
  have hreasons : ∀ node ∈ (Value.document query).parts, ∀ value p explanation,
      ((Query.ofNode node).evaluate value p).outcome = .ok explanation →
      explanation.reasons ≠ [] := by
    intro node hnode value p
    have hkeys := everyKeyReads_hasClauses (hclauses.of_mem_parts hnode)
    exact (Query.ofNode node).ensures_reasons value p (forall_mem_keys_ofNode hkeys _ _)
  constructor
  · intro value p explanation hok
    refine hreasons _ (Value.mem_parts_self _) value p explanation ?_
    rwa [Query.ofNode_document]
  · intro node hnode value p explanation hok
    exact ⟨hreasons node hnode value p explanation hok,
      exists_parts_of_evaluate_ofNode (hclauses.of_mem_parts hnode) hok⟩

/-- Of the inner node both keys fail, one of them in an array, and both are among the reasons, there
and for the query. -/
theorem reasons_of_every_key_inner :
    ∃ query node,
      query = [("$or", .array [.document [("a", .null)],
        .document [("b", .document [("$elemMatch", node)])]])] ∧
      node = Value.document [("c", .array [.null]), ("d", .null)] ∧
      (Value.document query).EveryEntry HasSomeClause ∧
      (evaluateFrom query (.document [("b", .array [.document [("c", .array [.bool true])]])])
          ⟨"x", "q", 3⟩).outcome =
        .ok ⟨false, [⟨"x.a", "q.$or.[0].a", .hasNoPath⟩,
          ⟨"x.b.[0].c.0", "q.$or.[1].b.$elemMatch.c.0", .equal⟩,
          ⟨"x.b.[0].d", "q.$or.[1].b.$elemMatch.d", .hasNoPath⟩]⟩ ∧
      node ∈ (Value.document query).parts ∧
      ∃ explanation parts,
        ((Query.ofNode node).evaluate (.document [("c", .array [.bool true])])
          ⟨"x.b.[0]", "q.$or.[1].b.$elemMatch", 6⟩).outcome = .ok explanation ∧
        explanation.matched = false ∧ explanation.reasons ≠ [] ∧
        List.Forall₂ (fun entry part => ((Condition.read entry).evaluate
          (.document [("c", .array [.bool true])])
          ⟨"x.b.[0]", "q.$or.[1].b.$elemMatch", 7⟩).outcome = .ok part)
          node.nodeEntries parts ∧
        explanation.matched = parts.all (·.matched) ∧
        ∀ part ∈ parts, part.matched = explanation.matched →
          part.reasons ≠ [] ∧ part.reasons.Sublist explanation.reasons := by
  have hclauses : (Value.document [("$or", .array [.document [("a", .null)],
      .document [("b", .document [("$elemMatch",
        .document [("c", .array [.null]), ("d", .null)])])]])]).EveryEntry HasSomeClause := by
    decide
  have hnode : Value.document [("c", .array [.null]), ("d", .null)] ∈
      (Value.document [("$or", .array [.document [("a", .null)],
        .document [("b", .document [("$elemMatch",
          .document [("c", .array [.null]), ("d", .null)])])]])]).parts := by
    simp [Value.parts, Value.itemParts, Value.entryParts]
  have hok : ((Query.ofNode (.document [("c", .array [.null]), ("d", .null)])).evaluate
      (.document [("c", .array [.bool true])])
      ⟨"x.b.[0]", "q.$or.[1].b.$elemMatch", 6⟩).outcome =
        .ok ⟨false, [⟨"x.b.[0].c.0", "q.$or.[1].b.$elemMatch.c.0", .equal⟩,
          ⟨"x.b.[0].d", "q.$or.[1].b.$elemMatch.d", .hasNoPath⟩]⟩ := by decide
  obtain ⟨hreasons, parts, hparts⟩ := (reasons_of_every_key hclauses).2 _ hnode _ _ _ hok
  exact ⟨_, _, rfl, rfl, hclauses, by decide, hnode, _, parts, hok, rfl, hreasons, hparts⟩

end Verdict
