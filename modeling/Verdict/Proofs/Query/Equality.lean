import Verdict.Proofs.Query.Congruence
import Verdict.Proofs.Value.Equality

/-!
# Equal queries and equal values

A query may be exchanged for an equal one, and a value for an equal one: the evaluation stays the
same, with its reasons or its rejection, and so does the check (`explain_and_validate_of_equals`).
Equality of identifiers is their own affair, so this is said for identifiers that are equal
consistently. They may be different all the same, and be written differently.
-/

namespace Verdict

namespace Value

/-- Equal values answer alike, also when they are compared with equal leaves. -/
theorem EqualWithin.interchangeable {ids : List Identifier}
    (hids : Identifier.EqualConsistently ids) :
    Interchangeable (EqualWithin ids) (EqualWithin ids) where
  shape _ _ h := (keepsShape ids h).mono fun _ _ => EntriesRelated.holdAlike
  undefined := ⟨rfl, List.nil_subset _, List.nil_subset _⟩
  satisfies_leaf h hleaf hleaves :=
    (h.satisfies_congr_left hids hleaf hleaves.1.left).trans
      (hleaves.1.satisfies_congr_right hids hleaves.2.1 h.right)
  order?_leaf h hleaf hleaves :=
    (h.order?_congr_left hleaf).trans (hleaves.1.order?_congr_right hleaves.2.1)

end Value

section

open Value (EqualWithin)

variable {query other : Document} {value value' : Value}

/-- Equal queries are evaluated alike on equal values, from any place on and with the same
journal. -/
theorem evaluateFrom_eq_of_equalWithin {ids : List Identifier}
    (hids : Identifier.EqualConsistently ids)
    (hquery : EqualWithin ids (.document query) (.document other))
    (hvalue : EqualWithin ids value value') (p : Position) :
    evaluateFrom query value p = evaluateFrom other value' p :=
  evaluateFrom_congr (EqualWithin.keepsShape ids) (EqualWithin.interchangeable hids) hquery hvalue p

/-- Equal queries and equal values may be exchanged for one another. Which identifiers are equal is
for them to say, as long as they say so symmetrically and transitively. -/
theorem explain_and_validate_of_equals (hquery : Value.equalsEntries query other)
    (hvalue : value.equals value')
    (hids : Identifier.EqualConsistently
      ([.document query, .document other, value, value'].flatMap Value.identifiers)) :
    explain query value = explain other value' ∧ validate query = validate other := by
  generalize hvalues : [Value.document query, .document other, value, value'] = values at hids
  have hsubset : ∀ v ∈ values, v.identifiers ⊆ values.flatMap Value.identifiers :=
    fun v hmem _ hid => List.mem_flatMap_of_mem hmem hid
  have hqueries :
      EqualWithin (values.flatMap Value.identifiers) (.document query) (.document other) :=
    ⟨hquery, hsubset _ (by simp [← hvalues]), hsubset _ (by simp [← hvalues])⟩
  have hvalues : EqualWithin (values.flatMap Value.identifiers) value value' :=
    ⟨hvalue, hsubset _ (by simp [← hvalues]), hsubset _ (by simp [← hvalues])⟩
  constructor
  · exact congrArg Trial.outcome (evaluateFrom_eq_of_equalWithin hids hqueries hvalues .root)
  · exact congrArg Trial.outcome (check_congr (EqualWithin.keepsShape _) hqueries)

/-- One zero in the place of the other, and names that differ in their case, to which their equality
pays no heed. -/
theorem explain_and_validate_of_equals_caseless :
    ∃ (name : String → Identifier) (query other : Document) (value value' : Value),
      name = .ofText "Name"
        (fun s t => s.toList.map Char.toLower == t.toList.map Char.toLower) ∧
      query = [("a", .number Binary64.zero), ("b.c", .document
        [("$in", .array [.null, .identifier (name "Ann")])])] ∧
      other = [("a", .number Binary64.negativeZero), ("b.c", .document
        [("$in", .array [.null, .identifier (name "ann")])])] ∧
      value = .document [("a", .number Binary64.negativeZero), ("b", .document
        [("c", .array [.identifier (name "ANN"), .number Binary64.zero])])] ∧
      value' = .document [("a", .number Binary64.zero), ("b", .document
        [("c", .array [.identifier (name "aNN"), .number Binary64.negativeZero])])] ∧
      (name "Ann" ≠ name "ann" ∧ name "ANN" ≠ name "aNN") ∧
      Value.equalsEntries query other ∧ value.equals value' ∧
      Identifier.EqualConsistently
        ([.document query, .document other, value, value'].flatMap Value.identifiers) ∧
      explain query value = explain other value' ∧ validate query = validate other := by
  refine ⟨_, _, _, _, _, rfl, rfl, rfl, rfl, rfl, ⟨?queryNames, ?valueNames⟩, ?hquery, ?hvalue, ?hids,
    explain_and_validate_of_equals ?hquery ?hvalue ?hids⟩
  case queryNames => exact fun h => absurd (congrArg Identifier.view h) (by decide)
  case valueNames => exact fun h => absurd (congrArg Identifier.view h) (by decide)
  case hquery => decide
  case hvalue => decide
  case hids =>
    refine Identifier.EqualConsistently.ofText ?_ ?_ ["Ann", "ann", "ANN", "aNN"]
    · intro s t h
      rwa [BEq.comm]
    · intro s t u hst htu
      exact BEq.trans hst htu

end

end Verdict
