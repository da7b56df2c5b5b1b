import Verdict.Proofs.Keyed
import Verdict.Proofs.Value.PartialEquivalence

/-!
# Documents and their history

A document is built by writes, one at a time or all at once, and what it has become tells nothing
about them but the order in which its keys came up and what was written last under each
(`Keyed.HoldsWritten`). Whatever is asked of a document is answered from there. Documents that were
built by the same writes are the same, which makes them equal as long as the values that were written
are equal to themselves (`Value.entriesEqualBy_self`).
-/

namespace Verdict.Value

/-- Entries whose values have nothing in them that denies itself are equal to themselves. -/
theorem entriesEqualBy_self {same : Identifier → Identifier → Bool} {entries : Document}
    (h : ∀ entry ∈ entries, ∀ part ∈ entry.2.parts, part.EqualsItself same) :
    entriesEqualBy same entries entries := by
  rw [entriesEqualBy_iff, EntriesRelated, List.forall₂_same]
  intro entry hmem
  exact ⟨rfl, equalsBy_self_iff.2 (h entry hmem)⟩

/-- After any history of writes a document holds every key that was written, once, in the order of
the first writes and with the value of the last. All that can be asked of it agrees with that, and
an insertion tells what was held before it. Collecting the entries that were written makes an equal
document, whatever its identifiers are equal to, if they and the numbers are equal to themselves. -/
theorem document_of_history (history : List (Keyed.Write Value)) :
    Keyed.HoldsWritten (history.map Keyed.Write.entry) (Keyed.after history) ∧
    (∀ key, Keyed.find? key (Keyed.after history) = none ↔
      ∀ write ∈ history, write.entry.1 ≠ key) ∧
    (∀ key value, (Keyed.insert key value (Keyed.after history)).1 =
      Keyed.find? key (Keyed.after history)) ∧
    (∀ key, Keyed.contains key (Keyed.after history) ↔ ∃ write ∈ history, write.entry.1 = key) ∧
    (Keyed.after history).length =
      (Keyed.keys (history.map Keyed.Write.entry)).eraseDups.length ∧
    ((Keyed.after history).isEmpty ↔ history = []) ∧
    (∀ key value, (key, value) ∈ Keyed.after history ↔
      Keyed.find? key (Keyed.after history) = some value) ∧
    Keyed.ofList (history.map Keyed.Write.entry) = Keyed.after history ∧
    (∀ same, (∀ write ∈ history, ∀ part ∈ write.entry.2.parts, part.EqualsItself same) →
      entriesEqualBy same (Keyed.ofList (history.map Keyed.Write.entry)) (Keyed.after history)) ∧
    ((∀ write ∈ history, ∀ part ∈ write.entry.2.parts, part.EqualsItself Identifier.equals) →
      equalsEntries (Keyed.ofList (history.map Keyed.Write.entry)) (Keyed.after history)) := by
  have h := Keyed.holdsWritten_after history
  have hkeys : ∀ key, key ∈ Keyed.keys (Keyed.after history) ↔
      ∃ write ∈ history, write.entry.1 = key := by
    intro key
    rw [h.mem_keys_iff, Keyed.keys, List.map_map, List.mem_map]
    rfl
  have hequal : ∀ same,
      (∀ write ∈ history, ∀ part ∈ write.entry.2.parts, part.EqualsItself same) →
      entriesEqualBy same (Keyed.ofList (history.map Keyed.Write.entry)) (Keyed.after history) := by
    intro same hself
    rw [← Keyed.ofList_eq_after]
    apply entriesEqualBy_self
    intro entry hmem
    obtain ⟨write, hwrite, rfl⟩ := List.mem_map.1 (Keyed.mem_of_mem_ofList hmem)
    exact hself write hwrite
  refine ⟨h, ?_, ?_, ?_, h.length_eq, ?_, ?_, Keyed.ofList_eq_after history, hequal, ?_⟩
  · intro key
    rw [Keyed.find?_eq_none_iff, hkeys]
    simp only [not_exists, not_and]
  · intro key value
    rw [Keyed.insert_eq]
  · intro key
    rw [Keyed.contains_iff, hkeys]
  · rw [List.isEmpty_iff, h.eq_nil_iff, List.map_eq_nil_iff]
  · intro key value
    exact h.mem_iff
  · intro hself
    rw [← entriesEqualBy_eq_equalsEntries]
    exact hequal _ hself

/-- The first key is written again after the second, and by an insertion that tells what it
replaces. -/
theorem document_of_history_rewritten :
    ∃ history : List (Keyed.Write Value),
      history = [.insert "b" (.bool true), .chain "a" .null, .insert "b" (.number Binary64.zero)] ∧
      (∀ write ∈ history, ∀ part ∈ write.entry.2.parts, part.EqualsItself Identifier.equals) ∧
      Keyed.after history = [("b", .number Binary64.zero), ("a", .null)] ∧
      (Keyed.insert "b" .null (Keyed.after history)).1 = some (.number Binary64.zero) ∧
      equalsEntries (Keyed.ofList (history.map Keyed.Write.entry)) (Keyed.after history) := by
  obtain ⟨-, -, hreplaced, -, -, -, -, -, -, hequal⟩ := document_of_history
    [.insert "b" (.bool true), .chain "a" .null, .insert "b" (.number Binary64.zero)]
  refine ⟨_, rfl, ?hself, rfl, hreplaced "b" .null, hequal ?hself⟩
  simp [Keyed.Write.entry, parts, EqualsItself]
  decide

end Verdict.Value
