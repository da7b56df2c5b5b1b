import Mathlib.Data.List.Perm.Basic
import Verdict.Proofs.Keyed
import Verdict.Proofs.Query.Congruence
import Verdict.Proofs.Value.Parts

/-!
# The order of keys

`Value.Reordered` relates values that differ only in the order of the keys of their documents, at
any depth; arrays keep their order. What a document holds under a key does not depend on the order
(`Value.Reordered.holdAlike`), as documents hold each key once.
-/

namespace Verdict

/-- Entries with related values under the same keys, in another order. -/
abbrev EntriesReordered (rel : Value → Value → Prop) : Document → Document → Prop :=
  Relation.Comp (EntriesRelated rel) List.Perm

theorem entriesRelated_of_values {rel : Value → Value → Prop} {as bs : Document}
    (hkeys : Keyed.keys as = Keyed.keys bs)
    (hvalues : List.Forall₂ rel (as.map Prod.snd) (bs.map Prod.snd)) :
    EntriesRelated rel as bs := by
  induction as generalizing bs with
  | nil =>
      cases bs with
      | nil => exact .nil
      | cons entry rest => cases hkeys
  | cons entry rest ih =>
      cases bs with
      | nil => cases hkeys
      | cons other others =>
          obtain ⟨hkey, hkeys⟩ := List.cons.inj hkeys
          obtain ⟨hvalue, hvalues⟩ := List.forall₂_cons.1 hvalues
          exact .cons ⟨hkey, hvalue⟩ (ih hkeys hvalues)

namespace Value

/-- Values that differ only in the order of the keys of their documents. -/
inductive Reordered : Value → Value → Prop
  | leaf {leaf : Value} (h : leaf.isPrimitive = true) : Reordered leaf leaf
  | array {as bs : List Value} (h : List.Forall₂ Reordered as bs) :
      Reordered (.array as) (.array bs)
  | document {as mid bs : Document} (horder : mid.Perm bs)
      (hkeys : Keyed.keys as = Keyed.keys mid)
      (hvalues : List.Forall₂ Reordered (as.map Prod.snd) (mid.map Prod.snd)) :
      Reordered (.document as) (.document bs)

theorem Reordered.keepsShape : KeepsShape Reordered (EntriesReordered Reordered) := by
  intro a b h
  cases h with
  | leaf hleaf => exact .leaf hleaf hleaf
  | array hitems => exact .array hitems
  | document horder hkeys hvalues =>
      exact .document ⟨_, entriesRelated_of_values hkeys hvalues, horder⟩

theorem Reordered.eq_of_isPrimitive {a b : Value} (h : Reordered a b)
    (hleaf : a.isPrimitive = true) : a = b := by
  cases h with
  | leaf => rfl
  | array => cases hleaf
  | document => cases hleaf

/-- As nodes of a query, reordered values have the same keys, in another order. -/
theorem Reordered.nodeEntries {a b : Value} (h : Reordered a b) :
    EntriesReordered Reordered a.nodeEntries b.nodeEntries := by
  cases Reordered.keepsShape h with
  | document hentries => exact hentries
  | array hitems => exact ⟨_, KeepsShape.entriesRelated_array hitems, .refl _⟩
  | leaf ha hb =>
      rw [nodeEntries_of_isPrimitive ha, nodeEntries_of_isPrimitive hb]
      exact ⟨_, .nil, .nil⟩

/-- No document in a value, at whatever depth, has a key twice. -/
def HasDistinctKeys (value : Value) : Prop :=
  ∀ entries ∈ value.documents, (Keyed.keys entries).Nodup

instance (value : Value) : Decidable value.HasDistinctKeys :=
  inferInstanceAs (Decidable (∀ entries ∈ value.documents, (Keyed.keys entries).Nodup))

theorem HasDistinctKeys.of_mem_children {value child : Value} (h : value.HasDistinctKeys)
    (hchild : child ∈ value.children) : child.HasDistinctKeys :=
  fun entries hmem => h entries (documents_subset_of_mem_children hchild hmem)

/-- A value as documents build it, and the same with its keys in another order. -/
def ReorderedDistinct (a b : Value) : Prop := a.HasDistinctKeys ∧ Reordered a b

/-- The order of keys is not seen by whoever asks for one of them. -/
theorem ReorderedDistinct.keepsShape :
    KeepsShape ReorderedDistinct (HoldAlike ReorderedDistinct) := by
  rintro a b ⟨hdistinct, h⟩
  cases h with
  | leaf hleaf => exact .leaf hleaf hleaf
  | array hitems =>
      refine .array ((forall₂_and_mem hitems).imp ?_)
      rintro x y ⟨hxy, hx, -⟩
      exact ⟨hdistinct.of_mem_children hx, hxy⟩
  | @document as mid bs horder hkeys hvalues =>
      have hmid : (Keyed.keys mid).Nodup := hkeys ▸ hdistinct as (mem_documents_document as)
      have hentries : EntriesRelated ReorderedDistinct as mid := by
        refine entriesRelated_of_values hkeys ((forall₂_and_mem hvalues).imp ?_)
        rintro x y ⟨hxy, hx, -⟩
        exact ⟨hdistinct.of_mem_children hx, hxy⟩
      refine .document fun key => ?_
      rw [← Keyed.find?_eq_of_perm horder hmid]
      exact hentries.holdAlike key

end Value

end Verdict
