import Verdict.Proofs.Query.Reading

/-!
# The parts of a value

What is asked of a value at every depth is asked of its parts: the value itself and all values
inside of it. `Value.identifiers` and `Value.documents` pick out the identifiers and the documents
among them, and `Value.EveryEntry` asks something of all entries of these documents.
-/

namespace Verdict.Value

mutual

/-- A value and all values inside of it. -/
def parts : Value → List Value
  | array items => array items :: itemParts items
  | document entries => document entries :: entryParts entries
  | leaf => [leaf]
termination_by structural value => value

def itemParts : List Value → List Value
  | [] => []
  | item :: rest => parts item ++ itemParts rest
termination_by structural items => items

def entryParts : List (String × Value) → List Value
  | [] => []
  | (_, value) :: rest => parts value ++ entryParts rest
termination_by structural entries => entries

end

theorem mem_parts_self (value : Value) : value ∈ value.parts := by
  cases value <;> exact List.mem_cons_self

theorem itemParts_eq_flatMap (items : List Value) : itemParts items = items.flatMap parts := by
  induction items with
  | nil => rfl
  | cons item rest ih => exact congrArg (item.parts ++ ·) ih

theorem entryParts_eq_flatMap (entries : List (String × Value)) :
    entryParts entries = (entries.map Prod.snd).flatMap parts := by
  induction entries with
  | nil => rfl
  | cons entry rest ih => exact congrArg (entry.2.parts ++ ·) ih

theorem parts_subset_of_mem_children {value child : Value} (h : child ∈ value.children) :
    child.parts ⊆ value.parts := by
  intro part hpart
  cases value with
  | array items =>
      refine List.mem_cons_of_mem _ ?_
      rw [itemParts_eq_flatMap]
      exact List.mem_flatMap_of_mem h hpart
  | document entries =>
      refine List.mem_cons_of_mem _ ?_
      rw [entryParts_eq_flatMap]
      exact List.mem_flatMap_of_mem h hpart
  | _ => exact absurd h List.not_mem_nil

theorem mem_parts_iff {value part : Value} :
    part ∈ value.parts ↔ part = value ∨ ∃ child ∈ value.children, part ∈ child.parts := by
  cases value with
  | array items =>
      rw [parts, List.mem_cons, itemParts_eq_flatMap, List.mem_flatMap]
      rfl
  | document entries =>
      rw [parts, List.mem_cons, entryParts_eq_flatMap, List.mem_flatMap]
      rfl
  | _ => simp [parts, children]

theorem forall_mem_parts_iff {value : Value} {post : Value → Prop} :
    (∀ part ∈ value.parts, post part) ↔
      post value ∧ ∀ child ∈ value.children, ∀ part ∈ child.parts, post part := by
  constructor
  · intro h
    refine ⟨h value (mem_parts_self value), ?_⟩
    intro child hchild part hpart
    exact h part (parts_subset_of_mem_children hchild hpart)
  · rintro ⟨hvalue, hchildren⟩ part hpart
    rcases mem_parts_iff.1 hpart with rfl | ⟨child, hchild, hpart⟩
    · exact hvalue
    · exact hchildren child hchild part hpart

/-- The parts of a part are parts. -/
theorem parts_subset_of_mem_parts {value part : Value} (h : part ∈ value.parts) :
    part.parts ⊆ value.parts := by
  induction value using childrenInduction with
  | step value ih =>
      obtain rfl | ⟨child, hchild, hpart⟩ := mem_parts_iff.1 h
      · exact List.Subset.refl _
      · exact List.Subset.trans (ih child hchild hpart) (parts_subset_of_mem_children hchild)

/-- The identifiers in a value, at every depth. -/
def identifiers (value : Value) : List Identifier :=
  value.parts.filterMap fun
    | identifier id => some id
    | _ => none

/-- The documents in a value, at every depth; a document is among them itself. -/
def documents (value : Value) : List Document :=
  value.parts.filterMap fun
    | document entries => some entries
    | _ => none

theorem identifiers_subset_of_mem_children {value child : Value} (h : child ∈ value.children) :
    child.identifiers ⊆ value.identifiers :=
  List.filterMap_subset _ (parts_subset_of_mem_children h)

theorem documents_subset_of_mem_children {value child : Value} (h : child ∈ value.children) :
    child.documents ⊆ value.documents :=
  List.filterMap_subset _ (parts_subset_of_mem_children h)

theorem mem_identifiers_identifier (id : Identifier) : id ∈ (identifier id).identifiers :=
  List.mem_cons_self

theorem mem_documents_document (entries : Document) : entries ∈ (document entries).documents :=
  List.mem_filterMap.2 ⟨_, mem_parts_self _, rfl⟩

/-! ### Entries -/

/-- Every entry of every document in a value, at every depth, satisfies a condition. -/
def EveryEntry (post : String × Value → Prop) (value : Value) : Prop :=
  ∀ entries ∈ value.documents, ∀ entry ∈ entries, post entry

instance (post : String × Value → Prop) [DecidablePred post] (value : Value) :
    Decidable (value.EveryEntry post) :=
  inferInstanceAs (Decidable (∀ entries ∈ value.documents, ∀ entry ∈ entries, post entry))

namespace EveryEntry

variable {post : String × Value → Prop} {value : Value}

theorem of_mem_parts (h : value.EveryEntry post) {part : Value} (hpart : part ∈ value.parts) :
    part.EveryEntry post :=
  fun entries hmem => h entries (List.filterMap_subset _ (parts_subset_of_mem_parts hpart) hmem)

theorem of_mem_children (h : value.EveryEntry post) {child : Value}
    (hchild : child ∈ value.children) : child.EveryEntry post :=
  h.of_mem_parts (parts_subset_of_mem_children hchild (mem_parts_self child))

/-- As keys of a node, what documents write satisfies the condition, and places do if all places
satisfy it. -/
theorem nodeEntries (h : value.EveryEntry post)
    (hplace : ∀ (index : Nat) (item : Value), post (toString index, item)) :
    ∀ entry ∈ value.nodeEntries, post entry := by
  cases value with
  | array items => exact List.forall_mem_map.2 fun place _ => hplace place.2 place.1
  | document entries => exact h entries (mem_documents_document entries)
  | _ => exact List.forall_mem_nil _

end EveryEntry

end Verdict.Value
