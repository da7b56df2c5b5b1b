import Mathlib.Data.List.MinMax
import Verdict.Proofs.Text.Digit
import Verdict.Proofs.Value.Equality
import Verdict.Proofs.Value.KeyOrder

/-!
# What a value holds

A value holds each of its entries under its own key (`Value.get?_of_mem_nodeEntries`): in a document
because no key is written twice, in an array because the key that writes a place is read back as
that place. A value that extends another holds everything that the other holds, or an extension of
it (`Value.Extends.get?`), and perhaps more.
-/

namespace Verdict

namespace Value

/-! ### How deep a value nests -/

mutual

/-- How many containers of a value lie one inside the other. -/
def nesting : Value → Nat
  | array items => itemNesting items + 1
  | document entries => entryNesting entries + 1
  | _ => 0
termination_by structural value => value

def itemNesting : List Value → Nat
  | [] => 0
  | item :: rest => max (nesting item) (itemNesting rest)
termination_by structural items => items

def entryNesting : List (String × Value) → Nat
  | [] => 0
  | (_, value) :: rest => max (nesting value) (entryNesting rest)
termination_by structural entries => entries

end

theorem nesting_le_itemNesting {items : List Value} {item : Value} (h : item ∈ items) :
    item.nesting ≤ itemNesting items := by
  induction items with
  | nil => cases h
  | cons first rest ih =>
      rw [itemNesting]
      obtain rfl | hmem := List.mem_cons.1 h
      · exact Nat.le_max_left _ _
      · exact Nat.le_trans (ih hmem) (Nat.le_max_right _ _)

theorem entryNesting_eq (entries : List (String × Value)) :
    entryNesting entries = itemNesting (entries.map Prod.snd) := by
  induction entries with
  | nil => rfl
  | cons entry rest ih => exact congrArg (max entry.2.nesting) ih

theorem nesting_pos {value : Value} (h : value.isPrimitive = false) : 0 < value.nesting := by
  cases value with
  | array items => exact Nat.succ_pos _
  | document entries => exact Nat.succ_pos _
  | _ => cases h

/-- What lies in a container nests less deep. -/
theorem nesting_lt_of_mem_children {value child : Value} (h : child ∈ value.children) :
    child.nesting < value.nesting := by
  cases value with
  | array items => exact Nat.lt_succ_of_le (nesting_le_itemNesting h)
  | document entries =>
      rw [nesting, entryNesting_eq]
      exact Nat.lt_succ_of_le (nesting_le_itemNesting h)
  | _ => exact absurd h List.not_mem_nil

/-! ### What a value holds under its own keys -/

/-- A value that finds itself: a number that is one, an identifier that equals itself, or an array
that has no place beyond the last one that a key can write. -/
def IsOrdinary : Value → Prop
  | number x => x.isNaN = false
  | identifier id => id.equals id = true
  | array items => items.length ≤ maxArrayIndex + 1
  | _ => True

instance : DecidablePred IsOrdinary
  | number x => inferInstanceAs (Decidable (x.isNaN = false))
  | identifier id => inferInstanceAs (Decidable (id.equals id = true))
  | array items => inferInstanceAs (Decidable (items.length ≤ maxArrayIndex + 1))
  | undefined | null | bool _ | string _ | date _ | pattern _ | document _ => .isTrue trivial

/-- The key that writes a place is read back as the place. -/
theorem arrayIndex?_toString {index : Nat} (h : index ≤ maxArrayIndex) :
    arrayIndex? (toString index) = some index := by
  rw [arrayIndex?]
  split
  · rename_i digits hdigits
    exact absurd (hdigits ▸ List.mem_cons_self) (Digit.not_mem_toString (by decide) index)
  · rw [Digit.toList_toString, if_neg (by simp [Nat.toDigits_ne_nil]),
      Digit.number?_toDigits (by decide) (by decide)]
    exact Option.filter_eq_some_iff.2 ⟨rfl, decide_eq_true h⟩

theorem get?_of_mem_nodeEntries {value child : Value} {key : String}
    (hdistinct : value.HasDistinctKeys) (hordinary : value.IsOrdinary)
    (h : (key, child) ∈ value.nodeEntries) : value.get? key = some child := by
  cases value with
  | document entries =>
      exact Keyed.find?_eq_some_of_mem (hdistinct entries (mem_documents_document entries)) h
  | array items =>
      obtain ⟨⟨item, index⟩, hplace, heq⟩ := List.mem_map.1 h
      obtain ⟨rfl, rfl⟩ := Prod.mk.inj heq
      have hitem : items[index]? = some item := List.mk_mem_zipIdx_iff_getElem?.1 hplace
      obtain ⟨hlt, -⟩ := List.getElem?_eq_some_iff.1 hitem
      have hindex : index ≤ maxArrayIndex := Nat.le_of_lt_succ (Nat.lt_of_lt_of_le hlt hordinary)
      rw [get?, arrayIndex?_toString hindex]
      exact hitem
  | _ => exact absurd h List.not_mem_nil

/-- A leaf satisfies itself. -/
theorem satisfies_self {leaf : Value} (hleaf : leaf.isPrimitive = true)
    (hordinary : leaf.IsOrdinary) : leaf.satisfies leaf = true := by
  cases leaf with
  | number x => exact Binary64.equals_iff.2 ⟨hordinary, hordinary, rfl⟩
  | identifier id => exact hordinary
  | array items => cases hleaf
  | document entries => cases hleaf
  | bool b => exact beq_self_eq_true b
  | string s => exact beq_self_eq_true s
  | date t => exact beq_self_eq_true t.toMillis
  | pattern p => exact Bool.and_eq_true_iff.2 ⟨beq_self_eq_true _, beq_self_eq_true _⟩
  | _ => rfl

/-! ### Extensions -/

/-- The second value has the same leaves as the first, perhaps more keys in any document, wherever
they stand, and perhaps more elements at the end of any array. -/
inductive Extends : Value → Value → Prop
  | leaf {leaf : Value} (h : leaf.isPrimitive = true) : Extends leaf leaf
  | array {as bs more : List Value} (h : List.Forall₂ Extends as bs) :
      Extends (.array as) (.array (bs ++ more))
  | document {as mid bs : Document} (hkeys : Keyed.keys as = Keyed.keys mid)
      (hvalues : List.Forall₂ Extends (as.map Prod.snd) (mid.map Prod.snd))
      (hmore : ∀ key value, Keyed.find? key mid = some value → Keyed.find? key bs = some value) :
      Extends (.document as) (.document bs)

namespace Extends

variable {value other : Value}

theorem eq_of_isPrimitive (h : Extends value other) (hleaf : value.isPrimitive = true) :
    value = other := by
  cases h with
  | leaf => rfl
  | array => cases hleaf
  | document => cases hleaf

/-- What a value holds under a key, an extension of it holds there too, or an extension of that. -/
theorem get? (h : Extends value other) {key : String} {found : Value}
    (hfound : value.get? key = some found) :
    ∃ extended, other.get? key = some extended ∧ Extends found extended := by
  cases h with
  | leaf hleaf => cases (get?_of_isPrimitive hleaf key).symm.trans hfound
  | @array as bs more hitems =>
      obtain ⟨index, hindex, hitem⟩ := Option.bind_eq_some_iff.1 hfound
      have hrel := rel_getElem?_of_forall₂ hitems index
      rw [show as[index]? = some found from hitem] at hrel
      obtain ⟨extended, hextended, hextends⟩ := exists_of_rel_some hrel
      refine ⟨extended, ?_, hextends⟩
      obtain ⟨hlt, -⟩ := List.getElem?_eq_some_iff.1 hextended
      rw [Value.get?, hindex, Option.bind_some, List.getElem?_append_left hlt, hextended]
  | @document as mid bs hkeys hvalues hmore =>
      have hrel := (entriesRelated_of_values hkeys hvalues).holdAlike key
      rw [show Keyed.find? key as = some found from hfound] at hrel
      obtain ⟨extended, hextended, hextends⟩ := exists_of_rel_some hrel
      exact ⟨extended, hmore key extended hextended, hextends⟩

end Extends

end Value

end Verdict
