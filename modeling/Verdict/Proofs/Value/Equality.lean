import Mathlib.Data.Int.Order.Basic
import Verdict.Comparison
import Verdict.Proofs.Query.Alike
import Verdict.Proofs.Value.Parts

/-!
# Equal values

Equal values are not always the same: both zeros are one number, and identifiers decide for
themselves what they are equal to. All other equal leaves are the same leaf
(`equalLeaves_of_equals`). So, as long as the identifiers that take part are equal consistently,
equal values satisfy the same leaves and stand in the same order to them, and it does not matter
either which of two equal leaves is asked for.
-/

namespace Verdict

/-! ### Equal numbers -/

namespace Binary64

variable {x y : Binary64}

theorem equals_iff : x.equals y ↔ x.isNaN = false ∧ y.isNaN = false ∧ x.rank = y.rank := by
  rw [equals, compare?]
  cases x.isNaN <;> cases y.isNaN <;> simp

theorem compare?_congr_left (h : x.equals y) (z : Binary64) : x.compare? z = y.compare? z := by
  obtain ⟨hx, hy, hrank⟩ := equals_iff.1 h
  rw [compare?, compare?, hx, hy, hrank]

theorem compare?_congr_right (h : x.equals y) (z : Binary64) : z.compare? x = z.compare? y := by
  obtain ⟨hx, hy, hrank⟩ := equals_iff.1 h
  rw [compare?, compare?, hx, hy, hrank]

end Binary64

/-! ### Equal identifiers -/

/-- Equality of these identifiers is symmetric and transitive. It need not be reflexive, and it may
hold of identifiers that differ. -/
structure Identifier.EqualConsistently (ids : List Identifier) : Prop where
  symm : ∀ a ∈ ids, ∀ b ∈ ids, a.equals b → b.equals a
  trans : ∀ a ∈ ids, ∀ b ∈ ids, ∀ c ∈ ids, a.equals b → b.equals c → a.equals c

namespace Identifier.EqualConsistently

variable {ids : List Identifier} {a b c : Identifier}

theorem congr_left (h : EqualConsistently ids) (ha : a ∈ ids) (hb : b ∈ ids) (hc : c ∈ ids)
    (hab : a.equals b) : a.equals c = b.equals c := by
  rw [Bool.eq_iff_iff]
  exact ⟨h.trans b hb a ha c hc (h.symm a ha b hb hab), h.trans a ha b hb c hc hab⟩

theorem congr_right (h : EqualConsistently ids) (ha : a ∈ ids) (hb : b ∈ ids) (hc : c ∈ ids)
    (hab : a.equals b) : c.equals a = c.equals b := by
  have hba := h.symm a ha b hb hab
  rw [Bool.eq_iff_iff]
  exact ⟨fun hca => h.trans c hc a ha b hb hca hab, fun hcb => h.trans c hc b hb a ha hcb hba⟩

/-- Identifiers of a kind whose texts are compared by any symmetric and transitive relation. -/
theorem ofText {kind : String} {same : String → String → Bool}
    (hsymm : ∀ s t, same s t → same t s) (htrans : ∀ s t u, same s t → same t u → same s u)
    (texts : List String) : EqualConsistently (texts.map (.ofText kind same)) where
  symm := by
    intro a ha b hb hab
    obtain ⟨s, -, rfl⟩ := List.mem_map.1 ha
    obtain ⟨t, -, rfl⟩ := List.mem_map.1 hb
    rw [ofText_equals_ofText] at hab ⊢
    exact hsymm s t hab
  trans := by
    intro a ha b hb c hc hab hbc
    obtain ⟨s, -, rfl⟩ := List.mem_map.1 ha
    obtain ⟨t, -, rfl⟩ := List.mem_map.1 hb
    obtain ⟨u, -, rfl⟩ := List.mem_map.1 hc
    rw [ofText_equals_ofText] at hab hbc ⊢
    exact htrans s t u hab hbc

/-- An identifier that equals nothing, not even itself, is consistent with a number. One that equals
everything is not, since the number does not return it. -/
example : EqualConsistently [.ofText "Never" (fun _ _ => false) "", .numeric 0] ∧
    ¬EqualConsistently [.foreign { kind := "Always", content := "", text := "Always" } fun _ => true,
      .numeric 0] :=
  ⟨⟨by decide, by decide⟩, fun h => absurd h.symm (by decide)⟩

end Identifier.EqualConsistently

/-! ### Equal patterns -/

/-- A pattern is known by its source and its options. -/
theorem Pattern.eq_of_equals {p q : Pattern} (h : p.equals q) : p = q := by
  obtain ⟨source, options, regex, compiled⟩ := p
  obtain ⟨_, _, other, otherCompiled⟩ := q
  obtain ⟨hsource, hoptions⟩ := Bool.and_eq_true_iff.1 h
  obtain rfl := eq_of_beq hsource
  obtain rfl := eq_of_beq hoptions
  obtain rfl : regex = other := Except.ok.inj (compiled.symm.trans otherCompiled)
  rfl

namespace Value

/-! ### Equal leaves -/

/-- Leaves that are equal without being the same are numbers or identifiers. -/
inductive EqualLeaves : Value → Value → Prop
  | same (leaf : Value) : EqualLeaves leaf leaf
  | numbers {x y : Binary64} (h : x.equals y) : EqualLeaves (.number x) (.number y)
  | identifiers {a b : Identifier} (h : a.equals b) : EqualLeaves (.identifier a) (.identifier b)

theorem equalLeaves_of_equals {a b : Value} (h : a.equals b) (hleaf : a.isPrimitive = true) :
    EqualLeaves a b := by
  cases a with
  | array items => cases hleaf
  | document entries => cases hleaf
  | number x => cases b with
    | number y => exact .numbers h
    | _ => cases h
  | identifier id => cases b with
    | identifier other => exact .identifiers h
    | _ => cases h
  | pattern p => cases b with
    | pattern q => obtain rfl := Pattern.eq_of_equals h; exact .same _
    | _ => cases h
  | bool x => cases b with
    | bool y => obtain rfl := eq_of_beq h; exact .same _
    | _ => cases h
  | string s => cases b with
    | string t => obtain rfl := eq_of_beq h; exact .same _
    | _ => cases h
  | date t => cases b with
    | date u => obtain rfl := eq_of_beq h; exact .same _
    | _ => cases h
  | undefined => cases b with
    | undefined => exact .same _
    | _ => cases h
  | null => cases b with
    | null => exact .same _
    | _ => cases h

/-- A leaf is equal to leaves only. -/
theorem isPrimitive_of_equals {a b : Value} (h : a.equals b) (hleaf : a.isPrimitive = true) :
    b.isPrimitive = true := by
  cases equalLeaves_of_equals h hleaf with
  | same => exact hleaf
  | numbers _ => rfl
  | identifiers _ => rfl

/-! ### Equal containers -/

theorem equalsItems_iff {as bs : List Value} :
    equalsItems as bs ↔ List.Forall₂ (fun a b => a.equals b) as bs := by
  induction as generalizing bs with
  | nil => cases bs <;> simp [equalsItems]
  | cons a as ih => cases bs <;> simp [equalsItems, ih]

theorem equalsEntries_iff {as bs : Document} :
    equalsEntries as bs ↔ EntriesRelated (fun a b => a.equals b) as bs := by
  induction as generalizing bs with
  | nil => cases bs <;> simp [equalsEntries]
  | cons a as ih => cases bs <;> simp [equalsEntries, ih, and_assoc]

/-! ### Equal values -/

/-- Equal values whose identifiers are among the given ones. -/
structure EqualWithin (ids : List Identifier) (a b : Value) : Prop where
  equals : a.equals b
  left : a.identifiers ⊆ ids
  right : b.identifiers ⊆ ids

namespace EqualWithin

variable {ids : List Identifier} {a b other : Value}

theorem of_mem_children (h : EqualWithin ids a b) {child : Value}
    (hequal : child.equals other) (hchild : child ∈ a.children) (hother : other ∈ b.children) :
    EqualWithin ids child other where
  equals := hequal
  left := List.Subset.trans (identifiers_subset_of_mem_children hchild) h.left
  right := List.Subset.trans (identifiers_subset_of_mem_children hother) h.right

/-- Equal values have the same shape, with equal values in the same places. -/
theorem keepsShape (ids : List Identifier) :
    KeepsShape (EqualWithin ids) (EntriesRelated (EqualWithin ids)) := by
  intro a b h
  cases hleaf : a.isPrimitive with
  | true => exact .leaf hleaf (isPrimitive_of_equals h.equals hleaf)
  | false =>
      cases a with
      | array as =>
          cases b with
          | array bs =>
              refine .array ((forall₂_and_mem (equalsItems_iff.1 h.equals)).imp ?_)
              rintro x y ⟨hxy, hx, hy⟩
              exact h.of_mem_children hxy hx hy
          | _ => cases h.equals
      | document as =>
          cases b with
          | document bs =>
              refine .document ((forall₂_and_mem (equalsEntries_iff.1 h.equals)).imp ?_)
              rintro x y ⟨⟨hkey, hxy⟩, hx, hy⟩
              exact ⟨hkey, h.of_mem_children hxy (List.mem_map_of_mem hx) (List.mem_map_of_mem hy)⟩
          | _ => cases h.equals
      | _ => cases hleaf

/-- Equal leaves satisfy the same leaf. -/
theorem satisfies_congr_left (hids : Identifier.EqualConsistently ids) (h : EqualWithin ids a b)
    (hleaf : a.isPrimitive = true) (hother : other.identifiers ⊆ ids) :
    a.satisfies other = b.satisfies other := by
  cases equalLeaves_of_equals h.equals hleaf with
  | same => rfl
  | numbers hxy => cases other with
    | number z => exact congrArg (· == some .eq) (Binary64.compare?_congr_left hxy z)
    | _ => rfl
  | identifiers hab => cases other with
    | identifier c =>
        exact hids.congr_left (h.left (mem_identifiers_identifier _))
          (h.right (mem_identifiers_identifier _)) (hother (mem_identifiers_identifier c)) hab
    | _ => rfl

/-- The same leaf satisfies equal leaves. -/
theorem satisfies_congr_right (hids : Identifier.EqualConsistently ids) (h : EqualWithin ids a b)
    (hleaf : a.isPrimitive = true) (hother : other.identifiers ⊆ ids) :
    other.satisfies a = other.satisfies b := by
  cases equalLeaves_of_equals h.equals hleaf with
  | same => rfl
  | numbers hxy => cases other with
    | number z => exact congrArg (· == some .eq) (Binary64.compare?_congr_right hxy z)
    | _ => rfl
  | identifiers hab => cases other with
    | identifier c =>
        exact hids.congr_right (h.left (mem_identifiers_identifier _))
          (h.right (mem_identifiers_identifier _)) (hother (mem_identifiers_identifier c)) hab
    | _ => rfl

theorem order?_congr_left (h : EqualWithin ids a b) (hleaf : a.isPrimitive = true) :
    a.order? other = b.order? other := by
  cases equalLeaves_of_equals h.equals hleaf with
  | same => rfl
  | numbers hxy => cases other with
    | number z => exact Binary64.compare?_congr_left hxy z
    | _ => rfl
  | identifiers hab => rfl

theorem order?_congr_right (h : EqualWithin ids a b) (hleaf : a.isPrimitive = true) :
    other.order? a = other.order? b := by
  cases equalLeaves_of_equals h.equals hleaf with
  | same => rfl
  | numbers hxy => cases other with
    | number z => exact Binary64.compare?_congr_right hxy z
    | _ => rfl
  | identifiers hab => cases other <;> rfl

end EqualWithin

end Value

end Verdict
