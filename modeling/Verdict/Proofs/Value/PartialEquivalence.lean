import Verdict.Proofs.Value.Equality

/-!
# Equality as a partial equivalence

Identifiers decide for themselves what they are equal to, so the laws of equality are stated for
every way in which they may decide: `Value.equalsBy` is `Value.equals`, and `Value.satisfiesBy` is
`Value.satisfies`, with that decision left open.

Equality carries over what the identifiers of the two values have (`equalsBy_symm`,
`equalsBy_trans`). What it lacks to be an equivalence lies in the parts of a value alone: a `NaN`, or
an identifier that denies itself (`equalsBy_self_iff`). Satisfaction adds two cases to it, of which
only the one of a text and a pattern has a direction (`satisfiesBy_iff`, `satisfiesBy_symm`).
-/

namespace Verdict.Value

section

variable (same : Identifier → Identifier → Bool)

mutual

/-- Equality of whole values whose identifiers are equal as `same` says. -/
def equalsBy : Value → Value → Bool
  | identifier a, identifier b => same a b
  | array as, array bs => itemsEqualBy as bs
  | document as, document bs => entriesEqualBy as bs
  | a, b => a.equals b
termination_by structural value => value

def itemsEqualBy : List Value → List Value → Bool
  | [], [] => true
  | a :: as, b :: bs => equalsBy a b && itemsEqualBy as bs
  | _, _ => false
termination_by structural items => items

def entriesEqualBy : List (String × Value) → List (String × Value) → Bool
  | [], [] => true
  | (k, a) :: as, (l, b) :: bs => k == l && equalsBy a b && entriesEqualBy as bs
  | _, _ => false
termination_by structural entries => entries

end

/-- Whether a value satisfies a leaf of a query, if identifiers are equal as `same` says. -/
def satisfiesBy : (value query : Value) → Bool
  | .identifier a, .identifier b => same a b
  | .identifier _, _ => false
  | _, .identifier _ => false
  | .date a, .date b => a.toMillis == b.toMillis
  | .date _, _ => false
  | _, .date _ => false
  | .string s, .pattern p => p.isMatch s
  | value, query => value.equalsBy same query

end

variable {same : Identifier → Identifier → Bool} {a b c : Value}

/-! ### The identifiers of the project -/

mutual

theorem equalsBy_eq_equals (a b : Value) : a.equalsBy Identifier.equals b = a.equals b := by
  match a with
  | .array as =>
      cases b with
      | array bs => exact itemsEqualBy_eq_equalsItems as bs
      | _ => rfl
  | .document as =>
      cases b with
      | document bs => exact entriesEqualBy_eq_equalsEntries as bs
      | _ => rfl
  | .identifier id => cases b <;> rfl
  | .undefined | .null | .bool _ | .number _ | .string _ | .date _ | .pattern _ => rfl
termination_by structural a

theorem itemsEqualBy_eq_equalsItems (as bs : List Value) :
    itemsEqualBy Identifier.equals as bs = equalsItems as bs := by
  match as, bs with
  | a :: as, b :: bs =>
      rw [itemsEqualBy, equalsItems, equalsBy_eq_equals a b, itemsEqualBy_eq_equalsItems as bs]
  | [], [] | [], _ :: _ | _ :: _, [] => rfl
termination_by structural as

theorem entriesEqualBy_eq_equalsEntries (as bs : List (String × Value)) :
    entriesEqualBy Identifier.equals as bs = equalsEntries as bs := by
  match as, bs with
  | (k, a) :: as, (l, b) :: bs =>
      rw [entriesEqualBy, equalsEntries, equalsBy_eq_equals a b,
        entriesEqualBy_eq_equalsEntries as bs]
  | [], [] | [], _ :: _ | _ :: _, [] => rfl
termination_by structural as

end

theorem satisfiesBy_eq_satisfies (value query : Value) :
    value.satisfiesBy Identifier.equals query = value.satisfies query := by
  cases value with
  | identifier id => cases query <;> rfl
  | date t => cases query <;> rfl
  | string s => cases query <;> rfl
  | _ =>
      cases query with
      | identifier id => rfl
      | date t => rfl
      | _ => exact equalsBy_eq_equals _ _

/-! ### Equality taken apart -/

theorem itemsEqualBy_iff {as bs : List Value} :
    itemsEqualBy same as bs ↔ List.Forall₂ (fun a b => a.equalsBy same b) as bs := by
  induction as generalizing bs with
  | nil => cases bs <;> simp [itemsEqualBy]
  | cons a as ih => cases bs <;> simp [itemsEqualBy, ih]

theorem entriesEqualBy_iff {as bs : Document} :
    entriesEqualBy same as bs ↔ EntriesRelated (fun a b => a.equalsBy same b) as bs := by
  induction as generalizing bs with
  | nil => cases bs <;> simp [entriesEqualBy]
  | cons a as ih => cases bs <;> simp [entriesEqualBy, ih, and_assoc]

/-- What makes two values equal. -/
inductive EqualRoots (same : Identifier → Identifier → Bool) : Value → Value → Prop
  | numbers {x y : Binary64} (h : x.equals y) : EqualRoots same (.number x) (.number y)
  | identifiers {a b : Identifier} (h : same a b) : EqualRoots same (.identifier a) (.identifier b)
  | leaf {leaf : Value} (hleaf : leaf.isPrimitive = true) (h : leaf.equalsBy same leaf) :
      EqualRoots same leaf leaf
  | array {as bs : List Value} (h : List.Forall₂ (fun a b => a.equalsBy same b) as bs) :
      EqualRoots same (.array as) (.array bs)
  | document {as bs : Document} (h : EntriesRelated (fun a b => a.equalsBy same b) as bs) :
      EqualRoots same (.document as) (.document bs)

theorem equalsBy_iff : a.equalsBy same b ↔ EqualRoots same a b := by
  constructor
  · intro h
    cases a with
    | array as =>
        cases b with
        | array bs => exact .array (itemsEqualBy_iff.1 h)
        | _ => cases h
    | document as =>
        cases b with
        | document bs => exact .document (entriesEqualBy_iff.1 h)
        | _ => cases h
    | identifier id =>
        cases b with
        | identifier other => exact .identifiers h
        | _ => cases h
    | number x =>
        cases b with
        | number y => exact .numbers h
        | _ => cases h
    | _ =>
        cases equalLeaves_of_equals h rfl with
        | same => exact .leaf rfl h
  · intro h
    cases h with
    | numbers h => exact h
    | identifiers h => exact h
    | leaf _ h => exact h
    | array h => exact itemsEqualBy_iff.2 h
    | document h => exact entriesEqualBy_iff.2 h

/-! ### The laws of equality -/

/-- Equality is symmetric where equality of the identifiers is. -/
theorem equalsBy_symm (h : a.equalsBy same b)
    (hsame : ∀ x ∈ a.identifiers, ∀ y ∈ b.identifiers, same x y → same y x) :
    b.equalsBy same a := by
  induction a using childrenInduction generalizing b with
  | step a ih =>
      have hchildren : ∀ x y, x.equalsBy same y ∧ x ∈ a.children ∧ y ∈ b.children →
          y.equalsBy same x := by
        rintro x y ⟨hxy, hx, hy⟩
        apply ih x hx hxy
        intro id hid other hother
        exact hsame id (identifiers_subset_of_mem_children hx hid) other
          (identifiers_subset_of_mem_children hy hother)
      rw [equalsBy_iff] at h ⊢
      cases h with
      | numbers h =>
          obtain ⟨hx, hy, hrank⟩ := Binary64.equals_iff.1 h
          exact .numbers (Binary64.equals_iff.2 ⟨hy, hx, hrank.symm⟩)
      | identifiers h =>
          apply EqualRoots.identifiers
          exact hsame _ (mem_identifiers_identifier _) _ (mem_identifiers_identifier _) h
      | leaf hleaf h => exact .leaf hleaf h
      | array h =>
          apply EqualRoots.array
          apply List.Forall₂.flip
          exact (forall₂_and_mem h).imp hchildren
      | document h =>
          apply EqualRoots.document
          apply List.Forall₂.flip
          apply (forall₂_and_mem h).imp
          rintro x y ⟨⟨hkey, hxy⟩, hx, hy⟩
          exact ⟨hkey.symm, hchildren _ _ ⟨hxy, List.mem_map_of_mem hx, List.mem_map_of_mem hy⟩⟩

/-- Equality is transitive where equality of the identifiers is. -/
theorem equalsBy_trans (hab : a.equalsBy same b) (hbc : b.equalsBy same c)
    (hsame : ∀ x ∈ a.identifiers, ∀ y ∈ b.identifiers, ∀ z ∈ c.identifiers,
      same x y → same y z → same x z) :
    a.equalsBy same c := by
  induction a using childrenInduction generalizing b c with
  | step a ih =>
      have hchildren : ∀ x ∈ a.children, ∀ y ∈ b.children, ∀ z ∈ c.children,
          x.equalsBy same y → y.equalsBy same z → x.equalsBy same z := by
        intro x hx y hy z hz hxy hyz
        apply ih x hx hxy hyz
        intro id hid other hother last hlast
        exact hsame id (identifiers_subset_of_mem_children hx hid) other
          (identifiers_subset_of_mem_children hy hother) last
          (identifiers_subset_of_mem_children hz hlast)
      rw [equalsBy_iff] at hab hbc ⊢
      cases hab with
      | leaf => exact hbc
      | numbers hab =>
          cases hbc with
          | leaf => exact .numbers hab
          | numbers hbc =>
              obtain ⟨hx, -, hxy⟩ := Binary64.equals_iff.1 hab
              obtain ⟨-, hz, hyz⟩ := Binary64.equals_iff.1 hbc
              exact .numbers (Binary64.equals_iff.2 ⟨hx, hz, hxy.trans hyz⟩)
      | identifiers hab =>
          cases hbc with
          | leaf => exact .identifiers hab
          | identifiers hbc =>
              apply EqualRoots.identifiers
              exact hsame _ (mem_identifiers_identifier _) _ (mem_identifiers_identifier _) _
                (mem_identifiers_identifier _) hab hbc
      | array hab =>
          cases hbc with
          | leaf hleaf => cases hleaf
          | array hbc => exact .array (forall₂_trans hab hbc hchildren)
      | document hab =>
          cases hbc with
          | leaf hleaf => cases hleaf
          | document hbc =>
              apply EqualRoots.document
              apply forall₂_trans hab hbc
              rintro x hx y hy z hz ⟨hkey, hxy⟩ ⟨hkey', hyz⟩
              exact ⟨hkey.trans hkey', hchildren _ (List.mem_map_of_mem hx) _
                (List.mem_map_of_mem hy) _ (List.mem_map_of_mem hz) hxy hyz⟩

/-- Nothing at the root of a value keeps it from being equal to itself. -/
def EqualsItself (same : Identifier → Identifier → Bool) : Value → Prop
  | number x => x.isNaN = false
  | identifier id => same id id = true
  | _ => True

theorem equalsBy_self_iff_children :
    a.equalsBy same a ↔
      a.EqualsItself same ∧ ∀ child ∈ a.children, child.equalsBy same child := by
  cases a with
  | number x =>
      show x.equals x ↔ _
      simp [Binary64.equals_iff, EqualsItself, children]
  | identifier id => simp [equalsBy, EqualsItself, children]
  | array items =>
      rw [equalsBy, itemsEqualBy_iff, List.forall₂_same]
      simp [EqualsItself, children]
  | document entries =>
      rw [equalsBy, entriesEqualBy_iff, EntriesRelated, List.forall₂_same]
      simp only [EqualsItself, children, List.forall_mem_map, true_and]
  | _ => simp [equalsBy, equals, Pattern.equals, EqualsItself, children]

theorem equalsBy_self_iff :
    a.equalsBy same a ↔ ∀ part ∈ a.parts, part.EqualsItself same := by
  induction a using childrenInduction with
  | step a ih =>
      rw [equalsBy_self_iff_children, forall_mem_parts_iff]
      exact and_congr_right fun _ => forall₂_congr ih

/-! ### Equality and satisfaction -/

theorem satisfiesBy_iff {value query : Value} :
    value.satisfiesBy same query ↔
      value.equalsBy same query ∨
        (∃ t u, value = date t ∧ query = date u ∧ t.toMillis = u.toMillis) ∨
        ∃ s p, value = string s ∧ query = pattern p ∧ p.isMatch s := by
  cases value with
  | date t =>
      cases query with
      | date u => simp +contextual [satisfiesBy, equalsBy, equals]
      | _ => simp [satisfiesBy, equalsBy, equals]
  | _ => cases query <;> simp [satisfiesBy, equalsBy, equals]

/-- Satisfaction is symmetric where equality of the identifiers is, but for texts and patterns. -/
theorem satisfiesBy_symm {value query : Value} (h : value.satisfiesBy same query)
    (hsame : ∀ x ∈ value.identifiers, ∀ y ∈ query.identifiers, same x y → same y x)
    (hkinds : ¬∃ s p, value = string s ∧ query = pattern p) : query.satisfiesBy same value := by
  rw [satisfiesBy_iff] at h ⊢
  rcases h with hequal | ⟨t, u, hvalue, hquery, hmillis⟩ | ⟨s, p, hvalue, hquery, -⟩
  · exact .inl (equalsBy_symm hequal hsame)
  · exact .inr (.inl ⟨u, t, hquery, hvalue, hmillis.symm⟩)
  · exact absurd ⟨s, p, hvalue, hquery⟩ hkinds

/-- For identifiers that decide in whatever way: equality is symmetric and transitive where they
are, and a value is equal to itself unless there is a `NaN` in it, or an identifier that is not
equal to itself. Satisfaction is equality, but for dates, which are cut to the millisecond, and for
texts that are put to a pattern; only between these two it has a direction. The project's own
equality and satisfaction are those for the project's own identifiers. -/
theorem equalities_related :
    (∀ same : Identifier → Identifier → Bool,
      (∀ a b : Value, (∀ x ∈ a.identifiers, ∀ y ∈ b.identifiers, same x y → same y x) →
        a.equalsBy same b → b.equalsBy same a) ∧
      (∀ a b c : Value, (∀ x ∈ a.identifiers, ∀ y ∈ b.identifiers, ∀ z ∈ c.identifiers,
          same x y → same y z → same x z) →
        a.equalsBy same b → b.equalsBy same c → a.equalsBy same c) ∧
      (∀ a : Value, a.equalsBy same a ↔
        (∀ x, number x ∈ a.parts → x.isNaN = false) ∧
          ∀ id, identifier id ∈ a.parts → same id id) ∧
      (∀ value query : Value, value.satisfiesBy same query ↔
        value.equalsBy same query ∨
          (∃ t u, value = date t ∧ query = date u ∧ t.toMillis = u.toMillis) ∨
          ∃ s p, value = string s ∧ query = pattern p ∧ p.isMatch s) ∧
      (∀ value query : Value,
        (∀ x ∈ value.identifiers, ∀ y ∈ query.identifiers, same x y = same y x) →
        (¬∃ s p, value = string s ∧ query = pattern p ∨ value = pattern p ∧ query = string s) →
        value.satisfiesBy same query = query.satisfiesBy same value) ∧
      ∀ s p, (string s).satisfiesBy same (pattern p) = p.isMatch s ∧
        (pattern p).satisfiesBy same (string s) = false) ∧
    (∀ a b : Value, a.equalsBy Identifier.equals b = a.equals b) ∧
    ∀ value query : Value, value.satisfiesBy Identifier.equals query = value.satisfies query := by
  refine ⟨?_, equalsBy_eq_equals, satisfiesBy_eq_satisfies⟩
  intro same
  refine ⟨?_, ?_, ?_, ?_, ?_, fun s p => ⟨rfl, rfl⟩⟩
  · intro a b hsame h
    exact equalsBy_symm h hsame
  · intro a b c hsame hab hbc
    exact equalsBy_trans hab hbc hsame
  · intro a
    rw [equalsBy_self_iff]
    constructor
    · intro h
      exact ⟨fun x hx => h _ hx, fun id hid => h _ hid⟩
    · rintro ⟨hnumbers, hidentifiers⟩ part hpart
      cases part with
      | number x => exact hnumbers x hpart
      | identifier id => exact hidentifiers id hpart
      | _ => trivial
  · intro value query
    exact satisfiesBy_iff
  · intro value query hsame hkinds
    rw [Bool.eq_iff_iff]
    constructor
    · intro h
      apply satisfiesBy_symm h
      · intro x hx y hy hxy
        rwa [← hsame x hx y hy]
      · rintro ⟨s, p, hs⟩
        exact hkinds ⟨s, p, .inl hs⟩
    · intro h
      apply satisfiesBy_symm h
      · intro y hy x hx hyx
        rwa [hsame x hx y hy]
      · rintro ⟨s, p, hp, hs⟩
        exact hkinds ⟨s, p, .inr ⟨hs, hp⟩⟩

/-- Identifiers of which one is equal to nothing, not even to itself, in values that differ in the
sign of a zero; and two instants of one millisecond, which satisfy each other and are not equal. -/
theorem equalities_related_zeros :
    ∃ (same : Identifier → Identifier → Bool) (a b c t u : Value),
      (same = fun x y => x.equals y && !x.equals (.numeric 0)) ∧
      a = document [("k", array [number Binary64.zero, identifier (.numeric 7)])] ∧
      b = document [("k", array [number Binary64.negativeZero, identifier (.numeric 7)])] ∧
      c = array [b, identifier (.numeric 0)] ∧
      t = date ⟨59, 1500000000⟩ ∧ u = date ⟨60, 500999999⟩ ∧
      ((∀ x ∈ a.identifiers, ∀ y ∈ b.identifiers, same x y → same y x) ∧
        a.equalsBy same b ∧ b.equalsBy same a) ∧
      ((∀ x ∈ a.identifiers, ∀ y ∈ b.identifiers, ∀ z ∈ a.identifiers,
          same x y → same y z → same x z) ∧
        a.equalsBy same a) ∧
      (identifier (.numeric 0) ∈ c.parts ∧ ¬c.equalsBy same c) ∧
      ((∀ x ∈ t.identifiers, ∀ y ∈ u.identifiers, same x y = same y x) ∧
        (¬∃ s p, t = string s ∧ u = pattern p ∨ t = pattern p ∧ u = string s) ∧
        t.satisfiesBy same u = u.satisfiesBy same t ∧ t.satisfiesBy same u ∧
        ¬t.equalsBy same u) := by
  obtain ⟨hsymm, htrans, hself, -, hsatisfies, -⟩ :=
    equalities_related.1 fun x y => x.equals y && !x.equals (.numeric 0)
  refine ⟨_, _, _, _, _, _, rfl, rfl, rfl, rfl, rfl, rfl,
    ⟨?hsymmetric, ?hequal, hsymm _ _ ?hsymmetric ?hequal⟩,
    ⟨?htransitive, htrans _ _ _ ?htransitive ?hequal (hsymm _ _ ?hsymmetric ?hequal)⟩,
    ⟨?hpart, fun h => absurd (((hself _).1 h).2 (.numeric 0) ?hpart) (by decide)⟩,
    ⟨?hdates, ?hkinds, hsatisfies _ _ ?hdates ?hkinds, ?_, ?_⟩⟩
  case hkinds => simp
  case hpart => simp [parts, itemParts, entryParts]
  all_goals decide

end Verdict.Value
