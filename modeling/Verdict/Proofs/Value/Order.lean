import Mathlib.Data.Int.Order.Basic
import Verdict.Comparison
import Verdict.Proofs.Value.Equality

/-!
# The order of values

Two numbers other than `NaN`, two texts and two dates are ordered, and nothing else is. `Ordered`
has one rule for each of the three kinds, and each compares by a linear order: of signed magnitudes,
of texts, of milliseconds. So the laws of the four comparisons are laws of these orders
(`Ordered.swap`, `Ordered.trans`). They go together with `Value.satisfies`, which is decided
elsewhere, because both cut dates to the millisecond and neither takes `NaN` for equal to anything
(`Ordered.satisfies_iff`).
-/

namespace Verdict

namespace Value

/-- Two numbers, two texts or two dates. -/
inductive SameKind : Value → Value → Prop
  | numbers (x y : Binary64) : SameKind (.number x) (.number y)
  | texts (s t : String) : SameKind (.string s) (.string t)
  | dates (t u : Instant) : SameKind (.date t) (.date u)

def isNaN : Value → Bool
  | number x => x.isNaN
  | _ => false

/-- How two values that are ordered compare. -/
inductive Ordered : Value → Value → Ordering → Prop
  | numbers {x y : Binary64} (hx : x.isNaN = false) (hy : y.isNaN = false) :
      Ordered (.number x) (.number y) (compare x.rank y.rank)
  | texts (s t : String) : Ordered (.string s) (.string t) (compare s t)
  | dates (t u : Instant) : Ordered (.date t) (.date u) (compare t.toMillis u.toMillis)

variable {value bound a b c : Value} {o : Ordering}

theorem order?_eq_some_iff : value.order? bound = some o ↔ Ordered value bound o := by
  constructor
  · intro h
    unfold order? at h
    split at h
    · rename_i x y
      rw [Binary64.compare?] at h
      split at h
      · cases h
      · rename_i hnan
        obtain ⟨hx, hy⟩ := Bool.or_eq_false_iff.1 (Bool.not_eq_true _ ▸ hnan)
        obtain rfl := Option.some.inj h
        exact .numbers hx hy
    · obtain rfl := Option.some.inj h
      exact .texts _ _
    · obtain rfl := Option.some.inj h
      exact .dates _ _
    · cases h
  · intro h
    cases h with
    | numbers hx hy => simp [order?, Binary64.compare?, hx, hy]
    | texts s t => rfl
    | dates t u => rfl

/-- Values are ordered if they are of one kind and are numbers if they are meant to be. -/
theorem exists_ordered_iff :
    (∃ o, Ordered value bound o) ↔
      SameKind value bound ∧ value.isNaN = false ∧ bound.isNaN = false := by
  constructor
  · rintro ⟨o, h⟩
    cases h with
    | numbers hx hy => exact ⟨.numbers _ _, hx, hy⟩
    | texts s t => exact ⟨.texts s t, rfl, rfl⟩
    | dates t u => exact ⟨.dates t u, rfl, rfl⟩
  · rintro ⟨hkind, hvalue, hbound⟩
    cases hkind with
    | numbers x y => exact ⟨_, .numbers hvalue hbound⟩
    | texts s t => exact ⟨_, .texts s t⟩
    | dates t u => exact ⟨_, .dates t u⟩

/-- A number that is none satisfies no number. -/
theorem SameKind.exists_ordered_of_satisfies (hkind : SameKind value bound)
    (h : value.satisfies bound) : ∃ o, Ordered value bound o := by
  cases hkind with
  | numbers x y =>
      obtain ⟨hx, hy, -⟩ := Binary64.equals_iff.1 (show x.equals y = true from h)
      exact ⟨_, .numbers hx hy⟩
  | texts s t => exact ⟨_, .texts s t⟩
  | dates t u => exact ⟨_, .dates t u⟩

namespace Ordered

theorem swap (h : Ordered value bound o) : Ordered bound value o.swap := by
  cases h with
  | numbers hx hy =>
      rw [← Std.OrientedCmp.eq_swap]
      exact .numbers hy hx
  | texts s t =>
      rw [← Std.OrientedCmp.eq_swap]
      exact .texts t s
  | dates t u =>
      rw [← Std.OrientedCmp.eq_swap]
      exact .dates u t

/-- A value satisfies a bound of its kind just in case neither is greater. -/
theorem satisfies_iff (h : Ordered value bound o) : value.satisfies bound ↔ o = .eq := by
  cases h with
  | numbers hx hy =>
      show (Binary64.equals _ _ : Bool) = true ↔ _
      rw [Binary64.equals_iff, Std.compare_eq_iff_eq]
      simp [hx, hy]
  | texts s t =>
      rw [Std.compare_eq_iff_eq]
      exact beq_iff_eq
  | dates t u =>
      rw [Std.compare_eq_iff_eq]
      exact beq_iff_eq

/-- Values that are ordered with a third one are ordered with one another, the same way if both
are ordered the same way with it. -/
theorem trans {o' : Ordering} (hab : Ordered a b o) (hbc : Ordered b c o') :
    ∃ o'', Ordered a c o'' ∧ (o = .gt → o' = .gt → o'' = .gt) ∧
      (o.isGE → o'.isGE → o''.isGE) := by
  cases hab with
  | numbers hx hy =>
      cases hbc with
      | numbers _ hz => exact ⟨_, .numbers hx hz, Std.TransCmp.gt_trans, Std.TransCmp.isGE_trans⟩
  | texts s t =>
      cases hbc with
      | texts _ u => exact ⟨_, .texts s u, Std.TransCmp.gt_trans, Std.TransCmp.isGE_trans⟩
  | dates t u =>
      cases hbc with
      | dates _ v => exact ⟨_, .dates t v, Std.TransCmp.gt_trans, Std.TransCmp.isGE_trans⟩

end Ordered

end Value

namespace Comparison

open Value (Ordered SameKind)

variable {value bound : Value} {o : Ordering}

theorem holds_iff (comparison : Comparison) :
    comparison.holds value bound ↔ ∃ o, Ordered value bound o ∧ comparison.admits o := by
  rw [holds, Option.any_eq_true]
  simp only [Value.order?_eq_some_iff]

theorem holds_of_ordered (h : Ordered value bound o) (comparison : Comparison) :
    comparison.holds value bound = comparison.admits o := by
  rw [holds, Value.order?_eq_some_iff.2 h]
  rfl

/-- Without an order no comparison holds. -/
theorem holds_of_not_ordered (h : ¬∃ o, Ordered value bound o) (comparison : Comparison) :
    comparison.holds value bound = false := by
  rw [← Bool.not_eq_true, holds_iff]
  rintro ⟨o, ho, -⟩
  exact h ⟨o, ho⟩

/-- The comparison that asks the same from the other side. -/
def flip : Comparison → Comparison
  | greater => less
  | greaterOrEqual => lessOrEqual
  | less => greater
  | lessOrEqual => greaterOrEqual

theorem admits_swap (comparison : Comparison) (o : Ordering) :
    comparison.flip.admits o.swap = comparison.admits o := by
  cases comparison <;> cases o <;> rfl

theorem holds_flip (comparison : Comparison) (value bound : Value) :
    comparison.flip.holds bound value = comparison.holds value bound := by
  by_cases h : ∃ o, Ordered value bound o
  · obtain ⟨o, ho⟩ := h
    rw [holds_of_ordered ho, holds_of_ordered ho.swap, admits_swap]
  · rw [holds_of_not_ordered h, holds_of_not_ordered]
    rintro ⟨o, ho⟩
    exact h ⟨_, ho.swap⟩

/-- The comparisons that admit equal values hold of what is greater or less, and of equal values of
one kind. -/
theorem holds_or_equal_iff {strict weak : Comparison}
    (hadmits : ∀ o, weak.admits o = (strict.admits o || o == .eq)) :
    weak.holds value bound ↔
      strict.holds value bound ∨ SameKind value bound ∧ value.satisfies bound := by
  constructor
  · intro h
    obtain ⟨o, ho, hweak⟩ := (holds_iff weak).1 h
    rw [hadmits, Bool.or_eq_true, beq_iff_eq] at hweak
    rcases hweak with hstrict | heq
    · exact .inl ((holds_iff strict).2 ⟨o, ho, hstrict⟩)
    · exact .inr ⟨(Value.exists_ordered_iff.1 ⟨o, ho⟩).1, ho.satisfies_iff.2 heq⟩
  · rintro (h | ⟨hkind, hequal⟩)
    · obtain ⟨o, ho, hstrict⟩ := (holds_iff strict).1 h
      exact (holds_iff weak).2 ⟨o, ho, by rw [hadmits, hstrict, Bool.true_or]⟩
    · obtain ⟨o, ho⟩ := hkind.exists_ordered_of_satisfies hequal
      exact (holds_iff weak).2 ⟨o, ho, by simp [hadmits, ho.satisfies_iff.1 hequal]⟩

/-- Of values that are ordered, one is greater, or the other, or they are equal. -/
theorem count_holds_eq_one (h : Ordered value bound o) :
    [greater.holds value bound, less.holds value bound, value.satisfies bound].count true = 1 := by
  have hequal : value.satisfies bound = (o == .eq) := by
    rw [Bool.eq_iff_iff, h.satisfies_iff, beq_iff_eq]
  rw [holds_of_ordered h, holds_of_ordered h, hequal]
  cases o <;> rfl

/-- A comparison is transitive if it admits whatever follows from two orderings that it admits. -/
theorem holds_trans {comparison : Comparison} {a b c : Value}
    (hadmits : ∀ o o' o'' : Ordering, (o = .gt → o' = .gt → o'' = .gt) →
      (o.isGE → o'.isGE → o''.isGE) →
      comparison.admits o → comparison.admits o' → comparison.admits o'')
    (hab : comparison.holds a b) (hbc : comparison.holds b c) : comparison.holds a c := by
  obtain ⟨o, ho, hadmitted⟩ := (holds_iff comparison).1 hab
  obtain ⟨o', ho', hadmitted'⟩ := (holds_iff comparison).1 hbc
  obtain ⟨o'', ho'', hgt, hge⟩ := ho.trans ho'
  exact (holds_iff comparison).2 ⟨o'', ho'', hadmits o o' o'' hgt hge hadmitted hadmitted'⟩

/-- The four comparisons are two, asked from either side. With equality of leaves they tell apart
the three ways in which values of one kind can stand to one another, and they hold between no other
values. -/
theorem comparisons_agree_with_equality :
    (∀ value bound, greater.holds value bound = less.holds bound value ∧
      greaterOrEqual.holds value bound = lessOrEqual.holds bound value) ∧
    (∀ value bound,
      (greaterOrEqual.holds value bound ↔
        greater.holds value bound ∨ SameKind value bound ∧ value.satisfies bound) ∧
      (lessOrEqual.holds value bound ↔
        less.holds value bound ∨ SameKind value bound ∧ value.satisfies bound)) ∧
    (∀ value bound, SameKind value bound → value.isNaN = false → bound.isNaN = false →
      [greater.holds value bound, less.holds value bound, value.satisfies bound].count true = 1) ∧
    (∀ value bound, ¬(SameKind value bound ∧ value.isNaN = false ∧ bound.isNaN = false) →
      ∀ comparison : Comparison, comparison.holds value bound = false) ∧
    (∀ a b c, greater.holds a b → greater.holds b c → greater.holds a c) ∧
    (∀ a b c, greaterOrEqual.holds a b → greaterOrEqual.holds b c → greaterOrEqual.holds a c) := by
  refine ⟨?_, ?_, ?_, ?_, ?_, ?_⟩
  · intro value bound
    exact ⟨holds_flip less bound value, holds_flip lessOrEqual bound value⟩
  · intro value bound
    exact ⟨holds_or_equal_iff (by decide), holds_or_equal_iff (by decide)⟩
  · intro value bound hkind hvalue hbound
    obtain ⟨o, ho⟩ := Value.exists_ordered_iff.2 ⟨hkind, hvalue, hbound⟩
    exact count_holds_eq_one ho
  · intro value bound h
    exact holds_of_not_ordered (mt Value.exists_ordered_iff.1 h)
  · intro a b c
    exact holds_trans (by decide)
  · intro a b c
    exact holds_trans (by decide)

/-- A leap second and the second after it share a millisecond, although they are different instants;
`NaN` is of one kind with itself and still not ordered. -/
theorem comparisons_agree_with_equality_leapSecond :
    ∃ earlier leap same later nan : Value,
      earlier = .date ⟨59, 999999999⟩ ∧ leap = .date ⟨59, 1500000000⟩ ∧
      same = .date ⟨60, 500999999⟩ ∧ later = .date ⟨60, 501000000⟩ ∧
      nan = .number Binary64.nan ∧
      (SameKind leap same ∧ leap.isNaN = false ∧ same.isNaN = false ∧ leap.satisfies same ∧
        [greater.holds leap same, less.holds leap same, leap.satisfies same].count true = 1) ∧
      (¬(SameKind nan nan ∧ nan.isNaN = false ∧ nan.isNaN = false) ∧
        ∀ comparison : Comparison, comparison.holds nan nan = false) ∧
      (greater.holds later leap ∧ greater.holds leap earlier ∧ greater.holds later earlier) ∧
      greaterOrEqual.holds leap same ∧ greaterOrEqual.holds same leap ∧
        greaterOrEqual.holds leap leap := by
  obtain ⟨-, -, hone, hnone, hgreater, hatLeast⟩ := comparisons_agree_with_equality
  refine ⟨_, _, _, _, _, rfl, rfl, rfl, rfl, rfl,
    ⟨.dates _ _, rfl, rfl, by decide, hone _ _ (.dates _ _) rfl rfl⟩,
    ⟨?hnan, hnone _ _ ?hnan⟩,
    ⟨?hlater, ?hleap, hgreater _ _ _ ?hlater ?hleap⟩, ?hsame, ?hback, hatLeast _ _ _ ?hsame ?hback⟩
  case hnan =>
    rintro ⟨-, hnumber, -⟩
    exact absurd hnumber (by decide)
  all_goals decide

end Comparison

end Verdict
