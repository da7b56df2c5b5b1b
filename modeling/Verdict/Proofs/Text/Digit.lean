import Mathlib.Tactic.IntervalCases
import Verdict.Text.Digit

/-!
# Digits read back

Numbers are written in two ways, with as many digits as they need and with a fixed count of digits.
Both are read back as they were written, in every base up to sixteen; of a number too large for its
count of digits the lower part is read back (`number?_lowest`).
-/

namespace Verdict.Digit

variable {base : Nat}

theorem value?_digitChar (hbase : base ≤ 16) {n : Nat} (h : n < base) :
    value? base n.digitChar = some n := by
  have hn : n < 16 := by omega
  have hvalue : ∀ value, value = n → (if value < base then some value else none) = some n := by
    rintro value rfl
    exact if_pos h
  apply hvalue
  interval_cases n <;> rfl

theorem numberFrom?_append (start : Nat) (left right : List Char) :
    numberFrom? base start (left ++ right) =
      (numberFrom? base start left).bind fun middle => numberFrom? base middle right := by
  induction left generalizing start with
  | nil => rfl
  | cons c rest ih =>
      simp only [List.cons_append, numberFrom?]
      cases value? base c with
      | none => rfl
      | some digit => exact ih _

/-! ### A fixed count of digits -/

theorem length_lowest (count n : Nat) : (lowest base count n).length = count := by
  induction count generalizing n with
  | zero => rfl
  | succ count ih => rw [lowest, List.length_append, ih, List.length_singleton]

theorem lt_of_mem_lowest (hbase : 0 < base) {count n digit : Nat}
    (h : digit ∈ lowest base count n) : digit < base := by
  induction count generalizing n with
  | zero => cases h
  | succ count ih =>
      rw [lowest, List.mem_append, List.mem_singleton] at h
      obtain h | rfl := h
      · exact ih h
      · exact Nat.mod_lt n hbase

/-- Digits one after the other make up the lower part of the number after what was read before. -/
theorem foldl_lowest (count n start : Nat) :
    (lowest base count n).foldl (base * · + ·) start =
      start * base ^ count + n % base ^ count := by
  induction count generalizing n with
  | zero => simp [lowest, Nat.mod_one]
  | succ count ih =>
      rw [lowest, List.foldl_append, ih, List.foldl_cons, List.foldl_nil, Nat.pow_succ',
        Nat.mod_mul, Nat.mul_add, Nat.mul_left_comm base start]
      omega

theorem numberFrom?_map_digitChar (hbase : base ≤ 16) {digits : List Nat}
    (h : ∀ digit ∈ digits, digit < base) (start : Nat) :
    numberFrom? base start (digits.map Nat.digitChar) =
      some (digits.foldl (base * · + ·) start) := by
  induction digits generalizing start with
  | nil => rfl
  | cons digit rest ih =>
      obtain ⟨hdigit, hrest⟩ := List.forall_mem_cons.1 h
      rw [List.map_cons, numberFrom?, value?_digitChar hbase hdigit, Option.bind_some, ih hrest,
        List.foldl_cons]

theorem number?_lowest (hpos : 0 < base) (hbase : base ≤ 16) (count n : Nat) :
    number? base ((lowest base count n).map Nat.digitChar) = some (n % base ^ count) := by
  rw [number?, numberFrom?_map_digitChar hbase fun digit => lt_of_mem_lowest hpos, foldl_lowest,
    Nat.zero_mul, Nat.zero_add]

/-! ### As many digits as needed -/

theorem number?_toDigits (hlt : 1 < base) (hbase : base ≤ 16) (n : Nat) :
    number? base (Nat.toDigits base n) = some n := by
  induction n using Nat.strongRecOn with
  | ind n ih =>
      by_cases hn : n < base
      · rw [Nat.toDigits_of_lt_base hn, number?, numberFrom?, value?_digitChar hbase hn,
          Option.bind_some, Nat.mul_zero, Nat.zero_add]
        rfl
      · have hle : base ≤ n := Nat.le_of_not_lt hn
        have hdiv : n / base < n := Nat.div_lt_self (by omega) hlt
        have hmod : n % base < base := Nat.mod_lt n (by omega)
        have hrest : numberFrom? base 0 (Nat.toDigits base (n / base)) = some (n / base) := ih _ hdiv
        rw [Nat.toDigits_of_base_le hlt hle, number?, numberFrom?_append, hrest, Option.bind_some,
          numberFrom?, value?_digitChar hbase hmod, Option.bind_some, numberFrom?, Nat.div_add_mod]

theorem toList_toString (n : Nat) : (toString n).toList = Nat.toDigits 10 n := by
  rw [Nat.toString_eq_repr, Nat.toList_repr]

/-- The text of a number has digits in it and no other characters. -/
theorem not_mem_toString {c : Char} (h : c.isDigit = false) (n : Nat) :
    c ∉ (toString n).toList := by
  intro hmem
  rw [toList_toString] at hmem
  exact Bool.noConfusion (h.symm.trans (Nat.isDigit_of_mem_toDigits (by decide) (by decide) hmem))

end Verdict.Digit
