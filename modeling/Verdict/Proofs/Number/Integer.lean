import Mathlib.Algebra.Group.Nat.Defs
import Verdict.Number.Rounding

/-!
# Whole numbers as doubles

A whole number becomes the double nearest to it. If it has fifty-three bits at most it becomes a
double of exactly its value, so cutting a whole double off and rounding it again changes nothing but
the sign of a zero (`ofInt_truncate_equals`). Far larger numbers are rounded, and are still finite
(`isFinite_ofInt`).
-/

namespace Verdict

theorem roundHalfEven_one (n : Nat) : roundHalfEven n 1 = n := by
  have hrest : compare (2 * (n % 1)) 1 = .lt := by
    rw [Nat.mod_one]
    rfl
  rw [roundHalfEven, hrest]
  exact Nat.div_one n

theorem roundHalfEven_le (num den : Nat) : roundHalfEven num den ≤ num / den + 1 := by
  simp only [roundHalfEven]
  split
  · omega
  · omega
  · split <;> omega

namespace Binary64

theorem hiddenBit_eq : hiddenBit = 2 ^ 52 := rfl

theorem hiddenBit_pos : 0 < hiddenBit := by decide

/-! ### Encodings -/

theorem toNat_bits_ofMagnitude (negative : Bool) {m : Nat} (h : m < signBit) :
    (ofMagnitude negative m).bits.toNat = (if negative then signBit else 0) + m := by
  have hlt : (if negative then signBit else 0) + m < 2 ^ 64 := by
    unfold signBit at *
    split <;> omega
  exact UInt64.toNat_ofNat_of_lt' hlt

theorem magnitude_ofMagnitude (negative : Bool) {m : Nat} (h : m < signBit) :
    (ofMagnitude negative m).magnitude = m := by
  rw [magnitude, toNat_bits_ofMagnitude negative h]
  cases negative with
  | false => rw [if_neg Bool.false_ne_true, Nat.zero_add, Nat.mod_eq_of_lt h]
  | true => rw [if_pos rfl, Nat.add_mod_left, Nat.mod_eq_of_lt h]

theorem isNegative_ofMagnitude (negative : Bool) {m : Nat} (h : m < signBit) :
    (ofMagnitude negative m).isNegative = negative := by
  rw [isNegative, toNat_bits_ofMagnitude negative h]
  cases negative with
  | false => simpa using h
  | true => simp

theorem rank_ofMagnitude (negative : Bool) {m : Nat} (h : m < signBit) :
    (ofMagnitude negative m).rank = if negative then -(m : Int) else m := by
  rw [rank, magnitude_ofMagnitude negative h, isNegative_ofMagnitude negative h]

theorem isFinite_ofMagnitude (negative : Bool) {m : Nat} (h : m < infiniteMagnitude) :
    (ofMagnitude negative m).isFinite := by
  have hsign : m < signBit := Nat.lt_trans h (by decide)
  rw [isFinite, magnitude_ofMagnitude negative hsign]
  exact decide_eq_true h

theorem isNaN_eq_false_of_isFinite {x : Binary64} (h : x.isFinite) : x.isNaN = false := by
  have hlt : x.magnitude < infiniteMagnitude := of_decide_eq_true h
  exact decide_eq_false (by omega)

/-- Finite numbers of one rank are equal, whatever their encodings. -/
theorem equals_of_rank_eq {x y : Binary64} (hx : x.isFinite) (hy : y.isFinite)
    (h : x.rank = y.rank) : x.equals y := by
  rw [equals, compare?, isNaN_eq_false_of_isFinite hx, isNaN_eq_false_of_isFinite hy, h]
  simp

/-! ### Rounding a whole number -/

variable {n : Nat}

/-- The unit puts the leading bit of a whole number on the hidden bit. -/
theorem unitExponent_one (h : n ≠ 0) : unitExponent n 1 = n.log2 - 52 := by
  have hlow : 2 ^ n.log2 ≤ n := Nat.log2_self_le h
  have hden : Nat.log2 1 = 0 := rfl
  have hfits : 2 * hiddenBit * (1 * Nat.pow 2 ((n.log2 : Int) - 53).toNat) ≤
      n * Nat.pow 2 (-((n.log2 : Int) - 53)).toNat := by
    rw [Nat.pow_eq, Nat.pow_eq, Nat.one_mul, hiddenBit_eq, ← Nat.pow_succ', ← Nat.pow_add]
    calc 2 ^ (53 + ((n.log2 : Int) - 53).toNat)
        = 2 ^ n.log2 * 2 ^ (-((n.log2 : Int) - 53)).toNat := by
          rw [← Nat.pow_add]
          congr 1
          omega
      _ ≤ n * 2 ^ (-((n.log2 : Int) - 53)).toNat := Nat.mul_le_mul_right _ hlow
  simp only [unitExponent, hden, Int.natCast_zero, Int.sub_zero, if_pos hfits]
  omega

/-- The value that is rounded to the significand has fifty-three bits. -/
theorem scaled_div_lt :
    n * Nat.pow 2 (-((n.log2 : Int) - 52)).toNat / (1 * Nat.pow 2 ((n.log2 : Int) - 52).toNat) <
      2 * hiddenBit := by
  have hhigh : n < 2 ^ (n.log2 + 1) := Nat.lt_log2_self
  rw [Nat.pow_eq, Nat.pow_eq, Nat.one_mul, hiddenBit_eq, ← Nat.pow_succ',
    Nat.div_lt_iff_lt_mul (Nat.two_pow_pos _), ← Nat.pow_add]
  calc n * 2 ^ (-((n.log2 : Int) - 52)).toNat
      < 2 ^ (n.log2 + 1) * 2 ^ (-((n.log2 : Int) - 52)).toNat :=
        Nat.mul_lt_mul_of_pos_right hhigh (Nat.two_pow_pos _)
    _ = 2 ^ (53 + ((n.log2 : Int) - 52).toNat) := by
        rw [← Nat.pow_add]
        congr 1
        omega

theorem magnitudeOfRatio_one_lt (h : n < 2 ^ 64) :
    magnitudeOfRatio n 1 < infiniteMagnitude := by
  by_cases hn : n = 0
  · subst hn
    decide
  · have hlog : n.log2 < 64 := (Nat.log2_lt hn).2 h
    have hround := roundHalfEven_le (n * Nat.pow 2 (-((n.log2 : Int) - 52)).toNat)
      (1 * Nat.pow 2 ((n.log2 : Int) - 52).toNat)
    have hscaled := scaled_div_lt (n := n)
    have hpos := hiddenBit_pos
    have hplace : (((n.log2 : Int) - 52) + 1074).toNat * hiddenBit ≤ 1085 * hiddenBit :=
      Nat.mul_le_mul_right _ (by omega)
    simp only [magnitudeOfRatio, beq_iff_eq, if_neg hn, unitExponent_one hn]
    unfold infiniteMagnitude
    omega

theorem isFinite_ofInt {z : Int} (h : z.natAbs < 2 ^ 64) : (ofInt z).isFinite :=
  isFinite_ofMagnitude _ (magnitudeOfRatio_one_lt h)

/-- A whole number that reaches the hidden bit after `k` doublings is not rounded. -/
theorem magnitudeOfRatio_one_eq {k : Nat} (hlow : hiddenBit ≤ n * 2 ^ k)
    (hhigh : n * 2 ^ k < 2 * hiddenBit) :
    k ≤ 52 ∧ magnitudeOfRatio n 1 = (1074 - k) * hiddenBit + n * 2 ^ k := by
  have hpos := hiddenBit_pos
  have hn : n ≠ 0 := by
    rintro rfl
    omega
  have hlog : n.log2 + k = 52 := by
    rw [hiddenBit_eq] at hlow
    rw [hiddenBit_eq, ← Nat.pow_succ'] at hhigh
    have hfloor : 2 ^ (n.log2 + k) ≤ n * 2 ^ k := by
      rw [Nat.pow_add]
      exact Nat.mul_le_mul_right _ (Nat.log2_self_le hn)
    have hceil : n * 2 ^ k < 2 ^ (n.log2 + 1 + k) := by
      rw [Nat.pow_add]
      exact Nat.mul_lt_mul_of_pos_right Nat.lt_log2_self (Nat.two_pow_pos k)
    have hle : n.log2 + k < 53 :=
      (Nat.pow_lt_pow_iff_right (by decide)).1 (Nat.lt_of_le_of_lt hfloor hhigh)
    have hge : 52 < n.log2 + 1 + k :=
      (Nat.pow_lt_pow_iff_right (by decide)).1 (Nat.lt_of_le_of_lt hlow hceil)
    omega
  have hunit : (n.log2 : Int) - 52 = -(k : Int) := by omega
  have hplace : (-(k : Int) + 1074).toNat = 1074 - k := by omega
  have hdown : (- -(k : Int)).toNat = k := by omega
  have hup : (-(k : Int)).toNat = 0 := by omega
  have hbound : (1074 - k) * hiddenBit + n * 2 ^ k ≤ infiniteMagnitude := by
    have hplaces := Nat.mul_le_mul_right hiddenBit (Nat.sub_le 1074 k)
    unfold infiniteMagnitude
    omega
  refine ⟨by omega, ?_⟩
  simp only [magnitudeOfRatio, beq_iff_eq, if_neg hn, unitExponent_one hn, hunit, hplace, hdown,
    hup, Nat.pow_eq, Nat.pow_zero, Nat.mul_one, roundHalfEven_one]
  exact Nat.min_eq_right hbound

/-! ### Cutting off and rounding again -/

variable {x : Binary64}

/-- The integer part without the sign. -/
def whole (x : Binary64) : Nat :=
  x.significand * 2 ^ x.exponent.toNat / 2 ^ (-x.exponent).toNat

theorem truncate_eq (x : Binary64) :
    x.truncate = if x.isNegative then -(x.whole : Int) else x.whole := rfl

theorem natAbs_truncate (x : Binary64) : x.truncate.natAbs = x.whole := by
  rw [truncate_eq]
  split <;> omega

theorem isFinite_of_isIntegral (h : x.isIntegral) : x.isFinite :=
  (Bool.and_eq_true_iff.1 h).1

/-- Without a fraction the integer part is everything. -/
theorem whole_mul_eq (h : x.isIntegral) :
    x.whole * 2 ^ (-x.exponent).toNat = x.significand * 2 ^ x.exponent.toNat := by
  have hmod : x.significand * 2 ^ x.exponent.toNat % 2 ^ (-x.exponent).toNat = 0 :=
    beq_iff_eq.1 (Bool.and_eq_true_iff.1 h).2
  exact Nat.div_mul_cancel (Nat.dvd_of_mod_eq_zero hmod)

theorem magnitude_eq_zero_of_significand (h : x.significand = 0) : x.magnitude = 0 := by
  unfold significand at h
  split at h
  · exact h
  · have hpos := hiddenBit_pos
    omega

/-- A whole number in the doubles' exact range is rounded to the magnitude it was cut from. -/
theorem magnitudeOfRatio_whole (h : x.isIntegral) (hwhole : x.whole < 2 * hiddenBit) :
    magnitudeOfRatio x.whole 1 = x.magnitude := by
  have heq := whole_mul_eq h
  by_cases hzero : x.whole = 0
  · have hsignificand : x.significand = 0 := by
      rw [hzero, Nat.zero_mul] at heq
      exact (Nat.mul_eq_zero.1 heq.symm).resolve_right (Nat.ne_of_gt (Nat.two_pow_pos _))
    rw [hzero, magnitude_eq_zero_of_significand hsignificand]
    rfl
  by_cases hsmall : x.magnitude < hiddenBit
  · -- the whole numbers among the smallest magnitudes are the zeros
    have hsignificand : x.significand = x.magnitude := if_pos hsmall
    have hexponent : x.exponent = -1074 := if_pos hsmall
    rw [hexponent, hsignificand] at heq
    have hle : 1 * 2 ^ 52 ≤ x.whole * 2 ^ (- -1074 : Int).toNat :=
      Nat.mul_le_mul (by omega) (Nat.pow_le_pow_right (by decide) (by decide))
    have hpow : 2 ^ (-1074 : Int).toNat = 1 := rfl
    rw [heq, hpow, Nat.one_mul, Nat.mul_one, ← hiddenBit_eq] at hle
    omega
  · have hsignificand : x.significand = hiddenBit + x.magnitude % hiddenBit := if_neg hsmall
    have hexponent : x.exponent = (x.magnitude / hiddenBit : Nat) - 1075 := if_neg hsmall
    have hrest : x.magnitude % hiddenBit < hiddenBit := Nat.mod_lt _ (by decide)
    have hdiv : hiddenBit * (x.magnitude / hiddenBit) + x.magnitude % hiddenBit = x.magnitude :=
      Nat.div_add_mod _ _
    by_cases hpositive : 0 < x.exponent
    · have hdown : (-x.exponent).toNat = 0 := by omega
      have hpow : 2 * 1 ≤ 2 ^ x.exponent.toNat := by
        obtain ⟨e, he⟩ : ∃ e, x.exponent.toNat = e + 1 := ⟨x.exponent.toNat - 1, by omega⟩
        rw [he, Nat.pow_succ']
        exact Nat.mul_le_mul_left 2 (Nat.two_pow_pos e)
      have hlarge : hiddenBit * 2 ≤ x.significand * 2 ^ x.exponent.toNat :=
        Nat.mul_le_mul (by omega) hpow
      rw [hdown, Nat.pow_zero, Nat.mul_one] at heq
      omega
    · have hup : x.exponent.toNat = 0 := by omega
      rw [hup, Nat.pow_zero, Nat.mul_one] at heq
      obtain ⟨hk, hmagnitude⟩ := magnitudeOfRatio_one_eq (n := x.whole) (k := (-x.exponent).toNat)
        (by omega) (by omega)
      have hplace : 1074 - (-x.exponent).toNat = x.magnitude / hiddenBit - 1 := by omega
      have hpos : 1 ≤ x.magnitude / hiddenBit := by omega
      rw [hmagnitude, hplace, heq, hsignificand, Nat.sub_mul, Nat.mul_comm _ hiddenBit]
      have := Nat.mul_le_mul_left hiddenBit hpos
      omega

/-- A whole double in the exact range is found again from its integer. The zeros come back as the
positive one, which is equal to both. -/
theorem ofInt_truncate_equals (h : x.isIntegral) (hwhole : x.truncate.natAbs < 2 * hiddenBit) :
    (ofInt x.truncate).equals x := by
  rw [natAbs_truncate] at hwhole
  have hfinite : x.isFinite := isFinite_of_isIntegral h
  have hmagnitude := magnitudeOfRatio_whole h hwhole
  have hlt : x.magnitude < infiniteMagnitude := of_decide_eq_true hfinite
  have hsign : x.magnitude < signBit := Nat.lt_trans hlt (by decide)
  have heq : ofInt x.truncate = ofMagnitude (decide (x.truncate < 0)) x.magnitude := by
    rw [ofInt, ofRatio, natAbs_truncate, hmagnitude]
  rw [heq]
  refine equals_of_rank_eq (isFinite_ofMagnitude _ hlt) hfinite ?_
  rw [rank_ofMagnitude _ hsign, rank]
  by_cases hzero : x.whole = 0
  · rw [hzero] at hmagnitude
    have hnone : x.magnitude = 0 := hmagnitude.symm
    simp [hnone]
  · congr 1
    rw [truncate_eq]
    cases x.isNegative with
    | false => simp
    | true =>
        simp only [if_true, decide_eq_true_eq, eq_iff_iff, iff_true]
        omega

end Binary64

end Verdict
