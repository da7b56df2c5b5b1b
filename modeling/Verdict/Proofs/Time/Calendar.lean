import Mathlib.Algebra.GroupWithZero.Nat
import Mathlib.Tactic.ByContra
import Verdict.Time.Calendar

/-!
# The calendar counts every day once

The closed form for the days before a year agrees with the lengths of the months: one year on, it
has grown by exactly the days of the year that passed (`daysBeforeYear_succ`). Every day, before the
year zero as well as after it, therefore lies in the one year that is found for it
(`yearOfDays_spec`), its date is a day that the calendar has (`isValid_ofDays`), and counting the
days up to that date gives the day again (`toDays_ofDays`).
-/

namespace Verdict.CivilDate

/-! ### Years -/

theorem sum_monthLengths (year : Int) :
    (monthLengths year).sum = 365 + if isLeapYear year then 1 else 0 := by
  cases h : isLeapYear year <;> simp [monthLengths, h]

theorem daysBeforeYear_succ (year : Int) :
    daysBeforeYear (year + 1) = daysBeforeYear year + (monthLengths year).sum := by
  have hleap : isLeapYear year = true ↔ year % 4 = 0 ∧ (year % 100 ≠ 0 ∨ year % 400 = 0) := by
    simp [isLeapYear]
  rw [sum_monthLengths]
  unfold daysBeforeYear
  split
  · rename_i h
    have := hleap.1 h
    omega
  · rename_i h
    have := mt hleap.2 h
    omega

/-- A year is found for every day, and the day lies in it. -/
theorem yearOfDays_spec (days : Int) :
    daysBeforeYear (yearOfDays days) ≤ days ∧ days < daysBeforeYear (yearOfDays days + 1) := by
  -- the mean length of a year misses the start of a year by less than two days
  have hmean : ∀ year, 146097 * year - 800 < 400 * daysBeforeYear year ∧
      400 * daysBeforeYear year < 146097 * year + 800 := by
    intro year
    unfold daysBeforeYear
    omega
  simp only [yearOfDays]
  generalize hestimate : days * 400 / 146097 = estimate
  have hbelow := (hmean (estimate - 1)).2
  have habove := (hmean (estimate + 1 + 1)).1
  split
  · rw [Int.sub_add_cancel]
    omega
  · split <;> omega

theorem daysBeforeYear_mono {year later : Int} (h : year ≤ later) :
    daysBeforeYear year ≤ daysBeforeYear later := by
  unfold daysBeforeYear
  omega

/-- A day lies in a year or after it if it is not among the days before the year. -/
theorem le_yearOfDays_iff {year days : Int} :
    year ≤ yearOfDays days ↔ daysBeforeYear year ≤ days := by
  obtain ⟨hlow, hhigh⟩ := yearOfDays_spec days
  constructor
  · intro h
    exact Int.le_trans (daysBeforeYear_mono h) hlow
  · intro h
    by_contra hlater
    have hstart := daysBeforeYear_mono (Int.add_one_le_of_lt (Int.not_le.1 hlater))
    omega

/-! ### Days of a year -/

variable {year : Int} {day : Nat}

/-- The walk down the months stops in the month that holds the day, after the days of the months
before it. -/
theorem ofDayOfYear_spec (year : Int) (month : Nat) {lengths : List Nat} (h : day < lengths.sum) :
    ∃ passed length rest, lengths[passed]? = some length ∧ rest < length ∧
      (lengths.take passed).sum + rest = day ∧
      ofDayOfYear year month lengths day = ⟨year, month + passed, rest + 1⟩ := by
  induction lengths generalizing month day with
  | nil => cases h
  | cons length lengths ih =>
      by_cases hday : day < length
      · refine ⟨0, length, day, rfl, hday, Nat.zero_add day, ?_⟩
        rw [ofDayOfYear, if_pos hday]
        rfl
      · rw [List.sum_cons] at h
        have hlater : day - length < lengths.sum := by omega
        obtain ⟨passed, found, rest, hfound, hrest, hsum, hwalk⟩ := ih (month + 1) hlater
        refine ⟨passed + 1, found, rest, hfound, hrest, ?_, ?_⟩
        · rw [List.take_succ_cons, List.sum_cons]
          omega
        · rw [ofDayOfYear, if_neg hday, hwalk, Nat.add_right_comm, Nat.add_assoc]

/-- What is known of the date of a day. -/
theorem ofDays_spec (days : Int) :
    ∃ passed length rest, (monthLengths (yearOfDays days))[passed]? = some length ∧ rest < length ∧
      daysBeforeYear (yearOfDays days) +
        (((monthLengths (yearOfDays days)).take passed).sum + rest : Nat) = days ∧
      ofDays days = ⟨yearOfDays days, passed + 1, rest + 1⟩ := by
  obtain ⟨hlow, hhigh⟩ := yearOfDays_spec days
  rw [daysBeforeYear_succ] at hhigh
  have hday : (days - daysBeforeYear (yearOfDays days)).toNat <
      (monthLengths (yearOfDays days)).sum := by
    omega
  obtain ⟨passed, length, rest, hlength, hrest, hsum, hwalk⟩ :=
    ofDayOfYear_spec (yearOfDays days) 1 hday
  refine ⟨passed, length, rest, hlength, hrest, by omega, ?_⟩
  rw [ofDays, hwalk, Nat.add_comm 1 passed]

theorem year_ofDays (days : Int) : (ofDays days).year = yearOfDays days := by
  obtain ⟨passed, length, rest, -, -, -, hdate⟩ := ofDays_spec days
  rw [hdate]

theorem toDays_ofDays (days : Int) : (ofDays days).toDays = days := by
  obtain ⟨passed, length, rest, -, -, hsum, hdate⟩ := ofDays_spec days
  rw [hdate, toDays, ← List.sum_eq_foldl_nat]
  exact hsum

theorem isValid_ofDays (days : Int) : (ofDays days).isValid := by
  obtain ⟨passed, length, rest, hlength, hrest, -, hdate⟩ := ofDays_spec days
  rw [hdate, isValid, Nat.add_sub_cancel, hlength]
  simpa using Nat.succ_le_of_lt hrest

/-! ### Months and days have two digits -/

theorem length_le_of_mem_monthLengths {length : Nat} (h : length ∈ monthLengths year) :
    length ≤ 31 := by
  cases hleap : isLeapYear year <;> simp [monthLengths, hleap] at h <;> omega

theorem month_le_of_isValid {date : CivilDate} (h : date.isValid) : date.month ≤ 12 := by
  unfold isValid at h
  split at h
  · rename_i length hlength
    have hlt : date.month - 1 < (monthLengths date.year).length := (List.getElem?_eq_some_iff.1 hlength).1
    have htwelve : (monthLengths date.year).length = 12 := rfl
    omega
  · cases h

theorem day_le_of_isValid {date : CivilDate} (h : date.isValid) : date.day ≤ 31 := by
  unfold isValid at h
  split at h
  · rename_i length hlength
    have hmem := length_le_of_mem_monthLengths (List.mem_of_getElem? hlength)
    have hday : date.day ≤ length := of_decide_eq_true (Bool.and_eq_true_iff.1 h).2
    omega
  · cases h

end Verdict.CivilDate
