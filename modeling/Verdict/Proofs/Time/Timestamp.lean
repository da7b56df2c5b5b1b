import Verdict.Time.Timestamp
import Verdict.Proofs.Text.Digit
import Verdict.Proofs.Time.Calendar

/-!
# Timestamps read back

An instant of a whole millisecond whose year has four digits is read back from what is written of it
(`read?_write`). The proof follows the text: a number padded to its width is read back with the text
after it left over, so the fields are read one after the other (`fields?_write`), and the calendar
finds the day again from its date. Any other year is written with a sign in front, and what is
written of it is not read (`read?_write_eq_none`).
-/

namespace Verdict

namespace Instant

/-- Instants of a whole millisecond. -/
theorem eq_of_ofMillis? {millis : Int} {t : Instant} (h : ofMillis? millis = some t) :
    t = ⟨millis / 1000, (millis % 1000).toNat * 1000000⟩ := by
  unfold ofMillis? ofParts? at h
  split at h
  · exact (Option.some.inj h).symm
  · cases h

theorem date_isValid (t : Instant) : t.date.isValid := CivilDate.isValid_ofDays _

theorem secondOfDay_lt (t : Instant) : t.secondOfDay < 86400 := by
  unfold secondOfDay daySeconds
  omega

/-- The year is written with four digits and without a sign. -/
def HasFourDigitYear (t : Instant) : Prop := 0 ≤ t.date.year ∧ t.date.year ≤ 9999

instance (t : Instant) : Decidable t.HasFourDigitYear := inferInstanceAs (Decidable (_ ∧ _))

/-- The first millisecond of the year zero. -/
def firstMillis : Int := -62167219200000

/-- The last millisecond of the year 9999. -/
def lastMillis : Int := 253402300799999

/-- The years with four digits follow each other without a gap. -/
theorem hasFourDigitYear_iff {t : Instant} (hleap : t.nanos < 1000000000) :
    t.HasFourDigitYear ↔ firstMillis ≤ t.toMillis ∧ t.toMillis ≤ lastMillis := by
  have hfirst := @CivilDate.le_yearOfDays_iff 0 (t.seconds / daySeconds + epochDays)
  have hlast := @CivilDate.le_yearOfDays_iff 10000 (t.seconds / daySeconds + epochDays)
  have hzero : CivilDate.daysBeforeYear 0 = 0 := rfl
  have hten : CivilDate.daysBeforeYear 10000 = 3652425 := rfl
  rw [HasFourDigitYear, date, CivilDate.year_ofDays]
  unfold daySeconds epochDays at *
  unfold firstMillis lastMillis toMillis
  omega

/-- The day and the second of the day make up the instant's seconds. -/
theorem secondsOf_date (t : Instant) : secondsOf t.date t.secondOfDay = t.seconds := by
  rw [secondsOf, date, CivilDate.toDays_ofDays]
  unfold secondOfDay daySeconds
  omega

end Instant

namespace Timestamp

/-! ### Padded numbers -/

section

variable {width n : Nat} {rest : List Char}

theorem numberFrom?_replicate_zero (start count : Nat) :
    Digit.numberFrom? 10 start (List.replicate count '0') = some (start * 10 ^ count) := by
  induction count generalizing start with
  | zero => rw [Nat.pow_zero, Nat.mul_one]; rfl
  | succ count ih =>
      have hzero : Digit.value? 10 '0' = some 0 := rfl
      rw [List.replicate_succ, Digit.numberFrom?, hzero, Option.bind_some, ih, Nat.add_zero,
        Nat.pow_succ', Nat.mul_left_comm, Nat.mul_assoc]

theorem number?_padded (width n : Nat) : Digit.number? 10 (padded width n) = some n := by
  rw [Digit.number?, padded, Digit.numberFrom?_append, numberFrom?_replicate_zero, Option.bind_some,
    Nat.zero_mul]
  exact Digit.number?_toDigits (by decide) (by decide) n

theorem length_padded (hwidth : 0 < width) (h : n < 10 ^ width) : (padded width n).length = width := by
  have hdigits : (Nat.toDigits 10 n).length ≤ width := (Nat.length_toDigits_le_iff (by decide) hwidth).2 h
  rw [padded, List.length_append, List.length_replicate]
  omega

theorem isDigit_of_mem_padded {c : Char} (h : c ∈ padded width n) : c.isDigit := by
  obtain h | h := List.mem_append.1 h
  · rw [List.eq_of_mem_replicate h]
    rfl
  · exact Nat.isDigit_of_mem_toDigits (by decide) (by decide) h

theorem digits?_append {digits : List Char} {count : Nat} (h : digits.length = count) :
    digits? count (digits ++ rest) = (Digit.number? 10 digits).map (·, rest) := by
  unfold digits? Digit.number?
  generalize 0 = start
  induction digits generalizing count start with
  | nil =>
      subst h
      rfl
  | cons c digits ih =>
      subst h
      simp only [List.cons_append, List.length_cons, digits?.go, Digit.numberFrom?]
      cases Digit.value? 10 c with
      | none => rfl
      | some digit => exact ih rfl _

theorem digits?_padded (hwidth : 0 < width) (h : n < 10 ^ width) :
    digits? width (padded width n ++ rest) = some (n, rest) := by
  rw [digits?_append (length_padded hwidth h), number?_padded, Option.map_some]

theorem mark?_cons {accepts : Char → Bool} {c : Char} (h : accepts c) :
    mark? accepts (c :: rest) = some rest := if_pos h

/-- Three digits of a fraction are milliseconds. -/
theorem fraction?_padded (h : n < 1000) (c : Char) (hc : ¬c.isDigit) :
    fraction? ('.' :: (padded 3 n ++ c :: rest)) = some (n * 1000000, c :: rest) := by
  have hlength : (padded 3 n).length = 3 := length_padded (by decide) h
  have hdigits : ∀ d ∈ padded 3 n, d.isDigit := fun d => isDigit_of_mem_padded
  have htake : (padded 3 n ++ c :: rest).takeWhile Char.isDigit = padded 3 n := by
    rw [List.takeWhile_append_of_pos hdigits, List.takeWhile_cons_of_neg hc, List.append_nil]
  have hdrop : (padded 3 n ++ c :: rest).dropWhile Char.isDigit = c :: rest := by
    rw [List.dropWhile_append_of_pos hdigits, List.dropWhile_cons_of_neg hc]
  have hnine : (padded 3 n ++ List.replicate 9 '0').take 9 = padded 3 n ++ List.replicate 6 '0' := by
    rw [List.take_append, hlength, List.take_of_length_le (by omega)]
    rfl
  have hnumber : Digit.number? 10 (padded 3 n ++ List.replicate 6 '0') = some (n * 10 ^ 6) := by
    rw [Digit.number?, Digit.numberFrom?_append, ← Digit.number?, number?_padded, Option.bind_some,
      numberFrom?_replicate_zero]
  have hsome : (padded 3 n).isEmpty = false := by
    cases hpadded : padded 3 n with
    | nil => simp [hpadded] at hlength
    | cons => rfl
  simp only [fraction?, htake, hdrop, hnine, hsome, Digit.number, hnumber]
  rfl

end

/-! ### The fields of a text -/

section

variable (year month day hour minute second millis : Nat)

theorem fields?_padded (hyear : year < 10000) (hmonth : month < 100) (hday : day < 100)
    (hhour : hour < 100) (hminute : minute < 100) (hsecond : second < 100) (hmillis : millis < 1000) :
    fields? (padded 4 year ++ '-' :: padded 2 month ++ '-' :: padded 2 day ++
        'T' :: padded 2 hour ++ ':' :: padded 2 minute ++ ':' :: padded 2 second ++
        '.' :: padded 3 millis ++ ['Z']) =
      some ⟨⟨year, month, day⟩, hour, minute, second, millis * 1000000, 0⟩ := by
  have htwo : ∀ {n : Nat} (rest : List Char), n < 100 → digits? 2 (padded 2 n ++ rest) = some (n, rest) :=
    fun rest h => digits?_padded (by decide) h
  have hfour : ∀ rest : List Char, digits? 4 (padded 4 year ++ rest) = some (year, rest) :=
    fun rest => digits?_padded (by decide) hyear
  have hdash : ∀ rest, mark? (· == '-') ('-' :: rest) = some rest := fun _ => mark?_cons rfl
  have hcolon : ∀ rest, mark? (· == ':') (':' :: rest) = some rest := fun _ => mark?_cons rfl
  have hletter : ∀ rest, mark? (·.toNat < 128) ('T' :: rest) = some rest := fun _ => mark?_cons rfl
  have hzone : offset? ['Z'] = some (0, []) := rfl
  have hmillis : ∀ rest : List Char,
      fraction? ('.' :: (padded 3 millis ++ 'Z' :: rest)) = some (millis * 1000000, 'Z' :: rest) :=
    fun _ => fraction?_padded hmillis 'Z' (by decide)
  have hbind : ∀ {α : Type} {x : Option α} {a : α} {f : α → Option Fields} {fields : Fields},
      x = some a → f a = some fields → x >>= f = some fields :=
    fun hx hf => Option.bind_eq_some_iff.2 ⟨_, hx, hf⟩
  simp only [List.append_assoc, List.cons_append]
  refine hbind (hfour _) (hbind (hdash _) ?_)
  refine hbind (htwo _ hmonth) (hbind (hdash _) ?_)
  refine hbind (htwo _ hday) (hbind (hletter _) ?_)
  refine hbind (htwo _ hhour) (hbind (hcolon _) ?_)
  refine hbind (htwo _ hminute) (hbind (hcolon _) ?_)
  refine hbind (htwo _ hsecond) (hbind (hmillis _) (hbind hzone ?_))
  rfl

end

/-! ### Instants read back -/

/-- The fields that an instant is written with, outside of leap seconds. -/
def Fields.ofInstant (t : Instant) : Fields :=
  ⟨t.date, t.secondOfDay / 3600, t.secondOfDay / 60 % 60, t.secondOfDay % 60, t.nanos, 0⟩

theorem Fields.toNanos?_ofInstant (t : Instant) :
    (ofInstant t).toNanos? = some (t.seconds * 1000000000 + t.nanos) := by
  have hlt := t.secondOfDay_lt
  have hhour : t.secondOfDay / 3600 ≤ 23 := by omega
  have hminute : t.secondOfDay / 60 % 60 ≤ 59 := by omega
  have hsecond : t.secondOfDay % 60 ≤ 60 := by omega
  have hregular : (t.secondOfDay % 60 == 60) = false := by
    rw [beq_eq_false_iff_ne]
    omega
  have htotal : t.secondOfDay / 3600 * 3600 + t.secondOfDay / 60 % 60 * 60 + t.secondOfDay % 60 =
      t.secondOfDay := by
    omega
  simp [toNanos?, ofInstant, guard, t.date_isValid, hhour, hminute, hsecond, hregular, htotal,
    t.secondsOf_date]

variable {t : Instant} {millis : Int}

theorem fields?_write (hyear : t.HasFourDigitYear) (hleap : t.nanos < 1000000000)
    (hmillis : t.nanos / 1000000 * 1000000 = t.nanos) :
    fields? (write t).toList = some (Fields.ofInstant t) := by
  have hlt := t.secondOfDay_lt
  have hmonth := CivilDate.month_le_of_isValid t.date_isValid
  have hday := CivilDate.day_le_of_isValid t.date_isValid
  have htext : yearText t.date.year = padded 4 t.date.year.toNat := if_pos hyear
  obtain ⟨hlow, hhigh⟩ := hyear
  have hdate : (⟨(t.date.year.toNat : Int), t.date.month, t.date.day⟩ : CivilDate) = t.date := by
    rw [Int.toNat_of_nonneg hlow]
  have hregular : ¬1000000000 ≤ t.nanos := by omega
  have hfields := fields?_padded t.date.year.toNat t.date.month t.date.day (t.secondOfDay / 3600)
    (t.secondOfDay / 60 % 60) (t.secondOfDay % 60) (t.nanos / 1000000)
    (by omega) (by omega) (by omega) (by omega) (by omega) (by omega) (by omega)
  rw [hdate, hmillis] at hfields
  simp only [write, String.toList_ofList, htext, if_neg hregular, Nat.add_zero]
  exact hfields

/-- A whole millisecond of a year with four digits is read back as it was written. -/
theorem read?_write (ht : Instant.ofMillis? millis = some t) (hyear : t.HasFourDigitYear) :
    read? (write t) = some t := by
  have hparts := Instant.eq_of_ofMillis? ht
  have hnanos : t.nanos = (millis % 1000).toNat * 1000000 := congrArg Instant.nanos hparts
  have hseconds : t.seconds = millis / 1000 := congrArg Instant.seconds hparts
  have hfields := fields?_write hyear (by omega) (by omega)
  have htotal : t.seconds * 1000000000 + t.nanos = millis * 1000000 := by omega
  have hcut : (millis * 1000000).tdiv 1000000 = millis := Int.mul_tdiv_cancel _ (by decide)
  rw [read?, hfields, Option.bind_eq_bind, Option.bind_some, Fields.toNanos?_ofInstant, htotal,
    Option.bind_eq_bind, Option.bind_some, hcut, ht]

/-! ### Years with a sign -/

theorem fields?_sign {sign : Char} (hsign : sign = '-' ∨ sign = '+') (rest : List Char) :
    fields? (sign :: rest) = none := by
  have hyear : digits? 4 (sign :: rest) = none := by obtain rfl | rfl := hsign <;> rfl
  rw [fields?, hyear]
  rfl

/-- A year outside four digits is written with a sign, which no year that is read has. -/
theorem read?_write_eq_none (h : ¬t.HasFourDigitYear) : read? (write t) = none := by
  have hyear : yearText t.date.year =
      (if t.date.year < 0 then '-' else '+') :: padded 4 t.date.year.natAbs := if_neg h
  have hsign : (if t.date.year < 0 then '-' else '+') = '-' ∨
      (if t.date.year < 0 then '-' else '+') = '+' := by
    split
    · exact .inl rfl
    · exact .inr rfl
  have hfields : fields? (write t).toList = none := by
    rw [write, String.toList_ofList, hyear]
    exact fields?_sign hsign _
  rw [read?, hfields]
  rfl

end Timestamp

end Verdict
