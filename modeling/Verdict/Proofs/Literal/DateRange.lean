import Verdict.Proofs.Literal.RoundTrip

/-!
# The dates that are read back

More dates can be read than can be written so that they are read again. An integer of milliseconds
reaches as far as instants do, and an offset can carry a timestamp out of the years that it names;
but a date is always written as a timestamp, with a sign in front of a year outside four digits, and
no year with a sign is read. So a date is read back just in case it lies between `firstMillis` and
`lastMillis` (`Json.date_readsBack_iff`), and what is written of any other date is refused.
-/

namespace Verdict

theorem Value.toValue_toJson_date_error {t : Instant} (h : ¬t.HasFourDigitYear) :
    (Value.date t).toJson.toValue =
      .error (.invalidDate (Json.string (Timestamp.write t)).compact) := by
  change Json.toDate (.string (Timestamp.write t)) = _
  rw [Json.toDate, Timestamp.read?_write_eq_none h]

namespace Json

/-- Whatever is read as a date is read back just in case its year has four digits; otherwise what is
written of it is refused. -/
theorem date_readsBack_iff {payload : Json} {value : Value}
    (hread : (object [("$date", payload)]).toValue = .ok value) :
    ∃ t, value = .date t ∧
      (value.toJson.toValue = .ok value ↔
        Instant.firstMillis ≤ t.toMillis ∧ t.toMillis ≤ Instant.lastMillis) ∧
      (¬(Instant.firstMillis ≤ t.toMillis ∧ t.toMillis ≤ Instant.lastMillis) →
        value.toJson.toValue = .error (.invalidDate (string (Timestamp.write t)).compact)) := by
  obtain ⟨t, millis, rfl, ht⟩ := toDate_eq_ok hread
  have hnanos : t.nanos = (millis % 1000).toNat * 1000000 :=
    congrArg Instant.nanos (Instant.eq_of_ofMillis? ht)
  refine ⟨t, rfl, ?_⟩
  rw [← Instant.hasFourDigitYear_iff (by omega)]
  refine ⟨⟨fun hback => ?_, fun hyear => ?_⟩, Value.toValue_toJson_date_error⟩
  · by_contra hyear
    rw [Value.toValue_toJson_date_error hyear] at hback
    cases hback
  · change toDate (.string (Timestamp.write t)) = _
    rw [toDate, Timestamp.read?_write ht hyear]

/-- The last millisecond that is read back. -/
theorem date_readsBack_iff_last :
    (object [("$date", .int 253402300799999)]).toValue =
        .ok (.date ⟨253402300799, 999000000⟩) ∧
      (Value.date ⟨253402300799, 999000000⟩).toJson.toValue =
        .ok (.date ⟨253402300799, 999000000⟩) := by
  have hread : (object [("$date", .int 253402300799999)]).toValue =
      .ok (.date ⟨253402300799, 999000000⟩) := rfl
  obtain ⟨t, ht, hback, -⟩ := date_readsBack_iff hread
  obtain rfl := Value.date.inj ht
  exact ⟨hread, hback.2 (by decide)⟩

/-- The millisecond after the last that is read back, as an integer, and the minute before the
first, by an offset. Both are read, and what is written of them is not. -/
theorem date_not_readBack :
    (object [("$date", .int 253402300800000)]).toValue = .ok (.date ⟨253402300800, 0⟩) ∧
      (Value.date ⟨253402300800, 0⟩).toJson =
        object [("$date", .string "+10000-01-01T00:00:00.000Z")] ∧
      (Value.date ⟨253402300800, 0⟩).toJson.toValue =
        .error (.invalidDate "\"+10000-01-01T00:00:00.000Z\"") ∧
      (object [("$date", .string "0000-01-01T00:00:00+00:01")]).toValue =
        .ok (.date ⟨-62167219260, 0⟩) ∧
      (Value.date ⟨-62167219260, 0⟩).toJson =
        object [("$date", .string "-0001-12-31T23:59:00.000Z")] ∧
      (Value.date ⟨-62167219260, 0⟩).toJson.toValue =
        .error (.invalidDate "\"-0001-12-31T23:59:00.000Z\"") := by
  have hlast : Timestamp.write ⟨253402300800, 0⟩ = "+10000-01-01T00:00:00.000Z" := by decide
  have hfirst : Timestamp.write ⟨-62167219260, 0⟩ = "-0001-12-31T23:59:00.000Z" := by decide
  refine ⟨rfl, ?_, ?_, rfl, ?_, ?_⟩
  · rw [Value.toJson, hlast]
  · rw [Value.toValue_toJson_date_error (by decide), hlast]
    rfl
  · rw [Value.toJson, hfirst]
  · rw [Value.toValue_toJson_date_error (by decide), hfirst]
    rfl

end Json

end Verdict
