import Verdict.Proofs.Literal.Reading
import Verdict.Proofs.Time.Timestamp

/-!
# Values read back

What is read from a JSON tree and written again is read back as an equal value, as long as the years
of its dates have four digits (`toValue_toJson_equals`). Equal is all that can be asked for, since a
negative zero is written as an integer and comes back positive. Leaves are written in the special
shapes and read back from them; documents keep their keys in order and are not mistaken for leaves.
Of a tree that was itself read from a text nothing more has to be known (`readsBack_of_parse?`).
-/

namespace Verdict

/-! ### Leaves -/

theorem ObjectId.ofHex?_toHex (id : ObjectId) : ofHex? id.toHex = some id := by
  have hlength : id.toHex.toList.length = 24 := by
    rw [toHex, String.toList_ofList, List.length_map, Digit.length_lowest]
  have hdigits : Digit.number? 16 id.toHex.toList = some id.value.toNat := by
    rw [toHex, String.toList_ofList, Digit.number?_lowest (by decide) (by decide)]
    exact congrArg some (Nat.mod_eq_of_lt id.value.isLt)
  rw [ofHex?, if_pos hlength, hdigits, Option.map_some, BitVec.ofNat_toNat, BitVec.setWidth_eq]

namespace Value

/-- Writes and reads back as an equal value. -/
def ReadsBack (value : Value) : Prop :=
  ∃ again, value.toJson.toValue = .ok again ∧ again.equals value

theorem readsBack_number {x : Binary64} (h : x.isFinite) : (number x).ReadsBack := by
  simp only [ReadsBack, toJson, numberToJson, h]
  split
  · rename_i hfinite
    exact absurd hfinite (by decide)
  · split
    · rename_i hexact
      obtain ⟨hintegral, hsize⟩ := Bool.and_eq_true_iff.1 hexact
      have hsize : x.truncate.natAbs ≤ maxExactInteger := of_decide_eq_true hsize
      have hbound : x.truncate.natAbs < 2 * Binary64.hiddenBit := Nat.lt_of_le_of_lt hsize (by decide)
      exact ⟨_, rfl, Binary64.ofInt_truncate_equals hintegral hbound⟩
    · exact ⟨_, rfl, Binary64.equals_of_rank_eq h h rfl⟩

theorem readsBack_date {t : Instant} {millis : Int} (h : Instant.ofMillis? millis = some t)
    (hyear : t.HasFourDigitYear) : (date t).ReadsBack := by
  have hread := Timestamp.read?_write h hyear
  refine ⟨date t, ?_, ?_⟩
  · change Json.toDate (.string (Timestamp.write t)) = .ok (date t)
    simp only [Json.toDate, hread]
  · rw [equals, beq_self_eq_true]

theorem readsBack_objectId (id : ObjectId) : (identifier (.object id)).ReadsBack := by
  refine ⟨identifier (.object id), ?_, ?_⟩
  · change Json.toObjectId (.string id.toHex) = .ok (identifier (.object id))
    simp only [Json.toObjectId, id.ofHex?_toHex]
  · rw [equals, Identifier.equals, beq_self_eq_true]

theorem readsBack_pattern {p : Pattern} (h : Pattern.ofSource p.source p.options = .ok p) :
    (pattern p).ReadsBack := by
  refine ⟨pattern p, ?_, ?_⟩
  · simp only [toJson, patternToJson]
    split
    · rename_i hoptions
      rw [beq_iff_eq.1 hoptions] at h
      change Json.toPattern (.string p.source) none = .ok (pattern p)
      rw [Json.toPattern_string_none, h]
      rfl
    · change Json.toPattern (.string p.source) (some (.string p.options)) = .ok (pattern p)
      rw [Json.toPattern_string, h]
      rfl
  · rw [equals, Pattern.equals, beq_self_eq_true, beq_self_eq_true, Bool.and_self]

/-! ### Whole values -/

mutual

/-- The dates inside of a value. -/
def dates : Value → List Instant
  | date t => [t]
  | array items => itemDates items
  | document entries => entryDates entries
  | _ => []
termination_by structural value => value

def itemDates : List Value → List Instant
  | [] => []
  | item :: rest => dates item ++ itemDates rest
termination_by structural items => items

def entryDates : List (String × Value) → List Instant
  | [] => []
  | (_, value) :: rest => dates value ++ entryDates rest
termination_by structural entries => entries

end

mutual

theorem readsBack (value : Value) (hvalue : value.IsReadable)
    (hdates : ∀ t ∈ value.dates, t.HasFourDigitYear) : value.ReadsBack := by
  match value with
  | .undefined | .null => exact ⟨_, rfl, rfl⟩
  | .bool b => exact ⟨_, rfl, beq_self_eq_true b⟩
  | .string s => exact ⟨_, rfl, beq_self_eq_true s⟩
  | .number x => exact readsBack_number hvalue
  | .date t =>
      obtain ⟨millis, ht⟩ := hvalue
      exact readsBack_date ht (hdates t (List.mem_singleton_self t))
  | .identifier id =>
      obtain ⟨id, rfl⟩ := hvalue
      exact readsBack_objectId id
  | .pattern p => exact readsBack_pattern hvalue
  | .array items =>
      obtain ⟨again, hread, hequal⟩ := itemsReadBack items hvalue hdates
      refine ⟨array again, ?_, hequal⟩
      rw [toJson, Json.toValue, hread]
      rfl
  | .document entries =>
      obtain ⟨hspecial, hvalue⟩ := hvalue
      obtain ⟨again, hread, hequal⟩ := entriesReadBack entries hvalue hdates
      refine ⟨document again, ?_, hequal⟩
      rw [toJson, Json.toValue_object hspecial, hread]
      rfl
termination_by structural value

theorem itemsReadBack (items : List Value) (hitems : AreReadable items)
    (hdates : ∀ t ∈ itemDates items, t.HasFourDigitYear) :
    ∃ again, Json.toValues (itemsToJson items) = .ok again ∧ equalsItems again items := by
  match items with
  | [] => exact ⟨[], rfl, rfl⟩
  | item :: rest =>
      obtain ⟨hitem, hrest⟩ := hitems
      obtain ⟨again, hread, hequal⟩ :=
        readsBack item hitem fun t ht => hdates t (List.mem_append_left _ ht)
      obtain ⟨others, hothers, hequals⟩ :=
        itemsReadBack rest hrest fun t ht => hdates t (List.mem_append_right _ ht)
      refine ⟨again :: others, ?_, Bool.and_eq_true_iff.2 ⟨hequal, hequals⟩⟩
      rw [itemsToJson, Json.toValues, hread, hothers]
      rfl
termination_by structural items

theorem entriesReadBack (entries : List (String × Value)) (hentries : EntriesReadable entries)
    (hdates : ∀ t ∈ entryDates entries, t.HasFourDigitYear) :
    ∃ again, Json.toEntries (entriesToJson entries) = .ok again ∧ equalsEntries again entries := by
  match entries with
  | [] => exact ⟨[], rfl, rfl⟩
  | (key, value) :: rest =>
      obtain ⟨hvalue, hrest⟩ := hentries
      obtain ⟨again, hread, hequal⟩ :=
        readsBack value hvalue fun t ht => hdates t (List.mem_append_left _ ht)
      obtain ⟨others, hothers, hequals⟩ :=
        entriesReadBack rest hrest fun t ht => hdates t (List.mem_append_right _ ht)
      refine ⟨(key, again) :: others, ?_, ?_⟩
      · rw [entriesToJson, Json.toEntries, hread, hothers]
        rfl
      · rw [equalsEntries, beq_self_eq_true, hequal, hequals]
        rfl
termination_by structural entries

end

/-- What is read from a JSON text has no numbers out of range, and so all of it is read back. -/
theorem readsBack_of_parse? {text : String} {json : Json} {value : Value}
    (htext : Json.parse? text = some json) (hread : json.toValue = .ok value)
    (hdates : ∀ t ∈ value.dates, t.HasFourDigitYear) : value.ReadsBack :=
  readsBack value (Json.isReadable_of_toValue json (Json.withinRange_of_parse? htext) hread) hdates

/-- Whatever is read from a JSON tree is read back from what is written of it. -/
theorem toValue_toJson_equals {json : Json} {value : Value} (hrange : json.WithinRange)
    (hread : json.toValue = .ok value)
    (hdates : ∀ t ∈ value.dates, t.HasFourDigitYear) :
    ∃ again, value.toJson.toValue = .ok again ∧ again.equals value :=
  readsBack value (Json.isReadable_of_toValue json hrange hread) hdates

/-- A tree with every leaf that has a shape of its own, with documents that only look like such a
leaf, and with a number that is written as an integer although it was none. -/
theorem toValue_toJson_equals_lookAlikes :
    ∃ pattern json value,
      json = Json.object [("name", .object [("$options", .string "m"), ("$regex", .string "^a")]),
        ("since", .object [("$date", .string "1970-01-01T01:59:59.999+02:00")]),
        ("not", .object [("$undefined", .bool false)]),
        ("only", .object [("$options", .int Json.maxUnsigned)]),
        ("list", .array [.object [("$undefined", .bool true)],
          .object [("$oid", .string "507f1f77bcf86cd799439011")],
          .double Binary64.negativeZero])] ∧
      value = document [("name", .pattern pattern), ("since", .date ⟨-1, 999000000⟩),
        ("not", document [("$undefined", .bool false)]),
        ("only", document [("$options", number (Binary64.ofInt Json.maxUnsigned))]),
        ("list", array [undefined, identifier (.object ⟨0x507f1f77bcf86cd799439011⟩),
          number Binary64.negativeZero])] ∧
      json.WithinRange ∧ json.toValue = .ok value ∧ (∀ t ∈ value.dates, t.HasFourDigitYear) ∧
      ∃ again, value.toJson.toValue = .ok again ∧ again.equals value := by
  obtain ⟨pattern, hpattern⟩ : ∃ pattern, Pattern.ofSource "^a" "m" = .ok pattern := by
    have hread : (Pattern.ofSource "^a" "m").isOk := by decide +kernel
    cases h : Pattern.ofSource "^a" "m" with
    | ok pattern => exact ⟨pattern, rfl⟩
    | error fault =>
        rw [h] at hread
        cases hread
  have hname : (Json.object [("$options", .string "m"), ("$regex", .string "^a")]).toValue =
      .ok (.pattern pattern) := by
    change Json.toPattern (.string "^a") (some (.string "m")) = _
    rw [Json.toPattern_string, hpattern]
    rfl
  refine ⟨pattern, _, _, rfl, rfl, ?hrange, ?hread, ?hdates,
    toValue_toJson_equals ?hrange ?hread ?hdates⟩
  case hread =>
    rw [Json.toValue_object rfl, Json.toEntries, hname]
    rfl
  case hrange =>
    simp only [Json.WithinRange, Json.MembersWithinRange, Json.ItemsWithinRange, true_and, and_true]
    decide
  case hdates => exact List.forall_mem_singleton.2 (by decide)

end Value

end Verdict
