import Mathlib.Tactic.ByContra
import Verdict.Literal
import Verdict.Proofs.Json.Parser
import Verdict.Proofs.Number.Integer

/-!
# What can be read

The values that JSON trees write are not all values: their numbers are finite, their dates are whole
milliseconds, their identifiers are object ids, and their patterns keep the rules for patterns. No
document among them looks like a leaf once it is written again, because it did not look like one
when it was read (`special?_entriesToJson`). `isReadable_of_toValue` collects this for whole trees.
-/

namespace Verdict

/-! ### Readable values -/

namespace Value

mutual

/-- The values that JSON trees write. -/
def IsReadable : Value → Prop
  | number x => x.isFinite
  | date t => ∃ millis, Instant.ofMillis? millis = some t
  | identifier id => ∃ object, id = .object object
  | pattern p => Pattern.ofSource p.source p.options = .ok p
  | array items => AreReadable items
  | document entries => Json.special? (entriesToJson entries) = none ∧ EntriesReadable entries
  | _ => True
termination_by structural value => value

def AreReadable : List Value → Prop
  | [] => True
  | item :: rest => IsReadable item ∧ AreReadable rest
termination_by structural items => items

def EntriesReadable : List (String × Value) → Prop
  | [] => True
  | (_, value) :: rest => IsReadable value ∧ EntriesReadable rest
termination_by structural entries => entries

end

end Value

theorem Pattern.ofSource_of_ofSource {source options : String} {p : Pattern}
    (h : Pattern.ofSource source options = .ok p) : Pattern.ofSource p.source p.options = .ok p := by
  have hparts : p.source = source ∧ p.options = options := by
    unfold Pattern.ofSource at h
    split at h
    · cases h
    · split at h
      · cases h
      · split at h
        · cases h
          exact ⟨rfl, rfl⟩
        · cases h
  rw [hparts.1, hparts.2, h]

/-- Reading is done part by part, and gives a result when every part does. -/
theorem bind_eq_ok {α β : Type} {part : Except LiteralError α} {next : α → Except LiteralError β}
    {b : β} : part >>= next = .ok b ↔ ∃ a, part = .ok a ∧ next a = .ok b := by
  cases part with
  | error fault => exact ⟨nofun, fun ⟨a, h, _⟩ => nomatch h⟩
  | ok a => exact ⟨fun h => ⟨a, rfl, h⟩, fun ⟨_, h, hnext⟩ => Except.ok.inj h ▸ hnext⟩

namespace Json

/-! ### Leaves -/

variable {value : Value}

theorem toDate_eq_ok {payload : Json} (h : payload.toDate = .ok value) :
    ∃ t millis, value = .date t ∧ Instant.ofMillis? millis = some t := by
  simp only [toDate] at h
  split at h
  · rename_i t ht
    cases h
    refine ⟨t, ?_⟩
    split at ht
    · obtain ⟨fields, -, hfields⟩ := Option.bind_eq_some_iff.1 ht
      obtain ⟨nanos, -, hnanos⟩ := Option.bind_eq_some_iff.1 hfields
      exact ⟨_, rfl, hnanos⟩
    · split at ht
      · exact ⟨_, rfl, ht⟩
      · cases ht
    · cases ht
  · cases h

theorem toObjectId_eq_ok {payload : Json} (h : payload.toObjectId = .ok value) :
    ∃ id, value = .identifier (.object id) := by
  unfold toObjectId at h
  split at h
  · split at h
    · cases h
      exact ⟨_, rfl⟩
    · cases h
  · cases h

theorem toPattern_eq (source : Json) (options? : Option Json) :
    toPattern source options? = do
      let source ← source.toPatternText
      let options ← (options?.map toPatternText).getD (.ok "")
      let pattern ← Pattern.ofSource source options
      return .pattern pattern := by
  cases options? <;> rfl

theorem toPattern_string (source options : String) :
    toPattern (.string source) (some (.string options)) = do
      return .pattern (← Pattern.ofSource source options) := rfl

theorem toPattern_string_none (source : String) :
    toPattern (.string source) none = do return .pattern (← Pattern.ofSource source "") := rfl

theorem toPattern_eq_ok {source : Json} {options? : Option Json}
    (h : toPattern source options? = .ok value) :
    ∃ p, value = .pattern p ∧ Pattern.ofSource p.source p.options = .ok p := by
  rw [toPattern_eq] at h
  obtain ⟨source, -, h⟩ := bind_eq_ok.1 h
  obtain ⟨options, -, h⟩ := bind_eq_ok.1 h
  obtain ⟨p, hp, h⟩ := bind_eq_ok.1 h
  cases h
  exact ⟨p, rfl, Pattern.ofSource_of_ofSource hp⟩

/-- An object of a special shape writes a leaf, and none that JSON has itself. -/
theorem Special.toValue_eq_ok {special : Special} (h : special.toValue = .ok value) :
    value.IsReadable ∧ ∀ b, value ≠ .bool b := by
  cases special with
  | date payload =>
      obtain ⟨t, millis, rfl, ht⟩ := toDate_eq_ok h
      exact ⟨⟨millis, ht⟩, nofun⟩
  | objectId payload =>
      obtain ⟨id, rfl⟩ := toObjectId_eq_ok h
      exact ⟨⟨id, rfl⟩, nofun⟩
  | pattern source options? =>
      obtain ⟨p, rfl, hp⟩ := toPattern_eq_ok h
      exact ⟨hp, nofun⟩
  | undefined =>
      cases h
      exact ⟨trivial, nofun⟩

/-! ### Objects that look like leaves -/

/-- Only the payload `true` is read as `true`, and only `true` is written so. -/
theorem eq_true_of_toValue_toJson {json : Json} (h : json.toValue = .ok value)
    (hwritten : value.toJson = .bool true) : json = .bool true := by
  have hvalue : value = .bool true := by
    cases value with
    | bool b => cases hwritten; rfl
    | number x =>
        simp only [Value.toJson, Value.numberToJson] at hwritten
        split at hwritten
        · cases hwritten
        · split at hwritten <;> cases hwritten
    | identifier id => cases id <;> cases hwritten
    | _ => cases hwritten
  subst hvalue
  cases json with
  | bool b => cases h; rfl
  | array items =>
      obtain ⟨values, -, hvalues⟩ := bind_eq_ok.1 h
      cases hvalues
  | object members =>
      simp only [toValue] at h
      split at h
      · exact absurd rfl ((Special.toValue_eq_ok h).2 true)
      · obtain ⟨entries, -, hentries⟩ := bind_eq_ok.1 h
        cases hentries
  | _ => cases h

variable {members : List (String × Json)} {entries : List (String × Value)}

/-- The first member that is written again was read under the same key. -/
theorem exists_of_entriesToJson_eq_cons {key : String} {written : Json} {rest : List (String × Json)}
    (hread : toEntries members = .ok entries)
    (hwritten : Value.entriesToJson entries = (key, written) :: rest) :
    ∃ member tail value others, members = (key, member) :: tail ∧ member.toValue = .ok value ∧
      value.toJson = written ∧ toEntries tail = .ok others ∧ Value.entriesToJson others = rest := by
  cases members with
  | nil => cases hread; cases hwritten
  | cons first tail =>
      obtain ⟨value, hvalue, hread⟩ := bind_eq_ok.1 hread
      obtain ⟨others, hothers, hread⟩ := bind_eq_ok.1 hread
      cases hread
      cases hwritten
      exact ⟨first.2, tail, value, others, rfl, hvalue, rfl, hothers, rfl⟩

theorem eq_nil_of_entriesToJson_eq_nil (hread : toEntries members = .ok entries)
    (hwritten : Value.entriesToJson entries = []) : members = [] := by
  cases members with
  | nil => rfl
  | cons first tail =>
      obtain ⟨value, hvalue, hread⟩ := bind_eq_ok.1 hread
      obtain ⟨others, hothers, hread⟩ := bind_eq_ok.1 hread
      cases hread
      cases hwritten

theorem toValue_object (h : special? members = none) :
    (object members).toValue = do return .document (← toEntries members) := by
  rw [toValue, h]

/-- A document that did not look like a leaf does not look like one when it is written again. -/
theorem special?_entriesToJson (hread : toEntries members = .ok entries)
    (h : special? members = none) : special? (Value.entriesToJson entries) = none := by
  have one : ∀ {key payload}, Value.entriesToJson entries = [(key, payload)] →
      ∃ member value, members = [(key, member)] ∧ member.toValue = .ok value ∧
        value.toJson = payload := by
    intro key payload hwritten
    obtain ⟨member, tail, value, others, rfl, hvalue, hjson, hothers, hnil⟩ :=
      exists_of_entriesToJson_eq_cons hread hwritten
    rw [eq_nil_of_entriesToJson_eq_nil hothers hnil]
    exact ⟨member, value, rfl, hvalue, hjson⟩
  have two : ∀ {key payload other payload'},
      Value.entriesToJson entries = [(key, payload), (other, payload')] →
      ∃ member member', members = [(key, member), (other, member')] := by
    intro key payload other payload' hwritten
    obtain ⟨member, tail, -, others, rfl, -, -, hothers, hrest⟩ :=
      exists_of_entriesToJson_eq_cons hread hwritten
    obtain ⟨member', tail, -, others, rfl, -, -, hothers, hnil⟩ :=
      exists_of_entriesToJson_eq_cons hothers hrest
    rw [eq_nil_of_entriesToJson_eq_nil hothers hnil]
    exact ⟨member, member', rfl⟩
  by_contra hsome
  unfold special? at hsome
  split at hsome
  · obtain ⟨member, -, rfl, -⟩ := one ‹_›
    cases h
  · obtain ⟨member, -, rfl, -⟩ := one ‹_›
    cases h
  · obtain ⟨member, -, rfl, -⟩ := one ‹_›
    cases h
  · obtain ⟨member, member', rfl⟩ := two ‹_›
    cases h
  · obtain ⟨member, member', rfl⟩ := two ‹_›
    cases h
  · -- the payload of an undefined value is the only one that is looked at
    obtain ⟨member, value, rfl, hvalue, hjson⟩ := one ‹_›
    cases eq_true_of_toValue_toJson hvalue hjson
    cases h
  · exact hsome rfl

/-! ### Whole trees -/

mutual

theorem isReadable_of_toValue (json : Json) {value : Value} (hrange : json.WithinRange)
    (h : json.toValue = .ok value) : value.IsReadable := by
  match json with
  | .null | .bool _ | .string _ =>
      cases h
      trivial
  | .int n =>
      cases h
      have hbound : n.natAbs < 2 ^ 64 := by
        have hrange : minSigned ≤ n ∧ n ≤ maxUnsigned := hrange
        unfold minSigned maxUnsigned at hrange
        omega
      exact Binary64.isFinite_ofInt hbound
  | .double x =>
      cases h
      exact hrange
  | .array items =>
      obtain ⟨values, hvalues, h⟩ := bind_eq_ok.1 h
      cases h
      exact areReadable_of_toValues items hrange hvalues
  | .object members =>
      simp only [toValue] at h
      split at h
      · exact (Special.toValue_eq_ok h).1
      · rename_i hspecial
        obtain ⟨entries, hentries, h⟩ := bind_eq_ok.1 h
        cases h
        exact ⟨special?_entriesToJson hentries hspecial,
          entriesReadable_of_toEntries members hrange hentries⟩
termination_by structural json

theorem areReadable_of_toValues (items : List Json) {values : List Value}
    (hrange : ItemsWithinRange items) (h : toValues items = .ok values) :
    Value.AreReadable values := by
  match items with
  | [] =>
      cases h
      trivial
  | item :: rest =>
      obtain ⟨value, hvalue, h⟩ := bind_eq_ok.1 h
      obtain ⟨values, hvalues, h⟩ := bind_eq_ok.1 h
      cases h
      exact ⟨isReadable_of_toValue item hrange.1 hvalue,
        areReadable_of_toValues rest hrange.2 hvalues⟩
termination_by structural items

theorem entriesReadable_of_toEntries (members : List (String × Json))
    {entries : List (String × Value)} (hrange : MembersWithinRange members)
    (h : toEntries members = .ok entries) : Value.EntriesReadable entries := by
  match members with
  | [] =>
      cases h
      trivial
  | (key, member) :: rest =>
      obtain ⟨value, hvalue, h⟩ := bind_eq_ok.1 h
      obtain ⟨entries, hentries, h⟩ := bind_eq_ok.1 h
      cases h
      exact ⟨isReadable_of_toValue member hrange.1 hvalue,
        entriesReadable_of_toEntries rest hrange.2 hentries⟩
termination_by structural members

end

end Json

end Verdict
