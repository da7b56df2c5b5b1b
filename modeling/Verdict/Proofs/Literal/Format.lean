import Mathlib.Data.List.Forall2
import Mathlib.Data.List.Permutation
import Verdict.Proofs.Literal.Reading

/-!
# The format of values in JSON

The format is stated here apart from its reader. An object is special by its set of keys alone
(`Json.IsSpecialShaped`), whatever their order; `Json.WritesLeaf` says what such an object writes,
`Json.HasFault` what is wrong with it otherwise, and `Json.Writes` what a whole tree writes. The
reader accepts exactly this (`Json.toValue_eq_ok_iff`). When it does not, it stops at the first
special object that has a fault, in the order of the text, among those that do not lie inside of
another one (`Json.specialObjects`). Both come from `Json.readsAs_toValue`, which goes through the
tree with the special objects that are still to be met. A document is read in the same way, and only
a leaf in its place is refused (`Json.toDocument_eq_error_iff`).
-/

namespace Verdict.Json

/-! ### Special objects -/

/-- The sets of keys that make an object special. -/
def specialShapes : List (List String) := [["$date"], ["$oid"], ["$regex"], ["$regex", "$options"]]

def IsSpecialShaped (members : List (String × Json)) : Prop :=
  ∃ shape ∈ specialShapes, (Keyed.keys members).Perm shape

instance : DecidablePred IsSpecialShaped := fun members =>
  inferInstanceAs (Decidable (∃ shape ∈ specialShapes, (Keyed.keys members).Perm shape))

/-- The options of a pattern. Options that are left out are none. -/
def optionsOf (members : List (String × Json)) : Json :=
  (Keyed.find? "$options" members).getD (.string "")

/-- The leaf that a special object writes. -/
inductive WritesLeaf (members : List (String × Json)) : Value → Prop
  | timestamp {text : String} {t : Instant}
      (hpayload : Keyed.find? "$date" members = some (.string text))
      (ht : Timestamp.read? text = some t) : WritesLeaf members (.date t)
  | millis {n : Int} {t : Instant} (hpayload : Keyed.find? "$date" members = some (.int n))
      (ht : Instant.ofMillis? n = some t) : WritesLeaf members (.date t)
  | objectId {text : String} {id : ObjectId}
      (hpayload : Keyed.find? "$oid" members = some (.string text))
      (hid : ObjectId.ofHex? text = some id) : WritesLeaf members (.identifier (.object id))
  | pattern {source options : String} {p : Pattern}
      (hsource : Keyed.find? "$regex" members = some (.string source))
      (hoptions : optionsOf members = .string options)
      (hp : Pattern.ofSource source options = .ok p) : WritesLeaf members (.pattern p)

/-- What keeps a special object from writing a leaf. A pattern is at fault for its source before its
options, and for their kind before what they say. -/
inductive HasFault (members : List (String × Json)) : LiteralError → Prop
  | date {payload : Json} (hpayload : Keyed.find? "$date" members = some payload)
      (hnone : ∀ t, ¬WritesLeaf members (.date t)) : HasFault members (.invalidDate payload.compact)
  | objectId {text : String} (hpayload : Keyed.find? "$oid" members = some (.string text))
      (hnone : ObjectId.ofHex? text = none) : HasFault members (.invalidObjectId text)
  | objectIdNotText {payload : Json} (hpayload : Keyed.find? "$oid" members = some payload)
      (hkind : ∀ text, payload ≠ .string text) :
      HasFault members (.invalidObjectId payload.compact)
  | sourceNotText {payload : Json} (hsource : Keyed.find? "$regex" members = some payload)
      (hkind : ∀ text, payload ≠ .string text) :
      HasFault members (.invalidPattern payload.compact .notText)
  | optionsNotText {source : String}
      (hsource : Keyed.find? "$regex" members = some (.string source))
      (hkind : ∀ text, optionsOf members ≠ .string text) :
      HasFault members (.invalidPattern (optionsOf members).compact .notText)
  | pattern {source options : String} {fault : LiteralError}
      (hsource : Keyed.find? "$regex" members = some (.string source))
      (hoptions : optionsOf members = .string options)
      (hp : Pattern.ofSource source options = .error fault) : HasFault members fault

def HasValidPayload (members : List (String × Json)) : Prop := ∃ value, WritesLeaf members value

/-! ### Whole trees -/

/-- The value that a tree writes. -/
inductive Writes : Json → Value → Prop
  | null : Writes .null .null
  | bool (b : Bool) : Writes (.bool b) (.bool b)
  | int (n : Int) : Writes (.int n) (.number (Binary64.ofInt n))
  | double (x : Binary64) : Writes (.double x) (.number x)
  | string (s : String) : Writes (.string s) (.string s)
  | array {items : List Json} {values : List Value} (h : List.Forall₂ Writes items values) :
      Writes (.array items) (.array values)
  | special {members : List (String × Json)} {value : Value} (hshape : IsSpecialShaped members)
      (h : WritesLeaf members value) : Writes (.object members) value
  | undefined : Writes (.object [("$undefined", .bool true)]) .undefined
  | document {members : List (String × Json)} {entries : Document}
      (hshape : ¬IsSpecialShaped members) (hundefined : members ≠ [("$undefined", .bool true)])
      (hkeys : Keyed.keys members = Keyed.keys entries)
      (hvalues : List.Forall₂ Writes (members.map Prod.snd) (entries.map Prod.snd)) :
      Writes (.object members) (.document entries)

mutual

/-- The special objects in a tree that do not lie inside of another one, in the order of the
text. -/
def specialObjects : Json → List (List (String × Json))
  | array items => specialObjectsOfItems items
  | object members =>
    if IsSpecialShaped members then [members] else specialObjectsOfMembers members
  | _ => []
termination_by structural json => json

def specialObjectsOfItems : List Json → List (List (String × Json))
  | [] => []
  | item :: rest => specialObjects item ++ specialObjectsOfItems rest
termination_by structural items => items

def specialObjectsOfMembers : List (String × Json) → List (List (String × Json))
  | [] => []
  | (_, member) :: rest => specialObjects member ++ specialObjectsOfMembers rest
termination_by structural members => members

end

/-- The first of the objects that is not valid has a fault. -/
inductive FirstFault : List (List (String × Json)) → LiteralError → Prop
  | here {object : List (String × Json)} {rest : List (List (String × Json))}
      {fault : LiteralError} (h : HasFault object fault) : FirstFault (object :: rest) fault
  | after {object : List (String × Json)} {rest : List (List (String × Json))}
      {fault : LiteralError} (hvalid : HasValidPayload object) (h : FirstFault rest fault) :
      FirstFault (object :: rest) fault

/-! ### Reading a special object -/

variable {members : List (String × Json)} {payload : Json} {value : Value} {fault : LiteralError}

theorem signed_of_ofMillis? {n : Int} {t : Instant} (h : Instant.ofMillis? n = some t) :
    minSigned ≤ n ∧ n ≤ maxSigned := by
  unfold Instant.ofMillis? Instant.ofParts? at h
  split at h
  · rename_i hrange
    unfold Instant.minSeconds Instant.maxSeconds at hrange
    unfold minSigned maxSigned
    omega
  · cases h

/-- A result of reading is what a special object writes, or else what is wrong with it. -/
structure ReadsLeaf (members : List (String × Json)) (result : Except LiteralError Value) :
    Prop where
  ok_iff : ∀ value, result = .ok value ↔ WritesLeaf members value
  error_iff : ∀ fault, result = .error fault ↔ HasFault members fault

theorem toDate_cases (payload : Json) :
    (∃ t, payload.toDate = .ok (.date t)) ∨
      payload.toDate = .error (.invalidDate payload.compact) := by
  simp only [toDate]
  split
  · exact .inl ⟨_, rfl⟩
  · exact .inr rfl

section

variable (hdate : Keyed.find? "$date" members = some payload)
  (hoid : Keyed.find? "$oid" members = none) (hregex : Keyed.find? "$regex" members = none)

include hdate hoid hregex

theorem toDate_eq_ok_iff : payload.toDate = .ok value ↔ WritesLeaf members value := by
  constructor
  · intro h
    cases payload with
    | string text =>
        simp only [toDate] at h
        split at h
        · rename_i t ht
          cases h
          exact .timestamp hdate ht
        · cases h
    | int n =>
        simp only [toDate] at h
        split at h
        · rename_i t ht
          cases h
          split at ht
          · exact .millis hdate ht
          · cases ht
        · cases h
    | _ => cases h
  · intro h
    cases h with
    | timestamp hpayload ht =>
        obtain rfl := Option.some.inj (hdate.symm.trans hpayload)
        simp only [toDate, ht]
    | millis hpayload ht =>
        obtain rfl := Option.some.inj (hdate.symm.trans hpayload)
        simp only [toDate, if_pos (signed_of_ofMillis? ht), ht]
    | objectId hpayload => cases hoid.symm.trans hpayload
    | pattern hsource => cases hregex.symm.trans hsource

theorem readsLeaf_toDate : ReadsLeaf members payload.toDate where
  ok_iff _ := toDate_eq_ok_iff hdate hoid hregex
  error_iff fault := by
    constructor
    · intro h
      rcases toDate_cases payload with ⟨t, ht⟩ | herror
      · cases ht.symm.trans h
      · cases herror.symm.trans h
        apply HasFault.date hdate
        intro t ht
        cases ((toDate_eq_ok_iff hdate hoid hregex).2 ht).symm.trans herror
    · intro h
      cases h with
      | date hpayload hnone =>
          obtain rfl := Option.some.inj (hdate.symm.trans hpayload)
          rcases toDate_cases payload with ⟨t, ht⟩ | herror
          · exact absurd ((toDate_eq_ok_iff hdate hoid hregex).1 ht) (hnone t)
          · exact herror
      | objectId hpayload => cases hoid.symm.trans hpayload
      | objectIdNotText hpayload => cases hoid.symm.trans hpayload
      | sourceNotText hsource => cases hregex.symm.trans hsource
      | optionsNotText hsource => cases hregex.symm.trans hsource
      | pattern hsource => cases hregex.symm.trans hsource

end

theorem readsLeaf_toObjectId (hoid : Keyed.find? "$oid" members = some payload)
    (hdate : Keyed.find? "$date" members = none) (hregex : Keyed.find? "$regex" members = none) :
    ReadsLeaf members payload.toObjectId where
  ok_iff value := by
    constructor
    · intro h
      unfold toObjectId at h
      split at h
      · split at h
        · rename_i id hid
          cases h
          exact .objectId hoid hid
        · cases h
      · cases h
    · intro h
      cases h with
      | objectId hpayload hid =>
          obtain rfl := Option.some.inj (hoid.symm.trans hpayload)
          simp only [toObjectId, hid]
      | timestamp hpayload => cases hdate.symm.trans hpayload
      | millis hpayload => cases hdate.symm.trans hpayload
      | pattern hsource => cases hregex.symm.trans hsource
  error_iff fault := by
    constructor
    · intro h
      unfold toObjectId at h
      split at h
      · split at h
        · cases h
        · rename_i hnone
          cases h
          exact .objectId hoid hnone
      · rename_i hkind
        cases h
        exact .objectIdNotText hoid hkind
    · intro h
      cases h with
      | objectId hpayload hnone =>
          obtain rfl := Option.some.inj (hoid.symm.trans hpayload)
          simp only [toObjectId, hnone]
      | objectIdNotText hpayload hkind =>
          obtain rfl := Option.some.inj (hoid.symm.trans hpayload)
          cases payload with
          | string text => exact absurd rfl (hkind text)
          | _ => rfl
      | date hpayload => cases hdate.symm.trans hpayload
      | sourceNotText hsource => cases hregex.symm.trans hsource
      | optionsNotText hsource => cases hregex.symm.trans hsource
      | pattern hsource => cases hregex.symm.trans hsource

/-! ### Reading a pattern -/

/-- Reading is done part by part, and the first part that fails ends it. -/
theorem bind_eq_error {α β : Type} {part : Except LiteralError α}
    {next : α → Except LiteralError β} :
    part >>= next = .error fault ↔
      part = .error fault ∨ ∃ a, part = .ok a ∧ next a = .error fault := by
  cases part with
  | error other => simp [bind, Except.bind]
  | ok a => simp [bind, Except.bind]

theorem toPatternText_eq_ok {text : String} :
    payload.toPatternText = .ok text ↔ payload = .string text := by
  cases payload <;> simp [toPatternText]

theorem toPatternText_eq_error :
    payload.toPatternText = .error fault ↔
      (∀ text, payload ≠ .string text) ∧ .invalidPattern payload.compact .notText = fault := by
  cases payload <;> simp [toPatternText]

theorem toPattern_getD (source : Json) (options? : Option Json) :
    toPattern source options? = do
      let source ← source.toPatternText
      let options ← (options?.getD (.string "")).toPatternText
      let pattern ← Pattern.ofSource source options
      return .pattern pattern := by
  cases options? <;> rfl

theorem readsLeaf_toPattern {source : Json} (hsource : Keyed.find? "$regex" members = some source)
    (hdate : Keyed.find? "$date" members = none) (hoid : Keyed.find? "$oid" members = none) :
    ReadsLeaf members (toPattern source (Keyed.find? "$options" members)) where
  ok_iff value := by
    rw [toPattern_getD, bind_eq_ok]
    simp only [bind_eq_ok, toPatternText_eq_ok]
    constructor
    · rintro ⟨source, rfl, options, hoptions, p, hp, hvalue⟩
      cases hvalue
      exact .pattern hsource hoptions hp
    · intro h
      cases h with
      | pattern hpayload hoptions hp =>
          obtain rfl := Option.some.inj (hsource.symm.trans hpayload)
          exact ⟨_, rfl, _, hoptions, _, hp, rfl⟩
      | timestamp hpayload => cases hdate.symm.trans hpayload
      | millis hpayload => cases hdate.symm.trans hpayload
      | objectId hpayload => cases hoid.symm.trans hpayload
  error_iff fault := by
    rw [toPattern_getD, bind_eq_error]
    simp only [bind_eq_error, toPatternText_eq_ok, toPatternText_eq_error]
    constructor
    · rintro (⟨hkind, rfl⟩ | ⟨source, rfl, ⟨hkind, rfl⟩ | ⟨options, hoptions, hfault | ⟨p, -, hp⟩⟩⟩)
      · exact .sourceNotText hsource hkind
      · exact .optionsNotText hsource hkind
      · exact .pattern hsource hoptions hfault
      · cases hp
    · intro h
      cases h with
      | sourceNotText hpayload hkind =>
          obtain rfl := Option.some.inj (hsource.symm.trans hpayload)
          exact .inl ⟨hkind, rfl⟩
      | optionsNotText hpayload hkind =>
          obtain rfl := Option.some.inj (hsource.symm.trans hpayload)
          exact .inr ⟨_, rfl, .inl ⟨hkind, rfl⟩⟩
      | pattern hpayload hoptions hp =>
          obtain rfl := Option.some.inj (hsource.symm.trans hpayload)
          exact .inr ⟨_, rfl, .inr ⟨_, hoptions, .inl hp⟩⟩
      | date hpayload => cases hdate.symm.trans hpayload
      | objectId hpayload => cases hoid.symm.trans hpayload
      | objectIdNotText hpayload => cases hoid.symm.trans hpayload

/-! ### Telling special objects -/

/-- An object of a special shape is read for the leaf that it writes. -/
theorem exists_special_of_isSpecialShaped (h : IsSpecialShaped members) :
    ∃ special, special? members = some special ∧ ReadsLeaf members special.toValue := by
  obtain ⟨shape, hshape, hkeys⟩ := h
  simp only [specialShapes, List.mem_cons, List.not_mem_nil, or_false] at hshape
  rcases hshape with rfl | rfl | rfl | rfl
  · obtain ⟨⟨_, payload⟩, rfl, rfl⟩ := List.map_eq_singleton_iff.1 hkeys.eq_singleton
    exact ⟨.date payload, rfl, readsLeaf_toDate rfl rfl rfl⟩
  · obtain ⟨⟨_, payload⟩, rfl, rfl⟩ := List.map_eq_singleton_iff.1 hkeys.eq_singleton
    exact ⟨.objectId payload, rfl, readsLeaf_toObjectId rfl rfl rfl⟩
  · obtain ⟨⟨_, source⟩, rfl, rfl⟩ := List.map_eq_singleton_iff.1 hkeys.eq_singleton
    exact ⟨.pattern source none, rfl, readsLeaf_toPattern rfl rfl rfl⟩
  · obtain hkeys | hkeys : Keyed.keys members = ["$regex", "$options"] ∨
        Keyed.keys members = ["$options", "$regex"] := by
      simpa [List.permutations', List.permutations'Aux] using List.mem_permutations'.2 hkeys
    · obtain ⟨⟨_, source⟩, _, rfl, rfl, hrest⟩ := List.map_eq_cons_iff.1 hkeys
      obtain ⟨⟨_, options⟩, rfl, rfl⟩ := List.map_eq_singleton_iff.1 hrest
      exact ⟨.pattern source (some options), rfl, readsLeaf_toPattern rfl rfl rfl⟩
    · obtain ⟨⟨_, options⟩, _, rfl, rfl, hrest⟩ := List.map_eq_cons_iff.1 hkeys
      obtain ⟨⟨_, source⟩, rfl, rfl⟩ := List.map_eq_singleton_iff.1 hrest
      exact ⟨.pattern source (some options), rfl, readsLeaf_toPattern rfl rfl rfl⟩

/-- The other objects are documents, but for the one that writes that there is no value. -/
theorem special?_eq_none (hshape : ¬IsSpecialShaped members)
    (hundefined : members ≠ [("$undefined", .bool true)]) : special? members = none := by
  unfold special?
  split
  · exact absurd ⟨["$date"], by simp [specialShapes], .refl _⟩ hshape
  · exact absurd ⟨["$oid"], by simp [specialShapes], .refl _⟩ hshape
  · exact absurd ⟨["$regex"], by simp [specialShapes], .refl _⟩ hshape
  · exact absurd ⟨["$regex", "$options"], by simp [specialShapes], .refl _⟩ hshape
  · exact absurd ⟨["$regex", "$options"], by simp [specialShapes], .swap _ _ _⟩ hshape
  · exact absurd rfl hundefined
  · rfl

/-! ### The first fault -/

section

variable {object : List (String × Json)} {objects before after : List (List (String × Json))}

/-- A special object is not valid and at fault at once, and it has one fault at most. -/
theorem IsSpecialShaped.not_hasFault (hshape : IsSpecialShaped object)
    (hvalid : HasValidPayload object) : ¬HasFault object fault := by
  obtain ⟨special, -, hreads⟩ := exists_special_of_isSpecialShaped hshape
  obtain ⟨value, hvalue⟩ := hvalid
  intro hfault
  cases ((hreads.ok_iff value).2 hvalue).symm.trans ((hreads.error_iff fault).2 hfault)

theorem IsSpecialShaped.hasFault_unique (hshape : IsSpecialShaped object) {fault' : LiteralError}
    (h : HasFault object fault) (h' : HasFault object fault') : fault = fault' := by
  obtain ⟨special, -, hreads⟩ := exists_special_of_isSpecialShaped hshape
  exact Except.error.inj (((hreads.error_iff _).2 h).symm.trans ((hreads.error_iff _).2 h'))

theorem FirstFault.append_left (h : FirstFault before fault) :
    FirstFault (before ++ after) fault := by
  induction h with
  | here h => exact .here h
  | after hvalid _ ih => exact .after hvalid ih

theorem FirstFault.append_right (hvalid : ∀ object ∈ before, HasValidPayload object)
    (h : FirstFault after fault) : FirstFault (before ++ after) fault := by
  induction before with
  | nil => exact h
  | cons object before ih =>
      rw [List.forall_mem_cons] at hvalid
      exact .after hvalid.1 (ih hvalid.2)

theorem FirstFault.not_forall_valid (hshapes : ∀ object ∈ objects, IsSpecialShaped object)
    (h : FirstFault objects fault) : ¬∀ object ∈ objects, HasValidPayload object := by
  intro hvalid
  induction h with
  | here h => exact (hshapes _ List.mem_cons_self).not_hasFault (hvalid _ List.mem_cons_self) h
  | after _ _ ih =>
      exact ih (List.forall_mem_cons.1 hshapes).2 (List.forall_mem_cons.1 hvalid).2

theorem FirstFault.unique (hshapes : ∀ object ∈ objects, IsSpecialShaped object)
    {fault' : LiteralError} (h : FirstFault objects fault) (h' : FirstFault objects fault') :
    fault = fault' := by
  induction h with
  | here h =>
      have hshape := (List.forall_mem_cons.1 hshapes).1
      cases h' with
      | here h' => exact hshape.hasFault_unique h h'
      | after hvalid _ => exact absurd h (hshape.not_hasFault hvalid)
  | after hvalid _ ih =>
      cases h' with
      | here h' => exact absurd h' ((List.forall_mem_cons.1 hshapes).1.not_hasFault hvalid)
      | after _ h' => exact ih (List.forall_mem_cons.1 hshapes).2 h'

end

mutual

theorem isSpecialShaped_of_mem (json : Json) :
    ∀ object ∈ json.specialObjects, IsSpecialShaped object := by
  match json with
  | .null | .bool _ | .int _ | .double _ | .string _ => exact nofun
  | .array items => exact isSpecialShaped_of_mem_items items
  | .object members =>
      rw [specialObjects]
      split
      · rename_i hshape
        simpa using hshape
      · exact isSpecialShaped_of_mem_members members
termination_by structural json

theorem isSpecialShaped_of_mem_items (items : List Json) :
    ∀ object ∈ specialObjectsOfItems items, IsSpecialShaped object := by
  match items with
  | [] => exact nofun
  | item :: rest =>
      rw [specialObjectsOfItems, List.forall_mem_append]
      exact ⟨isSpecialShaped_of_mem item, isSpecialShaped_of_mem_items rest⟩
termination_by structural items

theorem isSpecialShaped_of_mem_members (members : List (String × Json)) :
    ∀ object ∈ specialObjectsOfMembers members, IsSpecialShaped object := by
  match members with
  | [] => exact nofun
  | (_, member) :: rest =>
      rw [specialObjectsOfMembers, List.forall_mem_append]
      exact ⟨isSpecialShaped_of_mem member, isSpecialShaped_of_mem_members rest⟩
termination_by structural members

end

/-! ### Reading a tree -/

/-- What reading comes to when it meets these special objects: a result if all of them are valid,
and the first fault otherwise. -/
inductive ReadsAs {α : Type} (objects : List (List (String × Json))) (post : α → Prop) :
    Except LiteralError α → Prop
  | ok {a : α} (hvalid : ∀ object ∈ objects, HasValidPayload object) (h : post a) :
      ReadsAs objects post (.ok a)
  | error {fault : LiteralError} (h : FirstFault objects fault) :
      ReadsAs objects post (.error fault)

namespace ReadsAs

section

variable {α β : Type} {objects before after : List (List (String × Json))} {post : α → Prop}
  {post' : β → Prop} {result : Except LiteralError α}

theorem prepend (hvalid : ∀ object ∈ before, HasValidPayload object)
    (h : ReadsAs after post result) : ReadsAs (before ++ after) post result := by
  cases h with
  | error h => exact .error (.append_right hvalid h)
  | ok hvalid' h => exact .ok (List.forall_mem_append.2 ⟨hvalid, hvalid'⟩) h

theorem bind {next : α → Except LiteralError β} (h : ReadsAs before post result)
    (hnext : ∀ a, post a → ReadsAs after post' (next a)) :
    ReadsAs (before ++ after) post' (result >>= next) := by
  cases h with
  | error h => exact .error h.append_left
  | ok hvalid h => exact (hnext _ h).prepend hvalid

theorem map {f : α → β} (h : ReadsAs objects post result) (hf : ∀ a, post a → post' (f a)) :
    ReadsAs objects post' (do let a ← result; return f a) := by
  cases h with
  | error h => exact .error h
  | ok hvalid h => exact .ok hvalid (hf _ h)

theorem exists_ok_iff (hshapes : ∀ object ∈ objects, IsSpecialShaped object)
    (h : ReadsAs objects post result) :
    (∃ a, result = .ok a) ↔ ∀ object ∈ objects, HasValidPayload object := by
  cases h with
  | ok hvalid _ => exact ⟨fun _ => hvalid, fun _ => ⟨_, rfl⟩⟩
  | error h =>
      constructor
      · rintro ⟨a, ha⟩
        cases ha
      · intro hvalid
        exact absurd hvalid (h.not_forall_valid hshapes)

theorem error_iff (hshapes : ∀ object ∈ objects, IsSpecialShaped object)
    (h : ReadsAs objects post result) : result = .error fault ↔ FirstFault objects fault := by
  constructor
  · rintro rfl
    cases h with
    | error h => exact h
  · intro hfault
    cases h with
    | ok hvalid _ => exact absurd hvalid (hfault.not_forall_valid hshapes)
    | error h => rw [h.unique hshapes hfault]

end

end ReadsAs

theorem ReadsLeaf.readsAs {result : Except LiteralError Value} (hreads : ReadsLeaf members result)
    (hshape : IsSpecialShaped members) :
    ReadsAs [members] (Writes (.object members)) result := by
  cases result with
  | error fault => exact .error (.here ((hreads.error_iff fault).1 rfl))
  | ok value =>
      have hleaf := (hreads.ok_iff value).1 rfl
      exact .ok (List.forall_mem_singleton.2 ⟨value, hleaf⟩) (.special hshape hleaf)

mutual

theorem readsAs_toValue (json : Json) : ReadsAs json.specialObjects (Writes json) json.toValue := by
  match json with
  | .null => exact .ok nofun .null
  | .bool b => exact .ok nofun (.bool b)
  | .int n => exact .ok nofun (.int n)
  | .double x => exact .ok nofun (.double x)
  | .string s => exact .ok nofun (.string s)
  | .array items => exact (readsAs_toValues items).map fun _ => .array
  | .object members =>
      by_cases hshape : IsSpecialShaped members
      · obtain ⟨special, hspecial, hreads⟩ := exists_special_of_isSpecialShaped hshape
        simp only [toValue, specialObjects, if_pos hshape, hspecial]
        exact hreads.readsAs hshape
      · by_cases hundefined : members = [("$undefined", .bool true)]
        · subst hundefined
          rw [specialObjects, if_neg hshape]
          exact .ok nofun .undefined
        · rw [specialObjects, if_neg hshape, toValue_object (special?_eq_none hshape hundefined)]
          exact (readsAs_toEntries members).map fun _ h => .document hshape hundefined h.1 h.2
termination_by structural json

theorem readsAs_toValues (items : List Json) :
    ReadsAs (specialObjectsOfItems items) (List.Forall₂ Writes items) (toValues items) := by
  match items with
  | [] => exact .ok nofun .nil
  | item :: rest =>
      exact (readsAs_toValue item).bind fun _ h => (readsAs_toValues rest).map fun _ => .cons h
termination_by structural items

theorem readsAs_toEntries (members : List (String × Json)) :
    ReadsAs (specialObjectsOfMembers members)
      (fun entries => Keyed.keys members = Keyed.keys entries ∧
        List.Forall₂ Writes (members.map Prod.snd) (entries.map Prod.snd))
      (toEntries members) := by
  match members with
  | [] => exact .ok nofun ⟨rfl, .nil⟩
  | (key, member) :: rest =>
      exact (readsAs_toValue member).bind fun _ h => (readsAs_toEntries rest).map fun _ hrest =>
        ⟨congrArg (key :: ·) hrest.1, .cons h hrest.2⟩
termination_by structural members

end

mutual

theorem toValue_of_writes (json : Json) {value : Value} (h : Writes json value) :
    json.toValue = .ok value := by
  match json with
  | .null | .bool _ | .int _ | .double _ | .string _ =>
      cases h
      rfl
  | .array items =>
      cases h with
      | array h => exact bind_eq_ok.2 ⟨_, toValues_of_forall₂ items h, rfl⟩
  | .object members =>
      cases h with
      | special hshape h =>
          obtain ⟨special, hspecial, hreads⟩ := exists_special_of_isSpecialShaped hshape
          simp only [toValue, hspecial]
          exact (hreads.ok_iff value).2 h
      | undefined => rfl
      | document hshape hundefined hkeys hvalues =>
          rw [toValue_object (special?_eq_none hshape hundefined)]
          exact bind_eq_ok.2 ⟨_, toEntries_of_forall₂ members hkeys hvalues, rfl⟩
termination_by structural json

theorem toValues_of_forall₂ (items : List Json) {values : List Value}
    (h : List.Forall₂ Writes items values) : toValues items = .ok values := by
  match items with
  | [] =>
      cases h
      rfl
  | item :: rest =>
      cases h with
      | cons h hrest =>
          apply bind_eq_ok.2
          exact ⟨_, toValue_of_writes item h, bind_eq_ok.2 ⟨_, toValues_of_forall₂ rest hrest, rfl⟩⟩
termination_by structural items

theorem toEntries_of_forall₂ (members : List (String × Json)) {entries : Document}
    (hkeys : Keyed.keys members = Keyed.keys entries)
    (hvalues : List.Forall₂ Writes (members.map Prod.snd) (entries.map Prod.snd)) :
    toEntries members = .ok entries := by
  match members, entries with
  | [], [] => rfl
  | (key, member) :: rest, (key', value) :: entries =>
      obtain ⟨rfl, hrestkeys⟩ : key = key' ∧ Keyed.keys rest = Keyed.keys entries :=
        List.cons.inj hkeys
      obtain ⟨h, hrest⟩ := List.forall₂_cons.1 hvalues
      apply bind_eq_ok.2
      exact ⟨_, toValue_of_writes member h,
        bind_eq_ok.2 ⟨_, toEntries_of_forall₂ rest hrestkeys hrest, rfl⟩⟩
termination_by structural members

end

/-! ### The format -/

theorem toValue_eq_ok_iff {json : Json} : json.toValue = .ok value ↔ Writes json value := by
  constructor
  · intro h
    have hreads := readsAs_toValue json
    rw [h] at hreads
    cases hreads with
    | ok _ hwrites => exact hwrites
  · exact toValue_of_writes json

theorem exists_toValue_iff {json : Json} :
    (∃ value, json.toValue = .ok value) ↔
      ∀ object ∈ json.specialObjects, HasValidPayload object :=
  (readsAs_toValue json).exists_ok_iff (isSpecialShaped_of_mem json)

theorem toValue_eq_error_iff {json : Json} :
    json.toValue = .error fault ↔ FirstFault json.specialObjects fault :=
  (readsAs_toValue json).error_iff (isSpecialShaped_of_mem json)

-- The date inside of the pattern is not looked at, and the identifier after it is not reached.
example : (object [("list", .array [.object [("$date", .int 0)],
      .object [("$regex", .object [("$date", .string "x")])]]),
      ("id", .object [("$oid", .string "z")])]).toValue =
    .error (.invalidPattern "\x7b\"$date\":\"x\"\x7d" .notText) := by rfl

theorem isPrimitive_of_writesLeaf (h : WritesLeaf members value) : value.isPrimitive = true := by
  cases h <;> rfl

/-- An object writes a document or a leaf, and never an array. -/
theorem document_or_isPrimitive_of_writes (h : Writes (.object members) value) :
    (∃ entries, value = .document entries) ∨ value.isPrimitive = true := by
  cases h with
  | special _ h => exact .inr (isPrimitive_of_writesLeaf h)
  | undefined => exact .inr rfl
  | document => exact .inl ⟨_, rfl⟩

section

variable {entries : Document}

theorem toDocument_of_error (h : (object members).toValue = .error fault) :
    (object members).toDocument = .error fault := by
  rw [toDocument, h]
  rfl

theorem toDocument_of_document (h : (object members).toValue = .ok (.document entries)) :
    (object members).toDocument = .ok entries := by
  rw [toDocument, h]
  rfl

theorem toDocument_of_leaf (h : (object members).toValue = .ok value)
    (hleaf : value.isPrimitive = true) :
    (object members).toDocument = .error (.notADocument value.typeName) := by
  rw [toDocument, h]
  cases value with
  | document entries => cases hleaf
  | _ => rfl

theorem toDocument_eq_ok_iff :
    (object members).toDocument = .ok entries ↔
      (object members).toValue = .ok (.document entries) := by
  refine ⟨fun h => ?_, toDocument_of_document⟩
  cases hresult : (object members).toValue with
  | error fault => cases h.symm.trans (toDocument_of_error hresult)
  | ok value =>
      rcases document_or_isPrimitive_of_writes (toValue_eq_ok_iff.1 hresult) with ⟨_, rfl⟩ | hleaf
      · cases h.symm.trans (toDocument_of_document hresult)
        rfl
      · cases h.symm.trans (toDocument_of_leaf hresult hleaf)

theorem toDocument_eq_error_iff :
    (object members).toDocument = .error fault ↔
      (object members).toValue = .error fault ∨
        ∃ leaf, (object members).toValue = .ok leaf ∧ leaf.isPrimitive = true ∧
          fault = .notADocument leaf.typeName := by
  constructor
  · intro h
    cases hresult : (object members).toValue with
    | error fault' =>
        cases h.symm.trans (toDocument_of_error hresult)
        exact .inl rfl
    | ok value =>
        rcases document_or_isPrimitive_of_writes (toValue_eq_ok_iff.1 hresult) with
          ⟨_, rfl⟩ | hleaf
        · cases h.symm.trans (toDocument_of_document hresult)
        · cases h.symm.trans (toDocument_of_leaf hresult hleaf)
          exact .inr ⟨value, rfl, hleaf, rfl⟩
  · rintro (h | ⟨leaf, h, hleaf, rfl⟩)
    · exact toDocument_of_error h
    · exact toDocument_of_leaf h hleaf

end

/-- Reading accepts exactly the trees whose special objects are all valid, reports the first fault
of the others, and gives what the tree writes. Reading a document differs from it by refusing leaves
alone. -/
theorem reading_exact :
    (∀ json : Json,
      ((∃ value, json.toValue = .ok value) ↔
        ∀ object ∈ json.specialObjects, HasValidPayload object) ∧
      (∀ fault, json.toValue = .error fault ↔ FirstFault json.specialObjects fault) ∧
      ∀ value, json.toValue = .ok value ↔ Writes json value) ∧
    ∀ members : List (String × Json),
      (∀ entries, (object members).toDocument = .ok entries ↔
        (object members).toValue = .ok (.document entries)) ∧
      ∀ fault, (object members).toDocument = .error fault ↔
        (object members).toValue = .error fault ∨
          ∃ leaf, (object members).toValue = .ok leaf ∧ leaf.isPrimitive = true ∧
            fault = .notADocument leaf.typeName :=
  ⟨fun _ => ⟨exists_toValue_iff, fun _ => toValue_eq_error_iff, fun _ => toValue_eq_ok_iff⟩,
    fun _ => ⟨fun _ => toDocument_eq_ok_iff, fun _ => toDocument_eq_error_iff⟩⟩

end Verdict.Json
