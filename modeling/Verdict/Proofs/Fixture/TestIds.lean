import Verdict.Fixture
import Verdict.Proofs.Value.KeyOrder

/-!
# Test ids

The documents that stand for numeric identifiers are replaced from the outside in, and what is put
in their place is not looked at again. `ResolvesTo` says what this may change: the documents that
stand for identifiers, as far as they do not lie in one another, and nothing else. It leaves no
choice (`resolvesTo_iff`), so what follows is read off its rules.

One pass leaves no such document behind (`ResolvesTo.not_isTestId_of_mem_parts`). A document that
stands for no identifier keeps its keys, so it could only come to stand for one if the value under
its key became a number, and nothing but a number becomes one.
-/

namespace Verdict.Value

/-- A document with an integral number under `$testId` and no other key. -/
def IsTestId (value : Value) : Prop :=
  ∃ x : Binary64, value = document [("$testId", number x)] ∧ x.isIntegral

/-- The identifier that an integral number stands for. Numbers out of reach stand for the nearest
one within. -/
def numericIdOf (x : Binary64) : Identifier :=
  .numeric (max minNumericId (min maxNumericId x.truncate))

/-- The second value is the first with those test ids replaced that do not lie in another one. -/
inductive ResolvesTo : Value → Value → Prop
  | testId {x : Binary64} (h : x.isIntegral) :
      ResolvesTo (.document [("$testId", .number x)]) (.identifier (numericIdOf x))
  | leaf {leaf : Value} (h : leaf.isPrimitive = true) : ResolvesTo leaf leaf
  | array {as bs : List Value} (h : List.Forall₂ ResolvesTo as bs) :
      ResolvesTo (.array as) (.array bs)
  | document {as bs : Document} (h : ¬(Value.document as).IsTestId)
      (hkeys : Keyed.keys as = Keyed.keys bs)
      (hvalues : List.Forall₂ ResolvesTo (as.map Prod.snd) (bs.map Prod.snd)) :
      ResolvesTo (.document as) (.document bs)

variable {value result : Value} {entries : Document} {x : Binary64}

/-! ### Which documents are replaced -/

theorem testId?_eq_some_iff {n : Int} :
    testId? entries = some n ↔
      ∃ x : Binary64, entries = [("$testId", .number x)] ∧ x.isIntegral ∧
        numericIdOf x = .numeric n := by
  constructor
  · intro h
    unfold testId? at h
    split at h
    · rename_i x
      split at h
      · rename_i hintegral
        exact ⟨x, rfl, hintegral, congrArg Identifier.numeric (Option.some.inj h)⟩
      · cases h
    · cases h
  · rintro ⟨x, rfl, hintegral, hn⟩
    simp only [testId?, hintegral, if_true]
    exact congrArg some (Identifier.numeric.inj hn)

theorem isTestId_document_iff : (document entries).IsTestId ↔ (testId? entries).isSome := by
  rw [Option.isSome_iff_exists]
  constructor
  · rintro ⟨x, h, hintegral⟩
    exact ⟨_, testId?_eq_some_iff.2 ⟨x, document.inj h, hintegral, rfl⟩⟩
  · rintro ⟨n, hn⟩
    obtain ⟨x, rfl, hintegral, -⟩ := testId?_eq_some_iff.1 hn
    exact ⟨x, rfl, hintegral⟩

theorem not_isTestId_of_isPrimitive (h : value.isPrimitive = true) : ¬value.IsTestId := by
  rintro ⟨x, rfl, -⟩
  cases h

instance : DecidablePred IsTestId
  | document _ => decidable_of_iff _ isTestId_document_iff.symm
  | array _ => .isFalse (by rintro ⟨x, h, -⟩; cases h)
  | undefined | null | bool _ | number _ | string _ | date _ | identifier _ | pattern _ =>
      .isFalse (not_isTestId_of_isPrimitive rfl)

/-! ### One pass -/

theorem resolveInItems_eq_map (items : List Value) :
    resolveInItems items = items.map resolveTestIds := by
  induction items with
  | nil => rfl
  | cons item rest ih => rw [resolveInItems, ih, List.map_cons]

theorem resolveInEntries_eq_map (entries : Document) :
    resolveInEntries entries = entries.map fun entry => (entry.1, entry.2.resolveTestIds) := by
  induction entries with
  | nil => rfl
  | cons entry rest ih => rw [resolveInEntries, ih, List.map_cons]

theorem resolveTestIds_testId (h : x.isIntegral) :
    (document [("$testId", number x)]).resolveTestIds = identifier (numericIdOf x) := by
  rw [resolveTestIds, testId?_eq_some_iff.2 ⟨x, rfl, h, rfl⟩]
  rfl

theorem resolveTestIds_array (items : List Value) :
    (array items).resolveTestIds = array (items.map resolveTestIds) := by
  rw [resolveTestIds, resolveInItems_eq_map]

theorem resolveTestIds_document (h : ¬(document entries).IsTestId) :
    (document entries).resolveTestIds =
      document (entries.map fun entry => (entry.1, entry.2.resolveTestIds)) := by
  rw [isTestId_document_iff, Option.not_isSome_iff_eq_none] at h
  rw [resolveTestIds, h, resolveInEntries_eq_map]

theorem resolvesTo_resolveTestIds (value : Value) : value.ResolvesTo value.resolveTestIds := by
  induction value using childrenInduction with
  | step value ih =>
      cases value with
      | array items =>
          rw [resolveTestIds_array]
          apply ResolvesTo.array
          rw [List.forall₂_map_right_iff, List.forall₂_same]
          exact ih
      | document entries =>
          by_cases h : (document entries).IsTestId
          · obtain ⟨x, hx, hintegral⟩ := h
            rw [hx, resolveTestIds_testId hintegral]
            exact .testId hintegral
          · rw [resolveTestIds_document h]
            apply ResolvesTo.document h
            · simp [Keyed.keys]
            · rw [List.map_map, List.forall₂_map_left_iff, List.forall₂_map_right_iff,
                List.forall₂_same]
              intro entry hentry
              exact ih entry.2 (List.mem_map_of_mem hentry)
      | _ => exact .leaf rfl

/-- The rules leave no choice: what they allow is what one pass gives. -/
theorem resolvesTo_iff : value.ResolvesTo result ↔ value.resolveTestIds = result := by
  constructor
  · intro h
    induction value using childrenInduction generalizing result with
    | step value ih =>
        cases h with
        | testId hintegral => exact resolveTestIds_testId hintegral
        | leaf hleaf =>
            cases value with
            | array items => cases hleaf
            | document entries => cases hleaf
            | _ => rfl
        | @array as bs hitems =>
            have hmap : as.map resolveTestIds = bs.map id :=
              map_eq_of_forall₂ (forall₂_and_mem hitems) fun a b hab => ih a hab.2.1 hab.1
            rw [resolveTestIds_array, hmap, List.map_id]
        | @document as bs hno hkeys hvalues =>
            have hmap : (as.map fun entry => (entry.1, entry.2.resolveTestIds)) = bs.map id := by
              apply map_eq_of_forall₂ (forall₂_and_mem (entriesRelated_of_values hkeys hvalues))
              rintro ⟨key, a⟩ ⟨_, b⟩ ⟨⟨rfl, hab⟩, hmem, -⟩
              exact congrArg (Prod.mk key) (ih a (List.mem_map_of_mem hmem) hab)
            rw [resolveTestIds_document hno, hmap, List.map_id]
  · rintro rfl
    exact resolvesTo_resolveTestIds value

/-! ### The normal form -/

namespace ResolvesTo

/-- Only a number becomes a number. -/
theorem eq_number (h : ResolvesTo value (.number x)) : value = number x := by
  cases h with
  | leaf => rfl

/-- No value becomes a test id, whether test ids are replaced inside of it or not. -/
theorem not_isTestId (h : ResolvesTo value result) : ¬result.IsTestId := by
  cases h with
  | testId => exact not_isTestId_of_isPrimitive rfl
  | leaf hleaf => exact not_isTestId_of_isPrimitive hleaf
  | array => rintro ⟨x, hx, -⟩; cases hx
  | @document as bs hno hkeys hvalues =>
      rintro ⟨x, hx, hintegral⟩
      obtain rfl := document.inj hx
      -- the only key was there before, and so was the number under it
      obtain ⟨⟨key, payload⟩, rfl, hkey⟩ := List.map_eq_singleton_iff.1 hkeys
      obtain ⟨hpayload, -⟩ := List.forall₂_cons.1 hvalues
      obtain rfl := hpayload.eq_number
      exact hno ⟨x, by rw [show key = "$testId" from hkey], hintegral⟩

theorem exists_of_mem_children (h : ResolvesTo value result) {child : Value}
    (hchild : child ∈ result.children) : ∃ origin ∈ value.children, ResolvesTo origin child := by
  cases h with
  | testId => exact absurd hchild List.not_mem_nil
  | leaf hleaf =>
      cases value with
      | array items => cases hleaf
      | document entries => cases hleaf
      | _ => exact absurd hchild List.not_mem_nil
  | array hitems => exact exists_of_mem_of_forall₂ hitems hchild
  | document _ _ hvalues => exact exists_of_mem_of_forall₂ hvalues hchild

/-- One pass leaves no test id behind. -/
theorem not_isTestId_of_mem_parts (h : ResolvesTo value result) :
    ∀ part ∈ result.parts, ¬part.IsTestId := by
  induction value using childrenInduction generalizing result with
  | step value ih =>
      rw [forall_mem_parts_iff]
      refine ⟨h.not_isTestId, ?_⟩
      intro child hchild
      obtain ⟨origin, horigin, hchild⟩ := h.exists_of_mem_children hchild
      exact ih origin horigin hchild

/-- Where there is no test id, nothing changes. -/
theorem of_not_isTestId (h : ∀ part ∈ value.parts, ¬part.IsTestId) : ResolvesTo value value := by
  induction value using childrenInduction with
  | step value ih =>
      obtain ⟨hroot, hparts⟩ := forall_mem_parts_iff.1 h
      have hchildren : ∀ child ∈ value.children, ResolvesTo child child :=
        fun child hchild => ih child hchild (hparts child hchild)
      cases value with
      | array items => exact .array (List.forall₂_same.2 hchildren)
      | document entries => exact .document hroot rfl (List.forall₂_same.2 hchildren)
      | _ => exact .leaf rfl

end ResolvesTo

/-- One pass ends in a normal form. No test id is left anywhere in the value, a value without test
ids stays as it is, all that is no test id is kept, and another pass changes nothing. -/
theorem resolveTestIds_normalForm (value : Value) :
    (∀ part ∈ value.resolveTestIds.parts, ¬part.IsTestId) ∧
      ((∀ part ∈ value.parts, ¬part.IsTestId) → value.resolveTestIds = value) ∧
      (∀ result, value.ResolvesTo result ↔ value.resolveTestIds = result) ∧
      value.resolveTestIds.resolveTestIds = value.resolveTestIds := by
  have hself : ∀ value : Value, (∀ part ∈ value.parts, ¬part.IsTestId) →
      value.resolveTestIds = value :=
    fun value h => resolvesTo_iff.1 (.of_not_isTestId h)
  have hnormal := (resolvesTo_resolveTestIds value).not_isTestId_of_mem_parts
  exact ⟨hnormal, hself value, fun result => resolvesTo_iff, hself _ hnormal⟩

/-- A test id inside of a document that only looks like one, which it does not complete, beside
numbers that are not integral and a document with another key. The other values stand for no
identifier and stay. -/
theorem resolveTestIds_normalForm_rejected :
    ∃ value rejected,
      value = document [("a", document [("$testId", document
        [("$testId", number (Binary64.ofInt (-7)))])]), ("b", rejected)] ∧
      rejected = array [document [("$testId", number Binary64.nan)],
        document [("$testId", number (Binary64.infinity true))],
        document [("$testId", number (Binary64.ofRatio false 3 2))],
        document [("$testId", number Binary64.zero), ("other", null)]] ∧
      value.resolveTestIds =
        document [("a", document [("$testId", identifier (.numeric (-7)))]), ("b", rejected)] ∧
      (∀ part ∈ value.resolveTestIds.parts, ¬part.IsTestId) ∧
      (∀ part ∈ rejected.parts, ¬part.IsTestId) ∧ rejected.resolveTestIds = rejected := by
  refine ⟨_, _, rfl, rfl, ?_, (resolveTestIds_normalForm _).1, ?hrejected,
    (resolveTestIds_normalForm _).2.1 ?hrejected⟩
  · rfl
  case hrejected => decide

end Verdict.Value
