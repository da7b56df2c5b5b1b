import Mathlib.Data.List.Induction
import Mathlib.Data.List.Nodup
import Verdict.Keyed

/-!
# Entries written under keys

Writing a key that is present changes what is found under this key and nothing else, and writing a
new key adds it at the end (`keys_put`, `find?_put_self`, `find?_put_of_ne`). So, after any number of
writes, the entries are a function of what was written (`HoldsWritten`): the place of a key is that
of its first write, and its value that of its last.
-/

namespace Verdict.Keyed

variable {α : Type} {key other : String} {value : α} {entries : List (String × α)}

/-! ### What is found under a key -/

theorem find?_isSome_iff : (find? key entries).isSome ↔ key ∈ keys entries := by
  induction entries with
  | nil => simp [find?, keys]
  | cons entry rest ih =>
      rw [find?, keys, List.map_cons, List.mem_cons]
      split
      · rename_i hkey
        simp [hkey]
      · rename_i hkey
        rw [ih, or_iff_right (Ne.symm hkey)]
        rfl

theorem find?_eq_none_iff : find? key entries = none ↔ key ∉ keys entries := by
  rw [← find?_isSome_iff, Option.not_isSome_iff_eq_none]

theorem contains_iff : contains key entries ↔ key ∈ keys entries := find?_isSome_iff

/-- What is found is one of the entries. -/
theorem mem_of_find?_eq_some (h : find? key entries = some value) : (key, value) ∈ entries := by
  induction entries with
  | nil => cases h
  | cons entry rest ih =>
      obtain ⟨found, held⟩ := entry
      rw [find?] at h
      split at h
      · rename_i hkey
        rw [hkey, Option.some.inj h]
        exact List.mem_cons_self
      · exact List.mem_cons_of_mem _ (ih h)

theorem find?_eq_some_of_mem (hkeys : (keys entries).Nodup) (h : (key, value) ∈ entries) :
    find? key entries = some value := by
  induction entries with
  | nil => cases h
  | cons entry rest ih =>
      obtain ⟨hfresh, hrest⟩ := List.nodup_cons.1 hkeys
      rw [find?]
      obtain rfl | hmem := List.mem_cons.1 h
      · exact if_pos rfl
      · have hother : entry.1 ≠ key := by
          rintro rfl
          exact hfresh (List.mem_map.2 ⟨_, hmem, rfl⟩)
        rw [if_neg hother, ih hrest hmem]

/-- Where no key is written twice, the order of the entries does not matter. -/
theorem find?_eq_of_perm {as bs : List (String × α)} (h : as.Perm bs) (hkeys : (keys as).Nodup)
    (key : String) : find? key as = find? key bs := by
  induction h with
  | nil => rfl
  | cons entry _ ih =>
      rw [find?, find?, ih (List.nodup_cons.1 hkeys).2]
  | swap first second rest =>
      -- only if both entries had the key would it matter which one comes first
      have hne : second.1 ≠ first.1 := by
        intro heq
        exact (List.nodup_cons.1 hkeys).1 (heq ▸ List.mem_cons_self)
      simp only [find?]
      split
      · rename_i hsecond
        rw [if_neg (fun hfirst => hne (hsecond.trans hfirst.symm))]
      · rfl
  | trans hleft _ ihleft ihright =>
      exact (ihleft hkeys).trans (ihright ((hleft.map Prod.fst).nodup_iff.1 hkeys))

/-! ### One write -/

theorem keys_put (key : String) (value : α) (entries : List (String × α)) :
    keys (put key value entries) =
      if key ∈ keys entries then keys entries else keys entries ++ [key] := by
  induction entries with
  | nil => rfl
  | cons entry rest ih =>
      obtain ⟨found, held⟩ := entry
      rw [put]
      by_cases hfound : found = key
      · rw [if_pos hfound, if_pos (hfound ▸ List.mem_cons_self)]
        rfl
      · have hmem : key ∈ keys ((found, held) :: rest) ↔ key ∈ keys rest := by
          rw [keys, List.map_cons, List.mem_cons, or_iff_right (Ne.symm hfound)]
          rfl
        rw [if_neg hfound, keys, List.map_cons]
        simp only [hmem]
        split
        · rename_i hrest
          rw [if_pos hrest] at ih
          exact congrArg (found :: ·) ih
        · rename_i hrest
          rw [if_neg hrest] at ih
          exact congrArg (found :: ·) ih

theorem find?_put_self (key : String) (value : α) (entries : List (String × α)) :
    find? key (put key value entries) = some value := by
  induction entries with
  | nil => exact if_pos rfl
  | cons entry rest ih =>
      obtain ⟨found, held⟩ := entry
      rw [put]
      split
      · rename_i hfound
        rw [find?, if_pos hfound]
      · rename_i hfound
        rw [find?, if_neg hfound, ih]

theorem find?_put_of_ne (h : other ≠ key) (value : α) (entries : List (String × α)) :
    find? other (put key value entries) = find? other entries := by
  induction entries with
  | nil => exact if_neg h.symm
  | cons entry rest ih =>
      obtain ⟨found, held⟩ := entry
      rw [put]
      split
      · rename_i hfound
        rw [find?, find?, if_neg (hfound ▸ h.symm), if_neg (hfound ▸ h.symm)]
      · rw [find?, find?, ih]

/-- An insertion is a write that gives what was found before it. -/
theorem insert_eq (key : String) (value : α) (entries : List (String × α)) :
    insert key value entries = (find? key entries, put key value entries) := by
  induction entries with
  | nil => rfl
  | cons entry rest ih =>
      obtain ⟨found, held⟩ := entry
      rw [insert, find?, put, ih]
      split <;> rfl

/-! ### Any number of writes -/

/-- This value is what was written last under a key. -/
def WrittenLast (written : List (String × α)) (key : String) (value : α) : Prop :=
  ∃ before after, written = before ++ (key, value) :: after ∧ key ∉ keys after

/-- The entries hold each key that was written, once, at the place of its first write and with the
value of its last. -/
structure HoldsWritten (written entries : List (String × α)) : Prop where
  nodup_keys : (keys entries).Nodup
  keys_eq : keys entries = (keys written).eraseDups
  find?_eq_some_iff : ∀ key value, find? key entries = some value ↔ WrittenLast written key value

variable {written : List (String × α)}

theorem writtenLast_append {first : α} :
    WrittenLast (written ++ [(other, first)]) key value ↔
      if key = other then value = first else WrittenLast written key value := by
  constructor
  · rintro ⟨before, after, hsplit, hfresh⟩
    -- nothing comes after it, or the new entry does
    obtain rfl | ⟨others, last, rfl⟩ := List.eq_nil_or_concat' after
    · obtain ⟨-, hlast⟩ := List.append_inj' hsplit rfl
      cases hlast
      rw [if_pos rfl]
    · rw [← List.cons_append, ← List.append_assoc] at hsplit
      obtain ⟨rfl, hlast⟩ := List.append_inj' hsplit rfl
      cases hlast
      rw [keys, List.map_append, List.mem_append, not_or] at hfresh
      have hne : key ≠ other := by
        rintro rfl
        exact hfresh.2 List.mem_cons_self
      rw [if_neg hne]
      exact ⟨before, others, rfl, hfresh.1⟩
  · split
    · rename_i heq
      rintro rfl
      exact ⟨written, [], by rw [heq], List.not_mem_nil⟩
    · rename_i hne
      rintro ⟨before, after, rfl, hfresh⟩
      refine ⟨before, after ++ [(other, first)], by simp, ?_⟩
      rw [keys, List.map_append, List.mem_append, not_or]
      exact ⟨hfresh, by simpa using hne⟩

namespace HoldsWritten

section

variable (h : HoldsWritten written entries)
include h

theorem mem_keys_iff : key ∈ keys entries ↔ key ∈ keys written := by
  rw [h.keys_eq, List.mem_eraseDups]

theorem mem_iff : (key, value) ∈ entries ↔ find? key entries = some value :=
  ⟨find?_eq_some_of_mem h.nodup_keys, mem_of_find?_eq_some⟩

theorem length_eq : entries.length = (keys written).eraseDups.length := by
  rw [← h.keys_eq, keys, List.length_map]

theorem eq_nil_iff : entries = [] ↔ written = [] := by
  rw [← List.map_eq_nil_iff (f := Prod.fst), ← List.map_eq_nil_iff (f := Prod.fst) (l := written),
    List.eq_nil_iff_forall_not_mem, List.eq_nil_iff_forall_not_mem]
  exact forall_congr' fun key => not_congr h.mem_keys_iff

end

theorem nil : HoldsWritten ([] : List (String × α)) [] where
  nodup_keys := List.nodup_nil
  keys_eq := rfl
  find?_eq_some_iff := by
    intro key value
    refine iff_of_false nofun ?_
    rintro ⟨before, after, hsplit, -⟩
    exact absurd hsplit (by simp)

/-- One more write keeps the entries in step with what was written. -/
theorem put (h : HoldsWritten written entries) (key : String) (value : α) :
    HoldsWritten (written ++ [(key, value)]) (put key value entries) where
  nodup_keys := by
    rw [keys_put]
    split
    · exact h.nodup_keys
    · rename_i hnew
      rw [← List.concat_eq_append]
      exact List.Nodup.concat hnew h.nodup_keys
  keys_eq := by
    have hwritten : keys (written ++ [(key, value)]) = keys written ++ [key] := List.map_append
    rw [keys_put, hwritten, List.eraseDups_append, ← h.keys_eq, List.removeAll]
    split
    · rename_i hkey
      simp [h.mem_keys_iff.1 hkey]
    · rename_i hkey
      simp [mt h.mem_keys_iff.2 hkey, List.eraseDups_cons]
  find?_eq_some_iff := by
    intro other found
    rw [writtenLast_append]
    split
    · rename_i heq
      rw [heq, find?_put_self, Option.some.injEq, eq_comm]
    · rename_i hne
      rw [find?_put_of_ne hne, h.find?_eq_some_iff]

end HoldsWritten

/-- Entries that are written one after the other are held as they were written. -/
theorem holdsWritten_ofList (written : List (String × α)) :
    HoldsWritten written (ofList written) := by
  -- from the end, where the last write was made
  induction written using List.reverseRecOn with
  | nil => exact .nil
  | append_singleton written entry ih =>
      rw [ofList, List.foldl_append]
      exact ih.put entry.1 entry.2

/-- Of what is written under one key the last is kept, and nothing is made up. -/
theorem mem_of_mem_ofList {entry : String × α} (h : entry ∈ ofList written) : entry ∈ written := by
  obtain ⟨before, after, rfl, -⟩ := ((holdsWritten_ofList written).find?_eq_some_iff _ _).1
    ((holdsWritten_ofList written).mem_iff.1 h)
  exact List.mem_append_right before List.mem_cons_self

/-! ### Histories -/

/-- The two ways to write an entry: an insertion tells what it replaces, and a write that is chained
to others does not. -/
inductive Write (α : Type) where
  | insert (key : String) (value : α)
  | chain (key : String) (value : α)

namespace Write

def entry : Write α → String × α
  | insert key value => (key, value)
  | chain key value => (key, value)

/-- The entries after a write. -/
def run : Write α → List (String × α) → List (String × α)
  | insert key value, entries => (Keyed.insert key value entries).2
  | chain key value, entries => put key value entries

theorem run_eq_put (write : Write α) (entries : List (String × α)) :
    write.run entries = put write.entry.1 write.entry.2 entries := by
  cases write with
  | insert key value => rw [run, insert_eq, entry]
  | chain key value => rfl

end Write

/-- The entries after a history of writes that begins without any. -/
def after (history : List (Write α)) : List (String × α) :=
  history.foldl (fun entries write => write.run entries) []

/-- Collecting the entries of a history comes to the same as its writes. -/
theorem ofList_eq_after (history : List (Write α)) :
    ofList (history.map Write.entry) = after history := by
  simp only [after, ofList, List.foldl_map, Write.run_eq_put]

theorem holdsWritten_after (history : List (Write α)) :
    HoldsWritten (history.map Write.entry) (after history) :=
  ofList_eq_after history ▸ holdsWritten_ofList _

end Verdict.Keyed
