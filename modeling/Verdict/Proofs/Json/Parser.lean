import Verdict.Json.Parser
import Verdict.Proofs.Keyed

/-!
# The numbers of a JSON text

A tree could hold integers of any size and doubles that are infinite, but no text is read as such a
tree: a numeral that fits no integer of 64 bits is read as a double, and one that fits no finite
double is refused. Nothing else that the reader does touches a number, and so every tree that it
builds is within range (`withinRange_of_parse?`).
-/

namespace Verdict.Json

mutual

/-- The numbers of a tree are those that a JSON text holds: integers of 64 bits, signed or unsigned,
and finite doubles. -/
def WithinRange : Json → Prop
  | int n => minSigned ≤ n ∧ n ≤ maxUnsigned
  | double x => x.isFinite
  | array items => ItemsWithinRange items
  | object members => MembersWithinRange members
  | _ => True
termination_by structural json => json

def ItemsWithinRange : List Json → Prop
  | [] => True
  | item :: rest => WithinRange item ∧ ItemsWithinRange rest
termination_by structural items => items

def MembersWithinRange : List (String × Json) → Prop
  | [] => True
  | (_, member) :: rest => WithinRange member ∧ MembersWithinRange rest
termination_by structural members => members

end

theorem itemsWithinRange_iff {items : List Json} :
    ItemsWithinRange items ↔ ∀ item ∈ items, item.WithinRange := by
  induction items with
  | nil => exact ⟨nofun, fun _ => trivial⟩
  | cons item rest ih => rw [ItemsWithinRange, ih, List.forall_mem_cons]

theorem membersWithinRange_iff {members : List (String × Json)} :
    MembersWithinRange members ↔ ∀ member ∈ members, member.2.WithinRange := by
  induction members with
  | nil => exact ⟨nofun, fun _ => trivial⟩
  | cons member rest ih => rw [MembersWithinRange, ih, List.forall_mem_cons]

/-! ### Numerals -/

theorem withinRange_of_ofNumeral? {n : Numeral} {json : Json} (h : ofNumeral? n = some json) :
    json.WithinRange := by
  unfold ofNumeral? at h
  split at h
  · cases h
  · split at h
    · rename_i hwhole
      cases h
      have hfits := (Bool.and_eq_true_iff.1 (Bool.and_eq_true_iff.1 hwhole).1).2
      rw [decide_eq_true_eq] at hfits
      exact hfits
    · split at h
      · rename_i hfinite
        cases h
        exact hfinite
      · cases h

theorem withinRange_of_number? {text rest : List Char} {json : Json}
    (h : number? text = some (json, rest)) : json.WithinRange := by
  obtain ⟨numeral, -, h⟩ := Option.bind_eq_some_iff.1 h
  obtain ⟨json, hjson, h⟩ := Option.bind_eq_some_iff.1 h
  cases h
  exact withinRange_of_ofNumeral? hjson

/-! ### Whole texts -/

/-- What is read with so many steps is within range, if what was read before is. -/
structure ReadsWithinRange (fuel : Nat) : Prop where
  value : ∀ {nesting text json rest},
    value? nesting fuel text = some (json, rest) → json.WithinRange
  items : ∀ {nesting done text json rest}, (∀ item ∈ done, item.WithinRange) →
    items? nesting fuel done text = some (json, rest) → json.WithinRange
  members : ∀ {nesting done text json rest}, (∀ member ∈ done, member.2.WithinRange) →
    members? nesting fuel done text = some (json, rest) → json.WithinRange

namespace ReadsWithinRange

variable {fuel nesting : Nat} {text rest : List Char} {json : Json}

theorem value_succ (hfuel : ReadsWithinRange fuel)
    (h : value? nesting (fuel + 1) text = some (json, rest)) : json.WithinRange := by
  rw [value?.eq_def] at h
  simp only at h
  split at h
  · cases h
    trivial
  · cases h
    trivial
  · cases h
    trivial
  · obtain ⟨_, _, h⟩ := Option.map_eq_some_iff.1 h
    cases h
    trivial
  · split at h
    · cases h
    · split at h
      · cases h
        trivial
      · exact hfuel.items (List.forall_mem_nil _) h
  · split at h
    · cases h
    · split at h
      · cases h
        trivial
      · exact hfuel.members (List.forall_mem_nil _) h
  · exact withinRange_of_number? h

theorem items_succ {done : List Json} (hfuel : ReadsWithinRange fuel)
    (hdone : ∀ item ∈ done, item.WithinRange)
    (h : items? nesting (fuel + 1) done text = some (json, rest)) : json.WithinRange := by
  rw [items?] at h
  split at h
  · cases h
  · rename_i item rest hitem
    have hall := List.forall_mem_cons.2 ⟨hfuel.value hitem, hdone⟩
    split at h
    · exact hfuel.items hall h
    · cases h
      exact itemsWithinRange_iff.2 fun item hmem => hall item (List.mem_reverse.1 hmem)
    · cases h

theorem members_succ {done : List (String × Json)} (hfuel : ReadsWithinRange fuel)
    (hdone : ∀ member ∈ done, member.2.WithinRange)
    (h : members? nesting (fuel + 1) done text = some (json, rest)) : json.WithinRange := by
  rw [members?.eq_def] at h
  simp only at h
  split at h
  · split at h
    · cases h
    · rename_i key _ _
      split at h
      · split at h
        · cases h
        · rename_i value _ hvalue
          have hall : ∀ member ∈ (key, value) :: done, member.2.WithinRange :=
            List.forall_mem_cons.2 ⟨hfuel.value hvalue, hdone⟩
          split at h
          · exact hfuel.members hall h
          · cases h
            exact membersWithinRange_iff.2 fun member hmem =>
              hall member (List.mem_reverse.1 (Keyed.mem_of_mem_ofList hmem))
          · cases h
      · cases h
  · cases h

end ReadsWithinRange

theorem readsWithinRange (fuel : Nat) : ReadsWithinRange fuel := by
  induction fuel with
  | zero => exact ⟨nofun, fun _ => nofun, fun _ => nofun⟩
  | succ fuel ih => exact ⟨ih.value_succ, ih.items_succ, ih.members_succ⟩

theorem withinRange_of_parse? {text : String} {json : Json} (h : parse? text = some json) :
    json.WithinRange := by
  unfold parse? parseNested? at h
  split at h
  · rename_i read rest hread
    split at h
    · cases h
      exact (readsWithinRange _).value hread
    · cases h
  · cases h

end Verdict.Json
