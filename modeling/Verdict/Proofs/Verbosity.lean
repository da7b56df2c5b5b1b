import Verdict.Command

/-!
# Verbosity flags

A verbosity is counted in a byte, and what does not fit is cut off. Once the limit is reached it is
kept, so it makes no difference whether a sum is cut in the middle or at its end: a run of flags adds
what all of them ask for, cut once (`toNat_splitFrom_flags`). The run ends at the first argument that
is no flag, and flags that come after it are not looked at (`splitFrom_eq_self`).
-/

namespace Verdict.Verbosity

/-- The arguments that ask for verbosity. -/
def IsFlag (argument : String) : Prop :=
  argument = "-v" ∨ argument = "--verbose" ∨ argument = "-vv"

/-- How much verbosity some flags ask for together. -/
def asked (flags : List String) : Nat :=
  flags.count "-v" + flags.count "--verbose" + 2 * flags.count "-vv"

variable {argument : String} {flags rest : List String}

/-! ### One flag -/

theorem toNat_add (verbosity more : UInt8) :
    (add verbosity more).toNat = min 255 (verbosity.toNat + more.toNat) := by
  have hlimit : limit.toNat = 255 := rfl
  have hmore : more.toNat < 256 := UInt8.toNat_lt more
  have hroom : (limit - more).toNat = 255 - more.toNat := by
    rw [UInt8.toNat_sub, hlimit]
    omega
  rw [add]
  split
  · rename_i hfits
    rw [UInt8.le_iff_toNat_le, hroom] at hfits
    rw [UInt8.toNat_add]
    omega
  · rename_i hfits
    rw [UInt8.le_iff_toNat_le, hroom] at hfits
    rw [hlimit]
    omega

theorem ofFlag?_eq_none (h : ¬IsFlag argument) : ofFlag? argument = none := by
  simp only [IsFlag, not_or] at h
  simp [ofFlag?, h]

/-- A flag asks for as much as it adds. -/
theorem IsFlag.exists_ofFlag? (h : IsFlag argument) (flags : List String) :
    ∃ more : UInt8, ofFlag? argument = some more ∧
      asked (argument :: flags) = more.toNat + asked flags := by
  rcases h with rfl | rfl | rfl
  · refine ⟨1, rfl, ?_⟩
    simp [asked]
    omega
  · refine ⟨1, rfl, ?_⟩
    simp [asked]
    omega
  · refine ⟨2, rfl, ?_⟩
    simp [asked]
    omega

/-! ### All flags at the front -/

/-- Arguments that do not begin with a flag are left as they are. -/
theorem splitFrom_eq_self (h : ∀ first ∈ rest.head?, ¬IsFlag first) (verbosity : UInt8) :
    splitFrom verbosity rest = (verbosity, rest) := by
  cases rest with
  | nil => rfl
  | cons first others => rw [splitFrom, ofFlag?_eq_none (h first rfl)]

/-- Flags are taken off, and add what they ask for, up to the limit. -/
theorem toNat_splitFrom_flags (h : ∀ flag ∈ flags, IsFlag flag) (verbosity : UInt8) :
    ∃ raised : UInt8, splitFrom verbosity (flags ++ rest) = splitFrom raised rest ∧
      raised.toNat = min 255 (verbosity.toNat + asked flags) := by
  induction flags generalizing verbosity with
  | nil =>
      have hbyte : verbosity.toNat < 256 := UInt8.toNat_lt verbosity
      refine ⟨verbosity, rfl, ?_⟩
      simp only [asked, List.count_nil]
      omega
  | cons flag others ih =>
      obtain ⟨hflag, hothers⟩ := List.forall_mem_cons.1 h
      obtain ⟨more, hmore, hasked⟩ := hflag.exists_ofFlag? others
      obtain ⟨raised, hsplit, hraised⟩ := ih hothers (add verbosity more)
      refine ⟨raised, ?_, ?_⟩
      · rw [List.cons_append, splitFrom, hmore]
        exact hsplit
      · -- what the limit has cut off so far, it would also cut off at the end
        rw [hraised, toNat_add, hasked]
        omega

/-- Arguments begin with a longest run of flags, which may be empty. -/
theorem exists_flags_append (arguments : List String) :
    ∃ flags rest, arguments = flags ++ rest ∧ (∀ flag ∈ flags, IsFlag flag) ∧
      ∀ first ∈ rest.head?, ¬IsFlag first := by
  induction arguments with
  | nil => exact ⟨[], [], rfl, List.forall_mem_nil _, nofun⟩
  | cons argument others ih =>
      by_cases hflag : IsFlag argument
      · obtain ⟨flags, rest, rfl, hflags, hrest⟩ := ih
        exact ⟨argument :: flags, rest, rfl, List.forall_mem_cons.2 ⟨hflag, hflags⟩, hrest⟩
      · refine ⟨[], argument :: others, rfl, List.forall_mem_nil _, ?_⟩
        rintro first hfirst
        obtain rfl := Option.some.inj hfirst
        exact hflag

/-- The flags at the front of the arguments are taken off, all of them and nothing else, and the
verbosity is what they ask for together, but no more than a byte holds. -/
theorem split_exact (arguments : List String) :
    ∃ flags rest verbosity, split arguments = (verbosity, rest) ∧ arguments = flags ++ rest ∧
      (∀ flag ∈ flags, flag = "-v" ∨ flag = "--verbose" ∨ flag = "-vv") ∧
      (∀ first ∈ rest.head?, ¬(first = "-v" ∨ first = "--verbose" ∨ first = "-vv")) ∧
      verbosity.toNat =
        min 255 (flags.count "-v" + flags.count "--verbose" + 2 * flags.count "-vv") := by
  obtain ⟨flags, rest, rfl, hflags, hrest⟩ := exists_flags_append arguments
  obtain ⟨verbosity, hsplit, hverbosity⟩ := toNat_splitFrom_flags hflags 0
  refine ⟨flags, rest, verbosity, ?_, rfl, hflags, hrest, ?_⟩
  · rw [split, hsplit, splitFrom_eq_self hrest]
  · rw [hverbosity, UInt8.toNat_zero, Nat.zero_add, asked]

/-- The limit is reached in the middle of a flag, and a flag after the command is none. -/
example : splitFrom 254 ["-vv", "-v", "explain", "-v"] = (255, ["explain", "-v"]) := by decide

end Verdict.Verbosity
