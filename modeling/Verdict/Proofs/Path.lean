import Mathlib.Data.List.Basic
import Verdict.Operator

/-!
# Joining and following paths

Joining drops empty sides and cutting at points keeps empty segments, so the two agree on texts that
are not empty: the segments of a joined path are those of its sides, one after the other
(`segments_join`). Joining is associative without any condition, which is what lets a path be built
up from either end. A path can be taken apart again where its first segment is known
(`join_left_cancel`), or where the segment itself shows where it ends (`IsReadable.join_inj`).
-/

namespace Verdict

namespace Path

/-! ### Joining -/

@[simp] theorem join_empty_left (segment : String) : join "" segment = segment := rfl

@[simp] theorem join_empty_right (path : String) : join path "" = path := by
  by_cases h : path = "" <;> simp [join, h]

theorem join_of_ne_empty {path segment : String} (hpath : path ≠ "") (hsegment : segment ≠ "") :
    join path segment = path ++ "." ++ segment := by
  simp [join, hpath, hsegment]

theorem join_eq_empty_iff {path segment : String} :
    join path segment = "" ↔ path = "" ∧ segment = "" := by
  by_cases hpath : path = ""
  · simp [hpath]
  · by_cases hsegment : segment = ""
    · simp [hsegment]
    · simp [join_of_ne_empty hpath hsegment, hpath]

theorem join_assoc (a b c : String) : join (join a b) c = join a (join b c) := by
  by_cases ha : a = ""
  · simp [ha]
  · by_cases hb : b = ""
    · simp [hb]
    · by_cases hc : c = ""
      · simp [hc]
      · have hleft : join a b ≠ "" := fun h => ha (join_eq_empty_iff.1 h).1
        have hright : join b c ≠ "" := fun h => hb (join_eq_empty_iff.1 h).1
        rw [join_of_ne_empty hleft hc, join_of_ne_empty ha hright, join_of_ne_empty ha hb,
          join_of_ne_empty hb hc]
        simp only [String.append_assoc]

/-! ### Segments -/

theorem splitPoints_ne_nil (text : List Char) : splitPoints text ≠ [] := by
  cases text with
  | nil => exact List.cons_ne_nil _ _
  | cons c rest =>
      rw [splitPoints]
      split
      · exact List.cons_ne_nil _ _
      · split <;> exact List.cons_ne_nil _ _

/-- A point between two texts cuts nothing but them apart. -/
theorem splitPoints_append (left right : List Char) :
    splitPoints (left ++ '.' :: right) = splitPoints left ++ splitPoints right := by
  induction left with
  | nil => rfl
  | cons c rest ih =>
      rw [List.cons_append, splitPoints, splitPoints, ih]
      by_cases hc : c = '.'
      · rw [if_pos hc, if_pos hc, List.cons_append]
      · rw [if_neg hc, if_neg hc]
        obtain ⟨segment, segments, hrest⟩ := List.exists_cons_of_ne_nil (splitPoints_ne_nil rest)
        rw [hrest, List.cons_append]
        rfl

theorem splitPoints_of_not_mem {text : List Char} (h : '.' ∉ text) : splitPoints text = [text] := by
  induction text with
  | nil => rfl
  | cons c rest ih =>
      rw [List.mem_cons, not_or] at h
      rw [splitPoints, if_neg (Ne.symm h.1), ih h.2]

/-- Every character of a segment is one of the text. -/
theorem mem_of_mem_splitPoints {text segment : List Char} {c : Char}
    (hsegment : segment ∈ splitPoints text) (hc : c ∈ segment) : c ∈ text := by
  induction text generalizing segment with
  | nil =>
      obtain rfl := List.mem_singleton.1 hsegment
      exact hc
  | cons first rest ih =>
      rw [splitPoints] at hsegment
      split at hsegment
      · obtain rfl | hmem := List.mem_cons.1 hsegment
        · cases hc
        · exact List.mem_cons_of_mem _ (ih hmem hc)
      · obtain ⟨head, tail, hrest⟩ := List.exists_cons_of_ne_nil (splitPoints_ne_nil rest)
        rw [hrest] at hsegment ih
        obtain rfl | hmem := List.mem_cons.1 hsegment
        · obtain rfl | hhead := List.mem_cons.1 hc
          · exact List.mem_cons_self
          · exact List.mem_cons_of_mem _ (ih List.mem_cons_self hhead)
        · exact List.mem_cons_of_mem _ (ih (List.mem_cons_of_mem _ hmem) hc)

theorem segments_append_point (left right : String) :
    segments (left ++ "." ++ right) = segments left ++ segments right := by
  rw [segments, segments, segments, ← List.map_append, ← splitPoints_append]
  simp [String.toList_append]

theorem segments_join {path segment : String} (hpath : path ≠ "") (hsegment : segment ≠ "") :
    segments (join path segment) = segments path ++ segments segment := by
  rw [join_of_ne_empty hpath hsegment, segments_append_point]

/-- A text without points is its only segment. -/
theorem segments_of_not_mem {text : String} (h : '.' ∉ text.toList) : segments text = [text] := by
  rw [segments, splitPoints_of_not_mem h, List.map_singleton, String.ofList_toList]

theorem mem_of_mem_segments {path segment : String} {c : Char} (hsegment : segment ∈ segments path)
    (hc : c ∈ segment.toList) : c ∈ path.toList := by
  obtain ⟨chars, hchars, rfl⟩ := List.mem_map.1 hsegment
  rw [String.toList_ofList] at hc
  exact mem_of_mem_splitPoints hchars hc

/-! ### Paths of some segments -/

/-- The path that names segments one after the other. -/
def ofSegments (segments : List String) : String := ".".intercalate segments

/-- Segments without points are the segments of their path. -/
theorem segments_ofSegments {keys : List String} (hkeys : keys ≠ [])
    (hpoints : ∀ key ∈ keys, '.' ∉ key.toList) : segments (ofSegments keys) = keys := by
  induction keys with
  | nil => exact absurd rfl hkeys
  | cons key rest ih =>
      obtain ⟨hkey, hrest⟩ := List.forall_mem_cons.1 hpoints
      cases rest with
      | nil => rw [ofSegments, String.intercalate_singleton, segments_of_not_mem hkey]
      | cons next rest =>
          rw [ofSegments, String.intercalate_cons_cons, segments_append_point,
            segments_of_not_mem hkey]
          exact congrArg (key :: ·) (ih (List.cons_ne_nil next rest) hrest)

/-- Where no segment is empty, their path is joined up from them. -/
theorem ofSegments_cons {key : String} {rest : List String} (h : ∀ other ∈ key :: rest, other ≠ "") :
    ofSegments (key :: rest) = join key (ofSegments rest) := by
  induction rest generalizing key with
  | nil => rw [ofSegments, ofSegments, String.intercalate_singleton, String.intercalate_nil,
      join_empty_right]
  | cons next rest ih =>
      obtain ⟨hkey, hrest⟩ := List.forall_mem_cons.1 h
      have hpath : ofSegments (next :: rest) ≠ "" := by
        rw [ih hrest]
        exact fun hempty => hrest next List.mem_cons_self (join_eq_empty_iff.1 hempty).1
      rw [join_of_ne_empty hkey hpath, ofSegments, String.intercalate_cons_cons]
      rfl

/-! ### Reading a segment back -/

/-- A path goes on from its beginning in one way. -/
theorem join_left_cancel {path left right : String} (h : join path left = join path right) :
    left = right := by
  by_cases hpath : path = ""
  · rwa [hpath, join_empty_left, join_empty_left] at h
  have hextended : ∀ {segment : String}, segment ≠ "" → join path segment ≠ path := by
    intro segment hsegment heq
    have hlength := congrArg (fun text : String => text.toList.length) heq
    simp [join_of_ne_empty hpath hsegment, String.toList_append] at hlength
  by_cases hleft : left = ""
  · by_cases hright : right = ""
    · rw [hleft, hright]
    · rw [hleft, join_empty_right] at h
      exact absurd h.symm (hextended hright)
  · by_cases hright : right = ""
    · rw [hright, join_empty_right] at h
      exact absurd h (hextended hleft)
    · rw [join_of_ne_empty hpath hleft, join_of_ne_empty hpath hright] at h
      exact String.append_right_inj _ |>.1 h

/-- A segment whose end can be found in every path that begins with it: it has no point in it, or
it stands in quotes. -/
inductive IsReadable : String → Prop
  | bare {segment : String} (hempty : segment ≠ "") (hquote : '"' ∉ segment.toList)
      (hpoint : '.' ∉ segment.toList) : IsReadable segment
  | quoted {inner : String} (hquote : '"' ∉ inner.toList) : IsReadable ("\"" ++ inner ++ "\"")

theorem IsReadable.ne_empty {segment : String} (h : IsReadable segment) : segment ≠ "" := by
  cases h with
  | bare hempty => exact hempty
  | quoted => simp [String.append_eq_empty_iff]

theorem exists_toList_join (path segment : String) :
    ∃ rest, (join path segment).toList = path.toList ++ rest := by
  rw [join]
  split
  · rename_i hpath
    exact ⟨segment.toList, by rw [beq_iff_eq.1 hpath]; rfl⟩
  · split
    · exact ⟨[], (List.append_nil _).symm⟩
    · exact ⟨'.' :: segment.toList, by simp [String.toList_append]⟩

/-- What stands before the first of two equal characters is the same in equal texts. -/
private theorem eq_of_append_cons_eq {c : Char} {first second left right : List Char}
    (hfirst : c ∉ first) (hsecond : c ∉ second) (h : first ++ c :: left = second ++ c :: right) :
    first = second := by
  induction first generalizing second with
  | nil =>
      cases second with
      | nil => rfl
      | cons other rest =>
          obtain ⟨rfl, -⟩ := List.cons.inj h
          exact absurd List.mem_cons_self hsecond
  | cons head rest ih =>
      cases second with
      | nil =>
          obtain ⟨rfl, -⟩ := List.cons.inj h
          exact absurd List.mem_cons_self hfirst
      | cons other others =>
          obtain ⟨rfl, htail⟩ := List.cons.inj h
          rw [ih (List.not_mem_of_not_mem_cons hfirst) (List.not_mem_of_not_mem_cons hsecond) htail]

/-- A segment without points is the first segment of every path that it begins. -/
theorem exists_segments_join {path : String} (hempty : path ≠ "") (hpoint : '.' ∉ path.toList)
    (segment : String) : ∃ rest, segments (join path segment) = path :: rest := by
  by_cases hsegment : segment = ""
  · exact ⟨[], by rw [hsegment, join_empty_right, segments_of_not_mem hpoint]⟩
  · exact ⟨segments segment, by rw [segments_join hempty hsegment, segments_of_not_mem hpoint]; rfl⟩

/-- No path begins both with a segment in quotes and with one that has none. -/
private theorem join_quoted_ne {segment inner left right : String} (hempty : segment ≠ "")
    (hquote : '"' ∉ segment.toList) : join segment left ≠ join ("\"" ++ inner ++ "\"") right := by
  intro h
  obtain ⟨rest, hleft⟩ := exists_toList_join segment left
  obtain ⟨others, hright⟩ := exists_toList_join ("\"" ++ inner ++ "\"") right
  rw [h, hright] at hleft
  obtain ⟨c, chars, hchars⟩ := List.exists_cons_of_ne_nil (mt String.toList_eq_nil_iff.1 hempty)
  rw [hchars] at hleft hquote
  have hhead : '"' = c := by
    simpa [String.toList_append] using congrArg List.head? hleft
  exact hquote (hhead ▸ List.mem_cons_self)

/-- The first segment of a path is read back, and so is the path after it. -/
theorem IsReadable.join_inj {first second left right : String} (hfirst : IsReadable first)
    (hsecond : IsReadable second) (h : join first left = join second right) :
    first = second ∧ left = right := by
  have heq : first = second := by
    cases hfirst with
    | bare hempty hquote hpoint =>
        cases hsecond with
        | bare hempty' _ hpoint' =>
            obtain ⟨rest, hleft⟩ := exists_segments_join hempty hpoint left
            obtain ⟨others, hright⟩ := exists_segments_join hempty' hpoint' right
            rw [h, hright] at hleft
            exact (List.cons.inj hleft).1.symm
        | quoted => exact absurd h (join_quoted_ne hempty hquote)
    | @quoted inner hquote =>
        cases hsecond with
        | bare hempty hquote' => exact absurd h.symm (join_quoted_ne hempty hquote')
        | @quoted other hquote' =>
            obtain ⟨rest, hleft⟩ := exists_toList_join ("\"" ++ inner ++ "\"") left
            obtain ⟨others, hright⟩ := exists_toList_join ("\"" ++ other ++ "\"") right
            rw [h, hright] at hleft
            have hchars : inner.toList ++ '"' :: rest = other.toList ++ '"' :: others := by
              simpa [String.toList_append] using hleft.symm
            rw [String.toList_inj.1 (eq_of_append_cons_eq hquote hquote' hchars)]
  subst heq
  exact ⟨rfl, join_left_cancel h⟩

end Path

end Verdict
