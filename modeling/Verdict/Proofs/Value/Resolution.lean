import Verdict.Proofs.Path

/-!
# Resolving joined paths

Resolving a path follows its segments one after the other, and a point between two paths cuts nothing
but them apart, so the whole is resolved by resolving the second path where the first one leads
(`Value.resolve?_append_point`). Joining puts such a point between two paths unless one of them is
empty. An empty path joins as the place itself but resolves as the key that is empty, and so the law
for joined paths needs both sides to be there (`Value.resolve?_join`).
-/

namespace Verdict.Value

theorem resolve?_append_point (value : Value) (left right : String) :
    value.resolve? (left ++ "." ++ right) = (value.resolve? left).bind (·.resolve? right) := by
  rw [resolve?, Path.segments_append_point, List.foldlM_append]
  rfl

theorem resolve?_join {path segment : String} (hpath : path ≠ "") (hsegment : segment ≠ "")
    (value : Value) :
    value.resolve? (Path.join path segment) = (value.resolve? path).bind (·.resolve? segment) := by
  rw [Path.join_of_ne_empty hpath hsegment, resolve?_append_point]

/-- The path of an empty side is not followed when it is joined, but it is when it is resolved. -/
example : ((document [("a", .null)]).resolve? (Path.join "" "a")).isSome ∧
    ((document [("a", .null)]).resolve? "").isNone := by decide

/-- Keys without points are looked up one after the other. -/
theorem resolve?_ofSegments {keys : List String} (hkeys : keys ≠ [])
    (hpoints : ∀ key ∈ keys, '.' ∉ key.toList) (value : Value) :
    value.resolve? (Path.ofSegments keys) =
      keys.foldl (fun found key => found.bind (·.get? key)) (some value) := by
  rw [resolve?, Path.segments_ofSegments hkeys hpoints, List.foldlM_eq_foldl]
  rfl

/-- Paths are joined as in a monoid, with the empty path as its unit. Two paths with a point between
them resolve as the second one after the first, whatever points they have themselves, and so do
joined paths that are not empty; the path of keys without points resolves as the keys are looked up
one after the other. -/
theorem join_monoid_and_resolution :
    (∀ a b c, Path.join (Path.join a b) c = Path.join a (Path.join b c)) ∧
    (∀ a, Path.join "" a = a ∧ Path.join a "" = a) ∧
    (∀ (value : Value) (p q : String),
      value.resolve? (p ++ "." ++ q) = (value.resolve? p).bind fun found => found.resolve? q) ∧
    (∀ (value : Value) (p q : String), p ≠ "" → q ≠ "" →
      value.resolve? (Path.join p q) = (value.resolve? p).bind fun found => found.resolve? q) ∧
    ∀ (value : Value) (keys : List String), keys ≠ [] → (∀ key ∈ keys, '.' ∉ key.toList) →
      value.resolve? (".".intercalate keys) =
        keys.foldl (fun found key => found.bind fun held => held.get? key) (some value) := by
  refine ⟨Path.join_assoc, fun a => ⟨Path.join_empty_left a, Path.join_empty_right a⟩,
    resolve?_append_point, ?_, ?_⟩
  · intro value p q hp hq
    exact resolve?_join hp hq value
  · intro value keys hkeys hpoints
    exact resolve?_ofSegments hkeys hpoints value

/-- Paths with points at their ends, which make keys that are empty, and a place in an array. -/
theorem join_monoid_and_resolution_emptyKeys :
    "a." ≠ "" ∧ ".0" ≠ "" ∧ ["a", "", "", "0"] ≠ [] ∧
    (∀ key ∈ ["a", "", "", "0"], '.' ∉ key.toList) ∧
    Path.join "a." ".0" = ".".intercalate ["a", "", "", "0"] ∧
    (document [("a", .document [("", .document [("", .array [.bool true])])])]).resolve?
        (Path.join "a." ".0") = some (.bool true) ∧
    (document [("a", .document [("", .document [("", .array [.bool true])])])]).resolve?
        (".".intercalate ["a", "", "", "0"]) = some (.bool true) := by
  have hpoints : ∀ key ∈ ["a", "", "", "0"], '.' ∉ key.toList := by decide
  refine ⟨by decide, by decide, by decide, hpoints, by decide, ?_, ?_⟩
  · rw [join_monoid_and_resolution.2.2.2.1 _ "a." ".0" (by decide) (by decide)]
    rfl
  · rw [join_monoid_and_resolution.2.2.2.2 _ ["a", "", "", "0"] (by decide) hpoints]
    rfl

end Verdict.Value
