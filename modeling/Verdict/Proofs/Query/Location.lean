import Mathlib.Data.List.Basic
import Verdict.Proofs.Query.Checks
import Verdict.Proofs.Query.Keys
import Verdict.Proofs.Text.Digit

/-!
# Property paths lead to the values that were checked

A property path is text, and the value that an evaluation stands on is moved apart from it: by one
key, by all keys of a path at once, to undefined where a path leads nowhere, and to an element of an
array. The two stay in step (`IsAt`). So every check of a query is made on the value that its
property path walks to (`Query.isLocated`), and with it every reason is given for the value that it
names.

Keys with a bracket are left out, since a document may hold an entry under a text such as `[0]`,
which in a path stands for an element. So are empty keys, which add nothing to a path.
-/

namespace Verdict

/-! ### Walking along a path -/

/-- The place in an array that a segment of a property path stands for. -/
def Path.place? (segment : String) : Option Nat :=
  match segment.toList with
  | '[' :: rest =>
    match rest.reverse with
    | ']' :: digits => if digits.isEmpty then none else Digit.number? 10 digits.reverse
    | _ => none
  | _ => none

namespace Value

/-- What a value holds at a segment: an element of an array at its place, else what is under the
segment as a key. -/
def at? (value : Value) (segment : String) : Option Value :=
  match value, Path.place? segment with
  | array items, some index => items[index]?
  | value, _ => value.get? segment

/-- The value that a property path walks to. -/
def walk? (value : Value) (path : String) : Option Value :=
  if path = "" then some value else (Path.segments path).foldlM at? value

end Value

theorem Path.element_toList (index : Nat) :
    (element index).toList = '[' :: (Nat.toDigits 10 index ++ [']']) := by
  simp [element, String.toList_append]

theorem Path.place?_element (index : Nat) : place? (element index) = some index := by
  have hne : (Nat.toDigits 10 index).reverse.isEmpty = false := by
    simp [Nat.toDigits_ne_nil]
  simp only [place?, element_toList, List.reverse_append, List.reverse_singleton,
    List.singleton_append, hne, Bool.false_eq_true, if_false, List.reverse_reverse]
  exact Digit.number?_toDigits (by decide) (by decide) index

theorem Path.place?_of_not_mem {segment : String} (h : '[' ∉ segment.toList) :
    place? segment = none := by
  rw [place?]
  split
  · rename_i rest htext
    exact absurd (htext ▸ List.mem_cons_self) h
  · rfl

/-- The segment of a place has digits and brackets in it and no other characters. -/
theorem Path.not_mem_element {c : Char} (hdigit : c.isDigit = false) (hopen : c ≠ '[')
    (hclose : c ≠ ']') (index : Nat) : c ∉ (element index).toList := by
  have hdigits := Digit.not_mem_toString hdigit index
  rw [Digit.toList_toString] at hdigits
  simp [element_toList, hopen, hclose, hdigits]

theorem Path.point_not_mem_element (index : Nat) : '.' ∉ (element index).toList :=
  not_mem_element (by decide) (by decide) (by decide) index

theorem Path.element_ne_empty (index : Nat) : element index ≠ "" := by
  intro h
  have hlist := element_toList index
  rw [h] at hlist
  cases hlist

theorem Path.isReadable_element (index : Nat) : IsReadable (element index) :=
  .bare (element_ne_empty index) (not_mem_element (by decide) (by decide) (by decide) index)
    (point_not_mem_element index)

theorem Path.element_inj {i j : Nat} (h : element i = element j) : i = j := by
  have hplace := place?_element i
  rw [h, place?_element] at hplace
  exact (Option.some.inj hplace).symm

namespace Value

theorem at?_of_place?_eq_none {segment : String} (h : Path.place? segment = none) (value : Value) :
    value.at? segment = value.get? segment := by
  rw [at?.eq_def, h]
  cases value <;> rfl

theorem at?_of_place?_eq_some {segment : String} {index : Nat} (h : Path.place? segment = some index)
    (items : List Value) : (array items).at? segment = items[index]? := by
  rw [at?.eq_def, h]

@[simp] theorem walk?_empty (value : Value) : value.walk? "" = some value := rfl

/-- Walking along a joined path is walking along its two sides, one after the other. -/
theorem walk?_join (value : Value) (path segment : String) :
    value.walk? (Path.join path segment) = (value.walk? path).bind (·.walk? segment) := by
  by_cases hpath : path = ""
  · rw [hpath, Path.join_empty_left, walk?_empty, Option.bind_some]
  · by_cases hsegment : segment = ""
    · rw [hsegment, Path.join_empty_right]
      exact (Option.bind_fun_some _).symm
    · have hjoin : Path.join path segment ≠ "" := fun h => hpath (Path.join_eq_empty_iff.1 h).1
      have hsides : (fun found : Value => found.walk? segment) =
          fun found => (Path.segments segment).foldlM at? found :=
        funext fun found => if_neg hsegment
      rw [walk?, if_neg hjoin, Path.segments_join hpath hsegment, List.foldlM_append, hsides, walk?,
        if_neg hpath]
      rfl

/-- Without brackets a path is walked along as it is resolved. -/
theorem walk?_eq_resolve? {path : String} (hpath : path ≠ "") (hbracket : '[' ∉ path.toList)
    (value : Value) : value.walk? path = value.resolve? path := by
  have hat : ∀ segment ∈ Path.segments path, Path.place? segment = none := fun segment hsegment =>
    Path.place?_of_not_mem fun hmem => hbracket (Path.mem_of_mem_segments hsegment hmem)
  rw [walk?, if_neg hpath, resolve?]
  generalize Path.segments path = segments at hat
  induction segments generalizing value with
  | nil => rfl
  | cons segment rest ih =>
      obtain ⟨hsegment, hrest⟩ := List.forall_mem_cons.1 hat
      rw [List.foldlM_cons, List.foldlM_cons, at?_of_place?_eq_none hsegment]
      cases value.get? segment with
      | none => rfl
      | some found => exact ih found hrest

theorem walk?_element (items : List Value) (index : Nat) :
    (array items).walk? (Path.element index) = items[index]? := by
  rw [walk?, if_neg (Path.element_ne_empty index),
    Path.segments_of_not_mem (Path.point_not_mem_element index), List.foldlM_cons,
    at?_of_place?_eq_some (Path.place?_element index)]
  exact Option.bind_fun_some _

/-- A value that is no container leads nowhere. -/
theorem resolve?_undefined (path : String) : undefined.resolve? path = none := by
  obtain ⟨segment, rest, hsegments⟩ := List.exists_cons_of_ne_nil
    (mt List.map_eq_nil_iff.1 (Path.splitPoints_ne_nil path.toList))
  rw [resolve?, Path.segments, hsegments]
  rfl

end Value

/-! ### Staying in step -/

/-- The value that stands for a path in a document: what the path walks to, and undefined if it
walks nowhere. -/
def IsAt (document : Value) (path : String) (value : Value) : Prop :=
  value = (document.walk? path).getD .undefined

namespace IsAt

variable {document value found : Value} {path : String}

theorem root (document : Value) : IsAt document "" document := rfl

theorem walk?_eq_of_array {items : List Value} (h : IsAt document path (.array items)) :
    document.walk? path = some (.array items) := by
  rw [IsAt] at h
  cases hwalk : document.walk? path with
  | none =>
      rw [hwalk] at h
      cases h
  | some value =>
      rw [hwalk] at h
      exact congrArg some h.symm

/-- The two ways that a field can go from a value that the path walks to, or from undefined. -/
theorem walk?_field (h : IsAt document path value) {field : Field} (hfield : field.IsNamed)
    (hbracket : '[' ∉ field.property.toList) :
    document.walk? (Path.join path field.property) = value.resolve? field.property := by
  rw [Value.walk?_join]
  rw [IsAt] at h
  cases hwalk : document.walk? path with
  | none =>
      rw [hwalk] at h
      rw [h]
      exact (Value.resolve?_undefined _).symm
  | some start =>
      rw [hwalk] at h
      rw [h]
      exact Value.walk?_eq_resolve? hfield.property_ne_empty hbracket start

theorem field (h : IsAt document path value) {field : Field} (hfield : field.IsNamed)
    (hbracket : '[' ∉ field.property.toList) (hfound : field.value? value = some found) :
    IsAt document (Path.join path field.property) found := by
  rw [IsAt, h.walk?_field hfield hbracket]
  cases field with
  | plain name =>
      rw [Field.property, hfield.resolve?_plain, show value.get? name = some found from hfound]
      rfl
  | dotted path => exact (Option.some.inj hfound).symm

theorem walk?_eq_none (h : IsAt document path value) {field : Field} (hfield : field.IsNamed)
    (hbracket : '[' ∉ field.property.toList) (hfound : field.value? value = none) :
    document.walk? (Path.join path field.property) = none := by
  rw [h.walk?_field hfield hbracket]
  cases field with
  | plain name => rwa [Field.property, hfield.resolve?_plain]
  | dotted path => cases hfound

theorem element {items : List Value} (h : IsAt document path (.array items)) {index : Nat}
    (hitem : items[index]? = some found) :
    IsAt document (Path.join path (Path.element index)) found := by
  rw [IsAt, Value.walk?_join, h.walk?_eq_of_array, Option.bind_some, Value.walk?_element, hitem]
  rfl

end IsAt

/-! ### Where checks are made -/

/-- A check is made on the value that its property path walks to; where nothing is found the path
walks nowhere, and where no element is found it walks to an empty array. -/
structure Probe.IsLocated (document : Value) (probe : Probe) : Prop where
  tested_eq : probe.tested.getD .undefined = (document.walk? probe.propertyPath).getD .undefined
  presence : probe.check = .presence → document.walk? probe.propertyPath = none
  element : probe.check = .element → document.walk? probe.propertyPath = some (.array [])

theorem Probe.isLocated_of_isAt {document value : Value} {p : Position} {check : Check}
    (h : IsAt document p.propertyPath value) (hpresence : check ≠ .presence)
    (helement : check ≠ .element) : (p.probe check value).IsLocated document where
  tested_eq := h
  presence heq := absurd heq hpresence
  element heq := absurd heq helement

/-- A field that can be walked to is named by a key without brackets. -/
def Condition.IsWalkable (condition : Condition) : Prop :=
  ∀ field, condition.field? = some field → field.IsNamed ∧ '[' ∉ field.property.toList

section

variable {document : Value}

theorem Probe.isLocated_of_missing {value : Value} {p : Position}
    (h : IsAt document p.propertyPath value) {field : Field} {query : String}
    (hfield : field.IsNamed ∧ '[' ∉ field.property.toList) (hfound : field.value? value = none) :
    ((p.extend field.property query).probe .presence none).IsLocated document := by
  have hwalk := h.walk?_eq_none hfield.1 hfield.2 hfound
  refine ⟨?_, fun _ => hwalk, fun heq => nomatch heq⟩
  exact congrArg (Option.getD · Value.undefined) hwalk.symm

mutual

theorem Query.isLocated (query : Query) {value : Value} {p : Position}
    (hwalkable : ∀ condition ∈ Visit.keys (query.visits p.queryPath p.depth), condition.IsWalkable)
    (h : IsAt document p.propertyPath value) :
    ∀ probe ∈ query.probes value p, probe.IsLocated document := by
  match query with
  | .all conditions =>
      rw [Query.probes]
      split
      · rename_i hdepth
        rw [Query.visits, Visit.keys_enter_of_lt hdepth] at hwalkable
        split
        · have hnode : (p.descend.probe .noKeys value).IsLocated document :=
            Probe.isLocated_of_isAt h nofun nofun
          exact List.forall_mem_singleton.2 hnode
        · exact isLocated_conditions conditions (p := p.descend) hwalkable h
      · exact fun _ hmem => nomatch hmem
termination_by structural query

theorem isLocated_conditions (conditions : List Condition) {value : Value} {p : Position}
    (hwalkable : ∀ condition ∈ Visit.keys (visitsOfConditions conditions p.queryPath p.depth),
      condition.IsWalkable)
    (h : IsAt document p.propertyPath value) :
    ∀ probe ∈ probesOfConditions conditions value p, probe.IsLocated document := by
  match conditions with
  | [] => exact fun _ hmem => nomatch hmem
  | condition :: rest =>
      rw [visitsOfConditions, Visit.keys_append] at hwalkable
      rw [probesOfConditions, List.forall_mem_append]
      refine ⟨condition.isLocated (fun c hc => hwalkable c (List.mem_append_left _ hc)) h, ?_⟩
      exact isLocated_conditions rest (fun c hc => hwalkable c (List.mem_append_right _ hc)) h
termination_by structural conditions

theorem Condition.isLocated (condition : Condition) {value : Value} {p : Position}
    (hwalkable : ∀ c ∈ Visit.keys (condition.visits p.queryPath p.depth), c.IsWalkable)
    (h : IsAt document p.propertyPath value) :
    ∀ probe ∈ condition.probes value p, probe.IsLocated document := by
  have hself := hwalkable condition (condition.mem_keys_visits _ _)
  match condition with
  | .unknownOperator name => exact fun _ hmem => nomatch hmem
  | .malformed operator fault => exact fun _ hmem => nomatch hmem
  | .leaf field expected =>
      have hfield := hself field rfl
      rw [Condition.probes]
      split
      · rename_i found hfound
        have hat := h.field hfield.1 hfield.2 hfound
        exact List.forall_mem_singleton.2
          (Probe.isLocated_of_isAt (p := p.extend field.property field.query) hat nofun nofun)
      · rename_i hfound
        exact List.forall_mem_singleton.2 (Probe.isLocated_of_missing h hfield hfound)
  | .node field query =>
      rw [Condition.visits, Visit.keys_key_cons] at hwalkable
      have hfield := hself field rfl
      rw [Condition.probes]
      split
      · rename_i found hfound
        exact query.isLocated (p := p.extend field.property field.query)
          (List.forall_mem_cons.1 hwalkable).2 (h.field hfield.1 hfield.2 hfound)
      · rename_i hfound
        exact List.forall_mem_singleton.2 (Probe.isLocated_of_missing h hfield hfound)
  | .clauses junction queries =>
      rw [Condition.visits, Visit.keys_key_cons] at hwalkable
      exact isLocated_clauses queries (p := p.withQuery junction.operator.name)
        (List.forall_mem_cons.1 hwalkable).2 h
  | .negation query =>
      rw [Condition.visits, Visit.keys_key_cons] at hwalkable
      exact query.isLocated (p := p.withQuery Operator.not.name)
        (List.forall_mem_cons.1 hwalkable).2 h
  | .test leafTest operand =>
      exact List.forall_mem_singleton.2 (Probe.isLocated_of_isAt
        (p := p.withQuery leafTest.operator.name) h nofun nofun)
  | .membership wanted candidates =>
      exact List.forall_mem_singleton.2 (Probe.isLocated_of_isAt
        (p := p.withQuery (if wanted then Operator.isIn else .notIn).name) h nofun nofun)
  | .element query =>
      rw [Condition.visits, Visit.keys_key_cons] at hwalkable
      rw [Condition.probes.eq_def]
      refine List.forall_mem_cons.2 ⟨Probe.isLocated_of_isAt
        (p := p.withQuery Operator.elemMatch.name) h nofun nofun, ?_⟩
      split
      · exact List.forall_mem_singleton.2 ⟨h, nofun, fun _ => h.walk?_eq_of_array⟩
      · intro probe hprobe
        obtain ⟨⟨item, index⟩, hplace, hmem⟩ := List.mem_flatMap.1 hprobe
        have hitem := List.mk_mem_zipIdx_iff_getElem?.1 hplace
        exact query.isLocated
          (p := (p.withQuery Operator.elemMatch.name).withProperty (Path.element index))
          (List.forall_mem_cons.1 hwalkable).2 (h.element hitem) probe hmem
      · exact fun _ hmem => nomatch hmem
termination_by structural condition

theorem isLocated_clauses (queries : List Query) {value : Value} {p : Position} {index : Nat}
    (hwalkable : ∀ condition ∈ Visit.keys (visitsOfQueries index queries p.queryPath p.depth),
      condition.IsWalkable)
    (h : IsAt document p.propertyPath value) :
    ∀ probe ∈ probesOfClauses queries value p index, probe.IsLocated document := by
  match queries with
  | [] => exact fun _ hmem => nomatch hmem
  | query :: rest =>
      rw [visitsOfQueries, Visit.keys_append] at hwalkable
      rw [probesOfClauses, List.forall_mem_append]
      refine ⟨query.isLocated (p := p.withQuery (Path.element index))
        (fun c hc => hwalkable c (List.mem_append_left _ hc)) h, ?_⟩
      exact isLocated_clauses rest (fun c hc => hwalkable c (List.mem_append_right _ hc)) h
termination_by structural queries

end

end

/-! ### Documents -/

theorem isWalkable_read {entry : String × Value} (h : entry.1 ≠ "" ∧ '[' ∉ entry.1.toList) :
    (Condition.read entry).IsWalkable := by
  intro field hfield
  have hkey := classify_of_field?_read hfield
  refine ⟨Key.isNamed_of_classify hkey h.1, ?_⟩
  rw [Key.property_of_classify hkey]
  exact h.2

/-- Only the check for a value gives the reason that there is none. -/
theorem Check.eq_presence_of_kind? {check : Check} (h : check.kind? = some .hasNoPath) :
    check = .presence := by
  cases check with
  | presence => rfl
  | test leafTest operand => cases leafTest <;> cases h
  | membership wanted candidates => cases wanted <;> cases h
  | _ => cases h

theorem Check.eq_element_of_kind? {check : Check} (h : check.kind? = some .elementMatch) :
    check = .element := by
  cases check with
  | element => rfl
  | test leafTest operand => cases leafTest <;> cases h
  | membership wanted candidates => cases wanted <;> cases h
  | _ => cases h

/-- Every check of a query is made on the value that its property path walks to, or on undefined if
it walks nowhere. The findings of a judgment, and with them the reasons of its explanation, are those
of such checks, in order and with what comes of the check on that value. A reason for a missing value
names a path that walks nowhere, one for a missing element an empty array, and a rejection for want
of an array no array. -/
theorem reasons_located {query : Document}
    (hkeys : ∀ entry ∈ queryEntries query, entry.1 ≠ "" ∧ '[' ∉ entry.1.toList) (value : Value) :
    (∀ probe ∈ queryProbes query value,
      probe.tested.getD .undefined = (value.walk? probe.propertyPath).getD .undefined) ∧
    (∀ explanation, explain query value = .ok explanation →
      (∃ judgment, (judgeFrom query value .root).outcome = .ok judgment ∧
        judgment.explanation = explanation ∧
        FoundBy judgment.findings (queryProbes query value)) ∧
      ∀ reason ∈ explanation.reasons,
        (reason.kind = .hasNoPath → value.walk? reason.propertyPath = none) ∧
        (reason.kind = .elementMatch → value.walk? reason.propertyPath = some (.array []))) ∧
    ∀ operator path, explain query value = .error (.notAnArray operator path) →
      ∀ items, value.walk? path ≠ some (.array items) := by
  have hwalkable := forall_mem_keys_ofDocument fun entry hentry =>
    isWalkable_read (hkeys entry hentry)
  have hlocated : ∀ probe ∈ queryProbes query value, probe.IsLocated value :=
    (Query.ofDocument query).isLocated (p := .root) hwalkable (.root value)
  refine ⟨fun probe hprobe => (hlocated probe hprobe).tested_eq, ?_, ?_⟩
  · intro explanation hok
    rw [explain, ← explanation_judgeFrom, Trial.outcome_map] at hok
    obtain ⟨judgment, hjudgment, rfl⟩ := map_eq_ok.1 hok
    have hfound : FoundBy judgment.findings (queryProbes query value) :=
      (Query.ofDocument query).findings_foundBy value .root judgment hjudgment
    refine ⟨⟨judgment, hjudgment, rfl, hfound⟩, ?_⟩
    intro reason hreason
    obtain ⟨finding, hfinding, rfl⟩ := List.mem_map.1 hreason
    have hmem : (finding.reason, finding.held) ∈ (queryProbes query value).filterMap Probe.finding? :=
      hfound.subset (List.mem_map.2 ⟨finding, hfinding, rfl⟩)
    obtain ⟨probe, hprobe, hgives⟩ := List.mem_filterMap.1 hmem
    obtain ⟨kind, hkind, heq⟩ := Option.map_eq_some_iff.1 hgives
    have hreason : finding.reason = ⟨probe.propertyPath, probe.queryPath, kind⟩ :=
      (congrArg Prod.fst heq).symm
    rw [hreason]
    constructor
    · rintro rfl
      exact (hlocated probe hprobe).presence (Check.eq_presence_of_kind? hkind)
    · rintro rfl
      exact (hlocated probe hprobe).element (Check.eq_element_of_kind? hkind)
  · intro operator path herror items hwalk
    obtain ⟨probe, hprobe, rfl, found, hfound, hnone⟩ := (Query.ofDocument query).asksForArray herror
    have htested := (hlocated probe hprobe).tested_eq
    rw [hfound, hwalk] at htested
    exact hnone items htested

/-- Below a negation, for a path that ends early and for an empty array inside of an element. -/
theorem reasons_located_negation :
    (∀ entry ∈ queryEntries
        [("$not", .document [("$or", .array [.document [("a.b", .document [("c", .null)])],
          .document [("d", .document
            [("$elemMatch", .document [("e", .document [("$elemMatch", .document [])])])])]])])],
      entry.1 ≠ "" ∧ '[' ∉ entry.1.toList) ∧
    explain
        [("$not", .document [("$or", .array [.document [("a.b", .document [("c", .null)])],
          .document [("d", .document
            [("$elemMatch", .document [("e", .document [("$elemMatch", .document [])])])])]])])]
        (.document [("d", .array [.document [("e", .array [])]])]) =
      .ok ⟨true, [⟨"a.b.c", "$not.$or.[0].\"a.b\".c", .hasNoPath⟩,
        ⟨"d.[0].e", "$not.$or.[1].d.$elemMatch.e.$elemMatch", .elementMatch⟩]⟩ ∧
    (Value.document [("d", .array [.document [("e", .array [])]])]).walk? "a.b.c" = none ∧
    (Value.document [("d", .array [.document [("e", .array [])]])]).walk? "d.[0].e" =
      some (.array []) := by
  refine ⟨?hkeys, ?hok, ?_⟩
  · decide
  · decide
  · obtain ⟨-, hreasons, -⟩ := reasons_located ?hkeys
      (.document [("d", .array [.document [("e", .array [])]])])
    obtain ⟨-, hkinds⟩ := hreasons _ ?hok
    exact ⟨(hkinds _ List.mem_cons_self).1 rfl,
      (hkinds _ (List.mem_cons_of_mem _ List.mem_cons_self)).2 rfl⟩

end Verdict
