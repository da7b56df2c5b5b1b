import Mathlib.Data.List.Forall2
import Verdict.Proofs.Query.Meaning
import Verdict.Proofs.Query.Reasons

/-!
# Reasons suffice for their verdict

Two documents that agree on the property path of every reason for a verdict have the same verdict,
whatever else is in them (`matched_eq_of_agreesOn_reasons`). Agreement on a path is agreement on how
far it can be followed, and on the value at its end if there is an end. So a reason for a missing
entry pins down that it is missing, and where.

Two evaluations are compared condition by condition. They stand on different values but at the same
place, and agreement of the documents on a path below that place is agreement of the two values
below it (`AgreeBelow`). The second evaluation may stop at another clause than the first; what it
stops at then has the verdict of the first.
-/

namespace Verdict

/-! ### Agreement on a path -/

namespace Value

/-- The value at the end of a list of keys, each followed from the value reached before. -/
def follow? (value : Value) (keys : List String) : Option Value :=
  keys.foldlM (fun value key => value.get? key) value

/-- How many keys of a list can be followed. -/
def steps (value : Value) : List String → Nat
  | [] => 0
  | key :: keys =>
    match value.get? key with
    | some found => found.steps keys + 1
    | none => 0

/-- The same number of keys can be followed from two values, and if all can, to the same end. -/
structure AgreesAlong (a b : Value) (keys : List String) : Prop where
  steps_eq : a.steps keys = b.steps keys
  follow?_eq_of_full : a.steps keys = keys.length → a.follow? keys = b.follow? keys

/-- Two values agree on what a path leads to, or fails to lead to. The empty path leads to all of
a value. -/
def AgreesOn (a b : Value) (path : String) : Prop :=
  if path = "" then a = b else a.AgreesAlong b (Path.segments path)

theorem follow?_append (value : Value) (xs ys : List String) :
    value.follow? (xs ++ ys) = (value.follow? xs).bind (·.follow? ys) := List.foldlM_append

theorem steps_of_follow?_eq_some {value found : Value} {xs : List String}
    (h : value.follow? xs = some found) (ys : List String) :
    value.steps (xs ++ ys) = xs.length + found.steps ys := by
  induction xs generalizing value with
  | nil =>
      obtain rfl := Option.some.inj h
      rw [List.nil_append, List.length_nil, Nat.zero_add]
  | cons key keys ih =>
      rw [follow?, List.foldlM_cons] at h
      obtain ⟨next, hnext, hkeys⟩ := Option.bind_eq_some_iff.1 h
      have hrest := ih hkeys
      simp only [List.cons_append, steps, hnext, hrest, List.length_cons]
      omega

theorem steps_lt_of_follow?_eq_none {value : Value} {xs : List String}
    (h : value.follow? xs = none) (ys : List String) : value.steps (xs ++ ys) < xs.length := by
  induction xs generalizing value with
  | nil => cases h
  | cons key keys ih =>
      rw [follow?, List.foldlM_cons] at h
      rw [List.cons_append, steps, List.length_cons]
      cases hnext : value.get? key with
      | none => exact Nat.succ_pos _
      | some next =>
          rw [hnext] at h
          exact Nat.succ_lt_succ (ih h)

theorem steps_eq_length_iff {value : Value} {keys : List String} :
    value.steps keys = keys.length ↔ (value.follow? keys).isSome := by
  cases h : value.follow? keys with
  | some found =>
      have hsteps := steps_of_follow?_eq_some h []
      rw [List.append_nil] at hsteps
      simp [hsteps, steps]
  | none =>
      have hsteps := steps_lt_of_follow?_eq_none h []
      rw [List.append_nil] at hsteps
      simp [Nat.ne_of_lt hsteps]

namespace AgreesAlong

variable {a b : Value} {keys xs ys : List String}

theorem follow?_eq (h : a.AgreesAlong b keys) : a.follow? keys = b.follow? keys := by
  by_cases hfull : a.steps keys = keys.length
  · exact h.follow?_eq_of_full hfull
  · have hfull' : b.steps keys ≠ keys.length := by rwa [← h.steps_eq]
    rw [steps_eq_length_iff, Bool.not_eq_true, Option.isSome_eq_false_iff,
      Option.isNone_iff_eq_none] at hfull
    rw [ne_eq, steps_eq_length_iff, Bool.not_eq_true, Option.isSome_eq_false_iff,
      Option.isNone_iff_eq_none] at hfull'
    rw [hfull, hfull']

/-- As the numbers of steps are equal, the first keys lead somewhere from both values or from
neither. -/
theorem of_append (h : a.AgreesAlong b (xs ++ ys)) :
    a.follow? xs = none ∧ b.follow? xs = none ∨
      ∃ v w, a.follow? xs = some v ∧ b.follow? xs = some w ∧ v.AgreesAlong w ys := by
  have hsteps := h.steps_eq
  cases ha : a.follow? xs with
  | none =>
      have hlt := steps_lt_of_follow?_eq_none ha ys
      cases hb : b.follow? xs with
      | none => exact .inl ⟨rfl, rfl⟩
      | some w =>
          have hge := steps_of_follow?_eq_some hb ys
          omega
  | some v =>
      have hge := steps_of_follow?_eq_some ha ys
      cases hb : b.follow? xs with
      | none =>
          have hlt := steps_lt_of_follow?_eq_none hb ys
          omega
      | some w =>
          have hge' := steps_of_follow?_eq_some hb ys
          refine .inr ⟨v, w, rfl, rfl, by omega, ?_⟩
          intro hfull
          have hwhole := h.follow?_eq_of_full (by rw [List.length_append]; omega)
          rwa [follow?_append, follow?_append, ha, hb] at hwhole

end AgreesAlong

theorem AgreesOn.refl (value : Value) (path : String) : value.AgreesOn value path := by
  rw [AgreesOn]
  split
  · rfl
  · exact ⟨rfl, fun _ => rfl⟩

/-- Agreement on a joined path is agreement, on its second side, of what the first side leads to. -/
theorem AgreesOn.of_join {a b : Value} {path rest : String} (hpath : path ≠ "")
    (h : a.AgreesOn b (Path.join path rest)) :
    a.resolve? path = none ∧ b.resolve? path = none ∨
      ∃ v w, a.resolve? path = some v ∧ b.resolve? path = some w ∧ v.AgreesOn w rest := by
  have hjoin : Path.join path rest ≠ "" := fun hempty => hpath (Path.join_eq_empty_iff.1 hempty).1
  rw [AgreesOn, if_neg hjoin] at h
  by_cases hrest : rest = ""
  · rw [hrest, Path.join_empty_right] at h
    have heq : a.resolve? path = b.resolve? path := h.follow?_eq
    cases ha : a.resolve? path with
    | none => exact .inl ⟨rfl, heq ▸ ha⟩
    | some v => exact .inr ⟨v, v, rfl, heq ▸ ha, .refl v rest⟩
  · rw [Path.segments_join hpath hrest] at h
    refine h.of_append.imp_right ?_
    rintro ⟨v, w, hv, hw, hagrees⟩
    exact ⟨v, w, hv, hw, by rwa [AgreesOn, if_neg hrest]⟩

end Value

/-- From values that agree below a field, the field leads to values that agree, or to none. -/
theorem Field.agreesOn_of_join {field : Field} (hfield : field.IsNamed) {a b : Value}
    {rest : String} (h : a.AgreesOn b (Path.join field.property rest)) :
    field.value? a = none ∧ field.value? b = none ∨
      ∃ v w, field.value? a = some v ∧ field.value? b = some w ∧ v.AgreesOn w rest := by
  have hresolve := h.of_join hfield.property_ne_empty
  cases field with
  | plain name =>
      rwa [property, hfield.resolve?_plain, hfield.resolve?_plain] at hresolve
  | dotted path =>
      right
      obtain ⟨ha, hb⟩ | ⟨v, w, ha, hb, hagrees⟩ := hresolve
      · refine ⟨.undefined, .undefined, ?_, ?_, .refl _ rest⟩
        · exact congrArg (fun found => some (found.getD Value.undefined)) ha
        · exact congrArg (fun found => some (found.getD Value.undefined)) hb
      · refine ⟨v, w, ?_, ?_, hagrees⟩
        · exact congrArg (fun found => some (found.getD Value.undefined)) ha
        · exact congrArg (fun found => some (found.getD Value.undefined)) hb

/-! ### Two evaluations at one place -/

/-- Two documents that agree on a path below a place have, at that place, values that agree on the
rest of the path. -/
def AgreeBelow (d d' : Value) (place : String) (value value' : Value) : Prop :=
  ∀ rest, d.AgreesOn d' (Path.join place rest) → value.AgreesOn value' rest

section

variable {d d' : Value}

theorem AgreeBelow.root : AgreeBelow d d' "" d d' := fun _ h => h

/-- Documents that agree on the place itself have one value there. -/
theorem AgreeBelow.eq {place : String} {value value' : Value} (h : AgreeBelow d d' place value value')
    (hplace : d.AgreesOn d' place) : value = value' := by
  have hagrees := h "" (by rwa [Path.join_empty_right])
  rwa [Value.AgreesOn, if_pos rfl] at hagrees

theorem AgreeBelow.field {place : String} {value value' found found' : Value}
    (h : AgreeBelow d d' place value value') {field : Field} (hfield : field.IsNamed)
    (hfound : field.value? value = some found) (hfound' : field.value? value' = some found') :
    AgreeBelow d d' (Path.join place field.property) found found' := by
  intro rest hrest
  rw [Path.join_assoc] at hrest
  obtain ⟨hnone, -⟩ | ⟨v, w, hv, hw, hagrees⟩ := Field.agreesOn_of_join hfield (h _ hrest)
  · rw [hnone] at hfound
    cases hfound
  · rw [hv] at hfound
    rw [hw] at hfound'
    cases hfound
    cases hfound'
    exact hagrees

/-- Documents agree on the property paths of all reasons of an explanation. -/
def AgreeOnReasons (d d' : Value) (explanation : Explanation) : Prop :=
  ∀ reason ∈ explanation.reasons, d.AgreesOn d' reason.propertyPath

/-- The verdict of a second explanation is that of the first, if the documents agree on the reasons
of the first. -/
def FollowsFrom (d d' : Value) (first second : Explanation) : Prop :=
  AgreeOnReasons d d' first → second.matched = first.matched

/-- Parts that hold are all reported, and of parts that fail one suffices. -/
theorem FollowsFrom.all {parts parts' : List Explanation}
    (h : List.Forall₂ (FollowsFrom d d') parts parts') :
    FollowsFrom d d' (.all parts) (.all parts') := by
  intro hagree
  rw [Explanation.matched_all, Explanation.matched_all]
  cases hall : parts.all (·.matched) with
  | true =>
      have hreasons : ∀ part ∈ parts, AgreeOnReasons d d' part := by
        intro part hpart reason hreason
        apply hagree
        rw [Explanation.all, if_pos hall]
        exact List.mem_flatMap.2 ⟨part, hpart, hreason⟩
      clear hagree
      induction h with
      | nil => rfl
      | cons hfirst hrest ih =>
          obtain ⟨hpart, hparts⟩ := List.forall_mem_cons.1 hreasons
          rw [List.all_cons, Bool.and_eq_true] at hall
          rw [List.all_cons, hfirst hpart, hall.1, ih hall.2 hparts, Bool.true_and]
  | false =>
      have hreasons : ∀ part ∈ parts, part.matched = false → AgreeOnReasons d d' part := by
        intro part hpart hfails reason hreason
        apply hagree
        rw [Explanation.all, hall]
        refine List.mem_flatMap.2 ⟨part, List.mem_filter.2 ⟨hpart, ?_⟩, hreason⟩
        rw [hfails, Bool.not_false]
      clear hagree
      induction h with
      | nil => cases hall
      | @cons part part' _ _ hfirst hrest ih =>
          obtain ⟨hpart, hparts⟩ := List.forall_mem_cons.1 hreasons
          cases hmatched : part.matched with
          | true =>
              rw [List.all_cons, hmatched, Bool.true_and] at hall
              rw [List.all_cons, ih hall hparts, Bool.and_false]
          | false => rw [List.all_cons, hfirst (hpart hmatched), hmatched, Bool.false_and]

/-- A condition whose reasons tell all that its verdict depends on: its field can be walked to, it
has something to say, and it does not look at elements. -/
structure Condition.IsTelling (condition : Condition) : Prop where
  isNamed_field : ∀ field, condition.field? = some field → field.IsNamed
  hasClauses : condition.HasClauses
  operator?_ne : condition.operator? ≠ some .elemMatch

mutual

theorem Query.followsFrom (query : Query) {value value' : Value} {p : Position}
    {first second : Explanation}
    (htelling : ∀ condition ∈ Visit.keys (query.visits p.queryPath p.depth), condition.IsTelling)
    (hbelow : AgreeBelow d d' p.propertyPath value value')
    (hfirst : (query.evaluate value p).outcome = .ok first)
    (hsecond : (query.evaluate value' p).outcome = .ok second) : FollowsFrom d d' first second := by
  match query with
  | .all conditions =>
      rw [Query.outcome_evaluate] at hfirst hsecond
      by_cases hdepth : p.depth < maxDepth
      · rw [if_pos hdepth] at hfirst hsecond
        rw [Query.visits, Visit.keys_enter_of_lt hdepth] at htelling
        by_cases hempty : conditions = []
        · rw [if_pos hempty] at hfirst hsecond
          cases hfirst
          cases hsecond
          exact fun _ => rfl
        · rw [if_neg hempty] at hfirst hsecond
          obtain ⟨parts, hparts, rfl⟩ := map_eq_ok.1 hfirst
          obtain ⟨parts', hparts', rfl⟩ := map_eq_ok.1 hsecond
          exact .all (followsFrom_conditions conditions (p := p.descend) htelling hbelow hparts hparts')
      · rw [if_neg hdepth] at hfirst
        cases hfirst
termination_by structural query

theorem followsFrom_conditions (conditions : List Condition) {value value' : Value} {p : Position}
    {parts parts' : List Explanation}
    (htelling : ∀ condition ∈ Visit.keys (visitsOfConditions conditions p.queryPath p.depth),
      condition.IsTelling)
    (hbelow : AgreeBelow d d' p.propertyPath value value')
    (hparts : (evaluateConditions conditions value p).outcome = .ok parts)
    (hparts' : (evaluateConditions conditions value' p).outcome = .ok parts') :
    List.Forall₂ (FollowsFrom d d') parts parts' := by
  match conditions with
  | [] =>
      cases hparts
      cases hparts'
      exact .nil
  | condition :: rest =>
      rw [visitsOfConditions, Visit.keys_append] at htelling
      obtain ⟨part, others, hpart, hothers, rfl⟩ := outcome_evaluateConditions_cons_ok.1 hparts
      obtain ⟨part', others', hpart', hothers', rfl⟩ := outcome_evaluateConditions_cons_ok.1 hparts'
      refine .cons ?_ ?_
      · exact condition.followsFrom (fun c hc => htelling c (List.mem_append_left _ hc)) hbelow hpart
          hpart'
      · exact followsFrom_conditions rest (fun c hc => htelling c (List.mem_append_right _ hc)) hbelow
          hothers hothers'
termination_by structural conditions

theorem Condition.followsFrom (condition : Condition) {value value' : Value} {p : Position}
    {first second : Explanation}
    (htelling : ∀ c ∈ Visit.keys (condition.visits p.queryPath p.depth), c.IsTelling)
    (hbelow : AgreeBelow d d' p.propertyPath value value')
    (hfirst : (condition.evaluate value p).outcome = .ok first)
    (hsecond : (condition.evaluate value' p).outcome = .ok second) :
    FollowsFrom d d' first second := by
  have hself := htelling condition (condition.mem_keys_visits _ _)
  match condition with
  | .unknownOperator name =>
      rw [Condition.outcome_evaluate_unknownOperator] at hfirst
      cases hfirst
  | .malformed operator fault =>
      rw [Condition.outcome_evaluate_malformed] at hfirst
      cases hfirst
  | .leaf field expected =>
      have hfield := hself.isNamed_field field rfl
      rw [Condition.outcome_evaluate_leaf] at hfirst hsecond
      -- found or not, the reason is at the field itself
      have hreason : AgreeOnReasons d d' first →
          d.AgreesOn d' (Path.join p.propertyPath field.property) := by
        intro hagree
        split at hfirst <;> cases hfirst <;> exact hagree _ List.mem_cons_self
      intro hagree
      have hvalues := hbelow _ (hreason hagree)
      rw [← Path.join_empty_right field.property] at hvalues
      obtain ⟨hnone, hnone'⟩ | ⟨found, found', hfound, hfound', heq⟩ :=
        Field.agreesOn_of_join hfield hvalues
      · rw [hnone] at hfirst
        rw [hnone'] at hsecond
        cases hfirst
        cases hsecond
        rfl
      · rw [Value.AgreesOn, if_pos rfl] at heq
        subst heq
        rw [hfound] at hfirst
        rw [hfound'] at hsecond
        cases hfirst
        cases hsecond
        rfl
  | .node field query =>
      rw [Condition.visits, Visit.keys_key_cons] at htelling
      have hparts := (List.forall_mem_cons.1 htelling).2
      have hfield := hself.isNamed_field field rfl
      rw [Condition.outcome_evaluate_node] at hfirst hsecond
      intro hagree
      cases hfound : field.value? value with
      | none =>
          rw [hfound] at hfirst
          cases hfirst
          have hplace := hagree _ List.mem_cons_self
          have hvalues := hbelow _ hplace
          rw [← Path.join_empty_right field.property] at hvalues
          obtain ⟨-, hnone'⟩ | ⟨found, -, hsome, -⟩ := Field.agreesOn_of_join hfield hvalues
          · rw [hnone'] at hsecond
            cases hsecond
            rfl
          · rw [hfound] at hsome
            cases hsome
      | some found =>
          rw [hfound] at hfirst
          -- any one of the reasons shows that the second document has the field as well
          have hreasons := query.ensures_reasons found _
            (fun c hc => (hparts c hc).hasClauses) first hfirst
          obtain ⟨reason, hreason⟩ := List.exists_mem_of_ne_nil _ hreasons
          obtain ⟨rest, hrest⟩ := query.ensures_below found _ first hfirst reason hreason
          have hplace := hagree reason hreason
          rw [hrest] at hplace
          change d.AgreesOn d' (Path.join (Path.join p.propertyPath field.property) rest) at hplace
          rw [Path.join_assoc] at hplace
          obtain ⟨hnone, -⟩ | ⟨_, found', -, hfound', -⟩ :=
            Field.agreesOn_of_join hfield (hbelow _ hplace)
          · rw [hfound] at hnone
            cases hnone
          · rw [hfound'] at hsecond
            exact query.followsFrom hparts (hbelow.field hfield hfound hfound') hfirst hsecond hagree
  | .clauses junction queries =>
      rw [Condition.visits, Visit.keys_key_cons] at htelling
      have hparts := (List.forall_mem_cons.1 htelling).2
      rw [Condition.outcome_evaluate_clauses] at hfirst hsecond
      exact followsFrom_clauses queries (p := p.withQuery junction.operator.name) hparts hbelow hfirst
        hsecond
  | .negation query =>
      rw [Condition.visits, Visit.keys_key_cons] at htelling
      have hparts := (List.forall_mem_cons.1 htelling).2
      rw [Condition.outcome_evaluate_negation] at hfirst hsecond
      obtain ⟨inner, hinner, rfl⟩ := map_eq_ok.1 hfirst
      obtain ⟨inner', hinner', rfl⟩ := map_eq_ok.1 hsecond
      intro hagree
      exact congrArg not (query.followsFrom (p := p.withQuery Operator.not.name) hparts hbelow hinner
        hinner' hagree)
  | .test leafTest operand =>
      rw [Condition.outcome_evaluate_test] at hfirst hsecond
      cases hfirst
      cases hsecond
      intro hagree
      rw [hbelow.eq (hagree _ List.mem_cons_self)]
  | .membership wanted candidates =>
      rw [Condition.outcome_evaluate_membership] at hfirst hsecond
      cases hfirst
      cases hsecond
      intro hagree
      rw [hbelow.eq (hagree _ List.mem_cons_self)]
  | .element query => exact absurd rfl hself.operator?_ne
termination_by structural condition

theorem followsFrom_clauses (queries : List Query) {junction : Junction} {value value' : Value}
    {p : Position} {index : Nat} {first second : Explanation}
    (htelling : ∀ condition ∈ Visit.keys (visitsOfQueries index queries p.queryPath p.depth),
      condition.IsTelling)
    (hbelow : AgreeBelow d d' p.propertyPath value value')
    (hfirst : (evaluateClauses junction queries value p index).outcome = .ok first)
    (hsecond : (evaluateClauses junction queries value' p index).outcome = .ok second) :
    FollowsFrom d d' first second := by
  match queries with
  | [] =>
      cases hfirst
      cases hsecond
      exact fun _ => rfl
  | query :: rest =>
      rw [visitsOfQueries, Visit.keys_append] at htelling
      obtain ⟨head, hhead, hcases⟩ := outcome_evaluateClauses_cons_ok.1 hfirst
      obtain ⟨head', hhead', hcases'⟩ := outcome_evaluateClauses_cons_ok.1 hsecond
      have hheads : FollowsFrom d d' head head' :=
        query.followsFrom (p := p.withQuery (Path.element index))
          (fun c hc => htelling c (List.mem_append_left _ hc)) hbelow hhead hhead'
      intro hagree
      obtain ⟨hdecides, rfl⟩ | ⟨hundecided, others, hothers, rfl⟩ := hcases
      · -- the first clause decides both evaluations
        have hmatched := hheads hagree
        obtain ⟨-, rfl⟩ | ⟨hundecided', -⟩ := hcases'
        · exact hmatched
        · exact absurd (hmatched.trans hdecides) hundecided'
      · have hrests : ∀ others', (evaluateClauses junction rest value' p (index + 1)).outcome =
            .ok others' → FollowsFrom d d' others others' := fun others' hothers' =>
          followsFrom_clauses rest (fun c hc => htelling c (List.mem_append_right _ hc)) hbelow
            hothers hothers'
        by_cases hlater : others.matched = (junction == .or)
        · -- a later clause decides the first evaluation, and this or an earlier one the second
          rw [if_pos hlater] at hagree ⊢
          obtain ⟨hdecides', rfl⟩ | ⟨-, others', hothers', rfl⟩ := hcases'
          · rw [hdecides', hlater]
          · have hmatched := hrests others' hothers' hagree
            rw [if_pos (hmatched.trans hlater), hmatched]
        · rw [if_neg hlater] at hagree ⊢
          have hagreeHead : AgreeOnReasons d d' head :=
            fun reason hreason => hagree reason (List.mem_append_left _ hreason)
          have hagreeOthers : AgreeOnReasons d d' others :=
            fun reason hreason => hagree reason (List.mem_append_right _ hreason)
          obtain ⟨hdecides', -⟩ | ⟨-, others', hothers', rfl⟩ := hcases'
          · exact absurd ((hheads hagreeHead).symm.trans hdecides') hundecided
          · have hmatched := hrests others' hothers' hagreeOthers
            rw [if_neg (by rwa [hmatched])]
            exact hmatched
termination_by structural queries

end

end

/-! ### Documents -/

def Value.isEmptyArray : Value → Bool
  | array [] => true
  | _ => false

/-- A key that is not empty, does not ask for elements and, if it asks for clauses, has some. -/
def IsTellingEntry (entry : String × Value) : Prop :=
  entry.1 ≠ "" ∧ entry.1 ≠ "$elemMatch" ∧
    (entry.1 = "$and" ∨ entry.1 = "$or" → entry.2.isEmptyArray = false)

instance (entry : String × Value) : Decidable (IsTellingEntry entry) :=
  inferInstanceAs (Decidable (_ ∧ _))

/-- A key that asks for clauses and has some is read as a condition that has some. -/
theorem hasClauses_read {entry : String × Value}
    (h : entry.1 = "$and" ∨ entry.1 = "$or" → entry.2.isEmptyArray = false) :
    (Condition.read entry).HasClauses := by
  intro junction hclauses
  obtain ⟨hkey, hpayload⟩ := eq_empty_of_read_eq_clauses hclauses
  have hsome := h (by cases junction <;> simp [hkey, Junction.operator, Operator.name])
  rw [hpayload] at hsome
  cases hsome

theorem isTelling_read {entry : String × Value} (h : IsTellingEntry entry) :
    (Condition.read entry).IsTelling where
  isNamed_field _ hfield := Key.isNamed_of_classify (classify_of_field?_read hfield) h.1
  hasClauses := hasClauses_read h.2.2
  operator?_ne hoperator :=
    h.2.1 (Key.eq_of_classify_operator (classify_of_operator?_read hoperator))

/-- The reasons for a verdict suffice for it: every document that agrees on their property paths has
the same verdict. -/
theorem matched_eq_of_agreesOn_reasons {query : Document}
    (htelling : ∀ entry ∈ queryEntries query, IsTellingEntry entry) {value value' : Value}
    {explanation explanation' : Explanation} (hok : explain query value = .ok explanation)
    (hok' : explain query value' = .ok explanation')
    (hagree : ∀ reason ∈ explanation.reasons, value.AgreesOn value' reason.propertyPath) :
    explanation'.matched = explanation.matched := by
  have hconditions := forall_mem_keys_ofDocument fun entry hentry =>
    isTelling_read (htelling entry hentry)
  exact (Query.ofDocument query).followsFrom (p := .root) hconditions .root hok hok' hagree

/-- The first document fails for want of an entry on the way of a path. The second one has other
entries, but not that one, and fails for more reasons. -/
theorem matched_eq_of_agreesOn_reasons_missing :
    (∀ entry ∈ queryEntries [("a.b", .document [("c", .null)]), ("d", .document [("$ne", .null)])],
      IsTellingEntry entry) ∧
    ∃ explanation explanation',
      explain [("a.b", .document [("c", .null)]), ("d", .document [("$ne", .null)])]
          (.document [("a", .document []), ("d", .bool true)]) = .ok explanation ∧
      explain [("a.b", .document [("c", .null)]), ("d", .document [("$ne", .null)])]
          (.document [("d", .null), ("a", .array [.null])]) = .ok explanation' ∧
      (∀ reason ∈ explanation.reasons,
        (Value.document [("a", .document []), ("d", .bool true)]).AgreesOn
          (.document [("d", .null), ("a", .array [.null])]) reason.propertyPath) ∧
      explanation'.matched = explanation.matched := by
  have htelling : ∀ entry ∈ queryEntries
      [("a.b", .document [("c", .null)]), ("d", .document [("$ne", .null)])],
      IsTellingEntry entry := by decide
  have hagree : (Value.document [("a", .document []), ("d", .bool true)]).AgreesOn
      (.document [("d", .null), ("a", .array [.null])]) "a.b.c" := by
    rw [Value.AgreesOn, if_neg (by decide)]
    exact ⟨by decide, fun hfull => absurd hfull (by decide)⟩
  refine ⟨htelling, ⟨false, [⟨"a.b.c", "\"a.b\".c", .hasNoPath⟩]⟩,
    ⟨false, [⟨"a.b.c", "\"a.b\".c", .hasNoPath⟩, ⟨"d", "d.$ne", .notEqual⟩]⟩, ?hok, ?hok', ?_,
    matched_eq_of_agreesOn_reasons htelling ?hok ?hok' ?_⟩
  · decide
  · decide
  · exact List.forall_mem_singleton.2 hagree
  · exact List.forall_mem_singleton.2 hagree

end Verdict
