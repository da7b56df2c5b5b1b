import Verdict.Proofs.Query.Meaning
import Verdict.Proofs.Value.KeyOrder

/-!
# The order of keys does not matter

Whoever permutes the keys of a value, at whatever depth, changes nothing at all of an evaluation
(`explain_eq_of_reordered`): containers are never compared with each other, and keys are only looked
up. Permuting the keys of a query changes the order of the reasons and which of several rejections
comes first, but neither the verdict nor the reasons themselves, nor whether there is a rejection
(`explain_and_validate_of_reordered`).
-/

namespace Verdict

open Value (KeepsShape Reordered ReorderedDistinct HasDistinctKeys)
open Value.KeepsShape (LeavesRelated)

/-! ### The order of keys in a value -/

theorem Value.keepsShape_eq : KeepsShape Eq (EntriesRelated Eq) := by
  rintro a _ rfl
  cases a with
  | array items => exact .array (List.forall₂_refl items)
  | document entries => exact .document (List.forall₂_same.2 fun _ _ => ⟨rfl, rfl⟩)
  | _ => exact .leaf rfl rfl

theorem Value.ReorderedDistinct.interchangeable : Value.Interchangeable ReorderedDistinct Eq where
  shape := ReorderedDistinct.keepsShape
  undefined := ⟨nofun, .leaf rfl⟩
  satisfies_leaf h hleaf hleaves := by rw [h.2.eq_of_isPrimitive hleaf, hleaves.1]
  order?_leaf h hleaf hleaves := by rw [h.2.eq_of_isPrimitive hleaf, hleaves.1]

/-- The order of the keys of a value is not seen by any evaluation. -/
theorem explain_eq_of_reordered {value value' : Value} (hkeys : value.HasDistinctKeys)
    (h : Reordered value value') (query : Document) : explain query value = explain query value' :=
  congrArg Trial.outcome
    (evaluateFrom_congr Value.keepsShape_eq ReorderedDistinct.interchangeable rfl ⟨hkeys, h⟩ .root)

/-- Elements are found in a document whose keys are permuted, and whose elements' keys are. -/
theorem explain_eq_of_reordered_element :
    ∃ value value',
      value = Value.document [("a", .array [.document [("x", .null), ("y", .bool true)]]),
        ("b", .document [])] ∧
      value' = Value.document [("b", .document []),
        ("a", .array [.document [("y", .bool true), ("x", .null)]])] ∧
      value.HasDistinctKeys ∧ Reordered value value' ∧
      explain [("a", .document [("$elemMatch", .document [("y", .bool true)])])] value =
        explain [("a", .document [("$elemMatch", .document [("y", .bool true)])])] value' := by
  refine ⟨_, _, rfl, rfl, ?hkeys, ?hreordered, explain_eq_of_reordered ?hkeys ?hreordered _⟩
  case hkeys => decide
  case hreordered =>
    have hitem : Reordered (.document [("x", .null), ("y", .bool true)])
        (.document [("y", .bool true), ("x", .null)]) :=
      .document (.swap _ _ _) rfl (.cons (.leaf rfl) (.cons (.leaf rfl) .nil))
    have hempty : Reordered (.document []) (.document []) := .document .nil rfl .nil
    exact .document (.swap _ _ _) rfl (.cons (.array (.cons hitem .nil)) (.cons hempty .nil))

/-! ### Explanations up to the order of their reasons -/

/-- The same verdict for the same reasons, in another order. -/
structure Explanation.SameUpToOrder (e f : Explanation) : Prop where
  matched : e.matched = f.matched
  reasons : e.reasons.Perm f.reasons

namespace Explanation

/-- The reasons of the parts that came to a verdict. -/
def reasonsFor (verdict : Bool) (parts : List Explanation) : List Reason :=
  (parts.filter (·.matched == verdict)).flatMap (·.reasons)

theorem all_eq_reasonsFor (parts : List Explanation) :
    all parts = ⟨(all parts).matched, reasonsFor (all parts).matched parts⟩ := by
  rw [matched_all, all, reasonsFor]
  cases h : parts.all (·.matched) with
  | true =>
      rw [if_pos rfl, List.filter_eq_self.2]
      intro part hmem
      exact beq_of_eq (List.all_eq_true.1 h part hmem)
  | false => simp only [Bool.false_eq_true, if_false, beq_false]

theorem any_eq_reasonsFor (parts : List Explanation) :
    any parts = ⟨(any parts).matched, reasonsFor (any parts).matched parts⟩ := by
  rw [matched_any, any, reasonsFor]
  cases h : parts.any (·.matched) with
  | true => simp only [if_true, beq_true]
  | false =>
      rw [if_neg Bool.false_ne_true, List.filter_eq_self.2]
      intro part hmem
      exact beq_of_eq (Bool.eq_false_iff.2 (List.any_eq_false.1 h part hmem))

namespace SameUpToOrder

theorem refl (e : Explanation) : e.SameUpToOrder e := ⟨rfl, .refl _⟩

variable {parts others : List Explanation}

theorem reasonsFor_perm (h : Relation.Comp (List.Forall₂ SameUpToOrder) List.Perm parts others)
    (verdict : Bool) : (reasonsFor verdict parts).Perm (reasonsFor verdict others) := by
  obtain ⟨mid, hparts, hperm⟩ := h
  refine List.Perm.trans ?_ ((hperm.filter _).flatMap_right _)
  clear hperm
  induction hparts with
  | nil => exact .nil
  | @cons part other _ _ hpart _ ih =>
      rw [reasonsFor, List.filter_cons, List.filter_cons, hpart.matched]
      split
      · exact hpart.reasons.append ih
      · exact ih

theorem all (h : Relation.Comp (List.Forall₂ SameUpToOrder) List.Perm parts others) :
    (all parts).SameUpToOrder (all others) := by
  have hmatched : (Explanation.all parts).matched = (Explanation.all others).matched := by
    obtain ⟨mid, hparts, hperm⟩ := h
    rw [matched_all, matched_all, all_eq_of_forall₂ hparts fun _ _ hpart => hpart.matched,
      hperm.all_eq]
  rw [all_eq_reasonsFor parts, all_eq_reasonsFor others, hmatched]
  exact ⟨rfl, reasonsFor_perm h _⟩

theorem any (h : List.Forall₂ SameUpToOrder parts others) :
    (any parts).SameUpToOrder (any others) := by
  have hmatched : (Explanation.any parts).matched = (Explanation.any others).matched := by
    rw [matched_any, matched_any, any_eq_of_forall₂ h fun _ _ hpart => hpart.matched]
  rw [any_eq_reasonsFor parts, any_eq_reasonsFor others, hmatched]
  exact ⟨rfl, reasonsFor_perm ⟨_, h, .refl _⟩ _⟩

theorem invert {e f : Explanation} (h : e.SameUpToOrder f) : e.invert.SameUpToOrder f.invert :=
  ⟨congrArg not h.matched, h.reasons⟩

end SameUpToOrder

end Explanation

/-! ### Evaluations of reordered queries -/

/-- Queries that come to the same verdict for the same reasons, wherever both are evaluated, but for
the order of the reasons and for the rejection. -/
def Query.AgreesWith (q r : Query) : Prop :=
  ∀ value p, (q.evaluate value p).EndAlike Explanation.SameUpToOrder (r.evaluate value p)

def Condition.AgreesWith (c d : Condition) : Prop :=
  ∀ value p, (c.evaluate value p).EndAlike Explanation.SameUpToOrder (d.evaluate value p)

theorem evaluateClauses_endAlike {qs rs : List Query} (h : List.Forall₂ Query.AgreesWith qs rs)
    (junction : Junction) (value : Value) (p : Position) (index : Nat) :
    (evaluateClauses junction qs value p index).EndAlike Explanation.SameUpToOrder
      (evaluateClauses junction rs value p index) := by
  induction h generalizing index with
  | nil => exact .refl .refl _
  | cons hqr _ ih =>
      rw [evaluateClauses, evaluateClauses]
      refine (hqr value _).bind fun first first' hfirst => ?_
      rw [hfirst.matched]
      split
      · exact .pure hfirst
      · refine (ih (index + 1)).bind fun others others' hothers => ?_
        rw [hothers.matched]
        split
        · exact .pure hothers
        · exact .pure ⟨rfl, hfirst.reasons.append hothers.reasons⟩

/-- Conditions on the same leaves agree if the queries right below them do. -/
theorem Condition.Alike.agreesWith {c d : Condition}
    (h : Condition.Alike (LeavesRelated Reordered) Query.AgreesWith c d) : c.AgreesWith d := by
  have heq : ∀ a b, LeavesRelated Reordered a b → a = b :=
    fun a b hleaves => hleaves.1.eq_of_isPrimitive hleaves.2.1
  intro value p
  cases h with
  | unknownOperator | malformed => exact .refl .refl _
  | leaf field hleaf =>
      obtain rfl := heq _ _ hleaf
      exact .refl .refl _
  | test leafTest hleaf =>
      obtain rfl := heq _ _ hleaf
      exact .refl .refl _
  | @membership wanted as bs hcandidates =>
      obtain rfl : as = bs := List.forall₂_eq_eq_eq ▸ hcandidates.imp heq
      exact .refl .refl _
  | node field hquery =>
      rw [evaluate, evaluate]
      cases field.value? value with
      | none => exact .refl .refl _
      | some found => exact hquery found _
  | clauses junction hqueries =>
      rw [evaluate, evaluate]
      exact .after _ fun q => evaluateClauses_endAlike hqueries junction value q 0
  | negation hquery =>
      rw [evaluate, evaluate]
      exact .after _ fun q => (hquery value q).bind fun e f hef => .pure hef.invert
  | element hquery =>
      rw [evaluate, evaluate]
      refine .after _ fun q => ?_
      cases value with
      | array items =>
          cases items with
          | nil => exact .refl .refl _
          | cons item items =>
              refine (Trial.EndAlike.each_forall₂ ?_).bind fun parts others hparts =>
                .pure (.any hparts)
              exact List.forall₂_same.2 fun place _ => hquery place.1 _
      | _ => exact .refl .refl _

theorem Query.agreesWith_all {cs ms ds : List Condition}
    (hconditions : List.Forall₂ Condition.AgreesWith cs ms) (horder : ms.Perm ds) :
    (Query.all cs).AgreesWith (.all ds) := by
  intro value p
  have hempty : cs.isEmpty = ds.isEmpty := by
    rw [← horder.isEmpty_eq]
    cases hconditions <;> rfl
  rw [Query.evaluate, Query.evaluate, hempty]
  refine .after _ fun q => ?_
  split
  · exact .refl .refl _
  · rw [evaluateConditions_eq_each, evaluateConditions_eq_each]
    have hparts := (Trial.EndAlike.each_forall₂ (hconditions.imp fun _ _ h => h value q)).trans
      (Trial.EndAlike.each_perm horder)
    exact hparts.bind fun parts others h => .pure (.all h)

theorem Value.Reordered.agreesWith {a b : Value} (h : Reordered a b) :
    (Query.ofNode a).AgreesWith (.ofNode b) := by
  have hcondition : ∀ ⦃c d⦄,
      Condition.Alike (LeavesRelated Reordered) Query.AgreesWith c d → c.AgreesWith d :=
    fun _ _ h => h.agreesWith
  refine Reordered.keepsShape.queryInduction hcondition (fun a b hab hreads => ?_) h
  -- the payloads are exchanged where they stand, and only then are the keys permuted
  obtain ⟨mid, hentries, horder⟩ := hab.nodeEntries
  exact Query.agreesWith_all (KeepsShape.forall₂_read hentries hreads) (horder.map _)

/-! ### Checks of reordered queries -/

theorem validateConditions_ok_iff {conditions : List Condition} {p : Position} :
    (validateConditions conditions p).outcome = .ok () ↔
      ∀ condition ∈ conditions, (condition.validate p).outcome = .ok () := by
  induction conditions with
  | nil => exact iff_of_true rfl fun _ hmem => nomatch hmem
  | cons condition rest ih =>
      rw [validateConditions, Trial.outcome_bind_ok, List.forall_mem_cons, ih]
      exact ⟨fun ⟨_, h⟩ => h, fun h => ⟨(), h⟩⟩

/-- Checks that both pass or both do not. -/
def Trial.PassAlike (first second : Trial Unit) : Prop :=
  first.outcome = .ok () ↔ second.outcome = .ok ()

theorem Trial.compositional_passAlike : Compositional PassAlike where
  refl _ := Iff.rfl
  bind hfirst hnext := by
    rw [PassAlike, outcome_bind_ok, outcome_bind_ok]
    exact exists_congr fun _ => and_congr hfirst hnext

theorem Value.Reordered.passAlike {a b : Value} (h : Reordered a b) (p : Position) :
    ((Query.ofNode a).validate p).PassAlike ((Query.ofNode b).validate p) := by
  have hagree := Trial.compositional_passAlike
  have hcondition : ∀ ⦃c d⦄,
      Condition.Alike (LeavesRelated Reordered)
          (fun q r => ∀ p, (q.validate p).PassAlike (r.validate p)) c d →
        ∀ p, (c.validate p).PassAlike (d.validate p) := fun _ _ => hagree.validate_condition
  have hboth := Reordered.keepsShape.queryInduction hcondition (fun a b hab hreads => ?_) h
  · exact hboth p
  · obtain ⟨mid, hentries, horder⟩ := hab.nodeEntries
    refine hagree.validate_all fun p => ?_
    refine (hagree.validateConditions (KeepsShape.forall₂_read hentries hreads) p).trans ?_
    rw [validateConditions_ok_iff, validateConditions_ok_iff]
    simp only [(horder.map _).mem_iff]

/-! ### The order of keys in a query -/

/-- The order of the keys of a query document, at any depth, matters neither to the verdict nor to
what the reasons are, nor to whether there is a rejection. -/
theorem explain_and_validate_of_reordered {query other : Document}
    (h : Reordered (.document query) (.document other)) (value : Value) :
    ((∃ explanation, explain query value = .ok explanation) ↔
        ∃ explanation, explain other value = .ok explanation) ∧
      (∀ explanation explanation', explain query value = .ok explanation →
        explain other value = .ok explanation' →
        explanation.matched = explanation'.matched ∧
          explanation.reasons.Perm explanation'.reasons) ∧
      (validate query = .ok () ↔ validate other = .ok ()) := by
  have hevaluate := h.agreesWith value .root
  have hvalidate := h.passAlike .root
  rw [Query.ofNode_document, Query.ofNode_document] at hevaluate hvalidate
  change (evaluateFrom query value .root).EndAlike _ (evaluateFrom other value .root) at hevaluate
  rw [← and_assoc]
  refine ⟨?_, hvalidate⟩
  cases hevaluate with
  | @ok first second hfirst hsecond hsame =>
      refine ⟨iff_of_true ⟨first, hfirst⟩ ⟨second, hsecond⟩, fun e f he hf => ?_⟩
      obtain rfl := Except.ok.inj (hfirst.symm.trans he)
      obtain rfl := Except.ok.inj (hsecond.symm.trans hf)
      exact ⟨hsame.matched, hsame.reasons⟩
  | rejected hfirst hsecond =>
      refine ⟨iff_of_false ?_ ?_, fun e f he _ => nomatch hfirst.symm.trans he⟩
      · rintro ⟨e, he⟩
        cases hfirst.symm.trans he
      · rintro ⟨e, he⟩
        cases hsecond.symm.trans he

/-- Keys are permuted at the root and in a clause, and the reasons come in another order. -/
theorem explain_and_validate_of_reordered_clause :
    ∃ query other value e e',
      query = [("a", .bool true), ("$or", .array [.document [("b", .null), ("c", .bool true)]])] ∧
      other = [("$or", .array [.document [("c", .bool true), ("b", .null)]]), ("a", .bool true)] ∧
      value = Value.document [("a", .bool true), ("b", .null), ("c", .bool true)] ∧
      Reordered (.document query) (.document other) ∧
      explain query value = .ok e ∧ explain other value = .ok e' ∧ e.reasons ≠ e'.reasons ∧
      e.matched = e'.matched ∧ e.reasons.Perm e'.reasons ∧
      (validate query = .ok () ↔ validate other = .ok ()) := by
  refine ⟨_, _, _,
    ⟨true, [⟨"a", "a", .equal⟩, ⟨"b", "$or.[0].b", .equal⟩, ⟨"c", "$or.[0].c", .equal⟩]⟩,
    ⟨true, [⟨"c", "$or.[0].c", .equal⟩, ⟨"b", "$or.[0].b", .equal⟩, ⟨"a", "a", .equal⟩]⟩,
    rfl, rfl, rfl, ?hreordered, ?hquery, ?hother, by decide,
    and_assoc.1 ⟨(explain_and_validate_of_reordered ?hreordered _).2.1 _ _ ?hquery ?hother,
      (explain_and_validate_of_reordered ?hreordered .null).2.2⟩⟩
  case hreordered =>
    have hclause : Reordered (.document [("b", .null), ("c", .bool true)])
        (.document [("c", .bool true), ("b", .null)]) :=
      .document (.swap _ _ _) rfl (.cons (.leaf rfl) (.cons (.leaf rfl) .nil))
    exact .document (.swap _ _ _) rfl (.cons (.leaf rfl) (.cons (.array (.cons hclause .nil)) .nil))
  case hquery => decide
  case hother => decide

end Verdict
