import Verdict.Proofs.Query.Alike
import Verdict.Proofs.Query.Meaning

/-!
# What an evaluation sees of a query and a value

An evaluation looks at a value in three ways only: it asks what the value holds under a key, it
goes through the elements of an array, and it compares the value with a leaf. Two values that answer
alike are therefore interchangeable (`Value.Interchangeable`), and so are two queries that differ in
leaves which no comparison tells apart (`evaluateFrom_congr`): the whole trial is the same, with its
journal and its rejection. No container is ever equal to a leaf, so how containers compare with each
other does not come up. A check sees even less, only the shape of the query (`check_congr`).
-/

namespace Verdict

open Value (KeepsShape)
open Value.KeepsShape (LeavesRelated)

/-- Documents that hold related values under each key, in whatever order. -/
def HoldAlike (same : Value → Value → Prop) (as bs : Document) : Prop :=
  ∀ key, Option.Rel same (Keyed.find? key as) (Keyed.find? key bs)

theorem EntriesRelated.holdAlike {same : Value → Value → Prop} {as bs : Document}
    (h : EntriesRelated same as bs) : HoldAlike same as bs := by
  intro key
  induction h with
  | nil => exact .none
  | @cons entry other _ _ hentry _ ih =>
      obtain ⟨found, value⟩ := entry
      obtain ⟨_, otherValue⟩ := other
      obtain ⟨rfl, hvalue⟩ := hentry
      rw [Keyed.find?, Keyed.find?]
      split
      · exact .some hvalue
      · exact ih

/-- Values related by `same` answer alike whatever an evaluation asks of them, also if the leaf that
they are compared with is exchanged for one related by `rel`. -/
structure Value.Interchangeable (same rel : Value → Value → Prop) : Prop where
  shape : KeepsShape same (HoldAlike same)
  undefined : same .undefined .undefined
  satisfies_leaf {v w a b : Value} : same v w → v.isPrimitive = true → LeavesRelated rel a b →
    v.satisfies a = w.satisfies b
  order?_leaf {v w a b : Value} : same v w → v.isPrimitive = true → LeavesRelated rel a b →
    v.order? a = w.order? b

namespace Value

section

variable {leaf : Value}

theorem get?_of_isPrimitive (h : leaf.isPrimitive = true) (key : String) :
    leaf.get? key = none := by
  cases leaf with
  | array items => cases h
  | document entries => cases h
  | _ => rfl

theorem elements_of_isPrimitive (h : leaf.isPrimitive = true) : leaf.elements = [leaf] := by
  cases leaf with
  | array items => cases h
  | _ => rfl

theorem ne_array_of_isPrimitive (h : leaf.isPrimitive = true) (items : List Value) :
    leaf ≠ .array items := by
  rintro rfl
  cases h

end

/-- A container satisfies no leaf. -/
theorem satisfies_of_not_isPrimitive {value leaf : Value} (hvalue : value.isPrimitive = false)
    (hleaf : leaf.isPrimitive = true) : value.satisfies leaf = false := by
  cases value with
  | array items =>
      cases leaf with
      | array others => cases hleaf
      | _ => rfl
  | document entries =>
      cases leaf with
      | document others => cases hleaf
      | _ => rfl
  | _ => cases hvalue

/-- A container stands in no order to anything. -/
theorem order?_of_not_isPrimitive {value : Value} (hvalue : value.isPrimitive = false)
    (other : Value) : value.order? other = none := by
  cases value with
  | array items => rfl
  | document entries => rfl
  | _ => cases hvalue

namespace Interchangeable

variable {same rel : Value → Value → Prop} {v w : Value}

/-! ### What related values answer -/

theorem rel_get? (hsame : Interchangeable same rel) (h : same v w) (key : String) :
    Option.Rel same (v.get? key) (w.get? key) := by
  cases hsame.shape h with
  | leaf hv hw =>
      rw [get?_of_isPrimitive hv, get?_of_isPrimitive hw]
      exact .none
  | document hentries => exact hentries key
  | array hitems =>
      rw [Value.get?, Value.get?]
      cases arrayIndex? key with
      | none => exact .none
      | some index => exact rel_getElem?_of_forall₂ hitems index

theorem rel_resolve? (hsame : Interchangeable same rel) (h : same v w) (path : String) :
    Option.Rel same (v.resolve? path) (w.resolve? path) := by
  rw [Value.resolve?, Value.resolve?]
  generalize Path.segments path = segments
  induction segments generalizing v w with
  | nil => exact .some h
  | cons segment rest ih =>
      rw [List.foldlM_cons, List.foldlM_cons]
      match v.get? segment, w.get? segment, hsame.rel_get? h segment with
      | _, _, .none => exact .none
      | _, _, .some hfound => exact ih hfound

theorem rel_value? (hsame : Interchangeable same rel) (h : same v w) (field : Field) :
    Option.Rel same (field.value? v) (field.value? w) := by
  cases field with
  | plain name => exact hsame.rel_get? h name
  | dotted path =>
      refine .some ?_
      match v.resolve? path, w.resolve? path, hsame.rel_resolve? h path with
      | _, _, .none => exact hsame.undefined
      | _, _, .some hfound => exact hfound

theorem satisfies_eq (hsame : Interchangeable same rel) (h : same v w) {a b : Value}
    (hleaf : LeavesRelated rel a b) : v.satisfies a = w.satisfies b := by
  have hprimitive := hsame.shape.isPrimitive_eq h
  cases hv : v.isPrimitive with
  | true => exact hsame.satisfies_leaf h hv hleaf
  | false =>
      -- two containers, which may well be different, but neither of them satisfies a leaf
      rw [satisfies_of_not_isPrimitive hv hleaf.2.1,
        satisfies_of_not_isPrimitive (hprimitive.symm.trans hv) hleaf.2.2]

theorem order?_eq (hsame : Interchangeable same rel) (h : same v w) {a b : Value}
    (hleaf : LeavesRelated rel a b) : v.order? a = w.order? b := by
  have hprimitive := hsame.shape.isPrimitive_eq h
  cases hv : v.isPrimitive with
  | true => exact hsame.order?_leaf h hv hleaf
  | false =>
      rw [order?_of_not_isPrimitive hv, order?_of_not_isPrimitive (hprimitive.symm.trans hv)]

theorem holds_eq (hsame : Interchangeable same rel) (h : same v w) {a b : Value}
    (hleaf : LeavesRelated rel a b) (leafTest : LeafTest) :
    leafTest.holds v a = leafTest.holds w b := by
  cases leafTest with
  | compare comparison =>
      exact congrArg (Option.any comparison.admits) (hsame.order?_eq h hleaf)
  | eq => exact hsame.satisfies_eq h hleaf
  | ne | not => exact congrArg not (hsame.satisfies_eq h hleaf)

theorem forall₂_elements (hsame : Interchangeable same rel) (h : same v w) :
    List.Forall₂ same v.elements w.elements := by
  cases hsame.shape h with
  | array hitems => exact hitems
  | document _ => exact .cons h .nil
  | leaf hv hw =>
      rw [elements_of_isPrimitive hv, elements_of_isPrimitive hw]
      exact .cons h .nil

theorem isAmong_eq (hsame : Interchangeable same rel) (h : same v w) {as bs : List Value}
    (hcandidates : List.Forall₂ (LeavesRelated rel) as bs) : v.isAmong as = w.isAmong bs := by
  rw [Value.isAmong_eq, Value.isAmong_eq]
  refine any_eq_of_forall₂ (hsame.forall₂_elements h) fun _ _ helement => ?_
  exact any_eq_of_forall₂ hcandidates fun _ _ hleaf => hsame.satisfies_eq helement hleaf

end Interchangeable

end Value

/-! ### Evaluations of related values -/

namespace Trial

variable {α β γ : Type}

theorem each_congr {R : α → β → Prop} {run : α → Trial γ} {run' : β → Trial γ}
    (hrun : ∀ a b, R a b → run a = run' b) {as : List α} {bs : List β}
    (h : List.Forall₂ R as bs) : each run as = each run' bs := by
  induction h with
  | nil => rfl
  | cons hab _ ih => rw [each, each, hrun _ _ hab, ih]

end Trial

/-- Queries that evaluate alike on related values, wherever they start. -/
def Query.EvaluateAlike (same : Value → Value → Prop) (q r : Query) : Prop :=
  ∀ ⦃v w⦄, same v w → ∀ p, q.evaluate v p = r.evaluate w p

def Condition.EvaluateAlike (same : Value → Value → Prop) (c d : Condition) : Prop :=
  ∀ ⦃v w⦄, same v w → ∀ p, c.evaluate v p = d.evaluate w p

section

variable {same rel : Value → Value → Prop}

theorem evaluateClauses_congr {qs rs : List Query}
    (h : List.Forall₂ (Query.EvaluateAlike same) qs rs) {v w : Value} (hvw : same v w)
    (junction : Junction) (p : Position) (index : Nat) :
    evaluateClauses junction qs v p index = evaluateClauses junction rs w p index := by
  induction h generalizing index with
  | nil => rfl
  | cons hqr _ ih => rw [evaluateClauses, evaluateClauses, hqr hvw, ih]

namespace Condition

theorem evaluate_element_of_not_array (query : Query) {value : Value}
    (h : ∀ items, value ≠ .array items) (p : Position) :
    (element query).evaluate value p =
      (element query).dispatch p >>= fun p =>
        Trial.reject (.notAnArray .elemMatch p.propertyPath) := by
  rw [evaluate]
  cases value with
  | array items => exact absurd rfl (h items)
  | _ => rfl

theorem evaluate_element_congr {q r : Query} (hquery : Query.EvaluateAlike same q r)
    {items others : List Value} (h : List.Forall₂ same items others) (p : Position) :
    (element q).evaluate (.array items) p = (element r).evaluate (.array others) p := by
  rw [evaluate, evaluate]
  refine bind_congr fun p => ?_
  cases h with
  | nil => rfl
  | cons hitem hrest =>
      -- both arrays are as long, so their elements are evaluated at the same places
      refine congrArg (· >>= _) ?_
      refine Trial.each_congr ?_ (forall₂_zipIdx (.cons hitem hrest) 0)
      rintro ⟨item, index⟩ ⟨other, _⟩ ⟨hplace, rfl⟩
      exact hquery hplace _

end Condition

/-- Alike conditions evaluate alike if the queries right below them do. -/
theorem Condition.Alike.evaluate_congr (hsame : Value.Interchangeable same rel) {c d : Condition}
    (h : Condition.Alike (LeavesRelated rel) (Query.EvaluateAlike same) c d) :
    Condition.EvaluateAlike same c d := by
  intro v w hvw p
  cases h with
  | unknownOperator name => rw [evaluate, evaluate]
  | malformed operator fault => rw [evaluate, evaluate]
  | leaf field hleaf =>
      rw [evaluate, evaluate]
      match field.value? v, field.value? w, hsame.rel_value? hvw field with
      | _, _, .none => rfl
      | _, _, .some hfound => simp only [hsame.satisfies_eq hfound hleaf]
  | node field hquery =>
      rw [evaluate, evaluate]
      match field.value? v, field.value? w, hsame.rel_value? hvw field with
      | _, _, .none => rfl
      | _, _, .some hfound => exact hquery hfound _
  | clauses junction hqueries =>
      rw [evaluate, evaluate]
      refine bind_congr fun q => ?_
      exact evaluateClauses_congr hqueries hvw junction q 0
  | negation hquery =>
      rw [evaluate, evaluate]
      refine bind_congr fun q => ?_
      rw [hquery hvw]
  | test leafTest hleaf => rw [evaluate, evaluate, hsame.holds_eq hvw hleaf]; rfl
  | membership wanted hcandidates => rw [evaluate, evaluate, hsame.isAmong_eq hvw hcandidates]; rfl
  | element hquery =>
      cases hsame.shape hvw with
      | array hitems => exact evaluate_element_congr hquery hitems p
      | document _ =>
          have hnot : ∀ entries items, Value.document entries ≠ .array items := nofun
          rw [evaluate_element_of_not_array _ (hnot _), evaluate_element_of_not_array _ (hnot _)]
          rfl
      | leaf hv hw =>
          rw [evaluate_element_of_not_array _ (Value.ne_array_of_isPrimitive hv),
            evaluate_element_of_not_array _ (Value.ne_array_of_isPrimitive hw)]
          rfl

theorem evaluateConditions_congr {cs ds : List Condition}
    (h : List.Forall₂ (Condition.EvaluateAlike same) cs ds) {v w : Value} (hvw : same v w)
    (p : Position) : evaluateConditions cs v p = evaluateConditions ds w p := by
  rw [evaluateConditions_eq_each, evaluateConditions_eq_each]
  exact Trial.each_congr (fun _ _ hcd => hcd hvw p) h

theorem Query.evaluateAlike_all {cs ds : List Condition}
    (h : List.Forall₂ (Condition.EvaluateAlike same) cs ds) :
    Query.EvaluateAlike same (.all cs) (.all ds) := by
  intro v w hvw p
  rw [evaluate, evaluate]
  refine bind_congr fun q => ?_
  rw [evaluateConditions_congr h hvw q]
  cases h <;> rfl

/-- Related queries evaluate alike on values that answer alike. -/
theorem Query.evaluate_congr (hshape : KeepsShape rel (EntriesRelated rel))
    (hsame : Value.Interchangeable same rel) {a b : Value} (hab : rel a b) :
    Query.EvaluateAlike same (.ofNode a) (.ofNode b) := by
  have hcondition : ∀ ⦃c d⦄,
      Condition.Alike (LeavesRelated rel) (Query.EvaluateAlike same) c d →
        Condition.EvaluateAlike same c d := fun _ _ h => h.evaluate_congr hsame
  refine hshape.queryInduction hcondition (fun a b hab hreads => ?_) hab
  have hentries := hshape.entriesRelated_nodeEntries hab
  exact Query.evaluateAlike_all (KeepsShape.forall₂_read hentries hreads)

theorem evaluateFrom_congr (hshape : KeepsShape rel (EntriesRelated rel))
    (hsame : Value.Interchangeable same rel) {query other : Document}
    (hquery : rel (.document query) (.document other)) {v w : Value} (hvw : same v w)
    (p : Position) : evaluateFrom query v p = evaluateFrom other w p := by
  have h := Query.evaluate_congr hshape hsame hquery hvw p
  rwa [Query.ofNode_document, Query.ofNode_document] at h

end

/-! ### Checks of related queries -/

/-- A relation between checks that does not look into them: steps that are related make up checks
that are related. -/
structure Trial.Compositional (agree : Trial Unit → Trial Unit → Prop) : Prop where
  refl (trial : Trial Unit) : agree trial trial
  bind {first second next last : Trial Unit} : agree first second → agree next last →
    agree (do first; next) (do second; last)

namespace Trial.Compositional

variable {agree : Trial Unit → Trial Unit → Prop} {leaf : Value → Value → Prop}

theorem validateClauses (hagree : Compositional agree) {qs rs : List Query}
    (h : List.Forall₂ (fun q r => ∀ p, agree (q.validate p) (r.validate p)) qs rs) (p : Position)
    (index : Nat) : agree (validateClauses qs p index) (validateClauses rs p index) := by
  induction h generalizing index with
  | nil => exact hagree.refl _
  | cons hqr _ ih =>
      rw [Verdict.validateClauses, Verdict.validateClauses]
      exact hagree.bind (hqr _) (ih _)

/-- Checks of alike conditions are related if the checks of the queries right below them are. -/
theorem validate_condition (hagree : Compositional agree) {c d : Condition}
    (h : Condition.Alike leaf (fun q r => ∀ p, agree (q.validate p) (r.validate p)) c d)
    (p : Position) : agree (c.validate p) (d.validate p) := by
  cases h with
  | unknownOperator | malformed | leaf | test | membership => exact hagree.refl _
  | node field hquery => exact hquery _
  | clauses junction hqueries => exact hagree.validateClauses hqueries _ 0
  | negation hquery => exact hquery _
  | element hquery => exact hquery _

theorem validateConditions (hagree : Compositional agree) {cs ds : List Condition}
    (h : List.Forall₂ (fun c d => ∀ p, agree (c.validate p) (d.validate p)) cs ds) (p : Position) :
    agree (validateConditions cs p) (validateConditions ds p) := by
  induction h with
  | nil => exact hagree.refl _
  | cons hcd _ ih =>
      rw [Verdict.validateConditions, Verdict.validateConditions]
      exact hagree.bind (hcd p) ih

theorem validate_all (hagree : Compositional agree) {cs ds : List Condition}
    (h : ∀ p, agree (Verdict.validateConditions cs p) (Verdict.validateConditions ds p))
    (p : Position) : agree ((Query.all cs).validate p) ((Query.all ds).validate p) := by
  rw [Query.validate, Query.validate, Position.enter]
  split
  · exact hagree.refl _
  · exact h _

end Trial.Compositional

/-- Related query documents are checked alike. -/
theorem check_congr {rel : Value → Value → Prop} (hshape : KeepsShape rel (EntriesRelated rel))
    {query other : Document} (hquery : rel (.document query) (.document other)) :
    check query = check other := by
  have hagree : Trial.Compositional Eq := ⟨fun _ => rfl, fun hfirst hnext => by rw [hfirst, hnext]⟩
  have hcondition : ∀ ⦃c d⦄,
      Condition.Alike (LeavesRelated rel) (fun q r => ∀ p, q.validate p = r.validate p) c d →
        ∀ p, c.validate p = d.validate p := fun _ _ => hagree.validate_condition
  have h := hshape.queryInduction hcondition (fun a b hab hreads => ?hnode) hquery
  case hnode =>
    have hentries := hshape.entriesRelated_nodeEntries hab
    exact hagree.validate_all
      (hagree.validateConditions (KeepsShape.forall₂_read hentries hreads))
  rw [Query.ofNode_document, Query.ofNode_document] at h
  exact h .root

end Verdict
