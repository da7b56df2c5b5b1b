import Mathlib.Data.List.Forall2
import Verdict.Proofs.Query.Reading

/-!
# Queries read off values of one shape

What a key asks for depends on whether its payload is a leaf, a document or an array, and, below an
array, on what the elements are; it depends neither on what the leaves are nor on the order of the
entries. So payloads of one shape are read as conditions of one kind
(`Value.KeepsShape.alike_read`), and whatever relation is to be proved of the queries that related
values write, it is enough to prove it of alike conditions and of nodes with related payloads
(`Value.KeepsShape.queryInduction`).
-/

namespace Verdict

/-! ### Lists related place by place -/

section

variable {α β γ : Type} {R : α → β → Prop} {as : List α} {bs : List β}

theorem map_eq_of_forall₂ {f : α → γ} {g : β → γ} (h : List.Forall₂ R as bs)
    (hfg : ∀ a b, R a b → f a = g b) : as.map f = bs.map g := by
  rw [← List.forall₂_eq_eq_eq]
  exact List.rel_map hfg h

variable {f : α → Bool} {g : β → Bool}

theorem any_eq_of_forall₂ (h : List.Forall₂ R as bs) (hfg : ∀ a b, R a b → f a = g b) :
    as.any f = bs.any g := by
  simpa only [List.any_map, Function.id_comp] using
    congrArg (List.any · id) (map_eq_of_forall₂ h hfg)

theorem all_eq_of_forall₂ (h : List.Forall₂ R as bs) (hfg : ∀ a b, R a b → f a = g b) :
    as.all f = bs.all g := by
  simpa only [List.all_map, Function.id_comp] using
    congrArg (List.all · id) (map_eq_of_forall₂ h hfg)

theorem findIdx?_eq_of_forall₂ (h : List.Forall₂ R as bs) (hfg : ∀ a b, R a b → f a = g b) :
    as.findIdx? f = bs.findIdx? g := by
  simpa only [List.findIdx?_map, Function.id_comp] using
    congrArg (List.findIdx? id) (map_eq_of_forall₂ h hfg)

theorem forall_of_forall₂ (h : List.Forall₂ R as bs) (hfg : ∀ a b, R a b → f a = g b)
    (has : ∀ a ∈ as, f a = true) : ∀ b ∈ bs, g b = true := by
  rw [← List.all_eq_true, ← all_eq_of_forall₂ h hfg, List.all_eq_true]
  exact has

theorem forall₂_and_mem (h : List.Forall₂ R as bs) :
    List.Forall₂ (fun a b => R a b ∧ a ∈ as ∧ b ∈ bs) as bs := by
  obtain ⟨hlength, hplaces⟩ := List.forall₂_iff_zip.1 h
  exact List.forall₂_iff_zip.2 ⟨hlength, fun hmem => ⟨hplaces hmem, List.of_mem_zip hmem⟩⟩

theorem rel_getElem?_of_forall₂ (h : List.Forall₂ R as bs) (index : Nat) :
    Option.Rel R as[index]? bs[index]? := by
  induction h generalizing index with
  | nil => exact .none
  | cons hab _ ih =>
      cases index with
      | zero => exact .some hab
      | succ index => exact ih index

theorem exists_of_rel_some {a : α} {found : Option β} (h : Option.Rel R (some a) found) :
    ∃ b, found = some b ∧ R a b := by
  cases h with
  | some hab => exact ⟨_, rfl, hab⟩

theorem exists_of_mem_of_forall₂ (h : List.Forall₂ R as bs) {b : β} (hb : b ∈ bs) :
    ∃ a ∈ as, R a b := by
  induction h with
  | nil => cases hb
  | cons hab _ ih =>
      rcases List.mem_cons.1 hb with rfl | hb
      · exact ⟨_, List.mem_cons_self, hab⟩
      · obtain ⟨a, ha, hab⟩ := ih hb
        exact ⟨a, List.mem_cons_of_mem _ ha, hab⟩

theorem forall₂_trans {S : β → γ → Prop} {T : α → γ → Prop} {cs : List γ}
    (hab : List.Forall₂ R as bs) (hbc : List.Forall₂ S bs cs)
    (htrans : ∀ a ∈ as, ∀ b ∈ bs, ∀ c ∈ cs, R a b → S b c → T a c) : List.Forall₂ T as cs := by
  induction hab generalizing cs with
  | nil =>
      cases hbc
      exact .nil
  | cons ha _ ih =>
      cases hbc with
      | cons hb hbc =>
          apply List.Forall₂.cons
          · exact htrans _ List.mem_cons_self _ List.mem_cons_self _ List.mem_cons_self ha hb
          · apply ih hbc
            intro a hmem b hmem' c hmem''
            exact htrans a (List.mem_cons_of_mem _ hmem) b (List.mem_cons_of_mem _ hmem') c
              (List.mem_cons_of_mem _ hmem'')

theorem forall₂_zipIdx (h : List.Forall₂ R as bs) (index : Nat) :
    List.Forall₂ (fun a b => R a.1 b.1 ∧ a.2 = b.2) (as.zipIdx index) (bs.zipIdx index) := by
  induction h generalizing index with
  | nil => exact .nil
  | cons hab _ ih => exact .cons ⟨hab, rfl⟩ (ih (index + 1))

end

/-! ### Values of one shape -/

/-- Entries under the same keys, in the same order, with related values. -/
abbrev EntriesRelated (rel : Value → Value → Prop) : Document → Document → Prop :=
  List.Forall₂ fun a b => a.1 = b.1 ∧ rel a.2 b.2

namespace Value

section

variable {leaf : Value}

theorem isDocument_of_isPrimitive (h : leaf.isPrimitive = true) : leaf.isDocument = false := by
  cases leaf with
  | document entries => cases h
  | _ => rfl

/-- As a node, a leaf has no keys. -/
theorem nodeEntries_of_isPrimitive (h : leaf.isPrimitive = true) : leaf.nodeEntries = [] := by
  cases leaf with
  | array items => cases h
  | document entries => cases h
  | _ => rfl

/-- No operator makes a difference between leaves as payloads. -/
theorem payloadFault?_of_isPrimitive (h : leaf.isPrimitive = true) (operator : Operator) :
    operator.payloadFault? leaf = operator.payloadFault? .null := by
  cases leaf with
  | array items => cases h
  | document entries => cases h
  | _ => cases operator <;> rfl

end

/-- Two leaves, two arrays that are related place by place, or two documents whose entries are
related. -/
inductive SameShape (rel : Value → Value → Prop) (entries : Document → Document → Prop) :
    Value → Value → Prop
  | leaf {a b : Value} (ha : a.isPrimitive = true) (hb : b.isPrimitive = true) :
      SameShape rel entries a b
  | array {as bs : List Value} (h : List.Forall₂ rel as bs) :
      SameShape rel entries (.array as) (.array bs)
  | document {as bs : Document} (h : entries as bs) :
      SameShape rel entries (.document as) (.document bs)

theorem SameShape.mono {rel : Value → Value → Prop} {entries others : Document → Document → Prop}
    (hentries : ∀ as bs, entries as bs → others as bs) {a b : Value}
    (h : SameShape rel entries a b) : SameShape rel others a b := by
  cases h with
  | leaf ha hb => exact .leaf ha hb
  | array hitems => exact .array hitems
  | document hab => exact .document (hentries _ _ hab)

/-- Related values have the same shape. -/
def KeepsShape (rel : Value → Value → Prop) (entries : Document → Document → Prop) : Prop :=
  ∀ ⦃a b⦄, rel a b → SameShape rel entries a b

namespace KeepsShape

variable {rel : Value → Value → Prop} {entries : Document → Document → Prop} {a b : Value}

theorem isPrimitive_eq (hshape : KeepsShape rel entries) (hab : rel a b) :
    a.isPrimitive = b.isPrimitive := by
  cases hshape hab with
  | leaf ha hb => rw [ha, hb]
  | array _ => rfl
  | document _ => rfl

theorem isDocument_eq (hshape : KeepsShape rel entries) (hab : rel a b) :
    a.isDocument = b.isDocument := by
  cases hshape hab with
  | leaf ha hb => rw [isDocument_of_isPrimitive ha, isDocument_of_isPrimitive hb]
  | array _ => rfl
  | document _ => rfl

/-! ### Payloads -/

/-- Payloads of one shape are malformed for the same reason. -/
theorem payloadFault?_eq (hshape : KeepsShape rel entries) (hab : rel a b) (operator : Operator) :
    operator.payloadFault? a = operator.payloadFault? b := by
  cases hshape hab with
  | leaf ha hb => rw [payloadFault?_of_isPrimitive ha, payloadFault?_of_isPrimitive hb]
  | document _ => cases operator <;> rfl
  | @array as bs h =>
      have hindex : as.findIdx? (!·.isPrimitive) = bs.findIdx? (!·.isPrimitive) :=
        findIdx?_eq_of_forall₂ h fun _ _ hxy => congrArg not (hshape.isPrimitive_eq hxy)
      have hall := all_eq_of_forall₂ h fun _ _ hxy => hshape.isDocument_eq hxy
      cases operator with
      | and | or => rw [Operator.payloadFault?, Operator.payloadFault?, hall]
      | isIn | notIn => rw [Operator.payloadFault?, Operator.payloadFault?, hindex]
      | _ => rfl

/-! ### Nodes -/

/-- The elements of arrays that are related place by place stand under the same keys. -/
theorem entriesRelated_array {as bs : List Value} (h : List.Forall₂ rel as bs) :
    EntriesRelated rel (array as).nodeEntries (array bs).nodeEntries := by
  refine List.forall₂_map_left_iff.2 (List.forall₂_map_right_iff.2 ?_)
  exact (forall₂_zipIdx h 0).imp fun _ _ hplaces => ⟨congrArg toString hplaces.2, hplaces.1⟩

theorem entriesRelated_nodeEntries (hshape : KeepsShape rel (EntriesRelated rel)) (hab : rel a b) :
    EntriesRelated rel a.nodeEntries b.nodeEntries := by
  cases hshape hab with
  | array h => exact entriesRelated_array h
  | document h => exact h
  | leaf ha hb =>
      rw [nodeEntries_of_isPrimitive ha, nodeEntries_of_isPrimitive hb]
      exact .nil

end KeepsShape

end Value

/-! ### Conditions -/

/-- Conditions that ask for the same, but for leaves and for the queries right below them. -/
inductive Condition.Alike (leaf : Value → Value → Prop) (node : Query → Query → Prop) :
    Condition → Condition → Prop
  | unknownOperator (name : String) :
      Alike leaf node (.unknownOperator name) (.unknownOperator name)
  | malformed (operator : Operator) (fault : PayloadFault) :
      Alike leaf node (.malformed operator fault) (.malformed operator fault)
  | leaf (field : Field) {a b : Value} (h : leaf a b) :
      Alike leaf node (.leaf field a) (.leaf field b)
  | node (field : Field) {q r : Query} (h : node q r) :
      Alike leaf node (.node field q) (.node field r)
  | clauses (junction : Junction) {qs rs : List Query} (h : List.Forall₂ node qs rs) :
      Alike leaf node (.clauses junction qs) (.clauses junction rs)
  | negation {q r : Query} (h : node q r) : Alike leaf node (.negation q) (.negation r)
  | test (leafTest : LeafTest) {a b : Value} (h : leaf a b) :
      Alike leaf node (.test leafTest a) (.test leafTest b)
  | membership (wanted : Bool) {as bs : List Value} (h : List.Forall₂ leaf as bs) :
      Alike leaf node (.membership wanted as) (.membership wanted bs)
  | element {q r : Query} (h : node q r) : Alike leaf node (.element q) (.element r)

namespace Value.KeepsShape

variable {rel : Value → Value → Prop} {entries : Document → Document → Prop}
  {node : Query → Query → Prop}

/-- Leaves that related values have in the same place. -/
abbrev LeavesRelated (rel : Value → Value → Prop) (a b : Value) : Prop :=
  rel a b ∧ a.isPrimitive = true ∧ b.isPrimitive = true

theorem forall₂_ofNode {as bs : List Value} (h : List.Forall₂ rel as bs)
    (hnode : ∀ a ∈ as, ∀ b, rel a b → node (.ofNode a) (.ofNode b)) :
    List.Forall₂ node (as.map .ofNode) (bs.map .ofNode) := by
  refine List.forall₂_map_left_iff.2 (List.forall₂_map_right_iff.2 ?_)
  exact (forall₂_and_mem h).imp fun a b ⟨hab, ha, _⟩ => hnode a ha b hab

/-- Payloads of one shape are read as alike conditions, if the nodes that they write are related. -/
theorem alike_read (hshape : KeepsShape rel entries) {a b : Value} (hab : rel a b)
    (hnode : node (.ofNode a) (.ofNode b))
    (hchildren : ∀ child ∈ a.children, ∀ other, rel child other →
      node (.ofNode child) (.ofNode other))
    (key : String) :
    Condition.Alike (LeavesRelated rel) node (.read (key, a)) (.read (key, b)) := by
  have hprimitive := hshape.isPrimitive_eq hab
  have hsame := hshape hab
  obtain ⟨condition, hcondition, hread⟩ := exists_reading key a
  rw [hcondition]
  cases hread with
  | leaf hkey hleaf =>
      have hother := hprimitive.symm.trans hleaf
      rw [(Reading.leaf hkey hother).read_eq]
      exact .leaf _ ⟨hab, hleaf, hother⟩
  | node hkey hdeep =>
      rw [(Reading.node hkey (hprimitive.symm.trans hdeep)).read_eq]
      exact .node _ hnode
  | unknownOperator hkey hname =>
      rw [(Reading.unknownOperator hkey hname).read_eq]
      exact .unknownOperator _
  | malformed hkey hfault =>
      rw [hshape.payloadFault?_eq hab] at hfault
      rw [(Reading.malformed hkey hfault).read_eq]
      exact .malformed _ _
  | @clauses junction as hkey hclauses =>
      cases hsame with
      | leaf ha _ => cases ha
      | @array _ bs h =>
          have hothers := forall_of_forall₂ h (fun _ _ hxy => hshape.isDocument_eq hxy) hclauses
          rw [(Reading.clauses hkey hothers).read_eq]
          exact .clauses junction (forall₂_ofNode h hchildren)
  | negation hkey =>
      cases hsame with
      | leaf ha _ => cases ha
      | document _ =>
          rw [(Reading.negation hkey).read_eq]
          exact .negation hnode
  | test hkey hleaf =>
      have hother := hprimitive.symm.trans hleaf
      rw [(Reading.test hkey hother).read_eq]
      exact .test _ ⟨hab, hleaf, hother⟩
  | @membership _ as hkey hleaves =>
      cases hsame with
      | leaf ha _ => cases ha
      | @array _ bs h =>
          have hothers := forall_of_forall₂ h (fun _ _ hxy => hshape.isPrimitive_eq hxy) hleaves
          rw [(Reading.membership hkey hothers).read_eq]
          refine .membership _ ((forall₂_and_mem h).imp ?_)
          rintro x y ⟨hxy, hx, -⟩
          exact ⟨hxy, hleaves x hx, (hshape.isPrimitive_eq hxy).symm.trans (hleaves x hx)⟩
  | element hkey =>
      cases hsame with
      | leaf ha _ => cases ha
      | document _ =>
          rw [(Reading.element hkey).read_eq]
          exact .element hnode

/-- What holds of alike conditions, and of nodes by their payloads, holds of the queries that
related values write. -/
theorem queryInduction {condition : Condition → Condition → Prop}
    (hshape : KeepsShape rel entries)
    (hcondition : ∀ ⦃c d⦄, Condition.Alike (LeavesRelated rel) node c d → condition c d)
    (hnode : ∀ a b, rel a b →
      (∀ child ∈ a.children, ∀ other, rel child other →
        ∀ key, condition (.read (key, child)) (.read (key, other))) →
      node (.ofNode a) (.ofNode b))
    {a b : Value} (hab : rel a b) : node (.ofNode a) (.ofNode b) := by
  -- the induction is on one of the two values only; the other one follows it
  have hboth := @Value.queryInduction
    (fun a => ∀ b, rel a b → ∀ key, condition (.read (key, a)) (.read (key, b)))
    (fun a => ∀ b, rel a b → node (.ofNode a) (.ofNode b))
    (fun a hchildren b hab => hnode a b hab hchildren)
    (fun a ha hchildren b hab key =>
      hcondition (hshape.alike_read hab (ha b hab) hchildren key)) a
  exact hboth.2 b hab

/-- The conditions that the keys of a node write are related if its payloads write related ones. -/
theorem forall₂_read {condition : Condition → Condition → Prop} {value : Value} {others : Document}
    (h : EntriesRelated rel value.nodeEntries others)
    (hread : ∀ child ∈ value.children, ∀ other, rel child other →
      ∀ key, condition (.read (key, child)) (.read (key, other))) :
    List.Forall₂ condition (value.nodeEntries.map .read) (others.map .read) := by
  refine List.forall₂_map_left_iff.2 (List.forall₂_map_right_iff.2 ?_)
  refine (forall₂_and_mem h).imp ?_
  rintro ⟨key, payload⟩ ⟨_, other⟩ ⟨⟨rfl, hpayload⟩, hmem, -⟩
  exact hread payload (mem_children_of_mem_nodeEntries hmem) other hpayload key

end Value.KeepsShape

end Verdict
