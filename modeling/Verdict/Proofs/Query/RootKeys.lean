import Verdict.Proofs.Path
import Verdict.Proofs.Keyed
import Verdict.Proofs.Query.Congruence

/-!
# The keys that a query reads

A query asks a document for what it holds under a few keys only: those that its fields begin with,
at the root and in the clauses and negations there (`rootKeys`). Whatever an operator asks of a
document as a whole is answered by its being a document. So two documents that hold the same under
these keys are evaluated alike (`evaluateFrom_eq_of_agreeUnder`), and an entry under any other key
may be written or overwritten unnoticed (`evaluateFrom_put_of_not_mem_rootKeys`).
-/

namespace Verdict

/-- The key that a field begins with. -/
def Field.rootKey : Field → String
  | plain name => name
  | dotted path => (Path.segments path).headD ""

mutual

/-- The keys that a key of a query with its payload reads. Clauses and negated queries read the same
document; every other operator reads none of its keys. -/
def rootKeysOfEntry (key : String) (payload : Value) : List String :=
  match Key.classify key with
  | .field field => [field.rootKey]
  | .operator name =>
    match Operator.ofName? name, payload with
    | some .and, .array clauses | some .or, .array clauses =>
      if clauses.all Value.isDocument then rootKeysOfClauses clauses else []
    | some .not, .document entries => rootKeysOfEntries entries
    | _, _ => []
termination_by structural payload

def rootKeysOfEntries : List (String × Value) → List String
  | [] => []
  | (key, payload) :: rest => rootKeysOfEntry key payload ++ rootKeysOfEntries rest
termination_by structural entries => entries

def rootKeysOfClauses : List Value → List String
  | .document entries :: rest => rootKeysOfEntries entries ++ rootKeysOfClauses rest
  | _ => []
termination_by structural clauses => clauses

end

/-- The keys that a query reads of a document. -/
def rootKeys (query : Document) : List String := rootKeysOfEntries query

/-- The keys that a value reads as a node of a query. -/
def rootKeysOfNode (node : Value) : List String :=
  node.nodeEntries.flatMap fun entry => rootKeysOfEntry entry.1 entry.2

theorem rootKeysOfEntries_eq (entries : List (String × Value)) :
    rootKeysOfEntries entries = rootKeysOfNode (.document entries) := by
  induction entries with
  | nil => rfl
  | cons entry rest ih => exact congrArg (_ ++ ·) ih

theorem rootKeysOfClauses_eq {clauses : List Value}
    (h : ∀ clause ∈ clauses, clause.isDocument = true) :
    rootKeysOfClauses clauses = clauses.flatMap rootKeysOfNode := by
  induction clauses with
  | nil => rfl
  | cons clause rest ih =>
      obtain ⟨hclause, hrest⟩ := List.forall_mem_cons.1 h
      cases clause with
      | document entries =>
          rw [rootKeysOfClauses, List.flatMap_cons, rootKeysOfEntries_eq, ih hrest]
      | _ => cases hclause

section

variable {key : String} {payload : Value}

theorem rootKeysOfEntry_field {field : Field} (hkey : Key.classify key = .field field) :
    rootKeysOfEntry key payload = [field.rootKey] := by
  rw [rootKeysOfEntry.eq_def, hkey]

theorem rootKeysOfEntry_clauses {junction : Junction} {items : List Value}
    (hkey : Key.classify key = .operator junction.operator.name)
    (hclauses : ∀ item ∈ items, item.isDocument = true) :
    rootKeysOfEntry key (.array items) = items.flatMap rootKeysOfNode := by
  rw [← rootKeysOfClauses_eq hclauses, rootKeysOfEntry.eq_def]
  simp only [hkey, Operator.ofName?_name]
  cases junction <;> exact if_pos (List.all_eq_true.2 hclauses)

theorem rootKeysOfEntry_negation {entries : List (String × Value)}
    (hkey : Key.classify key = .operator Operator.not.name) :
    rootKeysOfEntry key (.document entries) = rootKeysOfNode (.document entries) := by
  rw [← rootKeysOfEntries_eq, rootKeysOfEntry.eq_def]
  simp only [hkey, Operator.ofName?_name]

end

/-! ### Documents that hold the same under some keys -/

/-- Documents that hold the same under each of some keys, and whatever they may hold elsewhere. -/
inductive AgreeUnder (keys : List String) : Value → Value → Prop
  | document {as bs : Document} (h : ∀ key ∈ keys, Keyed.find? key as = Keyed.find? key bs) :
      AgreeUnder keys (.document as) (.document bs)

namespace AgreeUnder

variable {keys : List String} {v w : Value}

theorem mono {few : List String} (hfew : few ⊆ keys) (h : AgreeUnder keys v w) :
    AgreeUnder few v w := by
  cases h with
  | document h => exact .document fun key hkey => h key (hfew hkey)

/-- A field finds the same in documents that hold the same where it begins. -/
theorem value?_eq {field : Field} (h : AgreeUnder [field.rootKey] v w) :
    field.value? v = field.value? w := by
  cases h with
  | @document as bs h =>
      have hroot := h _ List.mem_cons_self
      cases field with
      | plain name => exact hroot
      | dotted path =>
          obtain ⟨first, rest, hsegments⟩ := List.exists_cons_of_ne_nil
            (mt List.map_eq_nil_iff.1 (Path.splitPoints_ne_nil path.toList))
          change Path.segments path = first :: rest at hsegments
          rw [Field.rootKey, hsegments, List.headD_cons] at hroot
          rw [Field.value?, Field.value?, Value.resolve?, Value.resolve?, hsegments,
            List.foldlM_cons, List.foldlM_cons, Value.get?, Value.get?, hroot]

/-- Documents as a whole give the same answer to every test, whatever they hold. -/
theorem holds_eq (h : AgreeUnder keys v w) {operand : Value} (hleaf : operand.isPrimitive = true)
    (leafTest : LeafTest) : leafTest.holds v operand = leafTest.holds w operand := by
  cases h with
  | document =>
      cases leafTest with
      | compare comparison => rfl
      | eq | ne | not =>
          rw [LeafTest.holds, LeafTest.holds, Value.satisfies_of_not_isPrimitive rfl hleaf,
            Value.satisfies_of_not_isPrimitive rfl hleaf]

theorem isAmong_eq (h : AgreeUnder keys v w) {candidates : List Value}
    (hleaves : ∀ candidate ∈ candidates, candidate.isPrimitive = true) :
    v.isAmong candidates = w.isAmong candidates := by
  have hnone : ∀ entries, (Value.document entries).isAmong candidates = false := fun entries =>
    List.any_eq_false.2 fun candidate hmem =>
      Bool.eq_false_iff.1 (Value.satisfies_of_not_isPrimitive rfl (hleaves candidate hmem))
  cases h with
  | document => rw [hnone, hnone]

end AgreeUnder

/-! ### Evaluations of documents that hold the same -/

theorem Query.EvaluateAlike.mono {few keys : List String} (hfew : few ⊆ keys) {q r : Query}
    (h : Query.EvaluateAlike (AgreeUnder few) q r) : Query.EvaluateAlike (AgreeUnder keys) q r :=
  fun _ _ hvw => h (hvw.mono hfew)

private theorem evaluateAlike_read_of_nodes {payload : Value}
    (hpayload : Query.EvaluateAlike (AgreeUnder (rootKeysOfNode payload)) (.ofNode payload)
      (.ofNode payload))
    (hchildren : ∀ child ∈ payload.children,
      Query.EvaluateAlike (AgreeUnder (rootKeysOfNode child)) (.ofNode child) (.ofNode child))
    (key : String) :
    Condition.EvaluateAlike (AgreeUnder (rootKeysOfEntry key payload)) (.read (key, payload))
      (.read (key, payload)) := by
  intro v w hvw p
  obtain ⟨condition, hcondition, hread⟩ := exists_reading key payload
  rw [hcondition]
  cases hread with
  | leaf hkey hleaf | node hkey hnode =>
      rw [rootKeysOfEntry_field hkey] at hvw
      rw [Condition.evaluate, Condition.evaluate, hvw.value?_eq]
  | unknownOperator hkey hname | malformed hkey hfault =>
      rw [Condition.evaluate, Condition.evaluate]
  | @clauses junction items hkey hclauses =>
      rw [rootKeysOfEntry_clauses hkey hclauses] at hvw
      have halike : List.Forall₂ (Query.EvaluateAlike (AgreeUnder (items.flatMap rootKeysOfNode)))
          (items.map .ofNode) (items.map .ofNode) := by
        refine List.forall₂_same.2 (List.forall_mem_map.2 fun item hmem => ?_)
        exact (hchildren item hmem).mono fun _ hitem => List.mem_flatMap_of_mem hmem hitem
      rw [Condition.evaluate, Condition.evaluate]
      exact bind_congr fun q => evaluateClauses_congr halike hvw junction q 0
  | negation hkey =>
      rw [rootKeysOfEntry_negation hkey] at hvw
      rw [Condition.evaluate, Condition.evaluate]
      refine bind_congr fun q => ?_
      rw [hpayload hvw]
  | test hkey hleaf => rw [Condition.evaluate, Condition.evaluate, hvw.holds_eq hleaf]
  | membership hkey hleaves =>
      rw [Condition.evaluate, Condition.evaluate, hvw.isAmong_eq hleaves]
  | element hkey =>
      -- no document has elements, so the query for elements is never come to
      cases hvw with
      | document =>
          have hnot : ∀ entries items, Value.document entries ≠ .array items := nofun
          rw [Condition.evaluate_element_of_not_array _ (hnot _),
            Condition.evaluate_element_of_not_array _ (hnot _)]

theorem Query.evaluateAlike_agreeUnder (node : Value) :
    Query.EvaluateAlike (AgreeUnder (rootKeysOfNode node)) (.ofNode node) (.ofNode node) := by
  have hboth := Value.queryInduction (fun node hchildren => ?_)
    (fun _ => evaluateAlike_read_of_nodes) node
  · exact hboth.2
  · refine Query.evaluateAlike_all (List.forall₂_same.2 (List.forall_mem_map.2 ?_))
    rintro ⟨key, payload⟩ hmem v w hvw p
    have hread := hchildren payload (Value.mem_children_of_mem_nodeEntries hmem) key
    exact hread (hvw.mono fun _ hkey => List.mem_flatMap_of_mem hmem hkey) p

/-- Documents that hold the same under the keys that a query reads are evaluated alike, from any
place on and with the same journal. -/
theorem evaluateFrom_eq_of_agreeUnder {query as bs : Document}
    (h : ∀ key ∈ rootKeys query, Keyed.find? key as = Keyed.find? key bs) (p : Position) :
    evaluateFrom query (.document as) p = evaluateFrom query (.document bs) p := by
  rw [rootKeys, rootKeysOfEntries_eq] at h
  have halike := Query.evaluateAlike_agreeUnder (.document query) (.document h) p
  rwa [Query.ofNode_document] at halike

/-- Whatever is written under a key that a query does not read, the evaluation stays the same: its
verdict and its reasons in order, or its rejection, and its journal. -/
theorem evaluateFrom_put_of_not_mem_rootKeys {query : Document} {key : String}
    (h : key ∉ rootKeys query) (value : Value) (entries : Document) (p : Position) :
    evaluateFrom query (.document (Keyed.put key value entries)) p =
      evaluateFrom query (.document entries) p := by
  refine evaluateFrom_eq_of_agreeUnder (fun other hother => ?_) p
  exact Keyed.find?_put_of_ne (ne_of_mem_of_not_mem hother h) value entries

/-- The key is read below the root, after a path and in a negation, but not at the root. -/
theorem evaluateFrom_put_of_not_mem_rootKeys_below :
    "k" ∉ rootKeys [("$or", .array [.document [("a.k", .null)],
        .document [("$not", .document [("c", .document [("k", .null)])])]]), ("$ne", .null)] ∧
    (evaluateFrom [("$or", .array [.document [("a.k", .null)],
        .document [("$not", .document [("c", .document [("k", .null)])])]]), ("$ne", .null)]
        (.document [("k", .null), ("c", .document [("k", .bool true)])]) .root).outcome =
      .ok ⟨true, [⟨"c.k", "$or.[1].$not.c.k", .equal⟩, ⟨"", "$ne", .notEqual⟩]⟩ ∧
    evaluateFrom [("$or", .array [.document [("a.k", .null)],
        .document [("$not", .document [("c", .document [("k", .null)])])]]), ("$ne", .null)]
        (.document (Keyed.put "k" (.array [])
          [("k", .null), ("c", .document [("k", .bool true)])])) .root =
      evaluateFrom [("$or", .array [.document [("a.k", .null)],
        .document [("$not", .document [("c", .document [("k", .null)])])]]), ("$ne", .null)]
        (.document [("k", .null), ("c", .document [("k", .bool true)])]) .root :=
  ⟨by decide, by decide, evaluateFrom_put_of_not_mem_rootKeys (by decide) _ _ _⟩

end Verdict
