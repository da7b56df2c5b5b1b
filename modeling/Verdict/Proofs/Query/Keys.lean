import Mathlib.Data.List.Basic
import Verdict.Proofs.Path
import Verdict.Proofs.Query.Walk
import Verdict.Proofs.Text.Digit
import Verdict.Proofs.Value.Parts

/-!
# The keys of a query

`queryEntries` lists the keys of a query document, with their payloads, at every depth that a walk
comes to. A proof over conditions asks for a property of all conditions that the walk comes to, and
a theorem about documents asks for one of all keys (`keys_visits_ofDocument` is between the two), or
of all keys of all nodes in a value, however deep they lie (`forall_mem_keys_ofNode`). What a key
says of the condition it is read as is said here: which field it tests and which operator it
applies.
-/

namespace Verdict

namespace Visit

variable {κ ι : Type}

def key? : Visit κ → Option κ
  | node _ => none
  | key k _ => some k

/-- The keys among visits, in order. -/
def keys (visits : List (Visit κ)) : List κ := visits.filterMap key?

@[simp] theorem keys_nil : keys ([] : List (Visit κ)) = [] := rfl

@[simp] theorem keys_key_cons (k : κ) (path : String) (rest : List (Visit κ)) :
    keys (key k path :: rest) = k :: keys rest := rfl

@[simp] theorem keys_append (left right : List (Visit κ)) :
    keys (left ++ right) = keys left ++ keys right := List.filterMap_append

theorem keys_enter_of_lt {depth : Nat} (h : depth < maxDepth) (visits : List (Visit κ)) :
    keys (enter (depth + 1) visits) = keys visits := by
  rw [enter, if_pos (Nat.succ_le_of_lt h)]
  rfl

theorem keys_map (f : κ → ι) (visits : List (Visit κ)) :
    keys (visits.map (map f)) = (keys visits).map f := by
  induction visits with
  | nil => rfl
  | cons visit rest ih =>
      cases visit with
      | node depth => exact ih
      | key k path => exact congrArg (f k :: ·) ih

end Visit

/-- A walk through a condition comes to the condition itself. -/
theorem Condition.mem_keys_visits (condition : Condition) (path : String) (depth : Nat) :
    condition ∈ Visit.keys (condition.visits path depth) := by
  rw [Condition.visits.eq_def]
  exact List.mem_cons_self

/-- The keys of a query document with their payloads, of all nodes that a walk comes to. -/
def queryEntries (query : Document) : List (String × Value) := Visit.keys (visits query)

theorem keys_visits_ofDocument (query : Document) :
    Visit.keys ((Query.ofDocument query).visits "" 0) = (queryEntries query).map Condition.read := by
  rw [visits_ofDocument, Visit.keys_map, queryEntries]

/-- What holds of every key of a query document holds of every condition that is read off it. -/
theorem forall_mem_keys_ofDocument {query : Document} {post : Condition → Prop}
    (h : ∀ entry ∈ queryEntries query, post (.read entry)) :
    ∀ condition ∈ Visit.keys ((Query.ofDocument query).visits "" 0), post condition := by
  intro condition hcondition
  rw [keys_visits_ofDocument] at hcondition
  obtain ⟨entry, hentry, rfl⟩ := List.mem_map.1 hcondition
  exact h entry hentry

/-! ### The keys of all nodes in a value -/

theorem Visit.mem_keys_of_mem_enter {κ : Type} {k : κ} {depth : Nat} {visits : List (Visit κ)}
    (h : k ∈ keys (enter depth visits)) : k ∈ keys visits := by
  rw [enter] at h
  split at h
  · exact h
  · cases h

theorem mem_keys_visitsOfConditions {conditions : List Condition} {path : String} {depth : Nat}
    {condition : Condition} (h : condition ∈ Visit.keys (visitsOfConditions conditions path depth)) :
    ∃ first ∈ conditions, condition ∈ Visit.keys (first.visits path depth) := by
  induction conditions with
  | nil => cases h
  | cons first rest ih =>
      rw [visitsOfConditions, Visit.keys_append, List.mem_append] at h
      rw [List.exists_mem_cons_iff]
      exact h.imp id ih

theorem mem_keys_visitsOfQueries {queries : List Query} {index : Nat} {path : String} {depth : Nat}
    {condition : Condition}
    (h : condition ∈ Visit.keys (visitsOfQueries index queries path depth)) :
    ∃ query ∈ queries, ∃ place, condition ∈ Visit.keys (query.visits place depth) := by
  induction queries generalizing index with
  | nil => cases h
  | cons first rest ih =>
      rw [visitsOfQueries, Visit.keys_append, List.mem_append] at h
      rw [List.exists_mem_cons_iff]
      exact h.imp (fun hfirst => ⟨_, hfirst⟩) ih

/-- Every key of every node in a value is read as a condition that satisfies another condition. -/
abbrev EveryKeyReads (post : Condition → Prop) (value : Value) : Prop :=
  ∀ part ∈ value.parts, ∀ entry ∈ part.nodeEntries, post (.read entry)

section

variable {post : Condition → Prop}

theorem EveryKeyReads.of_mem_children {value child : Value} (h : EveryKeyReads post value)
    (hchild : child ∈ value.children) : EveryKeyReads post child :=
  fun part hpart => h part (Value.parts_subset_of_mem_children hchild hpart)

private theorem forall_mem_keys_ofNode_of_children {node : Value}
    (h : ∀ child ∈ node.children, EveryKeyReads post child → ∀ key path depth,
      post (.read (key, child)) →
      ∀ condition ∈ Visit.keys ((Condition.read (key, child)).visits path depth), post condition)
    (hpost : EveryKeyReads post node) (path : String) (depth : Nat) :
    ∀ condition ∈ Visit.keys ((Query.ofNode node).visits path depth), post condition := by
  intro condition hcondition
  rw [Query.ofNode, Query.visits] at hcondition
  obtain ⟨first, hfirst, hmem⟩ :=
    mem_keys_visitsOfConditions (Visit.mem_keys_of_mem_enter hcondition)
  obtain ⟨⟨key, payload⟩, hentry, rfl⟩ := List.mem_map.1 hfirst
  have hpayload := Value.mem_children_of_mem_nodeEntries hentry
  have hkey := hpost node node.mem_parts_self _ hentry
  exact h payload hpayload (hpost.of_mem_children hpayload) key path (depth + 1) hkey condition hmem

private theorem forall_mem_keys_read_of_nodes {payload : Value}
    (hpayload : EveryKeyReads post payload → ∀ path depth,
      ∀ condition ∈ Visit.keys ((Query.ofNode payload).visits path depth), post condition)
    (hchildren : ∀ child ∈ payload.children, EveryKeyReads post child → ∀ path depth,
      ∀ condition ∈ Visit.keys ((Query.ofNode child).visits path depth), post condition)
    (hpost : EveryKeyReads post payload) (key path : String) (depth : Nat)
    (hkey : post (.read (key, payload))) :
    ∀ condition ∈ Visit.keys ((Condition.read (key, payload)).visits path depth),
      post condition := by
  obtain ⟨condition, hcondition, hread⟩ := exists_reading key payload
  rw [hcondition] at hkey ⊢
  rw [Condition.visits.eq_def, Visit.keys_key_cons, List.forall_mem_cons]
  refine ⟨hkey, ?_⟩
  cases hread with
  | node | negation | element => exact hpayload hpost _ depth
  | clauses =>
      intro condition hmem
      obtain ⟨query, hquery, place, hmem⟩ := mem_keys_visitsOfQueries hmem
      obtain ⟨item, hitem, rfl⟩ := List.mem_map.1 hquery
      exact hchildren item hitem (hpost.of_mem_children hitem) place depth condition hmem
  | _ => exact List.forall_mem_nil _

/-- What every key in a node reads holds of every condition that a walk through the node comes
to. -/
theorem forall_mem_keys_ofNode {node : Value} (h : EveryKeyReads post node) (path : String)
    (depth : Nat) :
    ∀ condition ∈ Visit.keys ((Query.ofNode node).visits path depth), post condition :=
  (Value.queryInduction (fun _ => forall_mem_keys_ofNode_of_children)
    (fun _ => forall_mem_keys_read_of_nodes) node).2 h path depth

end

/-! ### The field of a condition -/

/-- The field that a condition tests, if it tests one. -/
def Condition.field? : Condition → Option Field
  | leaf field _ | node field _ => some field
  | _ => none

/-- A field that a key can write and that is not empty: only a path has points. -/
structure Field.IsNamed (field : Field) : Prop where
  property_ne_empty : field.property ≠ ""
  no_point : ∀ name, field = .plain name → '.' ∉ name.toList

/-- A name is a path of one key. -/
theorem Field.IsNamed.resolve?_plain {name : String} (h : (plain name).IsNamed) (value : Value) :
    value.resolve? name = value.get? name := by
  rw [Value.resolve?, Path.segments_of_not_mem (h.no_point name rfl), List.foldlM_cons]
  exact Option.bind_fun_some _

theorem Key.property_of_classify {key : String} {field : Field}
    (h : Key.classify key = .field field) : field.property = key := by
  rw [Key.classify] at h
  split at h
  · cases h
  · split at h <;> cases h <;> rfl

theorem Key.isNamed_of_classify {key : String} {field : Field}
    (h : Key.classify key = .field field) (hkey : key ≠ "") : field.IsNamed where
  property_ne_empty := by rwa [Key.property_of_classify h]
  no_point := by
    rintro name rfl
    rw [Key.classify] at h
    split at h
    · cases h
    · split at h
      · cases h
      · rename_i hpoint
        cases h
        exact hpoint

/-- Every place in an array is the name of a field. -/
theorem Key.classify_toString (index : Nat) :
    Key.classify (toString index) = .field (.plain (toString index)) := by
  have hdollar : (toString index).toList.head? ≠ some '$' :=
    fun h => Digit.not_mem_toString (by decide) index (List.mem_of_mem_head? h)
  rw [Key.classify, if_neg hdollar, if_neg (Digit.not_mem_toString (by decide) index)]

theorem classify_of_field?_read {key : String} {payload : Value} {field : Field}
    (h : (Condition.read (key, payload)).field? = some field) :
    Key.classify key = .field field := by
  obtain ⟨condition, hcondition, hread⟩ := exists_reading key payload
  rw [hcondition] at h
  cases hread with
  | leaf hkey hleaf =>
      cases h
      exact hkey
  | node hkey hnode =>
      cases h
      exact hkey
  | _ => cases h

/-! ### The operator of a condition -/

theorem classify_of_operator?_read {key : String} {payload : Value} {operator : Operator}
    (h : (Condition.read (key, payload)).operator? = some operator) :
    Key.classify key = .operator operator.name := by
  obtain ⟨condition, hcondition, hread⟩ := exists_reading key payload
  rw [hcondition] at h
  cases hread with
  | leaf | node | unknownOperator => cases h
  | malformed hkey => cases h; exact hkey
  | clauses hkey => cases h; exact hkey
  | negation hkey => cases h; exact hkey
  | test hkey => cases h; exact hkey
  | membership hkey => cases h; exact hkey
  | element hkey => cases h; exact hkey

theorem Key.eq_of_classify_operator {key name : String} (h : Key.classify key = .operator name) :
    key = name := by
  rw [Key.classify] at h
  split at h
  · cases h
    rfl
  · split at h <;> cases h

/-- Only an empty array is read as no clauses. -/
theorem eq_empty_of_read_eq_clauses {key : String} {payload : Value} {junction : Junction}
    (h : Condition.read (key, payload) = .clauses junction []) :
    key = junction.operator.name ∧ payload = .array [] := by
  obtain ⟨condition, hcondition, hread⟩ := exists_reading key payload
  rw [hcondition] at h
  subst h
  generalize hqueries : ([] : List Query) = queries at hread
  cases hread with
  | clauses hkey hclauses =>
      obtain rfl := List.map_eq_nil_iff.1 hqueries.symm
      exact ⟨Key.eq_of_classify_operator hkey, rfl⟩

end Verdict
