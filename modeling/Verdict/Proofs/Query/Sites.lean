import Verdict.Proofs.Query.Checks
import Verdict.Proofs.Query.Relocation
import Verdict.Proofs.Query.Routes

/-!
# Where reasons are given

`querySites` lists the checks that a query can give reasons of on a document, each with the route
that leads to it. An evaluation gives reasons at these sites and in their order
(`reasons_sublist_sites`), and every site has its place in the query document
(`exists_leadsTo_of_mem_querySites`): the steps of its route go below the keys that are written
there.
-/

namespace Verdict

/-- A check that gives a reason, at the end of a route. -/
@[ext] structure Site where
  route : Route
  kind : ReasonKind
deriving DecidableEq

namespace Site

/-- The place in the query that asks for the check. -/
def position (site : Site) : Route := site.route.position

def reason (site : Site) : Reason := ⟨site.route.propertyPath, site.route.queryPath, site.kind⟩

/-- The same check, seen from one step before. -/
def after (step : Step) (site : Site) : Site := { site with route := step :: site.route }

end Site

mutual

/-- The checks that a node gives reasons of on a value. A node that lies too deep gives none. -/
def Query.sites : Query → Value → Nat → List Site
  | .all conditions, value, depth =>
    if depth < maxDepth then
      if conditions.isEmpty then [⟨[], .hasNoKeys⟩]
      else sitesOfConditions conditions value (depth + 1)
    else []
termination_by structural query => query

def sitesOfConditions : List Condition → Value → Nat → List Site
  | [], _, _ => []
  | condition :: rest, value, depth =>
    condition.sites value depth ++ sitesOfConditions rest value depth
termination_by structural conditions => conditions

def Condition.sites : Condition → Value → Nat → List Site
  | .unknownOperator _, _, _ | .malformed _ _, _, _ => []
  | .leaf field _, value, _ =>
    match field.value? value with
    | some _ => [⟨[.field field], .equal⟩]
    | none => [⟨[.field field], .hasNoPath⟩]
  | .node field query, value, depth =>
    match field.value? value with
    | some found => (query.sites found depth).map (.after (.field field))
    | none => [⟨[.field field], .hasNoPath⟩]
  | .clauses junction queries, value, depth =>
    (sitesOfClauses queries value depth 0).map (.after (.operator junction.operator))
  | .negation query, value, depth => (query.sites value depth).map (.after (.operator .not))
  | .test leafTest _, _, _ => [⟨[.operator leafTest.operator], leafTest.kind⟩]
  | .membership wanted _, _, _ =>
    [⟨[.operator (if wanted then .isIn else .notIn)], if wanted then .inSet else .notInSet⟩]
  | .element query, value, depth =>
    match value with
    | .array [] => [⟨[.operator .elemMatch], .elementMatch⟩]
    | .array items =>
      (items.zipIdx.flatMap fun place =>
        (query.sites place.1 depth).map (.after (.element place.2))).map
          (.after (.operator .elemMatch))
    | _ => []
termination_by structural condition => condition

def sitesOfClauses : List Query → Value → Nat → Nat → List Site
  | [], _, _, _ => []
  | query :: rest, value, depth, index =>
    (query.sites value depth).map (.after (.clause index)) ++
      sitesOfClauses rest value depth (index + 1)
termination_by structural queries => queries

end

/-- The checks that a query document gives reasons of on a document. -/
def querySites (query : Document) (value : Value) : List Site :=
  (Query.ofDocument query).sites value 0

/-! ### Reasons are given at sites -/

/-- The reason that a check gives, however it comes out. -/
def Probe.reason? (probe : Probe) : Option Reason := probe.finding?.map Prod.fst

/-- One step further on a route. -/
def Position.step (p : Position) (step : Step) : Position := p.extend step.property step.query

namespace Position

variable (p : Position)

/-- A step that adds nothing to the path of the document. -/
theorem extend_empty_left (query : String) : p.extend "" query = p.withQuery query := by
  rw [extend, withProperty, Path.join_empty_right]

theorem extend_empty_right (property : String) : p.extend property "" = p.withProperty property := by
  rw [extend, withQuery, Path.join_empty_right]

end Position

/-- The reasons that are given at sites, for an evaluation that starts at a place. -/
def reasonsFrom (p : Position) (sites : List Site) : List Reason :=
  sites.map fun site => site.reason.under p

section

variable (p : Position)

theorem reasonsFrom_after (step : Step) (sites : List Site) :
    reasonsFrom p (sites.map (Site.after step)) = reasonsFrom (p.step step) sites := by
  rw [reasonsFrom, reasonsFrom, List.map_map]
  refine List.map_congr_left fun site _ => ?_
  simp only [Function.comp, Site.after, Site.reason, Route.propertyPath_cons, Route.queryPath_cons,
    Reason.under, Position.step, Position.extend, Position.withProperty, Position.withQuery,
    Path.join_assoc]

theorem reasonsFrom_here (kind : ReasonKind) : reasonsFrom p [⟨[], kind⟩] = [p.reason kind] := by
  simp [reasonsFrom, Site.reason, Reason.under, Route.propertyPath, Route.queryPath, Position.reason]

theorem reasonsFrom_step (step : Step) (kind : ReasonKind) :
    reasonsFrom p [⟨[step], kind⟩] = [(p.step step).reason kind] := by
  rw [← reasonsFrom_here, ← reasonsFrom_after]
  rfl

theorem reasonsFrom_root (sites : List Site) : reasonsFrom .root sites = sites.map Site.reason := rfl

theorem reasonsFrom_append (left right : List Site) :
    reasonsFrom p (left ++ right) = reasonsFrom p left ++ reasonsFrom p right := List.map_append

end

theorem sitesOfClauses_eq (queries : List Query) (value : Value) (depth index : Nat) :
    sitesOfClauses queries value depth index =
      (queries.zipIdx index).flatMap fun place =>
        (place.1.sites value depth).map (.after (.clause place.2)) := by
  induction queries generalizing index with
  | nil => rfl
  | cons query rest ih => rw [sitesOfClauses, List.zipIdx_cons, List.flatMap_cons, ih]

theorem sitesOfConditions_eq (conditions : List Condition) (value : Value) (depth : Nat) :
    sitesOfConditions conditions value depth =
      conditions.flatMap fun condition => condition.sites value depth := by
  induction conditions with
  | nil => rfl
  | cons condition rest ih => rw [sitesOfConditions, List.flatMap_cons, ih]

/-- The reasons of a query for each element are the reasons of all elements. -/
theorem reasons_probesOfElements {query : Query}
    (h : ∀ value p, (query.probes value p).filterMap Probe.reason? =
      reasonsFrom p (query.sites value p.depth)) (places : List (Value × Nat)) (p : Position) :
    (places.flatMap fun place =>
        query.probes place.1 (p.withProperty (Path.element place.2))).filterMap Probe.reason? =
      reasonsFrom p (places.flatMap fun place =>
        (query.sites place.1 p.depth).map (.after (.element place.2))) := by
  induction places with
  | nil => rfl
  | cons place rest ih =>
      rw [List.flatMap_cons, List.flatMap_cons, List.filterMap_append, reasonsFrom_append, ih,
        reasonsFrom_after, ← p.extend_empty_right]
      exact congrArg (· ++ _) (h place.1 (p.step (.element place.2)))

mutual

/-- The checks that a query gives reasons of are those that it asks for, in order. -/
theorem Query.reasons_probes (query : Query) (value : Value) (p : Position) :
    (query.probes value p).filterMap Probe.reason? = reasonsFrom p (query.sites value p.depth) := by
  match query with
  | .all conditions =>
      rw [Query.probes, Query.sites]
      split
      · split
        · exact (reasonsFrom_here p .hasNoKeys).symm
        · exact reasons_probesOfConditions conditions value p.descend
      · rfl
termination_by structural query

theorem reasons_probesOfConditions (conditions : List Condition) (value : Value) (p : Position) :
    (probesOfConditions conditions value p).filterMap Probe.reason? =
      reasonsFrom p (sitesOfConditions conditions value p.depth) := by
  match conditions with
  | [] => rfl
  | condition :: rest =>
      rw [probesOfConditions, sitesOfConditions, List.filterMap_append, reasonsFrom_append,
        condition.reasons_probes, reasons_probesOfConditions rest]
termination_by structural conditions

theorem Condition.reasons_probes (condition : Condition) (value : Value) (p : Position) :
    (condition.probes value p).filterMap Probe.reason? =
      reasonsFrom p (condition.sites value p.depth) := by
  match condition with
  | .unknownOperator _ => rfl
  | .malformed _ _ => rfl
  | .leaf field expected =>
      rw [Condition.probes, Condition.sites]
      cases field.value? value <;> exact (reasonsFrom_step p (.field field) _).symm
  | .node field query =>
      rw [Condition.probes, Condition.sites]
      cases field.value? value with
      | none => exact (reasonsFrom_step p (.field field) _).symm
      | some found =>
          dsimp only
          rw [reasonsFrom_after]
          exact query.reasons_probes found (p.step (.field field))
  | .clauses junction queries =>
      rw [Condition.probes, Condition.sites, reasonsFrom_after, Position.step,
        ← p.extend_empty_left]
      exact reasons_probesOfClauses queries value _ 0
  | .negation query =>
      rw [Condition.probes, Condition.sites, reasonsFrom_after, ← p.extend_empty_left]
      exact query.reasons_probes value (p.step (.operator .not))
  | .test leafTest operand =>
      rw [Condition.probes, Condition.sites, reasonsFrom_step, ← p.extend_empty_left]
      rfl
  | .membership wanted candidates =>
      rw [Condition.probes, Condition.sites, reasonsFrom_step, ← p.extend_empty_left]
      rfl
  | .element query =>
      have hstep : p.step (.operator .elemMatch) = p.withQuery Operator.elemMatch.name :=
        p.extend_empty_left _
      cases value with
      | array items =>
          rw [Condition.sites.eq_def]
          cases items with
          | nil =>
              dsimp only
              rw [reasonsFrom_step, hstep]
              rfl
          | cons first rest =>
              -- that the value is an array is no reason, so only the elements give any
              dsimp only
              rw [reasonsFrom_after, hstep]
              exact reasons_probesOfElements query.reasons_probes (first :: rest).zipIdx
                (p.withQuery Operator.elemMatch.name)
      | _ => rfl
termination_by structural condition

theorem reasons_probesOfClauses (queries : List Query) (value : Value) (p : Position) (index : Nat) :
    (probesOfClauses queries value p index).filterMap Probe.reason? =
      reasonsFrom p (sitesOfClauses queries value p.depth index) := by
  match queries with
  | [] => rfl
  | query :: rest =>
      rw [probesOfClauses, sitesOfClauses, List.filterMap_append, reasonsFrom_append,
        reasonsFrom_after, reasons_probesOfClauses rest, ← p.extend_empty_left]
      exact congrArg (· ++ _) (query.reasons_probes value (p.step (.clause index)))
termination_by structural queries

end

/-- The reasons of an evaluation that ends well are given at sites of the query, in order. -/
theorem reasons_sublist_sites {query : Document} {value : Value} {explanation : Explanation}
    (hok : explain query value = .ok explanation) :
    explanation.reasons.Sublist ((querySites query value).map Site.reason) := by
  rw [explain, ← explanation_judgeFrom, Trial.outcome_map] at hok
  obtain ⟨judgment, hjudgment, rfl⟩ := map_eq_ok.1 hok
  have hfound : FoundBy judgment.findings (queryProbes query value) :=
    (Query.ofDocument query).findings_foundBy value .root judgment hjudgment
  have hreasons := hfound.map Prod.fst
  rw [List.map_map, List.map_filterMap] at hreasons
  have hsites := (Query.ofDocument query).reasons_probes value .root
  rw [reasonsFrom_root] at hsites
  exact hsites ▸ hreasons

/-! ### The sites below a key -/

/-- What the sites of a key and its payload can be: none, a check of the key itself, those of the
payload as a node, or of its clauses, or those of the payload as a node for each element. -/
inductive SitesBelow (key : String) (payload : Value) (depth : Nat) : List Site → Prop
  | none : SitesBelow key payload depth []
  | check {step : Step} (hstep : step.TakenBy key) (kind : ReasonKind) :
      SitesBelow key payload depth [⟨[step], kind⟩]
  | node {step : Step} (hstep : step.TakenBy key) (hturn : step.turn = .key) (value : Value) :
      SitesBelow key payload depth (((Query.ofNode payload).sites value depth).map (.after step))
  | clauses {step : Step} {items : List Value} (hstep : step.TakenBy key)
      (hturn : step.turn = .clause) (hpayload : payload = .array items) (value : Value) :
      SitesBelow key payload depth ((items.zipIdx.flatMap fun place =>
        ((Query.ofNode place.1).sites value depth).map (.after (.clause place.2))).map (.after step))
  | elements {step : Step} (hstep : step.TakenBy key) (hturn : step.turn = .element)
      (values : List Value) :
      SitesBelow key payload depth ((values.zipIdx.flatMap fun place =>
        ((Query.ofNode payload).sites place.1 depth).map (.after (.element place.2))).map
          (.after step))

theorem sitesBelow_read (key : String) (payload value : Value) (depth : Nat) :
    SitesBelow key payload depth ((Condition.read (key, payload)).sites value depth) := by
  obtain ⟨condition, hcondition, hread⟩ := exists_reading key payload
  rw [hcondition]
  cases hread with
  | unknownOperator | malformed => exact .none
  | leaf hkey =>
      rw [Condition.sites]
      split <;> exact .check (.field hkey) _
  | node hkey =>
      rw [Condition.sites]
      split
      · exact .node (.field hkey) rfl _
      · exact .check (.field hkey) _
  | @clauses junction items hkey =>
      have hturn : (Step.operator junction.operator).turn = .clause := by cases junction <;> rfl
      rw [Condition.sites, sitesOfClauses_eq, List.zipIdx_map, List.flatMap_map]
      exact .clauses (.operator hkey) hturn rfl value
  | negation hkey => exact .node (.operator hkey) rfl value
  | test hkey => exact .check (.operator hkey) _
  | membership hkey => exact .check (.operator hkey) _
  | element hkey =>
      rw [Condition.sites.eq_def]
      cases value with
      | array items =>
          cases items with
          | nil => exact .check (.operator hkey) _
          | cons first rest => exact .elements (.operator hkey) rfl (first :: rest)
      | _ => exact .none

/-! ### Sites lie in the query -/

/-- The steps go below keys of a query document, each below a key of what the steps before it have
led to. -/
inductive LeadsTo : Value → Route → Value → Prop
  | here (node : Value) : LeadsTo node [] node
  | step {node payload target : Value} {key : String} {step : Step} {rest : Route}
      (hmem : (key, payload) ∈ node.nodeEntries) (hkey : step.key? = some key)
      (h : LeadsTo payload rest target) : LeadsTo node (step :: rest) target

/-- The positions of the sites lead somewhere in a node. -/
def LieIn (node : Value) (sites : List Site) : Prop :=
  ∀ site ∈ sites, ∃ target, LeadsTo node site.position target

/-- The positions of the sites go below a key and lead somewhere in its payload. -/
def LieBelow (key : String) (payload : Value) (sites : List Site) : Prop :=
  ∀ site ∈ sites, ∃ step rest target, site.position = step :: rest ∧ step.key? = some key ∧
    LeadsTo payload rest target

section

variable {node payload : Value} {key : String} {sites : List Site}

theorem LieIn.here (node : Value) (kind : ReasonKind) : LieIn node [⟨[], kind⟩] :=
  List.forall_mem_singleton.2 ⟨node, .here node⟩

theorem LieIn.nil (node : Value) : LieIn node [] := List.forall_mem_nil _

theorem LieIn.below (h : LieIn payload sites) {step : Step} (hkey : step.key? = some key) :
    LieBelow key payload (sites.map (.after step)) := by
  refine List.forall_mem_map.2 fun site hmem => ?_
  obtain ⟨target, htarget⟩ := h site hmem
  exact ⟨step, site.position, target, Route.position_cons_of_key? hkey site.route, hkey, htarget⟩

/-- The elements of the document make no difference in the query. -/
theorem LieIn.element (h : LieIn node sites) (index : Nat) :
    LieIn node (sites.map (.after (.element index))) :=
  List.forall_mem_map.2 fun site hmem => h site hmem

theorem LieIn.flatMap {α : Type} {as : List α} {f : α → List Site}
    (h : ∀ a ∈ as, LieIn node (f a)) : LieIn node (as.flatMap f) := by
  intro site hmem
  obtain ⟨a, ha, hsite⟩ := List.mem_flatMap.1 hmem
  exact h a ha site hsite

theorem LieBelow.lieIn (h : LieBelow key payload sites) (hmem : (key, payload) ∈ node.nodeEntries) :
    LieIn node sites := by
  intro site hsite
  obtain ⟨step, rest, target, hposition, hkey, htarget⟩ := h site hsite
  exact ⟨target, hposition ▸ .step hmem hkey htarget⟩

end

private theorem lieIn_ofNode_of_children {node : Value}
    (h : ∀ child ∈ node.children, ∀ key value depth,
      LieBelow key child ((Condition.read (key, child)).sites value depth))
    (value : Value) (depth : Nat) : LieIn node ((Query.ofNode node).sites value depth) := by
  rw [Query.ofNode, Query.sites]
  split
  · split
    · exact .here node .hasNoKeys
    · rw [sitesOfConditions_eq, List.flatMap_map]
      refine .flatMap ?_
      rintro ⟨key, child⟩ hmem
      exact (h child (Value.mem_children_of_mem_nodeEntries hmem) key value (depth + 1)).lieIn hmem
  · exact .nil node

private theorem lieBelow_read_of_nodes {payload : Value}
    (hpayload : ∀ value depth, LieIn payload ((Query.ofNode payload).sites value depth))
    (hchildren : ∀ child ∈ payload.children, ∀ value depth,
      LieIn child ((Query.ofNode child).sites value depth))
    (key : String) (value : Value) (depth : Nat) :
    LieBelow key payload ((Condition.read (key, payload)).sites value depth) := by
  have hbelow := sitesBelow_read key payload value depth
  generalize (Condition.read (key, payload)).sites value depth = sites at hbelow ⊢
  cases hbelow with
  | none => exact List.forall_mem_nil _
  | check hstep kind => exact (LieIn.here payload kind).below hstep.key?_eq
  | node hstep _ found => exact (hpayload found depth).below hstep.key?_eq
  | @clauses step items hstep _ hitems found =>
      subst hitems
      refine LieIn.below (.flatMap fun place hmem => ?_) hstep.key?_eq
      have hclause : (toString place.2, place.1) ∈ (Value.array items).nodeEntries :=
        List.mem_map_of_mem hmem
      have hlies := hchildren place.1 (Value.mem_children_of_mem_nodeEntries hclause) found depth
      have hkey : (Step.clause place.2).key? = some (toString place.2) := rfl
      exact (hlies.below hkey).lieIn hclause
  | elements hstep _ values =>
      refine LieIn.below (.flatMap fun place _ => ?_) hstep.key?_eq
      exact (hpayload place.1 depth).element place.2

/-- The position of a site names a place of the query document. -/
theorem exists_leadsTo_of_mem_querySites {query : Document} {value : Value} {site : Site}
    (h : site ∈ querySites query value) :
    ∃ target, LeadsTo (.document query) site.position target := by
  have hnode := (Value.queryInduction (fun _ => lieIn_ofNode_of_children)
    (fun _ => lieBelow_read_of_nodes) (.document query)).2 value 0
  rw [Query.ofNode_document] at hnode
  exact hnode site h

end Verdict
