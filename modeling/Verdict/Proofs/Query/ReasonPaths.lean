import Mathlib.Data.List.Sigma
import Verdict.Proofs.Query.Sites
import Verdict.Proofs.Value.KeyOrder

/-!
# Reasons tell their checks

A route is known by the two paths of its reason, so a reason tells the check that it is given by
(`reasons_identify_checks`): keys keep apart what is checked below different keys, the indices of
clauses and elements what is checked below these, and no check is made twice.
-/

namespace Verdict

/-! ### No two sites are on one route -/

/-- The sites are on routes, and no two are on the same. -/
structure Routed (turn : Turn) (sites : List Site) : Prop where
  isRoute : ∀ site ∈ sites, site.route.IsRouteFrom turn
  distinct : (sites.map Site.route).Nodup

namespace Routed

variable {turn : Turn} {sites : List Site}

theorem nil (turn : Turn) : Routed turn [] := ⟨List.forall_mem_nil _, List.nodup_nil⟩

theorem here (turn : Turn) (kind : ReasonKind) : Routed turn [⟨[], kind⟩] where
  isRoute := List.forall_mem_singleton.2 (.nil turn)
  distinct := List.nodup_singleton _

theorem after {step : Step} (h : Routed step.turn sites) (hstep : step.Fits turn) :
    Routed turn (sites.map (.after step)) where
  isRoute := List.forall_mem_map.2 fun site hmem => .cons hstep (h.isRoute site hmem)
  distinct := by
    have hroutes : (sites.map (Site.after step)).map Site.route =
        (sites.map Site.route).map (step :: ·) := by
      rw [List.map_map, List.map_map]
      rfl
    rw [hroutes]
    exact h.distinct.map List.cons_injective

/-- Sites below different steps are on different routes. -/
theorem flatMap {α β : Type} {as : List α} {f : α → List Site} (label : α → β)
    (first? : Step → Option β) (h : ∀ a ∈ as, Routed turn (f a))
    (hfirst : ∀ a ∈ as, ∀ site ∈ f a, site.route.head?.bind first? = some (label a))
    (hlabels : (as.map label).Nodup) : Routed turn (as.flatMap f) where
  isRoute site hmem := by
    obtain ⟨a, ha, hsite⟩ := List.mem_flatMap.1 hmem
    exact (h a ha).isRoute site hsite
  distinct := by
    rw [List.map_flatMap, List.nodup_flatMap]
    refine ⟨fun a ha => (h a ha).distinct, ?_⟩
    refine (List.pairwise_map.1 hlabels).imp_of_mem fun {a b} ha hb hne => ?_
    intro route hleft hright
    obtain ⟨site, hsite, rfl⟩ := List.mem_map.1 hleft
    obtain ⟨other, hother, heq⟩ := List.mem_map.1 hright
    have hlabel := hfirst b hb other hother
    rw [heq, hfirst a ha site hsite] at hlabel
    exact hne (Option.some.inj hlabel)

/-- Sites below numbered steps. -/
theorem places {α : Type} {as : List α} (f : α → List Site) (step : Nat → Step)
    (h : ∀ a ∈ as, ∀ index, Routed (step index).turn (f a)) (hstep : ∀ index, (step index).Fits turn)
    (hinj : Function.Injective step) :
    Routed turn (as.zipIdx.flatMap fun place => (f place.1).map (.after (step place.2))) := by
  refine .flatMap (fun place => step place.2) some ?_ ?_ ?_
  · intro place hmem
    exact (h place.1 (List.fst_mem_of_mem_zipIdx hmem) place.2).after (hstep place.2)
  · intro place _
    exact List.forall_mem_map.2 fun site _ => rfl
  · have hsteps : (as.zipIdx.map fun place => step place.2) =
        (as.zipIdx.map Prod.snd).map step := (List.map_map ..).symm
    rw [hsteps]
    exact (List.nodup_zipIdx_map_snd as).map hinj

section

variable {site other : Site}

/-- The path of a reason in the query tells the place in the query. -/
theorem position_eq (h : Routed turn sites) (hsite : site ∈ sites) (hother : other ∈ sites)
    (hquery : site.reason.queryPath = other.reason.queryPath) : site.position = other.position :=
  Route.position_eq_of_queryPath_eq (h.isRoute site hsite) (h.isRoute other hother) hquery

/-- Both paths of a reason tell the route. -/
theorem route_eq (h : Routed turn sites) (hsite : site ∈ sites) (hother : other ∈ sites)
    (hquery : site.reason.queryPath = other.reason.queryPath)
    (hproperty : site.reason.propertyPath = other.reason.propertyPath) :
    site.route = other.route :=
  Route.eq_of_propertyPath_eq (h.isRoute site hsite) (h.isRoute other hother)
    (h.position_eq hsite hother hquery) hproperty

/-- A reason tells the site that it is given at. -/
theorem eq_of_reason_eq (h : Routed turn sites) (hsite : site ∈ sites) (hother : other ∈ sites)
    (heq : site.reason = other.reason) : site = other :=
  Site.ext (h.route_eq hsite hother (congrArg Reason.queryPath heq)
    (congrArg Reason.propertyPath heq)) (congrArg Reason.kind heq)

/-- No two reasons have both paths in common. -/
theorem nodup_paths (h : Routed turn sites) :
    ((sites.map Site.reason).map fun reason => (reason.queryPath, reason.propertyPath)).Nodup := by
  rw [List.map_map]
  refine List.pairwise_map.2 ((List.pairwise_map.1 h.distinct).imp_of_mem ?_)
  intro site other hsite hother hne heq
  exact hne (h.route_eq hsite hother (congrArg Prod.fst heq) (congrArg Prod.snd heq))

end

end Routed

/-- Sites below a key of a query. -/
structure RoutedBelow (key : String) (sites : List Site) : Prop extends Routed .key sites where
  begins : ∀ site ∈ sites, site.route.head?.bind Step.key? = some key

namespace RoutedBelow

variable {key : String} {sites : List Site}

theorem nil (key : String) : RoutedBelow key [] := ⟨.nil .key, List.forall_mem_nil _⟩

theorem after {step : Step} (h : Routed step.turn sites) (hstep : step.Fits .key)
    (hkey : step.key? = some key) : RoutedBelow key (sites.map (.after step)) where
  toRouted := h.after hstep
  begins := List.forall_mem_map.2 fun _ _ => hkey

end RoutedBelow

/-- A value whose keys can all be named by a path, and each stands for one entry. -/
structure Value.HasReadableKeys (value : Value) : Prop where
  readable : value.EveryEntry fun entry => IsReadableKey entry.1
  distinct : value.HasDistinctKeys

theorem Value.HasReadableKeys.of_mem_children {value child : Value} (h : value.HasReadableKeys)
    (hchild : child ∈ value.children) : child.HasReadableKeys :=
  ⟨h.readable.of_mem_children hchild, h.distinct.of_mem_children hchild⟩

/-- The keys of a node are distinct, those of an array because its places are. -/
theorem Value.HasDistinctKeys.nodup_keys_nodeEntries {node : Value} (h : node.HasDistinctKeys) :
    (Keyed.keys node.nodeEntries).Nodup := by
  cases node with
  | document entries => exact h entries (mem_documents_document entries)
  | array items =>
      have hkeys : Keyed.keys (array items).nodeEntries =
          (items.zipIdx.map Prod.snd).map toString := by
        rw [Keyed.keys, nodeEntries, List.map_map, List.map_map]
        rfl
      rw [hkeys]
      refine (List.nodup_zipIdx_map_snd items).map fun i j hij => Path.element_inj ?_
      rw [Path.element, Path.element, hij]
  | _ => exact List.nodup_nil

private theorem routed_ofNode_of_children {node : Value}
    (h : ∀ child ∈ node.children, child.HasReadableKeys → ∀ key, IsReadableKey key →
      ∀ value depth, RoutedBelow key ((Condition.read (key, child)).sites value depth))
    (hkeys : node.HasReadableKeys) (value : Value) (depth : Nat) :
    Routed .key ((Query.ofNode node).sites value depth) := by
  rw [Query.ofNode, Query.sites]
  split
  · split
    · exact .here .key .hasNoKeys
    · rw [sitesOfConditions_eq, List.flatMap_map]
      have hentries : ∀ entry ∈ node.nodeEntries,
          RoutedBelow entry.1 ((Condition.read entry).sites value (depth + 1)) := by
        rintro ⟨key, child⟩ hmem
        have hchild := Value.mem_children_of_mem_nodeEntries hmem
        have hkey := hkeys.readable.nodeEntries (fun index _ => isReadableKey_toString index) _ hmem
        exact h child hchild (hkeys.of_mem_children hchild) key hkey value (depth + 1)
      exact .flatMap Prod.fst Step.key? (fun entry hmem => (hentries entry hmem).toRouted)
        (fun entry hmem => (hentries entry hmem).begins) hkeys.distinct.nodup_keys_nodeEntries
  · exact .nil .key

private theorem routedBelow_read_of_nodes {payload : Value}
    (hpayload : payload.HasReadableKeys → ∀ value depth,
      Routed .key ((Query.ofNode payload).sites value depth))
    (hchildren : ∀ child ∈ payload.children, child.HasReadableKeys → ∀ value depth,
      Routed .key ((Query.ofNode child).sites value depth))
    (hkeys : payload.HasReadableKeys) (key : String) (hkey : IsReadableKey key) (value : Value)
    (depth : Nat) : RoutedBelow key ((Condition.read (key, payload)).sites value depth) := by
  have hbelow := sitesBelow_read key payload value depth
  generalize (Condition.read (key, payload)).sites value depth = sites at hbelow ⊢
  cases hbelow with
  | none => exact .nil key
  | @check step hstep kind => exact .after (.here step.turn kind) (hstep.fits hkey) hstep.key?_eq
  | node hstep hturn found =>
      refine .after ?_ (hstep.fits hkey) hstep.key?_eq
      rw [hturn]
      exact hpayload hkeys found depth
  | clauses hstep hturn hitems found =>
      subst hitems
      refine .after ?_ (hstep.fits hkey) hstep.key?_eq
      rw [hturn]
      exact .places (fun item => (Query.ofNode item).sites found depth) .clause
        (fun item hmem _ => hchildren item hmem (hkeys.of_mem_children hmem) found depth) .clause
        fun i j hij => Step.clause.inj hij
  | elements hstep hturn values =>
      refine .after ?_ (hstep.fits hkey) hstep.key?_eq
      rw [hturn]
      exact .places (fun found => (Query.ofNode payload).sites found depth) .element
        (fun found _ _ => hpayload hkeys found depth) .element fun i j hij => Step.element.inj hij

/-- The sites of a node whose keys can be told apart are on routes of their own. -/
theorem routed_ofNode {node : Value} (h : node.HasReadableKeys) (value : Value) (depth : Nat) :
    Routed .key ((Query.ofNode node).sites value depth) :=
  (Value.queryInduction (fun _ => routed_ofNode_of_children) (fun _ => routedBelow_read_of_nodes)
    node).2 h value depth

/-- The reasons are given by checks of the query, in order, and each by one check and no other. Each
check has its place in the query document; the path of the reason in the query tells that place, and
its two paths together tell the check, so that no two reasons have both in common. -/
theorem reasons_identify_checks {query : Document}
    (hreadable : (Value.document query).EveryEntry fun entry => IsReadableKey entry.1)
    (hdistinct : (Value.document query).HasDistinctKeys) {value : Value} {explanation : Explanation}
    (hok : explain query value = .ok explanation) :
    explanation.reasons.Sublist ((querySites query value).map Site.reason) ∧
    (∀ reason ∈ explanation.reasons,
      ∃! site, site ∈ querySites query value ∧ site.reason = reason) ∧
    (∀ site ∈ querySites query value,
      ∃ payload, LeadsTo (.document query) site.position payload) ∧
    (∀ site ∈ querySites query value, ∀ other ∈ querySites query value,
      site.reason.queryPath = other.reason.queryPath → site.position = other.position) ∧
    (explanation.reasons.map fun reason => (reason.queryPath, reason.propertyPath)).Nodup := by
  have hrouted : Routed .key (querySites query value) := by
    have hnode := routed_ofNode ⟨hreadable, hdistinct⟩ value 0
    rwa [Query.ofNode_document] at hnode
  have hgiven := reasons_sublist_sites hok
  refine ⟨hgiven, ?_, fun site hmem => exists_leadsTo_of_mem_querySites hmem, ?_,
    (hgiven.map _).nodup hrouted.nodup_paths⟩
  · intro reason hreason
    obtain ⟨site, hsite, rfl⟩ := List.mem_map.1 (hgiven.subset hreason)
    exact ⟨site, ⟨hsite, rfl⟩, fun other hother => hrouted.eq_of_reason_eq hother.1 hsite hother.2⟩
  · exact fun site hsite other hother => hrouted.position_eq hsite hother

/-- The elements of arrays in an array are told apart in the document, and in the query a path from
two fields one inside the other, and the index of a clause from a key in brackets. -/
theorem reasons_identify_checks_nested :
    ∃ query value explanation,
      query = [("$or", .array [.document [("a", .document [("$elemMatch",
            .document [("$elemMatch", .document [("$eq", .null)])])])],
          .document [("a.b", .null)],
          .document [("a", .document [("b", .null), ("[0]", .document [])])]])] ∧
      value = Value.document [("a", .array [.array [.bool true, .bool false],
        .array [.undefined]])] ∧
      explanation = ⟨false, [⟨"a.[0].[0]", "$or.[0].a.$elemMatch.$elemMatch.$eq", .equal⟩,
        ⟨"a.[0].[1]", "$or.[0].a.$elemMatch.$elemMatch.$eq", .equal⟩,
        ⟨"a.[1].[0]", "$or.[0].a.$elemMatch.$elemMatch.$eq", .equal⟩,
        ⟨"a.b", "$or.[1].\"a.b\"", .equal⟩, ⟨"a.b", "$or.[2].a.b", .hasNoPath⟩,
        ⟨"a.[0]", "$or.[2].a.[0]", .hasNoPath⟩]⟩ ∧
      (Value.document query).EveryEntry (fun entry => IsReadableKey entry.1) ∧
      (Value.document query).HasDistinctKeys ∧
      explain query value = .ok explanation ∧
      explanation.reasons.Sublist ((querySites query value).map Site.reason) ∧
      (∀ reason ∈ explanation.reasons,
        ∃! site, site ∈ querySites query value ∧ site.reason = reason) ∧
      (∀ site ∈ querySites query value,
        ∃ payload, LeadsTo (.document query) site.position payload) ∧
      (∀ site ∈ querySites query value, ∀ other ∈ querySites query value,
        site.reason.queryPath = other.reason.queryPath → site.position = other.position) ∧
      (explanation.reasons.map fun reason => (reason.queryPath, reason.propertyPath)).Nodup := by
  refine ⟨_, _, _, rfl, rfl, rfl, ?readable, ?distinct, ?ok,
    reasons_identify_checks ?readable ?distinct ?ok⟩ <;> decide

end Verdict
