import SecureSaas.Blueprint.Graph
import SecureSaas.Graph.Walk
import Mathlib.Algebra.BigOperators.Group.List.Basic
import Mathlib.Algebra.Group.Action.Defs

/-!
# Network paths of a blueprint

`findNetworkPaths` searches the can-reach edges breadth first. A queue holds the trails that
are still to be extended; a trail is never extended to a zone it has passed, nor beyond
`maxDepth` edges, and the search fails once more than `maxPaths` paths would be reported.

* `visit_ok`: what one trail adds to the paths and to the queue.
* `search_complete`: a search that succeeds reports every extension of its queue.
* `findNetworkPaths_complete`: **every simple walk of at most `maxDepth` edges is reported.**
* `findNetworkPaths_reaches`: the default depth is enough for walks through declared zones.
-/

namespace SecureSaas.Blueprint

open SecureSaas.Graph

structure NetworkPath where
  fromZoneId : String
  toZoneId : String
  zoneIds : List String
  edgeIds : List String
  flowIds : List String
  brokeredAtSource : Bool
deriving DecidableEq

/-- A number that a length is compared with. -/
inductive Limit
  | int (n : ℤ)
  /-- `NaN` or `Infinity`. -/
  | none
deriving DecidableEq

/-- `length >= limit`. -/
def Limit.reached : Limit → ℕ → Bool
  | .int n, length => n ≤ length
  | .none, _ => false

def Limit.text : Limit → String
  | .int n => toString n
  | .none => "Infinity"

/-- A depth that no trail of `edgeCount` different edges gets past. -/
def Limit.depth (edgeCount : ℕ) : Limit → ℤ
  | .int n => n
  | .none => edgeCount + 1

structure NetworkPathOptions where
  toZoneId : Option String
  maxDepth : Option Limit
  maxPaths : Option Limit

/-- `{}`. -/
def defaultOptions : NetworkPathOptions := ⟨none, none, none⟩

/-- Whether no destination is asked for: an empty one counts as none. -/
def NetworkPathOptions.anyZone (options : NetworkPathOptions) : Bool :=
  options.toZoneId = none ∨ options.toZoneId = some ""

/-- Whether a path that arrives at `zoneId` is reported. -/
def NetworkPathOptions.reports (options : NetworkPathOptions) (zoneId : String) : Bool :=
  options.anyZone || options.toZoneId = some zoneId

/-- Whether a trail that arrives at `zoneId` is extended. -/
def NetworkPathOptions.continues (options : NetworkPathOptions) (zoneId : String) : Bool :=
  options.anyZone || options.toZoneId ≠ some zoneId

/-- An entry of the queue: the edges taken from `start` and the zones passed. -/
structure Trail (start : String) where
  zoneIds : List String
  edges : List SecurityEdge
  passed : zoneIds = vertices SecurityEdge.toId start edges

namespace Trail

variable {start : String}

def root (start : String) : Trail start := ⟨[start], [], vertices_nil SecurityEdge.toId start⟩

def extend (trail : Trail start) (edge : SecurityEdge) : Trail start :=
  ⟨trail.zoneIds ++ [edge.toId], trail.edges ++ [edge], by rw [trail.passed, vertices_append]; rfl⟩

/-- `zoneIds[zoneIds.length - 1]`. -/
def currentZone (trail : Trail start) : String := trail.zoneIds.getLastD start

@[simp] theorem extend_edges (trail : Trail start) (edge : SecurityEdge) :
    (trail.extend edge).edges = trail.edges ++ [edge] := rfl

@[simp] theorem extend_zoneIds (trail : Trail start) (edge : SecurityEdge) :
    (trail.extend edge).zoneIds = trail.zoneIds ++ [edge.toId] := rfl

@[simp] theorem extend_currentZone (trail : Trail start) (edge : SecurityEdge) :
    (trail.extend edge).currentZone = edge.toId := by
  simp [currentZone]

@[simp] theorem root_currentZone : (root start).currentZone = start := rfl

end Trail

/-- The path a trail reports when it has just arrived at its last zone. -/
def networkPath {start : String} (trail : Trail start) : NetworkPath :=
  { fromZoneId := start
    toZoneId := trail.currentZone
    zoneIds := trail.zoneIds
    edgeIds := trail.edges.map (·.id)
    flowIds := (trail.edges.map fun entry => entry.sourceId.getD entry.id).eraseDups
    brokeredAtSource := trail.edges.head?.bind (·.brokered) = some true }

/-- The can-reach edges that leave a zone. -/
def adjacency (graph : SecurityGraph) (zoneId : String) : List SecurityEdge :=
  graph.edges.filter fun edge => edge.kind = .canReach ∧ edge.fromId = zoneId

def exceededMessage (maxPaths : Limit) (fromZoneId : String) : String :=
  s!"Network reachability analysis exceeded {maxPaths.text} paths from '{fromZoneId}'; raise the reviewed limit or reduce graph complexity."

/-- The loop over the edges that leave the current zone. -/
def visit {start : String} (options : NetworkPathOptions) (maxPaths : Limit) (current : Trail start) :
    List SecurityEdge → List NetworkPath → List (Trail start) →
      Except String (List NetworkPath × List (Trail start))
  | [], paths, queue => .ok (paths, queue)
  | edge :: rest, paths, queue =>
    if current.zoneIds.contains edge.toId then visit options maxPaths current rest paths queue
    else if options.reports edge.toId ∧ maxPaths.reached paths.length then
      .error (exceededMessage maxPaths start)
    else
      visit options maxPaths current rest
        (if options.reports edge.toId then paths ++ [networkPath (current.extend edge)] else paths)
        (if options.continues edge.toId then queue ++ [current.extend edge] else queue)

section
variable {start : String} {options : NetworkPathOptions} {maxPaths : Limit} {current : Trail start}

/-- The edges a trail may take: those to zones it has not passed. -/
def freshEdges (current : Trail start) (edges : List SecurityEdge) : List SecurityEdge :=
  edges.filter fun edge => !current.zoneIds.contains edge.toId

/-- **What one trail adds**: a path for each reported extension, an entry for each that goes on. -/
theorem visit_ok : ∀ {edges : List SecurityEdge} {paths paths' : List NetworkPath}
    {queue queue' : List (Trail start)},
    visit options maxPaths current edges paths queue = .ok (paths', queue') →
      paths' = paths ++ ((freshEdges current edges).filter fun e => options.reports e.toId).map
        (fun e => networkPath (current.extend e)) ∧
      queue' = queue ++ ((freshEdges current edges).filter fun e => options.continues e.toId).map
        current.extend := by
  intro edges
  induction edges with
  | nil =>
    intro paths paths' queue queue' h
    simp only [visit, Except.ok.injEq, Prod.mk.injEq] at h
    simp [freshEdges, h.1, h.2]
  | cons edge rest ih =>
    intro paths paths' queue queue' h
    unfold visit at h
    by_cases hpassed : current.zoneIds.contains edge.toId = true
    · rw [if_pos hpassed] at h
      have hfresh : freshEdges current (edge :: rest) = freshEdges current rest := by
        rw [freshEdges, List.filter_cons_of_neg (by rw [hpassed]; decide), freshEdges]
      rw [hfresh]
      exact ih h
    · rw [if_neg hpassed] at h
      have hfresh : freshEdges current (edge :: rest) = edge :: freshEdges current rest := by
        rw [freshEdges, List.filter_cons_of_pos (by simpa using hpassed), freshEdges]
      split at h
      · cases h
      · obtain ⟨hp, hq⟩ := ih h
        rw [hp, hq, hfresh, List.filter_cons, List.filter_cons]
        constructor <;> split_ifs <;> simp

/-! ## The loop over the queue -/

/-- How much work an entry of the queue stands for. -/
def trailWeight (edgeCount : ℕ) (maxDepth : ℤ) (trail : Trail start) : ℕ :=
  (edgeCount + 1) ^ (maxDepth - trail.edges.length).toNat

theorem visit_weight {graph : SecurityGraph} {maxDepth : ℤ} {paths paths' : List NetworkPath}
    {queue queue' : List (Trail start)} (hdepth : ¬ (current.edges.length : ℤ) ≥ maxDepth)
    (h : visit options maxPaths current (adjacency graph current.currentZone) paths queue = .ok (paths', queue')) :
    (queue'.map (trailWeight graph.edges.length maxDepth)).sum <
      ((current :: queue).map (trailWeight graph.edges.length maxDepth)).sum := by
  set B := graph.edges.length
  obtain ⟨-, hq⟩ := visit_ok h
  set added := (freshEdges current (adjacency graph current.currentZone)).filter
    fun e => options.continues e.toId
  have hadded : added.length ≤ B :=
    ((List.length_filter_le _ _).trans (List.length_filter_le _ _)).trans (List.length_filter_le _ _)
  obtain ⟨d, hd⟩ : ∃ d : ℕ, (maxDepth - current.edges.length).toNat = d + 1 :=
    ⟨(maxDepth - current.edges.length).toNat - 1, by omega⟩
  -- an extension is one edge longer
  have hone : ∀ w ∈ (added.map current.extend).map (trailWeight B maxDepth), w = (B + 1) ^ d := by
    simp only [List.map_map, List.mem_map, forall_exists_index, and_imp, forall_apply_eq_imp_iff₂]
    intro e _
    rw [Function.comp_apply, trailWeight, Trail.extend_edges, List.length_append, List.length_singleton]
    congr 1
    omega
  have hsum := List.sum_eq_card_nsmul _ _ hone
  rw [List.length_map, List.length_map, smul_eq_mul] at hsum
  have hcurrent : trailWeight B maxDepth current = (B + 1) ^ d * (B + 1) := by
    rw [trailWeight, hd, pow_succ]
  have hpos : 0 < (B + 1) ^ d := Nat.pow_pos (Nat.succ_pos B)
  have hle : added.length * (B + 1) ^ d ≤ B * (B + 1) ^ d := Nat.mul_le_mul_right _ hadded
  rw [hq, List.map_append, List.sum_append, hsum, List.map_cons, List.sum_cons, hcurrent, Nat.mul_succ,
    Nat.mul_comm _ B]
  omega

end

/-- The loop over the queue. -/
def search {start : String} (graph : SecurityGraph) (options : NetworkPathOptions) (maxDepth : ℤ) (maxPaths : Limit) :
    List NetworkPath → List (Trail start) → Except String (List NetworkPath)
  | paths, [] => .ok paths
  | paths, current :: queue =>
    if _hdepth : (current.edges.length : ℤ) ≥ maxDepth then search graph options maxDepth maxPaths paths queue
    else
      match _hvisit : visit options maxPaths current (adjacency graph current.currentZone) paths queue with
      | .error e => .error e
      | .ok (paths', queue') => search graph options maxDepth maxPaths paths' queue'
termination_by _ queue => (queue.map (trailWeight graph.edges.length maxDepth)).sum
decreasing_by
  · rw [List.map_cons, List.sum_cons]
    exact Nat.lt_add_of_pos_left (Nat.pow_pos (Nat.succ_pos _))
  · exact visit_weight ‹_› ‹_›

def findNetworkPaths (blueprint : PlatformBlueprint) (fromZoneId : String) (options : NetworkPathOptions) :
    Except String (List NetworkPath) :=
  let graph := buildSecurityGraph blueprint
  let maxDepth := options.maxDepth.getD (.int (max blueprint.trustZones.length 1))
  search graph options (maxDepth.depth graph.edges.length) (options.maxPaths.getD (.int 1000)) [] [Trail.root fromZoneId]

/-! ## Every simple walk is found -/

section
variable {start : String} {graph : SecurityGraph} {options : NetworkPathOptions} {maxDepth : ℤ}
  {maxPaths : Limit}

/-- A walk of can-reach edges. -/
def Reach (graph : SecurityGraph) : String → List SecurityEdge → String → Prop :=
  Walk SecurityEdge.fromId SecurityEdge.toId fun edge => edge ∈ graph.edges ∧ edge.kind = .canReach

theorem mem_adjacency {zoneId : String} {edge : SecurityEdge} :
    edge ∈ adjacency graph zoneId ↔ (edge ∈ graph.edges ∧ edge.kind = .canReach) ∧ edge.fromId = zoneId := by
  simp [adjacency, and_assoc]

/-- The edges of consecutive hops lead from the first to the last. -/
theorem hopEdges_walk (flow : NetworkFlow) {E : SecurityEdge → Prop} : ∀ (rest : List String) (zoneId : String) (n : ℕ),
    (∀ e ∈ (((zoneId :: rest).zip rest).zipIdx n).map (fun h => hopEdge flow h.2 h.1.1 h.1.2), E e) →
      Walk SecurityEdge.fromId SecurityEdge.toId E zoneId
        ((((zoneId :: rest).zip rest).zipIdx n).map fun h => hopEdge flow h.2 h.1.1 h.1.2) (rest.getLastD zoneId) := by
  intro rest
  induction rest with
  | nil => exact fun zoneId _ _ => .nil zoneId
  | cons next rest ih =>
    intro zoneId n hE
    rw [List.zip_cons_cons, List.zipIdx_cons, List.map_cons] at hE ⊢
    obtain ⟨hfirst, hrest⟩ := List.forall_mem_cons.1 hE
    rw [List.getLastD_cons]
    exact .cons hfirst rfl (ih next (n + 1) hrest)

/-- A flow is a walk from its source to its destination. -/
theorem flow_reach {blueprint : PlatformBlueprint} {flow : NetworkFlow} (h : flow ∈ blueprint.flows) :
    Reach (buildSecurityGraph blueprint) flow.fromZoneId (flowEdges flow) flow.toZoneId := by
  have hwalk := hopEdges_walk flow
    (E := fun edge => edge ∈ (buildSecurityGraph blueprint).edges ∧ edge.kind = .canReach)
    (flow.viaZoneIds.getD [] ++ [flow.toZoneId]) flow.fromZoneId 0
    fun e he => canReach_iff.2 ⟨flow, h, he⟩
  rwa [List.getLastD_concat] at hwalk

/-- The paths one trail reports. -/
def reported (graph : SecurityGraph) (options : NetworkPathOptions) (current : Trail start) : List NetworkPath :=
  ((freshEdges current (adjacency graph current.currentZone)).filter fun e => options.reports e.toId).map
    fun e => networkPath (current.extend e)

/-- The entries one trail leaves in the queue. -/
def extensions (graph : SecurityGraph) (options : NetworkPathOptions) (current : Trail start) :
    List (Trail start) :=
  ((freshEdges current (adjacency graph current.currentZone)).filter fun e => options.continues e.toId).map
    current.extend

/-- A search that succeeds goes on with what its first entry adds. -/
theorem search_cons {paths out : List NetworkPath} {current : Trail start} {queue : List (Trail start)}
    (h : search graph options maxDepth maxPaths paths (current :: queue) = .ok out)
    (hdepth : ¬ (current.edges.length : ℤ) ≥ maxDepth) :
    search graph options maxDepth maxPaths (paths ++ reported graph options current)
      (queue ++ extensions graph options current) = .ok out := by
  rw [search, dif_neg hdepth] at h
  split at h
  · cases h
  · rename_i paths' queue' hvisit
    obtain ⟨hp, hq⟩ := visit_ok hvisit
    rw [hp, hq] at h
    exact h

theorem search_cons_deep {paths : List NetworkPath} {current : Trail start} {queue : List (Trail start)}
    (hdepth : (current.edges.length : ℤ) ≥ maxDepth) :
    search graph options maxDepth maxPaths paths (current :: queue) =
      search graph options maxDepth maxPaths paths queue := by
  rw [search, dif_pos hdepth]

/-- **Induction on a search that succeeds**, entry by entry. -/
theorem search_induct {out : List NetworkPath} {motive : List NetworkPath → List (Trail start) → Prop}
    (done : motive out [])
    (deep : ∀ paths current queue, (current.edges.length : ℤ) ≥ maxDepth → motive paths queue →
      motive paths (current :: queue))
    (visited : ∀ paths current queue, ¬ (current.edges.length : ℤ) ≥ maxDepth →
      motive (paths ++ reported graph options current) (queue ++ extensions graph options current) →
      motive paths (current :: queue))
    {paths : List NetworkPath} {queue : List (Trail start)}
    (h : search graph options maxDepth maxPaths paths queue = .ok out) : motive paths queue := by
  induction paths, queue using search.induct graph options maxDepth maxPaths with
  | case1 paths =>
    rw [search, Except.ok.injEq] at h
    exact h ▸ done
  | case2 paths current queue hdepth ih =>
    rw [search_cons_deep hdepth] at h
    exact deep paths current queue hdepth (ih h)
  | case3 paths current queue hdepth e hvisit =>
    rw [search, dif_neg hdepth] at h
    split at h <;> simp_all
  | case4 paths current queue hdepth paths' queue' hvisit ih =>
    have h' := search_cons h hdepth
    obtain ⟨hp, hq⟩ := visit_ok hvisit
    rw [hp, hq] at ih
    exact visited paths current queue hdepth (ih h')

/-- Whether the search follows `es` to its end and reports it there. -/
def NetworkPathOptions.follows (options : NetworkPathOptions) : List SecurityEdge → Prop
  | [] => False
  | [last] => options.reports last.toId = true
  | edge :: rest => options.continues edge.toId = true ∧ options.follows rest

/-- Whether `out` holds a path for every extension of `trail` that the search has to follow. -/
def Covered (graph : SecurityGraph) (options : NetworkPathOptions) (maxDepth : ℤ) (out : List NetworkPath)
    (trail : Trail start) : Prop :=
  ∀ es v, Reach graph trail.currentZone es v → options.follows es →
    (trail.zoneIds ++ es.map SecurityEdge.toId).Nodup → ((trail.edges.length + es.length : ℕ) : ℤ) ≤ maxDepth →
    ∃ found : Trail start, found.edges = trail.edges ++ es ∧ networkPath found ∈ out

/-- **A search that succeeds reports every extension of every entry of its queue.** -/
theorem search_complete {paths out : List NetworkPath} {queue : List (Trail start)}
    (h : search graph options maxDepth maxPaths paths queue = .ok out) :
    paths ⊆ out ∧ ∀ trail ∈ queue, Covered graph options maxDepth out trail := by
  refine search_induct
    (motive := fun paths queue => paths ⊆ out ∧ ∀ trail ∈ queue, Covered graph options maxDepth out trail)
    ⟨List.Subset.refl out, fun _ h => absurd h List.not_mem_nil⟩ ?_ ?_ h
  · rintro paths current queue hdepth ⟨hsub, ih⟩
    refine ⟨hsub, ?_⟩
    intro trail ht es v hreach hfollows hnodup hlen
    rcases List.mem_cons.1 ht with rfl | ht
    · -- an entry of full length has no room for another edge
      cases es with
      | nil => exact hfollows.elim
      | cons e rest =>
        rw [List.length_cons] at hlen
        omega
    · exact ih trail ht es v hreach hfollows hnodup hlen
  · rintro paths current queue hdepth ⟨hsub, ih⟩
    refine ⟨fun path hpath => hsub (List.mem_append_left _ hpath), ?_⟩
    intro trail ht es v hreach hfollows hnodup hlen
    rcases List.mem_cons.1 ht with rfl | ht
    · cases hreach with
      | nil => exact hfollows.elim
      | @cons _ _ e rest hedge hstart hrest =>
        have hfresh : e ∈ freshEdges trail (adjacency graph trail.currentZone) := by
          refine List.mem_filter.2 ⟨mem_adjacency.2 ⟨hedge, hstart⟩, ?_⟩
          have hnew : e.toId ∉ trail.zoneIds := by
            intro hmem
            exact (List.nodup_append.1 hnodup).2.2 _ hmem _ (by simp) rfl
          simpa using hnew
        cases rest with
        | nil =>
          refine ⟨trail.extend e, rfl, hsub (List.mem_append_right _ ?_)⟩
          exact List.mem_map.2 ⟨e, List.mem_filter.2 ⟨hfresh, hfollows⟩, rfl⟩
        | cons e' rest =>
          have hext : trail.extend e ∈ queue ++ extensions graph options trail :=
            List.mem_append_right _ (List.mem_map.2 ⟨e, List.mem_filter.2 ⟨hfresh, hfollows.1⟩, rfl⟩)
          obtain ⟨found, hedges, hout⟩ := ih _ hext (e' :: rest) v
            (by rw [Trail.extend_currentZone]; exact hrest) hfollows.2
            (by rw [Trail.extend_zoneIds]; simpa using hnodup)
            (by simp only [Trail.extend_edges, List.length_append, List.length_cons, List.length_nil] at hlen ⊢; omega)
          refine ⟨found, ?_, hout⟩
          rw [hedges, Trail.extend_edges, List.append_assoc, List.singleton_append]
    · exact ih trail (List.mem_append_left _ ht) es v hreach hfollows hnodup hlen

end

section
variable {blueprint : PlatformBlueprint} {fromZoneId : String} {options : NetworkPathOptions}
  {paths : List NetworkPath}

/-- **Every simple walk of at most `maxDepth` edges is reported**, by a path through its zones. -/
theorem findNetworkPaths_complete (h : findNetworkPaths blueprint fromZoneId options = .ok paths)
    {es : List SecurityEdge} {v : String} (hreach : Reach (buildSecurityGraph blueprint) fromZoneId es v)
    (hfollows : options.follows es) (hsimple : Simple SecurityEdge.toId fromZoneId es)
    (hlen : (es.length : ℤ) ≤ (options.maxDepth.getD (.int (max blueprint.trustZones.length 1))).depth
      (buildSecurityGraph blueprint).edges.length) :
    ∃ found : Trail fromZoneId, found.edges = es ∧ networkPath found ∈ paths := by
  exact (search_complete h).2 (Trail.root fromZoneId) List.mem_cons_self es v hreach hfollows hsimple
    (by simpa [Trail.root] using hlen)

theorem follows_default {es : List SecurityEdge} (hes : es ≠ []) : defaultOptions.follows es := by
  induction es with
  | nil => exact absurd rfl hes
  | cons e rest ih =>
    cases rest with
    | nil => rfl
    | cons e' rest => exact ⟨rfl, ih (List.cons_ne_nil e' rest)⟩

/-- A walk that passes declared zones only. -/
def DeclaredReach (blueprint : PlatformBlueprint) (u : String) (es : List SecurityEdge) (v : String) : Prop :=
  Reach (buildSecurityGraph blueprint) u es v ∧
    vertices SecurityEdge.toId u es ⊆ blueprint.trustZones.map (·.id)

/-- **The default depth is enough for declared zones**: where a walk through them leads, a
reported path leads through zones of that walk only. -/
theorem findNetworkPaths_reaches (h : findNetworkPaths blueprint fromZoneId defaultOptions = .ok paths)
    {v : String} {es : List SecurityEdge} (hreach : DeclaredReach blueprint fromZoneId es v)
    (hne : fromZoneId ≠ v) :
    ∃ path ∈ paths, path.toZoneId = v ∧ path.zoneIds ⊆ vertices SecurityEdge.toId fromZoneId es := by
  obtain ⟨hreach, hdeclared⟩ := hreach
  obtain ⟨fs, hsub, hwalk, hsimple⟩ := hreach.erase
  have hfs : fs ≠ [] := by
    rintro rfl
    cases hwalk
    exact hne rfl
  have hlen : fs.length < blueprint.trustZones.length := by
    have := hsimple.length_lt (List.Subset.trans (vertices_subset hsub) hdeclared)
    rwa [List.length_map] at this
  obtain ⟨found, hedges, hmem⟩ := findNetworkPaths_complete h hwalk (follows_default hfs) hsimple
    (by simp only [defaultOptions, Option.getD_none, Limit.depth]; omega)
  refine ⟨networkPath found, hmem, ?_, ?_⟩
  · show found.currentZone = v
    rw [Trail.currentZone, found.passed, hedges]
    exact hwalk.getLastD
  · show found.zoneIds ⊆ _
    rw [found.passed, hedges]
    exact vertices_subset hsub

end

end SecureSaas.Blueprint
