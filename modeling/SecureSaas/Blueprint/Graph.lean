import SecureSaas.Blueprint.Model

/-!
# The security graph of a blueprint

One node for each declared thing and one edge for each declared relation between two. A flow
becomes one can-reach edge per hop, from its source through its transit zones to its
destination.

* `canReach_iff`: the can-reach edges are the hops of the flows.
* `flowEdges_toId`: a hop ends at a zone of its flow.
-/

namespace SecureSaas.Blueprint

open Js

inductive SecurityNodeKind
  | trustZone
  | networkDomain
  | workloadPlane
  | application
  | applicationComponent
  | tenant
  | dataBoundary
  | identity
  | evidenceSink
deriving DecidableEq

inductive SecurityEdgeKind
  | placedIn
  | canReach
  | canAccess
  | delegatesTo
  | auditsTo
  | runsOn
  | usesIdentity
  | usesData
  | partOf
  | calls
deriving DecidableEq

structure SecurityNode where
  id : String
  kind : SecurityNodeKind
  tenantIds : List String
deriving DecidableEq

/-- `fromId` and `toId` are the source's `from` and `to`. -/
structure SecurityEdge where
  id : String
  kind : SecurityEdgeKind
  fromId : String
  toId : String
  brokered : Option Bool
  sourceId : Option String
deriving DecidableEq

structure SecurityGraph where
  nodes : Record SecurityNode
  edges : List SecurityEdge
deriving DecidableEq

/-- An edge that says neither whether it is brokered nor where it comes from. -/
def plainEdge (id : String) (kind : SecurityEdgeKind) (fromId toId : String) : SecurityEdge :=
  { id, kind, fromId, toId, brokered := none, sourceId := none }

/-! ## What each part of the blueprint adds -/

def zoneNode (zone : TrustZone) : SecurityNode :=
  { id := zone.id, kind := .trustZone, tenantIds := tenantIds zone.tenantScope }

def domainNode (domain : NetworkDomain) : SecurityNode :=
  { id := domain.id, kind := .networkDomain, tenantIds := [] }

def domainEdge (domain : NetworkDomain) : SecurityEdge :=
  plainEdge s!"domain:{domain.id}:zone:{domain.zoneId}" .placedIn domain.id domain.zoneId

def workloadNode (workload : WorkloadPlane) : SecurityNode :=
  { id := workload.id, kind := .workloadPlane, tenantIds := tenantIds workload.tenantScope }

def workloadEdge (workload : WorkloadPlane) : SecurityEdge :=
  plainEdge s!"workload:{workload.id}:zone:{workload.zoneId}" .placedIn workload.id workload.zoneId

def componentId (application : ApplicationDeployment) (component : ApplicationComponent) : String :=
  s!"{application.id}/{component.id}"

def componentNode (application : ApplicationDeployment) (component : ApplicationComponent) : SecurityNode :=
  { id := componentId application component, kind := .applicationComponent,
    tenantIds := tenantIds application.tenantScope }

def componentEdges (application : ApplicationDeployment) (component : ApplicationComponent) :
    List SecurityEdge :=
  let id := componentId application component
  [plainEdge s!"component:{id}:application:{application.id}" .partOf id application.id,
   plainEdge s!"component:{id}:workload:{component.workloadPlaneId}" .runsOn id component.workloadPlaneId,
   plainEdge s!"component:{id}:identity:{component.serviceIdentityId}" .usesIdentity id
     component.serviceIdentityId] ++
  component.dataBoundaryIds.map fun boundaryId =>
    plainEdge s!"component:{id}:data:{boundaryId}" .usesData id boundaryId

/-- The edge of a declared call between two components. -/
def callEdge (caller callee : String) : SecurityEdge :=
  { plainEdge s!"component:{caller}:calls:{callee}" .calls caller callee with brokered := some true }

def applicationNodes (application : ApplicationDeployment) : List SecurityNode :=
  { id := application.id, kind := .application, tenantIds := tenantIds application.tenantScope } ::
    application.components.map (componentNode application)

def applicationEdges (application : ApplicationDeployment) : List SecurityEdge :=
  [plainEdge s!"application:{application.id}:workload:{application.workloadPlaneId}" .runsOn application.id
     application.workloadPlaneId,
   plainEdge s!"application:{application.id}:identity:{application.serviceIdentityId}" .usesIdentity
     application.id application.serviceIdentityId] ++
  (application.dataBoundaryIds.map fun boundaryId =>
    plainEdge s!"application:{application.id}:data:{boundaryId}" .usesData application.id boundaryId) ++
  application.components.flatMap (componentEdges application) ++
  (application.componentDependencies.map fun dependency =>
    callEdge s!"{application.id}/{dependency.fromComponentId}"
      s!"{application.id}/{dependency.toComponentId}") ++
  application.dependencies.map fun dependency =>
    callEdge s!"{application.id}/{dependency.fromComponentId}"
      s!"{dependency.deploymentId}/{dependency.toComponentId}"

def tenantNode (tenant : TenantPlacement) : SecurityNode :=
  { id := tenant.tenantId, kind := .tenant, tenantIds := [tenant.tenantId] }

def tenantEdges (tenant : TenantPlacement) : List SecurityEdge :=
  tenant.zoneIds.map fun zoneId => plainEdge s!"tenant:{tenant.tenantId}:zone:{zoneId}" .placedIn tenant.tenantId zoneId

def boundaryNode (boundary : DataBoundary) : SecurityNode :=
  { id := boundary.id, kind := .dataBoundary, tenantIds := tenantIds boundary.tenantScope }

def boundaryEdge (boundary : DataBoundary) : SecurityEdge :=
  plainEdge s!"data:{boundary.id}:zone:{boundary.zoneId}" .placedIn boundary.id boundary.zoneId

def identityNode (identity : Identity) : SecurityNode :=
  { id := identity.id, kind := .identity,
    -- an empty tenant id counts as none
    tenantIds := match identity.tenantId with
      | some tenantId => if tenantId ≠ "" then [tenantId] else []
      | none => [] }

def delegationEdge (delegation : IdentityDelegation) : SecurityEdge :=
  plainEdge delegation.id .delegatesTo delegation.fromIdentityId delegation.toIdentityId

def sinkNode (sink : EvidenceSink) : SecurityNode :=
  { id := sink.id, kind := .evidenceSink, tenantIds := tenantIds sink.tenantScope }

/-- The zones a flow passes, in order. -/
def NetworkFlow.hops (flow : NetworkFlow) : List String :=
  [flow.fromZoneId] ++ flow.viaZoneIds.getD [] ++ [flow.toZoneId]

/-- The edge of the hop at `index`, from the zone there to the next. -/
def hopEdge (flow : NetworkFlow) (index : ℕ) (fromId toId : String) : SecurityEdge :=
  { id := if flow.hops.length = 2 then flow.id else s!"{flow.id}:hop-{index + 1}"
    sourceId := some flow.id
    kind := .canReach
    fromId := fromId
    toId := toId
    brokered := some (flow.authorization = .brokered) }

def flowEdges (flow : NetworkFlow) : List SecurityEdge :=
  (flow.hops.zip flow.hops.tail).zipIdx.map fun h => hopEdge flow h.2 h.1.1 h.1.2

def grantEdges (grant : IdentityGrant) : List SecurityEdge :=
  if grant.effect ≠ .allow then []
  else grant.resourceIds.map fun resourceId =>
    { plainEdge s!"{grant.id}:{resourceId}" .canAccess grant.identityId resourceId with
      brokered := some ((grant.conditions.bind (·.get? "brokered")) = some "true") }

def requirementEdges (requirement : EvidenceRequirement) : List SecurityEdge :=
  requirement.sourceIds.map fun sourceId =>
    plainEdge s!"{requirement.id}:{sourceId}" .auditsTo sourceId requirement.sinkId

/-! ## The graph -/

/-- A later node takes the place of an earlier one with its id. -/
def graphNodes (blueprint : PlatformBlueprint) : Record SecurityNode :=
  Record.fromEntries <| List.map (fun node => (node.id, node)) <|
    blueprint.trustZones.map zoneNode ++ blueprint.networkDomains.map domainNode ++
    blueprint.workloadPlanes.map workloadNode ++ blueprint.applications.flatMap applicationNodes ++
    blueprint.tenants.map tenantNode ++ blueprint.dataBoundaries.map boundaryNode ++
    blueprint.identities.map identityNode ++ blueprint.evidenceSinks.map sinkNode

/-- The edges before those of the flows. -/
def placementEdges (blueprint : PlatformBlueprint) : List SecurityEdge :=
  blueprint.networkDomains.map domainEdge ++ blueprint.workloadPlanes.map workloadEdge ++
    blueprint.applications.flatMap applicationEdges ++ blueprint.tenants.flatMap tenantEdges ++
    blueprint.dataBoundaries.map boundaryEdge ++ blueprint.identityDelegations.map delegationEdge

/-- The edges after those of the flows. -/
def accessEdges (blueprint : PlatformBlueprint) : List SecurityEdge :=
  blueprint.grants.flatMap grantEdges ++ blueprint.evidenceRequirements.flatMap requirementEdges

def buildSecurityGraph (blueprint : PlatformBlueprint) : SecurityGraph :=
  { nodes := graphNodes blueprint
    edges := placementEdges blueprint ++ blueprint.flows.flatMap flowEdges ++ accessEdges blueprint }

/-! ## Its can-reach edges -/

theorem placementEdges_kind {blueprint : PlatformBlueprint} {edge : SecurityEdge}
    (h : edge ∈ placementEdges blueprint) : edge.kind ≠ .canReach := by
  simp only [placementEdges, List.mem_append, List.mem_map, List.mem_flatMap] at h
  rcases h with ((((⟨d, _, rfl⟩ | ⟨w, _, rfl⟩) | ⟨a, _, h⟩) | ⟨t, _, h⟩) | ⟨b, _, rfl⟩) | ⟨d, _, rfl⟩
  · simp [domainEdge, plainEdge]
  · simp [workloadEdge, plainEdge]
  · simp only [applicationEdges, componentEdges, List.mem_append, List.mem_cons, List.mem_map, List.mem_flatMap,
      List.not_mem_nil, or_false] at h
    rcases h with ((((rfl | rfl) | ⟨b, _, rfl⟩) | ⟨c, _, (rfl | rfl | rfl) | ⟨b, _, rfl⟩⟩) | ⟨d, _, rfl⟩) | ⟨d, _, rfl⟩
    all_goals simp [plainEdge, callEdge]
  · obtain ⟨z, _, rfl⟩ := List.mem_map.1 h
    simp [plainEdge]
  · simp [boundaryEdge, plainEdge]
  · simp [delegationEdge, plainEdge]

theorem accessEdges_kind {blueprint : PlatformBlueprint} {edge : SecurityEdge}
    (h : edge ∈ accessEdges blueprint) : edge.kind ≠ .canReach := by
  simp only [accessEdges, List.mem_append, List.mem_flatMap] at h
  rcases h with ⟨g, _, h⟩ | ⟨r, _, h⟩
  · unfold grantEdges at h
    split at h
    · exact absurd h List.not_mem_nil
    · obtain ⟨i, _, rfl⟩ := List.mem_map.1 h
      simp [plainEdge]
  · obtain ⟨i, _, rfl⟩ := List.mem_map.1 h
    simp [plainEdge]

theorem flowEdges_kind {flow : NetworkFlow} {edge : SecurityEdge} (h : edge ∈ flowEdges flow) :
    edge.kind = .canReach := by
  obtain ⟨p, _, rfl⟩ := List.mem_map.1 h
  rfl

/-- Whether `edge` is a can-reach edge of the blueprint's graph. -/
def CanReach (blueprint : PlatformBlueprint) (edge : SecurityEdge) : Prop :=
  edge ∈ (buildSecurityGraph blueprint).edges ∧ edge.kind = .canReach

/-- **The can-reach edges are the hops of the flows.** -/
theorem canReach_iff {blueprint : PlatformBlueprint} {edge : SecurityEdge} :
    CanReach blueprint edge ↔ ∃ flow ∈ blueprint.flows, edge ∈ flowEdges flow := by
  simp only [CanReach, buildSecurityGraph, List.mem_append, List.mem_flatMap]
  constructor
  · rintro ⟨(hp | hf) | ha, hk⟩
    · exact absurd hk (placementEdges_kind hp)
    · exact hf
    · exact absurd hk (accessEdges_kind ha)
  · rintro ⟨flow, hflow, he⟩
    exact ⟨Or.inl (Or.inr ⟨flow, hflow, he⟩), flowEdges_kind he⟩

/-- A hop ends at a zone of its flow. -/
theorem flowEdges_toId {flow : NetworkFlow} {edge : SecurityEdge} (h : edge ∈ flowEdges flow) :
    edge.toId ∈ flow.hops := by
  obtain ⟨⟨p, i⟩, hp, rfl⟩ := List.mem_map.1 h
  have hz : p ∈ flow.hops.zip flow.hops.tail := List.fst_mem_of_mem_zipIdx hp
  exact List.mem_of_mem_tail (List.of_mem_zip (a := p.1) (b := p.2) hz).2

end SecureSaas.Blueprint
