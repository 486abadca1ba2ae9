import SecureSaas.Blueprint.Reachability

/-!
# Egress and tenant isolation of walks

`transitiveNetworkPolicy` judges the network paths that the bounded search reports from each
zone. What it finds on them holds of every walk that passes declared zones only, however
often it repeats one: the walk without its loops is one of those paths.

* `policy_clean`: where no violation is reported, no path has one.
* `walks_isolated`: **every walk to another external zone passes an inspected zone, and none
  joins zones of disjoint tenants**, along declared zones.
* `undeclared_hops_escape`: a walk through zones nobody declared can be longer than the
  search looks.
-/

namespace SecureSaas.Blueprint

open SecureSaas.Graph Js

inductive ViolationSeverity
  | critical
  | high
  | medium
deriving DecidableEq

structure BlueprintViolation where
  code : String
  severity : ViolationSeverity
  message : String
  path : Option String
deriving DecidableEq

def tenantIdsFromScope : TenantScope → List String
  | .dedicated tenantId => [tenantId]
  | .pooled tenantIds => tenantIds
  | .platform => []

theorem tenantIdsFromScope_eq : tenantIdsFromScope = tenantIds := by
  funext scope
  cases scope <;> rfl

/-- `new Map(trustZones.map((zone) => [zone.id, zone]))`. -/
def zonesById (blueprint : PlatformBlueprint) : Record TrustZone :=
  Record.fromEntries (blueprint.trustZones.map fun zone => (zone.id, zone))

def inspectedZones (blueprint : PlatformBlueprint) : List String :=
  (blueprint.networkDomains.filter (·.inspectedEgress)).map (·.zoneId)

/-- An execution zone reaches a trusted one through other zones, without a broker. -/
def executionBypass (source destination : TrustZone) (path : NetworkPath) : Bool :=
  source.kind = .execution ∧ (destination.kind = .controlPlane ∨ destination.kind = .data) ∧
    !path.brokeredAtSource ∧ path.zoneIds.length > 2

def uninspectedEgress (blueprint : PlatformBlueprint) (destination : TrustZone) (path : NetworkPath) : Bool :=
  blueprint.posture.requireInspectedEgress ∧ destination.kind = .external ∧
    !path.zoneIds.any (inspectedZones blueprint).contains

def crossTenant (source destination : TrustZone) : Bool :=
  (tenantIdsFromScope source.tenantScope).length > 0 ∧ (tenantIdsFromScope destination.tenantScope).length > 0 ∧
    !(tenantIdsFromScope source.tenantScope).any (tenantIdsFromScope destination.tenantScope).contains

def pathViolations (blueprint : PlatformBlueprint) (source : TrustZone) (path : NetworkPath) :
    List BlueprintViolation :=
  match (zonesById blueprint).get? path.toZoneId with
  | none => []
  | some destination =>
    let route := some (" -> ".intercalate path.zoneIds)
    (if executionBypass source destination path then
      [{ code := "NET_TRANSITIVE_EXECUTION_BYPASS"
         severity := .critical
         message := s!"Execution zone '{source.id}' reaches trusted zone '{destination.id}' through an unbrokered transitive path."
         path := route }] else []) ++
    (if uninspectedEgress blueprint destination path then
      [{ code := "NET_TRANSITIVE_UNINSPECTED_EGRESS"
         severity := .critical
         message := s!"Zone '{source.id}' reaches external zone '{destination.id}' without traversing inspected egress."
         path := route }] else []) ++
    (if crossTenant source destination then
      [{ code := "NET_CROSS_TENANT_PATH"
         severity := .critical
         message := s!"Network path crosses from tenant-scoped zone '{source.id}' to '{destination.id}'."
         path := route }] else [])

/-- `new Set` of the keys seen so far decides which violation is kept. -/
def keepFirst (key : BlueprintViolation → String) : List String → List BlueprintViolation → List BlueprintViolation
  | _, [] => []
  | seen, entry :: rest =>
    if seen.contains (key entry) then keepFirst key seen rest
    else entry :: keepFirst key (key entry :: seen) rest

def deduplicateViolations (violations : List BlueprintViolation) : List BlueprintViolation :=
  keepFirst (fun entry => s!"{entry.code}:{entry.path.getD entry.message}") [] violations

/-- What the paths from one zone violate. -/
def sourceViolations (blueprint : PlatformBlueprint) (source : TrustZone) :
    Except String (List BlueprintViolation) := do
  let paths ← findNetworkPaths blueprint source.id defaultOptions
  .ok (paths.flatMap (pathViolations blueprint source))

def transitiveNetworkPolicy (blueprint : PlatformBlueprint) : Except String (List BlueprintViolation) := do
  let violations ← blueprint.trustZones.mapM (sourceViolations blueprint)
  .ok (deduplicateViolations violations.flatten)

/-! ## What a clean report says about the paths -/

section
variable {blueprint : PlatformBlueprint}

theorem deduplicateViolations_eq_nil {violations : List BlueprintViolation}
    (h : deduplicateViolations violations = []) : violations = [] := by
  cases violations with
  | nil => rfl
  | cons entry rest =>
    rw [deduplicateViolations, keepFirst, if_neg (by simp)] at h
    exact absurd h (List.cons_ne_nil _ _)

/-- **Where no violation is reported, the search from each zone succeeded and none of its
paths has one.** -/
theorem policy_clean (h : transitiveNetworkPolicy blueprint = .ok []) {source : TrustZone}
    (hsource : source ∈ blueprint.trustZones) :
    ∃ paths, findNetworkPaths blueprint source.id defaultOptions = .ok paths ∧
      ∀ path ∈ paths, pathViolations blueprint source path = [] := by
  unfold transitiveNetworkPolicy at h
  cases hm : blueprint.trustZones.mapM (sourceViolations blueprint) with
  | error e => rw [hm] at h; cases h
  | ok violations =>
    rw [hm] at h
    have hnone : violations.flatten = [] := deduplicateViolations_eq_nil (Except.ok.inj h)
    obtain ⟨found, hfound, hv⟩ := mapM_ok hm source hsource
    obtain rfl : found = [] := List.flatten_eq_nil_iff.1 hnone found hfound
    unfold sourceViolations at hv
    cases hp : findNetworkPaths blueprint source.id defaultOptions with
    | error e => rw [hp] at hv; cases hv
    | ok paths =>
      rw [hp] at hv
      exact ⟨paths, rfl, List.flatMap_eq_nil_iff.1 (Except.ok.inj hv)⟩

theorem zonesById_get? (hids : (blueprint.trustZones.map (·.id)).Nodup) {zone : TrustZone}
    (hz : zone ∈ blueprint.trustZones) : (zonesById blueprint).get? zone.id = some zone :=
  Record.fromEntries_map_get? hids hz

/-- A path without violations to a known zone passes each of the three tests. -/
theorem pathViolations_eq_nil {source destination : TrustZone} {path : NetworkPath}
    (hd : (zonesById blueprint).get? path.toZoneId = some destination)
    (h : pathViolations blueprint source path = []) :
    executionBypass source destination path = false ∧ uninspectedEgress blueprint destination path = false ∧
      crossTenant source destination = false := by
  unfold pathViolations at h
  rw [hd] at h
  simp only [List.append_eq_nil_iff, ite_eq_right_iff, reduceCtorEq, imp_false, Bool.not_eq_true] at h
  exact ⟨h.1.1, h.1.2, h.2⟩

/-! ## Isolation of walks -/

/-- Where the posture asks for it, a walk from a zone to another, external one passes a zone
with a domain of inspected egress. -/
def EgressInspected (blueprint : PlatformBlueprint) (walk : String → List SecurityEdge → String → Prop) : Prop :=
  blueprint.posture.requireInspectedEgress = true →
    ∀ source ∈ blueprint.trustZones, ∀ destination ∈ blueprint.trustZones, source.id ≠ destination.id →
      destination.kind = .external → ∀ es, walk source.id es destination.id →
        ∃ domain ∈ blueprint.networkDomains, domain.inspectedEgress = true ∧
          domain.zoneId ∈ vertices SecurityEdge.toId source.id es

/-- No walk joins two zones that have tenants but none in common. -/
def TenantsSeparated (blueprint : PlatformBlueprint) (walk : String → List SecurityEdge → String → Prop) : Prop :=
  ∀ source ∈ blueprint.trustZones, ∀ destination ∈ blueprint.trustZones,
    tenantIds source.tenantScope ≠ [] → tenantIds destination.tenantScope ≠ [] →
      (tenantIds source.tenantScope).Disjoint (tenantIds destination.tenantScope) →
        ∀ es, ¬ walk source.id es destination.id

/-- Whether every hop of every flow is a declared zone. -/
def HopsDeclared (blueprint : PlatformBlueprint) : Prop :=
  ∀ flow ∈ blueprint.flows, ∀ zoneId ∈ flow.hops, zoneId ∈ blueprint.trustZones.map (·.id)

instance (blueprint : PlatformBlueprint) : Decidable (HopsDeclared blueprint) :=
  inferInstanceAs (Decidable (∀ flow ∈ blueprint.flows, ∀ zoneId ∈ flow.hops, _))

theorem declaredReach_of_hops (hdeclared : HopsDeclared blueprint) {source : TrustZone}
    (hsource : source ∈ blueprint.trustZones) {es : List SecurityEdge} {v : String}
    (h : Reach (buildSecurityGraph blueprint) source.id es v) : DeclaredReach blueprint source.id es v := by
  refine ⟨h, ?_⟩
  intro x hx
  rcases mem_vertices.1 hx with rfl | ⟨e, he, rfl⟩
  · exact List.mem_map_of_mem hsource
  · obtain ⟨flow, hflow, hedge⟩ := canReach_iff.1 (h.edges e he)
    exact hdeclared flow hflow _ (flowEdges_toId hedge)

/-- A walk between two zones, seen through the path that the policy judges for it. -/
theorem walk_judged (hids : (blueprint.trustZones.map (·.id)).Nodup)
    (h : transitiveNetworkPolicy blueprint = .ok []) {source destination : TrustZone}
    (hs : source ∈ blueprint.trustZones) (hd : destination ∈ blueprint.trustZones)
    (hne : source.id ≠ destination.id) {es : List SecurityEdge}
    (hwalk : DeclaredReach blueprint source.id es destination.id) :
    ∃ path : NetworkPath, path.zoneIds ⊆ vertices SecurityEdge.toId source.id es ∧
      uninspectedEgress blueprint destination path = false ∧ crossTenant source destination = false := by
  obtain ⟨paths, hpaths, hclean⟩ := policy_clean h hs
  obtain ⟨path, hpath, hto, hzones⟩ := findNetworkPaths_reaches hpaths hwalk hne
  have hget : (zonesById blueprint).get? path.toZoneId = some destination := by
    rw [hto]
    exact zonesById_get? hids hd
  obtain ⟨-, hegress, htenant⟩ := pathViolations_eq_nil hget (hclean path hpath)
  exact ⟨path, hzones, hegress, htenant⟩

theorem egressInspected_declared (hids : (blueprint.trustZones.map (·.id)).Nodup)
    (h : transitiveNetworkPolicy blueprint = .ok []) : EgressInspected blueprint (DeclaredReach blueprint) := by
  intro hposture source hs destination hd hne hexternal es hwalk
  obtain ⟨path, hzones, hegress, -⟩ := walk_judged hids h hs hd hne hwalk
  have hany : path.zoneIds.any (inspectedZones blueprint).contains = true := by
    simpa [uninspectedEgress, hposture, hexternal] using hegress
  obtain ⟨zoneId, hz, hin⟩ := List.any_eq_true.1 hany
  obtain ⟨domain, hdomain, rfl⟩ := List.mem_map.1 (List.contains_iff_mem.1 hin)
  obtain ⟨hmem, hinspected⟩ := List.mem_filter.1 hdomain
  exact ⟨domain, hmem, hinspected, hzones hz⟩

theorem tenantsSeparated_declared (hids : (blueprint.trustZones.map (·.id)).Nodup)
    (h : transitiveNetworkPolicy blueprint = .ok []) : TenantsSeparated blueprint (DeclaredReach blueprint) := by
  intro source hs destination hd hsn hdn hdisjoint es hwalk
  have hne : source.id ≠ destination.id := by
    -- one id is one zone, which shares its tenants with itself
    intro heq
    obtain rfl : source = destination := by
      have h1 := zonesById_get? hids hs
      have h2 := zonesById_get? hids hd
      rw [heq, h2] at h1
      exact (Option.some.inj h1).symm
    obtain ⟨tenant, htenant⟩ := List.exists_mem_of_ne_nil _ hsn
    exact hdisjoint htenant htenant
  obtain ⟨path, -, -, htenant⟩ := walk_judged hids h hs hd hne hwalk
  have hlen : ∀ scope, tenantIds scope ≠ [] → (tenantIdsFromScope scope).length > 0 := by
    intro scope hscope
    rw [tenantIdsFromScope_eq]
    exact List.length_pos_iff.2 hscope
  have hany : (tenantIdsFromScope source.tenantScope).any (tenantIdsFromScope destination.tenantScope).contains = true := by
    simpa [crossTenant, hlen _ hsn, hlen _ hdn] using htenant
  obtain ⟨tenant, ht, hin⟩ := List.any_eq_true.1 hany
  rw [tenantIdsFromScope_eq] at ht hin
  exact hdisjoint ht (List.contains_iff_mem.1 hin)

/-- **Isolation of walks.** Where zone ids are distinct and the policy reports nothing, walks
through declared zones are isolated; where the hops of every flow are declared, all walks are. -/
theorem walks_isolated (blueprint : PlatformBlueprint) (hids : (blueprint.trustZones.map (·.id)).Nodup)
    (h : transitiveNetworkPolicy blueprint = .ok []) :
    (EgressInspected blueprint (DeclaredReach blueprint) ∧ TenantsSeparated blueprint (DeclaredReach blueprint)) ∧
      (HopsDeclared blueprint → EgressInspected blueprint (Reach (buildSecurityGraph blueprint)) ∧
        TenantsSeparated blueprint (Reach (buildSecurityGraph blueprint))) := by
  have hegress := egressInspected_declared hids h
  have htenants := tenantsSeparated_declared hids h
  refine ⟨⟨hegress, htenants⟩, ?_⟩
  intro hdeclared
  constructor
  · intro hposture source hs destination hd hne hexternal es hwalk
    exact hegress hposture source hs destination hd hne hexternal es (declaredReach_of_hops hdeclared hs hwalk)
  · intro source hs destination hd hsn hdn hdisjoint es hwalk
    exact htenants source hs destination hd hsn hdn hdisjoint es (declaredReach_of_hops hdeclared hs hwalk)

end

/-! ## Sample blueprints -/

/-- Two tenants' zones and nothing but the flows between them. -/
def sampleBlueprint (flows : List NetworkFlow) (domains : List NetworkDomain) : PlatformBlueprint :=
  { name := "sample"
    posture := ⟨false, true, false, 0⟩
    requiredCapabilities := []
    trustZones := [⟨"app", .workload, false, .dedicated "a", none⟩, ⟨"internet", .external, false, .dedicated "b", none⟩,
      ⟨"egress", .egress, false, .platform, none⟩, ⟨"partner", .external, false, .platform, none⟩]
    networkDomains := domains
    flows := flows
    workloadPlanes := []
    applications := []
    tenants := []
    dataBoundaries := []
    identities := []
    identityDelegations := []
    grants := []
    evidenceSinks := []
    evidenceRequirements := [] }

/-- The way out through the inspected zone. -/
def inspectedFlow : NetworkFlow := ⟨"out", "app", "partner", .direct, some ["egress"], none⟩

theorem walks_isolated_sample :
    let blueprint := sampleBlueprint [inspectedFlow] [⟨"egress-net", "egress", [], 1, false, true⟩]
    EgressInspected blueprint (Reach (buildSecurityGraph blueprint)) ∧
      TenantsSeparated blueprint (Reach (buildSecurityGraph blueprint)) :=
  (walks_isolated (sampleBlueprint [inspectedFlow] [⟨"egress-net", "egress", [], 1, false, true⟩]) (by decide)
    (by decide +kernel)).2 (by decide)

/-- A flow whose four transit zones nobody declared. -/
def undeclaredFlow : NetworkFlow := ⟨"out", "app", "internet", .direct, some ["p", "q", "r", "s"], none⟩

/-- **The search stops one hop short of the end of the flow**, so the policy reports nothing
although the flow joins two tenants and leaves without inspection. -/
theorem undeclared_hops_escape :
    ¬ ∀ blueprint : PlatformBlueprint, (blueprint.trustZones.map (·.id)).Nodup →
      transitiveNetworkPolicy blueprint = .ok [] →
        EgressInspected blueprint (Reach (buildSecurityGraph blueprint)) ∧
          TenantsSeparated blueprint (Reach (buildSecurityGraph blueprint)) := by
  intro h
  obtain ⟨hegress, -⟩ := h (sampleBlueprint [undeclaredFlow] []) (by decide) (by decide +kernel)
  have hflow : undeclaredFlow ∈ (sampleBlueprint [undeclaredFlow] []).flows := List.mem_cons_self
  have hwalk := flow_reach hflow
  obtain ⟨domain, hdomain, -⟩ := hegress rfl ⟨"app", .workload, false, .dedicated "a", none⟩ (by decide)
    ⟨"internet", .external, false, .dedicated "b", none⟩ (by decide) (by decide) rfl _ hwalk
  exact absurd hdomain List.not_mem_nil

end SecureSaas.Blueprint
