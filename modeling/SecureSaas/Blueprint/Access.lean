import SecureSaas.Blueprint.Policy

/-!
# The identity policy and access between tenants

`identityPolicy` looks at every entitlement of an identity that has a tenant. It knows the
tenants of zones, workload planes and data boundaries; the graph knows those of every node.

* `judged_answered`: **an access that the policy judges to be foreign has a valid exception or
  a matching deny**.
* `judged_of_kind`: where ids are distinct it judges every foreign access to a zone, a workload
  plane or a data boundary.
* `foreign_accesses`: what is left are the accesses it does not judge.
* `application_escapes`: a grant for another tenant's application is one of them.
-/

namespace SecureSaas.Blueprint

open SecureSaas.Graph Js

/-- `Date.now()` and `Date.parse`, which has no value for a text that is no date. -/
structure Dates where
  now : ℤ
  parse : String → Option ℤ

/-- A text that counts: neither missing nor empty. -/
def truthy (text : Option String) : Option String := text.filter fun text => text ≠ ""

def validAccessException (dates : Dates) (exception : AccessException) (resourceId : String)
    (blueprint : PlatformBlueprint) : Bool :=
  if (dates.parse exception.expiresAt).any fun expiresAt => expiresAt ≤ dates.now then false
  else blueprint.evidenceRequirements.any fun requirement =>
    decide (requirement.id = exception.auditRequirementId) && requirement.sourceIds.contains resourceId

def tenantScopesByResource (blueprint : PlatformBlueprint) : Record (List String) :=
  Record.fromEntries <|
    (blueprint.dataBoundaries.map fun boundary => (boundary.id, tenantIdsFromScope boundary.tenantScope)) ++
    (blueprint.workloadPlanes.map fun workload => (workload.id, tenantIdsFromScope workload.tenantScope)) ++
    blueprint.trustZones.map fun zone => (zone.id, tenantIdsFromScope zone.tenantScope)

def grantsById (blueprint : PlatformBlueprint) : Record IdentityGrant := indexBy (·.id) blueprint.grants

def grantScopeViolations (blueprint : PlatformBlueprint) (grant : IdentityGrant) : List BlueprintViolation :=
  match grant.effect, truthy grant.tenantId with
  | .allow, some tenantId =>
    flag ((blueprint.identities.find? (·.id = grant.identityId)).bind (·.tenantId) ≠ some tenantId)
      "IDENTITY_GRANT_SCOPE_MISMATCH" .critical
      s!"Grant '{grant.id}' tenant scope does not match identity '{grant.identityId}'." ++
    grant.resourceIds.flatMap fun resourceId =>
      flag (((dataById blueprint).get? resourceId).any fun boundary =>
          !scopeContainsTenant (some boundary.tenantScope) tenantId)
        "IDENTITY_CROSS_TENANT_GRANT" .critical s!"Grant '{grant.id}' crosses the tenant boundary for '{tenantId}'."
  | _, _ => []

/-- Whether the policy takes the resource to belong to other tenants than the principal's. -/
def judgedForeign (blueprint : PlatformBlueprint) (principalId resourceId : String) : Bool :=
  match truthy (((identitiesById blueprint).get? principalId).bind (·.tenantId)) with
  | none => false
  | some principalTenant =>
    let targetTenants := ((tenantScopesByResource blueprint).get? resourceId).getD []
    !(decide (targetTenants.length = 0) || targetTenants.contains principalTenant)

def excepted (dates : Dates) (blueprint : PlatformBlueprint) (grantId resourceId : String) : Bool :=
  (((grantsById blueprint).get? grantId).bind (·.exception)).any fun exception =>
    validAccessException dates exception resourceId blueprint

def entitlementViolations (dates : Dates) (blueprint : PlatformBlueprint) (entitlement : EffectiveEntitlement) :
    List BlueprintViolation :=
  let via := " -> ".intercalate entitlement.viaIdentityIds
  flag (decide (entitlement.decision = .allow) && judgedForeign blueprint entitlement.principalId entitlement.resourceId &&
      !excepted dates blueprint entitlement.grantId entitlement.resourceId)
    "IDENTITY_CROSS_TENANT_PATH" .critical
    s!"Identity '{entitlement.principalId}' reaches tenant-scoped resource '{entitlement.resourceId}' through {via}."

def condition (delegation : IdentityDelegation) (key : String) : Option String :=
  truthy (delegation.conditions.bind (·.get? key))

def vendorViolations (blueprint : PlatformBlueprint) (delegation : IdentityDelegation) : List BlueprintViolation :=
  let source := (identitiesById blueprint).get? delegation.fromIdentityId
  flag (decide (source.map (·.kind) = some .vendor) &&
      (decide (condition delegation "audience" = none) || decide (condition delegation "externalSubject" = none)))
    "IDENTITY_VENDOR_CONFUSED_DEPUTY" .critical
    s!"Vendor delegation '{delegation.id}' must bind both audience and externalSubject."

def wildcardViolations (grant : IdentityGrant) : List BlueprintViolation :=
  flag (decide (grant.effect = .allow) &&
      grant.actions.any fun action => action = "*" || action = "*:*" || endsWithAny action)
    "IDENTITY_WILDCARD_GRANT" .critical s!"Allow grant '{grant.id}' must not use wildcard actions."

def identityPolicy (dates : Dates) (blueprint : PlatformBlueprint) : Except String (List BlueprintViolation) := do
  let entitlements ← analyzeEntitlements blueprint
  .ok
    ((blueprint.identities.flatMap fun identity =>
      flag (!identity.shortLived) "IDENTITY_LONG_LIVED" .critical
        s!"Identity '{identity.id}' must use short-lived credentials.") ++
    blueprint.grants.flatMap (grantScopeViolations blueprint) ++
    entitlements.flatMap (entitlementViolations dates blueprint) ++
    blueprint.identityDelegations.flatMap (vendorViolations blueprint) ++
    blueprint.grants.flatMap wildcardViolations)

/-! ## Foreign accesses -/

/-- An identity of tenant `tenantId` reaches, along a chain of delegations, a grant for a
resource whose node in the graph belongs to other tenants. -/
structure ForeignAccess (blueprint : PlatformBlueprint) (identity : Identity) (grant : IdentityGrant)
    (resourceId action : String) (node : SecurityNode) : Prop where
  declared : identity ∈ blueprint.identities
  bound : ∃ tenantId ∈ (identityNode identity).tenantIds, tenantId ∉ node.tenantIds
  chain : ∃ ds, Delegates blueprint identity.id ds grant.identityId
  granted : grant ∈ blueprint.grants
  allowed : grant.effect = .allow
  resource : resourceId ∈ grant.resourceIds
  action : action ∈ grant.actions
  found : (buildSecurityGraph blueprint).nodes.get? resourceId = some node
  owned : node.tenantIds ≠ []

/-- The grant's exception covers the access, or a deny within the identity's reach blocks it. -/
def Answered (dates : Dates) (blueprint : PlatformBlueprint) (identity : Identity) (grant : IdentityGrant)
    (resourceId action : String) : Prop :=
  (∃ exception, grant.exception = some exception ∧ validAccessException dates exception resourceId blueprint = true) ∨
    Denied blueprint identity.id resourceId action

/-- **No identity reaches another tenant's resource**, exceptions apart. -/
def EntitlementsSound (dates : Dates) (blueprint : PlatformBlueprint) : Prop :=
  ∀ identity grant resourceId action node, ForeignAccess blueprint identity grant resourceId action node →
    Answered dates blueprint identity grant resourceId action

/-- The policy sees the access as the graph does: it takes the resource to be foreign, and the
grant it finds under the id has the exception of this one. -/
def Judged (blueprint : PlatformBlueprint) (identity : Identity) (grant : IdentityGrant) (resourceId : String) : Prop :=
  judgedForeign blueprint identity.id resourceId = true ∧
    ((grantsById blueprint).get? grant.id).bind (·.exception) = grant.exception

section
variable {dates : Dates} {blueprint : PlatformBlueprint} {identity : Identity} {grant : IdentityGrant}
  {resourceId action : String} {node : SecurityNode}

/-- A satisfied identity policy has analysed the entitlements and found none that crosses. -/
theorem identityPolicy_clean (h : identityPolicy dates blueprint = .ok []) :
    ∃ entitlements, analyzeEntitlements blueprint = .ok entitlements ∧
      ∀ entry ∈ entitlements, entry.decision = .allow → judgedForeign blueprint entry.principalId entry.resourceId = true →
        excepted dates blueprint entry.grantId entry.resourceId = true := by
  obtain ⟨entitlements, hentitlements, hout⟩ := bind_ok.1 h
  refine ⟨entitlements, hentitlements, ?_⟩
  intro entry hentry hallow hforeign
  have hnil := Except.ok.inj hout
  simp only [List.append_eq_nil_iff, List.flatMap_eq_nil_iff] at hnil
  have hentryNil := hnil.1.1.2 entry hentry
  rw [entitlementViolations] at hentryNil
  have hflag := flag_eq_nil.1 hentryNil
  rw [hforeign, decide_eq_true hallow] at hflag
  simpa using hflag

/-- **An access that the policy judges to be foreign is answered.** -/
theorem judged_answered (h : identityPolicy dates blueprint = .ok [])
    (haccess : ForeignAccess blueprint identity grant resourceId action node)
    (hjudged : Judged blueprint identity grant resourceId) :
    Answered dates blueprint identity grant resourceId action := by
  obtain ⟨entitlements, hentitlements, hclean⟩ := identityPolicy_clean h
  obtain ⟨ds, hchain⟩ := haccess.chain
  obtain ⟨entry, hentry, ⟨hprincipal, hgrant, hresource⟩, hdecision⟩ := analyzeEntitlements_complete hentitlements
    haccess.declared hchain haccess.granted haccess.allowed haccess.resource haccess.action
  rcases hdecision with hallow | hdenied
  · left
    have hforeign : judgedForeign blueprint entry.principalId entry.resourceId = true := by
      rw [hprincipal, hresource]
      exact hjudged.1
    have hexcepted := hclean entry hentry hallow hforeign
    rw [hgrant, hresource, excepted, hjudged.2] at hexcepted
    exact (Option.any_eq_true _ _).1 hexcepted
  · exact Or.inr hdenied

/-! ## Which accesses are judged -/

def nodeList (blueprint : PlatformBlueprint) : List SecurityNode :=
  blueprint.trustZones.map zoneNode ++ blueprint.networkDomains.map domainNode ++
    blueprint.workloadPlanes.map workloadNode ++ blueprint.applications.flatMap applicationNodes ++
    blueprint.tenants.map tenantNode ++ blueprint.dataBoundaries.map boundaryNode ++
    blueprint.identities.map identityNode ++ blueprint.evidenceSinks.map sinkNode

/-- No two nodes of the graph and no two grants share an id. -/
structure DistinctIds (blueprint : PlatformBlueprint) : Prop where
  nodes : ((nodeList blueprint).map (·.id)).Nodup
  grants : (blueprint.grants.map (·.id)).Nodup

/-- The kinds of node whose tenants the policy knows. -/
def SecurityNodeKind.judged : SecurityNodeKind → Bool
  | .trustZone | .workloadPlane | .dataBoundary => true
  | _ => false

theorem indexBy_get? {α : Type} {id : α → String} {items : List α} (h : (items.map id).Nodup) {item : α}
    (hitem : item ∈ items) : (indexBy id items).get? (id item) = some item :=
  Record.fromEntries_map_get? h hitem

theorem graph_node (h : (buildSecurityGraph blueprint).nodes.get? resourceId = some node) :
    node ∈ nodeList blueprint ∧ node.id = resourceId := by
  have hmem := Record.mem_of_fromEntries_get? h
  obtain ⟨found, hfound, heq⟩ := List.mem_map.1 hmem
  obtain ⟨rfl, rfl⟩ := Prod.mk.inj heq
  exact ⟨hfound, rfl⟩

theorem nodup_selected {α : Type} {zs ds ws as ts bs is ss : List α}
    (h : (zs ++ ds ++ ws ++ as ++ ts ++ bs ++ is ++ ss).Nodup) : (bs ++ ws ++ zs).Nodup := by
  have hws : (zs ++ ws).Sublist (zs ++ ds ++ ws) := (List.sublist_append_left zs ds).append_right ws
  have hbs : (zs ++ ws ++ bs).Sublist (zs ++ ds ++ ws ++ as ++ ts ++ bs) :=
    ((hws.trans (List.sublist_append_left _ as)).trans (List.sublist_append_left _ ts)).append_right bs
  have hall : (zs ++ ws ++ bs).Nodup :=
    h.sublist ((hbs.trans (List.sublist_append_left _ is)).trans (List.sublist_append_left _ ss))
  have hperm : (zs ++ ws ++ bs).Perm (bs ++ ws ++ zs) := by
    refine List.perm_append_comm.trans ?_
    rw [List.append_assoc]
    exact List.Perm.append_left bs List.perm_append_comm
  exact hperm.nodup hall

/-- The resources whose tenants the policy knows have distinct ids. -/
theorem DistinctIds.resources (h : DistinctIds blueprint) :
    (blueprint.dataBoundaries.map (·.id) ++ blueprint.workloadPlanes.map (·.id) ++
      blueprint.trustZones.map (·.id)).Nodup := by
  have hnodes := h.nodes
  simp only [nodeList, List.map_append, List.map_map] at hnodes
  exact nodup_selected hnodes

theorem DistinctIds.identities (h : DistinctIds blueprint) : (blueprint.identities.map (·.id)).Nodup := by
  have hnodes := h.nodes
  simp only [nodeList, List.map_append, List.map_map] at hnodes
  exact (List.nodup_append.1 (List.nodup_append.1 hnodes).1).2.1

/-- A node of a kind the policy knows comes from a data boundary, a workload plane or a zone. -/
theorem node_of_kind (hnode : node ∈ nodeList blueprint) (hkind : node.kind.judged = true) :
    (∃ boundary ∈ blueprint.dataBoundaries, node = boundaryNode boundary) ∨
      (∃ workload ∈ blueprint.workloadPlanes, node = workloadNode workload) ∨
        ∃ zone ∈ blueprint.trustZones, node = zoneNode zone := by
  simp only [nodeList, List.mem_append, List.mem_map, List.mem_flatMap] at hnode
  rcases hnode with ((((((⟨z, hz, rfl⟩ | ⟨d, _, rfl⟩) | ⟨w, hw, rfl⟩) | ⟨a, _, ha⟩) | ⟨t, _, rfl⟩) | ⟨b, hb, rfl⟩) |
    ⟨i, _, rfl⟩) | ⟨s, _, rfl⟩
  · exact Or.inr (Or.inr ⟨z, hz, rfl⟩)
  · exact absurd hkind (by simp [domainNode, SecurityNodeKind.judged])
  · exact Or.inr (Or.inl ⟨w, hw, rfl⟩)
  · rcases List.mem_cons.1 ha with rfl | hc
    · exact absurd hkind (by simp [SecurityNodeKind.judged])
    · obtain ⟨c, _, rfl⟩ := List.mem_map.1 hc
      exact absurd hkind (by simp [componentNode, SecurityNodeKind.judged])
  · exact absurd hkind (by simp [tenantNode, SecurityNodeKind.judged])
  · exact Or.inl ⟨b, hb, rfl⟩
  · exact absurd hkind (by simp [identityNode, SecurityNodeKind.judged])
  · exact absurd hkind (by simp [sinkNode, SecurityNodeKind.judged])

/-- For those kinds the policy and the graph agree on the tenants. -/
theorem tenantScopesByResource_get? (h : DistinctIds blueprint) (hnode : node ∈ nodeList blueprint)
    (hkind : node.kind.judged = true) : (tenantScopesByResource blueprint).get? node.id = some node.tenantIds := by
  have hkeys := h.resources
  rw [tenantScopesByResource, tenantIdsFromScope_eq, Record.fromEntries_get? (by
    simpa only [List.map_append, List.map_map, Function.comp_def] using hkeys)]
  simp only [List.mem_append, List.mem_map]
  rcases node_of_kind hnode hkind with ⟨b, hb, rfl⟩ | ⟨w, hw, rfl⟩ | ⟨z, hz, rfl⟩
  · exact Or.inl (Or.inl ⟨b, hb, rfl⟩)
  · exact Or.inl (Or.inr ⟨w, hw, rfl⟩)
  · exact Or.inr ⟨z, hz, rfl⟩

theorem truthy_tenantId {tenantId : String} (h : tenantId ∈ (identityNode identity).tenantIds) :
    truthy identity.tenantId = some tenantId := by
  unfold identityNode at h
  cases hid : identity.tenantId with
  | none =>
    rw [hid] at h
    exact absurd h List.not_mem_nil
  | some id =>
    rw [hid] at h
    by_cases hempty : id = ""
    · subst hempty
      exact absurd h (by simp)
    · obtain rfl : tenantId = id := by simpa [hempty] using h
      simp [truthy, Option.filter, hempty]

/-- **Where ids are distinct, every foreign access to a zone, a workload plane or a data boundary
is judged.** -/
theorem judged_of_kind (h : DistinctIds blueprint)
    (haccess : ForeignAccess blueprint identity grant resourceId action node) (hkind : node.kind.judged = true) :
    Judged blueprint identity grant resourceId := by
  obtain ⟨tenantId, hbound, hforeign⟩ := haccess.bound
  obtain ⟨hnode, rfl⟩ := graph_node haccess.found
  have hidentity : (identitiesById blueprint).get? identity.id = some identity :=
    indexBy_get? h.identities haccess.declared
  constructor
  · have hlength : node.tenantIds.length ≠ 0 := fun hzero => haccess.owned (List.length_eq_zero_iff.1 hzero)
    rw [judgedForeign, hidentity, Option.bind_some, truthy_tenantId hbound, tenantScopesByResource_get? h hnode hkind]
    simp [hlength, hforeign]
  · rw [grantsById, indexBy_get? h.grants haccess.granted, Option.bind_some]

/-- **What is left are the accesses the policy does not judge**: where ids are distinct, those to
applications, components, tenants, identities and evidence sinks. -/
theorem foreign_accesses (dates : Dates) (blueprint : PlatformBlueprint) (h : identityPolicy dates blueprint = .ok []) :
    (EntitlementsSound dates blueprint ↔
      ∀ identity grant resourceId action node, ForeignAccess blueprint identity grant resourceId action node →
        ¬ Judged blueprint identity grant resourceId → Answered dates blueprint identity grant resourceId action) ∧
    (DistinctIds blueprint → (EntitlementsSound dates blueprint ↔
      ∀ identity grant resourceId action node, ForeignAccess blueprint identity grant resourceId action node →
        node.kind.judged = false → Answered dates blueprint identity grant resourceId action)) := by
  constructor
  · constructor
    · intro hsound identity grant resourceId action node haccess _
      exact hsound identity grant resourceId action node haccess
    · intro hrest identity grant resourceId action node haccess
      by_cases hjudged : Judged blueprint identity grant resourceId
      · exact judged_answered h haccess hjudged
      · exact hrest identity grant resourceId action node haccess hjudged
  · intro hids
    constructor
    · intro hsound identity grant resourceId action node haccess _
      exact hsound identity grant resourceId action node haccess
    · intro hrest identity grant resourceId action node haccess
      cases hkind : node.kind.judged with
      | false => exact hrest identity grant resourceId action node haccess hkind
      | true => exact judged_answered h haccess (judged_of_kind hids haccess hkind)

end

/-! ## An application nobody looks at -/

/-- The application of tenant `b`. -/
def orders : ApplicationDeployment :=
  { id := "orders"
    workloadPlaneId := "runtime"
    serviceIdentityId := "orders-service"
    tenantScope := .dedicated "b"
    dataBoundaryIds := []
    ingress := .none
    components := []
    componentDependencies := []
    dependencies := []
    availability := ⟨2, 1⟩
    release := ⟨true, true, true, true⟩ }

/-- An agent of tenant `a` with a grant for what `resourceId` names, under no exception. -/
def agentBlueprint (resourceId : String) : PlatformBlueprint :=
  { sampleBlueprint [] [] with
    applications := [orders]
    identities := [⟨"agent", .automation, some "a", true⟩]
    grants := [⟨"agent-grant", "agent", [resourceId], ["read"], .allow, none, none, none⟩] }

def sampleDates : Dates := ⟨0, fun _ => none⟩

/-- A grant for the tenant's own zone is judged, and nothing foreign is left. -/
theorem foreign_accesses_sample :
    EntitlementsSound sampleDates (agentBlueprint "app") ↔
      ∀ identity grant resourceId action node,
        ForeignAccess (agentBlueprint "app") identity grant resourceId action node →
          node.kind.judged = false →
            Answered sampleDates (agentBlueprint "app") identity grant resourceId action :=
  (foreign_accesses sampleDates (agentBlueprint "app") (by decide +kernel)).2 ⟨by decide +kernel, by decide⟩

/-- **A grant for another tenant's application escapes the policy**: the map of tenants it looks
the resource up in has no applications. -/
theorem application_escapes :
    ¬ ∀ (dates : Dates) (blueprint : PlatformBlueprint), identityPolicy dates blueprint = .ok [] →
      EntitlementsSound dates blueprint := by
  intro h
  have hsound := h sampleDates (agentBlueprint "orders") (by decide +kernel)
  have haccess : ForeignAccess (agentBlueprint "orders") ⟨"agent", .automation, some "a", true⟩
      ⟨"agent-grant", "agent", ["orders"], ["read"], .allow, none, none, none⟩ "orders" "read"
      ⟨"orders", .application, ["b"]⟩ :=
    { declared := List.mem_cons_self
      bound := ⟨"a", by decide, by decide⟩
      chain := ⟨[], .nil _⟩
      granted := List.mem_cons_self
      allowed := rfl
      resource := List.mem_cons_self
      action := List.mem_cons_self
      found := by decide +kernel
      owned := by decide }
  rcases hsound _ _ _ _ _ haccess with ⟨exception, hexception, -⟩ | ⟨deny, hdeny, heffect, -⟩
  · cases hexception
  · obtain rfl := List.mem_singleton.1 hdeny
    cases heffect

end SecureSaas.Blueprint
