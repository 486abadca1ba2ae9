import SecureSaas.Blueprint.Isolation
import SecureSaas.Blueprint.Entitlements
import SecureSaas.Cidr
import SecureSaas.Js.Compare

/-!
# The default policies

Each policy reads the blueprint and lists what violates it. Those that search the graph, and
the one on applications, are in modules of their own.

* `structuralIntegrity_ids`, `structuralIntegrity_hops`: where structure is sound, ids are
  distinct and every hop of a flow is a declared zone.
* `networkBoundary_direct`: where network boundaries are respected, a flow from an execution
  zone to a trusted one is brokered.
-/

namespace SecureSaas.Blueprint

open Js

def violation (code : String) (severity : ViolationSeverity) (message : String) : BlueprintViolation :=
  { code, severity, message, path := none }

/-- `if (condition) violations.push(violation(…))`. -/
def flag (condition : Bool) (code : String) (severity : ViolationSeverity) (message : String) :
    List BlueprintViolation :=
  if condition then [violation code severity message] else []

@[simp] theorem flag_eq_nil {condition : Bool} {code : String} {severity : ViolationSeverity} {message : String} :
    flag condition code severity message = [] ↔ condition = false := by
  simp [flag]

/-- `new Map(items.map((item) => [id(item), item]))`. -/
def indexBy {α : Type} (id : α → String) (items : List α) : Record α :=
  Record.fromEntries (items.map fun item => (id item, item))

/-- The values that occur again, where `seen` have occurred. -/
def repeatsAfter : List String → List String → List String
  | _, [] => []
  | seen, value :: rest =>
    if seen.contains value then value :: repeatsAfter (value :: seen) rest else repeatsAfter (value :: seen) rest

def duplicateValues (values : List String) : List String := (repeatsAfter [] values).eraseDups

def scopeContainsTenant (scope : Option TenantScope) (tenantId : String) : Bool :=
  match scope with
  | none | some .platform => false
  | some (.dedicated id) => id = tenantId
  | some (.pooled tenantIds) => tenantIds.contains tenantId

def TrustZoneKind.text : TrustZoneKind → String
  | .edge => "edge"
  | .controlPlane => "control-plane"
  | .workload => "workload"
  | .execution => "execution"
  | .data => "data"
  | .security => "security"
  | .egress => "egress"
  | .external => "external"

def PlatformCapability.text : PlatformCapability → String
  | .privateNetwork => "private-network"
  | .centralizedEgress => "centralized-egress"
  | .managedFirewall => "managed-firewall"
  | .privateControlPlane => "private-control-plane"
  | .workloadIdentity => "workload-identity"
  | .customerManagedEncryption => "customer-managed-encryption"
  | .immutableAuditLog => "immutable-audit-log"
  | .dedicatedAccountBoundary => "dedicated-account-boundary"
  | .microvmRuntime => "microvm-runtime"
  | .externalSandbox => "external-sandbox"
  | .serverlessRuntime => "serverless-runtime"

/-! ## Structural integrity -/

def resourceIdsList (blueprint : PlatformBlueprint) : List String :=
  blueprint.trustZones.map (·.id) ++ blueprint.networkDomains.map (·.id) ++ blueprint.workloadPlanes.map (·.id) ++
    blueprint.applications.map (·.id) ++ blueprint.tenants.map (·.tenantId) ++
    blueprint.dataBoundaries.map (·.id) ++ blueprint.identities.map (·.id) ++ blueprint.evidenceSinks.map (·.id)

def allIds (blueprint : PlatformBlueprint) : List String :=
  resourceIdsList blueprint ++ blueprint.flows.map (·.id) ++ blueprint.grants.map (·.id) ++
    blueprint.identityDelegations.map (·.id) ++ blueprint.evidenceRequirements.map (·.id)

def cidrViolations (cidr : String) : List BlueprintViolation :=
  match parseCidr cidr with
  | .ok _ => []
  | .error message => [violation "CORE_INVALID_CIDR" .critical message]

def domainIntegrity (zoneIds : List String) (domain : NetworkDomain) : List BlueprintViolation :=
  flag (!zoneIds.contains domain.zoneId) "CORE_UNKNOWN_ZONE" .critical
    s!"Network domain '{domain.id}' references unknown zone '{domain.zoneId}'." ++
  flag (!domain.availabilityZoneCount.isInteger || domain.availabilityZoneCount.below 1) "CORE_INVALID_RESILIENCE" .high
    s!"Network domain '{domain.id}' must use at least one availability zone." ++
  domain.cidrs.flatMap cidrViolations

structure Allocation where
  domainId : String
  cidr : String

def allocations (blueprint : PlatformBlueprint) : List Allocation :=
  blueprint.networkDomains.flatMap fun domain => domain.cidrs.map fun cidr => ⟨domain.id, cidr⟩

/-- A range that cannot be parsed has been reported already. -/
def overlap (left right : Allocation) : List BlueprintViolation :=
  match cidrsOverlap left.cidr right.cidr with
  | .ok true =>
    [violation "CORE_OVERLAPPING_CIDR" .critical
      s!"Network domains '{left.domainId}' ({left.cidr}) and '{right.domainId}' ({right.cidr}) overlap."]
  | _ => []

/-- Each allocation is compared with those after it. -/
def overlaps : List Allocation → List BlueprintViolation
  | [] => []
  | left :: rest => rest.flatMap (overlap left) ++ overlaps rest

def flowIntegrity (zoneIds : List String) (flow : NetworkFlow) : List BlueprintViolation :=
  flag (!zoneIds.contains flow.fromZoneId || !zoneIds.contains flow.toZoneId) "CORE_INVALID_FLOW" .critical
    s!"Flow '{flow.id}' references an unknown source or destination zone." ++
  (flow.viaZoneIds.getD []).flatMap fun via =>
    flag (!zoneIds.contains via) "CORE_INVALID_FLOW_HOP" .critical
      s!"Flow '{flow.id}' references unknown transit zone '{via}'."

def grantIntegrity (identityIds resourceIds : List String) (grant : IdentityGrant) : List BlueprintViolation :=
  flag (!identityIds.contains grant.identityId) "CORE_UNKNOWN_IDENTITY" .critical
    s!"Grant '{grant.id}' references unknown identity '{grant.identityId}'." ++
  grant.resourceIds.flatMap fun resourceId =>
    flag (!resourceIds.contains resourceId) "CORE_UNKNOWN_RESOURCE" .critical
      s!"Grant '{grant.id}' references unknown resource '{resourceId}'."

def delegationIntegrity (identityIds : List String) (delegation : IdentityDelegation) : List BlueprintViolation :=
  flag (!identityIds.contains delegation.fromIdentityId) "CORE_UNKNOWN_DELEGATION_SOURCE" .critical
    s!"Identity delegation '{delegation.id}' references unknown source identity '{delegation.fromIdentityId}'." ++
  flag (!identityIds.contains delegation.toIdentityId) "CORE_UNKNOWN_DELEGATION_TARGET" .critical
    s!"Identity delegation '{delegation.id}' references unknown target identity '{delegation.toIdentityId}'."

def requirementIntegrity (resourceIds : List String) (requirement : EvidenceRequirement) : List BlueprintViolation :=
  flag (!resourceIds.contains requirement.sinkId) "CORE_UNKNOWN_EVIDENCE_SINK" .critical
    s!"Evidence requirement '{requirement.id}' references unknown sink '{requirement.sinkId}'." ++
  requirement.sourceIds.flatMap fun sourceId =>
    flag (!resourceIds.contains sourceId) "CORE_UNKNOWN_EVIDENCE_SOURCE" .critical
      s!"Evidence requirement '{requirement.id}' references unknown source '{sourceId}'."

def structuralIntegrityPolicy (blueprint : PlatformBlueprint) : List BlueprintViolation :=
  let zoneIds := blueprint.trustZones.map (·.id)
  let resourceIds := resourceIdsList blueprint
  let identityIds := blueprint.identities.map (·.id)
  ((duplicateValues (allIds blueprint)).flatMap fun duplicate =>
    [violation "CORE_DUPLICATE_ID" .critical s!"Identifier '{duplicate}' is not globally unique."]) ++
  blueprint.networkDomains.flatMap (domainIntegrity zoneIds) ++
  overlaps (allocations blueprint) ++
  blueprint.flows.flatMap (flowIntegrity zoneIds) ++
  (blueprint.workloadPlanes.flatMap fun workload =>
    flag (!zoneIds.contains workload.zoneId) "CORE_UNKNOWN_WORKLOAD_ZONE" .critical
      s!"Workload plane '{workload.id}' references unknown zone '{workload.zoneId}'.") ++
  blueprint.grants.flatMap (grantIntegrity identityIds resourceIds) ++
  blueprint.identityDelegations.flatMap (delegationIntegrity identityIds) ++
  blueprint.evidenceRequirements.flatMap (requirementIntegrity resourceIds)

theorem nodup_of_repeatsAfter : ∀ {values seen : List String}, repeatsAfter seen values = [] →
    values.Nodup ∧ ∀ value ∈ values, value ∉ seen := by
  intro values
  induction values with
  | nil => exact fun _ => ⟨List.nodup_nil, fun _ hv => absurd hv List.not_mem_nil⟩
  | cons value rest ih =>
    intro seen h
    unfold repeatsAfter at h
    by_cases hseen : seen.contains value = true
    · rw [if_pos hseen] at h
      exact absurd h (List.cons_ne_nil _ _)
    · rw [if_neg hseen] at h
      obtain ⟨hnodup, hfresh⟩ := ih h
      refine ⟨List.nodup_cons.2 ⟨fun hmem => hfresh value hmem List.mem_cons_self, hnodup⟩, ?_⟩
      refine List.forall_mem_cons.2 ⟨fun hmem => hseen (List.contains_iff_mem.2 hmem), ?_⟩
      exact fun other hother hmem => hfresh other hother (List.mem_cons_of_mem value hmem)

theorem nodup_of_duplicateValues {values : List String} (h : duplicateValues values = []) : values.Nodup := by
  have hnone : repeatsAfter [] values = [] := by
    rw [List.eq_nil_iff_forall_not_mem]
    intro value hvalue
    have hmem : value ∈ duplicateValues values := List.mem_eraseDups.2 hvalue
    rw [h] at hmem
    exact List.not_mem_nil hmem
  exact (nodup_of_repeatsAfter hnone).1

section
variable {blueprint : PlatformBlueprint}

/-- Where structure is sound, no id is used twice. -/
theorem structuralIntegrity_ids (h : structuralIntegrityPolicy blueprint = []) : (allIds blueprint).Nodup := by
  simp only [structuralIntegrityPolicy, List.append_eq_nil_iff, List.flatMap_eq_nil_iff] at h
  have hnone : duplicateValues (allIds blueprint) = [] :=
    List.eq_nil_iff_forall_not_mem.2 fun value hvalue => absurd (h.1.1.1.1.1.1.1 value hvalue) (by simp)
  exact nodup_of_duplicateValues hnone

theorem zoneIds_nodup (h : (allIds blueprint).Nodup) : (blueprint.trustZones.map (·.id)).Nodup := by
  refine h.sublist ?_
  unfold allIds resourceIdsList
  simp only [List.append_assoc]
  exact List.sublist_append_left _ _

theorem applicationIds_nodup (h : (allIds blueprint).Nodup) : (blueprint.applications.map (·.id)).Nodup := by
  refine h.sublist ?_
  unfold allIds resourceIdsList
  simp only [List.append_assoc]
  exact (((List.sublist_append_left _ _).trans (List.sublist_append_right _ _)).trans
    (List.sublist_append_right _ _)).trans (List.sublist_append_right _ _)

/-- Where structure is sound, every hop of a flow is a declared zone. -/
theorem structuralIntegrity_hops (h : structuralIntegrityPolicy blueprint = []) : HopsDeclared blueprint := by
  simp only [structuralIntegrityPolicy, List.append_eq_nil_iff, List.flatMap_eq_nil_iff] at h
  intro flow hflow zoneId hzone
  have hends := h.1.1.1.1.2 flow hflow
  simp only [flowIntegrity, List.append_eq_nil_iff, List.flatMap_eq_nil_iff, flag_eq_nil, Bool.or_eq_false_iff,
    Bool.not_eq_false', List.contains_iff_mem] at hends
  simp only [NetworkFlow.hops, List.mem_append, List.mem_singleton] at hzone
  rcases hzone with (rfl | hvia) | rfl
  · exact hends.1.1
  · exact hends.2 zoneId hvia
  · exact hends.1.2

end

/-! ## Network boundaries -/

/-- `zones.get(zoneId)?.kind`. -/
def zoneKind (blueprint : PlatformBlueprint) (zoneId : String) : Option TrustZoneKind :=
  ((zonesById blueprint).get? zoneId).map (·.kind)

/-- A zone of the platform that execution may enter through a broker only. -/
def TrustZoneKind.trusted (kind : TrustZoneKind) : Bool := kind = .controlPlane || kind = .data

/-- Whether a transit zone of the flow has a domain of inspected egress. -/
def traversesInspection (blueprint : PlatformBlueprint) (flow : NetworkFlow) : Bool :=
  (flow.viaZoneIds.getD []).any fun zoneId =>
    (blueprint.networkDomains.filter (·.zoneId = zoneId)).any (·.inspectedEgress)

def externalFlowViolations (blueprint : PlatformBlueprint) (flow : NetworkFlow) : List BlueprintViolation :=
  if zoneKind blueprint flow.toZoneId ≠ some .external then []
  else
    flag ((flow.externalDestinations.getD []).length = 0) "NET_EMPTY_EGRESS_ALLOWLIST" .critical
      s!"External flow '{flow.id}' must declare approved destinations." ++
    flag (!traversesInspection blueprint flow) "NET_UNINSPECTED_EGRESS" .critical
      s!"External flow '{flow.id}' does not traverse an inspected egress zone."

def executionFlowViolations (blueprint : PlatformBlueprint) (flow : NetworkFlow) : List BlueprintViolation :=
  match zoneKind blueprint flow.fromZoneId, zoneKind blueprint flow.toZoneId with
  | some .execution, some kind =>
    flag (kind.trusted && decide (flow.authorization ≠ .brokered)) "NET_EXECUTION_BYPASS" .critical
      s!"Execution flow '{flow.id}' into '{kind.text}' must be brokered."
  | _, _ => []

def networkBoundaryPolicy (blueprint : PlatformBlueprint) : List BlueprintViolation :=
  (if blueprint.posture.forbidPublicControlPlanes then
    blueprint.trustZones.flatMap fun zone =>
      flag (zone.kind.trusted && zone.publicAccess) "NET_PUBLIC_TRUSTED_ZONE" .critical
        s!"Trusted zone '{zone.id}' must not be public."
  else []) ++
  (blueprint.networkDomains.flatMap fun domain =>
    flag (domain.directInternetAccess && decide (zoneKind blueprint domain.zoneId ≠ some .egress) &&
        decide (zoneKind blueprint domain.zoneId ≠ some .edge)) "NET_DIRECT_INTERNET" .critical
      s!"Network domain '{domain.id}' has direct internet access outside an edge or egress zone.") ++
  (if blueprint.posture.requireInspectedEgress then
    flag (!blueprint.networkDomains.any (·.inspectedEgress)) "NET_INSPECTION_MISSING" .critical
      "The blueprint requires inspected egress but declares no inspected network domain." ++
    blueprint.flows.flatMap (externalFlowViolations blueprint)
  else []) ++
  blueprint.flows.flatMap (executionFlowViolations blueprint)

/-- Where network boundaries are respected, a flow from an execution zone to a trusted one is
brokered. -/
theorem networkBoundary_direct {blueprint : PlatformBlueprint} (h : networkBoundaryPolicy blueprint = [])
    {flow : NetworkFlow} (hflow : flow ∈ blueprint.flows) {kind : TrustZoneKind}
    (hfrom : zoneKind blueprint flow.fromZoneId = some .execution)
    (hto : zoneKind blueprint flow.toZoneId = some kind) (htrusted : kind.trusted = true) :
    flow.authorization = .brokered := by
  simp only [networkBoundaryPolicy, List.append_eq_nil_iff, List.flatMap_eq_nil_iff] at h
  have hnone := h.2 flow hflow
  rw [executionFlowViolations, hfrom, hto] at hnone
  have hflag := flag_eq_nil.1 hnone
  rw [htrusted] at hflag
  simpa using hflag

/-! ## Workload planes -/

def workloadCapabilities (workload : WorkloadPlane) : List PlatformCapability :=
  (if workload.workloadIdentity then [.workloadIdentity] else []) ++
  (if workload.orchestrator = .managedKubernetes ∧ !workload.controlPlanePublic then [.privateControlPlane] else []) ++
  (if workload.orchestrator = .microvm ∨ workload.runtimeIsolation = .microvm then [.microvmRuntime] else []) ++
  (if workload.orchestrator = .externalSandbox then [.externalSandbox] else []) ++
  (if workload.orchestrator = .serverless then [.serverlessRuntime] else [])

def trustViolations (blueprint : PlatformBlueprint) (workload : WorkloadPlane) : List BlueprintViolation :=
  if workload.executionTrust = .untrusted then
    flag (zoneKind blueprint workload.zoneId ≠ some .execution) "WORKLOAD_UNTRUSTED_ZONE" .critical
      s!"Untrusted workload plane '{workload.id}' must be placed in an execution trust zone." ++
    flag (workload.credentialMode ≠ .brokered) "WORKLOAD_UNBROKERED_CREDENTIALS" .critical
      s!"Untrusted workload plane '{workload.id}' must use brokered credentials." ++
    flag (workload.runtimeIsolation ≠ .microvm && decide (workload.runtimeIsolation ≠ .dedicatedVm))
      "WORKLOAD_WEAK_RUNTIME_ISOLATION" .critical
      s!"Untrusted workload plane '{workload.id}' requires microVM or dedicated-VM isolation." ++
    -- a limit of zero minutes counts as none
    flag (workload.maxExecutionMinutes.getD 0 = 0) "WORKLOAD_UNBOUNDED_EXECUTION" .high
      s!"Untrusted workload plane '{workload.id}' must declare a maximum execution duration."
  else
    flag (workload.credentialMode = .ambient) "WORKLOAD_AMBIENT_CREDENTIALS" .critical
      s!"Workload plane '{workload.id}' must not use ambient credentials."

def workloadPlanePolicy (blueprint : PlatformBlueprint) : List BlueprintViolation :=
  blueprint.workloadPlanes.flatMap fun workload =>
    flag (blueprint.posture.forbidPublicControlPlanes && workload.controlPlanePublic)
      "WORKLOAD_PUBLIC_CONTROL_PLANE" .critical
      s!"Workload plane '{workload.id}' must not expose its control plane publicly." ++
    flag (!workload.workloadIdentity) "WORKLOAD_IDENTITY_MISSING" .critical
      s!"Workload plane '{workload.id}' must use workload identity." ++
    trustViolations blueprint workload ++
    (workloadCapabilities workload).flatMap fun capability =>
      flag (!blueprint.requiredCapabilities.contains capability) "WORKLOAD_CAPABILITY_UNDECLARED" .critical
        s!"Workload plane '{workload.id}' requires capability '{capability.text}', but the blueprint does not declare it."

/-! ## Tenant isolation -/

def dataById (blueprint : PlatformBlueprint) : Record DataBoundary := indexBy (·.id) blueprint.dataBoundaries

def identitiesById (blueprint : PlatformBlueprint) : Record Identity := indexBy (·.id) blueprint.identities

/-- `!zone?.isolationBoundary || zone.tenantScope.mode !== "dedicated"`. -/
def unbounded (zone : Option TrustZone) : Bool :=
  match zone with
  | none => true
  | some zone =>
    zone.isolationBoundary.getD "" = "" ||
      match zone.tenantScope with
      | .dedicated _ => false
      | _ => true

def dedicatedAccountViolations (blueprint : PlatformBlueprint) (tenant : TenantPlacement) : List BlueprintViolation :=
  if tenant.isolationTier ≠ .dedicatedAccount then []
  else
    flag (tenant.zoneIds.any fun zoneId => unbounded ((zonesById blueprint).get? zoneId))
      "TENANT_ACCOUNT_BOUNDARY_MISSING" .critical
      s!"Dedicated-account tenant '{tenant.tenantId}' must use dedicated zones with explicit isolation boundaries." ++
    flag (tenant.dataBoundaryIds.any fun id =>
        !(((dataById blueprint).get? id).map (·.encryption.dedicatedPerTenant)).getD false)
      "TENANT_DEDICATED_KEY_MISSING" .critical
      s!"Dedicated-account tenant '{tenant.tenantId}' must use tenant-dedicated encryption."

def tenantIsolationPolicy (blueprint : PlatformBlueprint) : List BlueprintViolation :=
  blueprint.tenants.flatMap fun tenant =>
    flag (tenant.zoneIds.length = 0 || tenant.dataBoundaryIds.length = 0) "TENANT_INCOMPLETE_PLACEMENT" .critical
      s!"Tenant '{tenant.tenantId}' must have compute/network and data placement." ++
    (tenant.zoneIds.flatMap fun zoneId =>
      flag (!scopeContainsTenant (((zonesById blueprint).get? zoneId).map (·.tenantScope)) tenant.tenantId)
        "TENANT_ZONE_SCOPE_MISMATCH" .critical s!"Zone '{zoneId}' does not include tenant '{tenant.tenantId}'.") ++
    (tenant.dataBoundaryIds.flatMap fun dataId =>
      flag (!scopeContainsTenant (((dataById blueprint).get? dataId).map (·.tenantScope)) tenant.tenantId)
        "TENANT_DATA_SCOPE_MISMATCH" .critical
        s!"Data boundary '{dataId}' does not include tenant '{tenant.tenantId}'.") ++
    (tenant.identityIds.flatMap fun identityId =>
      flag (((identitiesById blueprint).get? identityId).bind (·.tenantId) ≠ some tenant.tenantId)
        "TENANT_IDENTITY_SCOPE_MISMATCH" .critical
        s!"Identity '{identityId}' is not scoped to tenant '{tenant.tenantId}'.") ++
    dedicatedAccountViolations blueprint tenant

/-! ## Data protection -/

def confidentialViolations (boundary : DataBoundary) : List BlueprintViolation :=
  flag (!boundary.encryption.customerManagedKey || !boundary.encryption.rotationRequired)
    "DATA_ENCRYPTION_POSTURE" .critical s!"Data boundary '{boundary.id}' requires a rotating customer-managed key." ++
  flag (boundary.classification = .regulated && !boundary.encryption.dedicatedPerTenant)
    "DATA_REGULATED_SHARED_KEY" .critical
    s!"Regulated data boundary '{boundary.id}' requires tenant-dedicated encryption." ++
  flag (!boundary.deletionEvidenceRequired) "DATA_DELETION_EVIDENCE" .high
    s!"Data boundary '{boundary.id}' must emit deletion evidence." ++
  flag ((boundary.services.contains .object && !boundary.versioningRequired) || boundary.retentionDays < 1)
    "DATA_RETENTION_POSTURE" .high
    s!"Data boundary '{boundary.id}' requires versioning and a positive retention period." ++
  flag (boundary.services.contains .object && !boundary.objectAuditRequired) "DATA_OBJECT_AUDIT_MISSING" .critical
    s!"Data boundary '{boundary.id}' must require object-level access evidence." ++
  flag (!boundary.exportEvidenceRequired) "DATA_EXPORT_EVIDENCE" .high
    s!"Data boundary '{boundary.id}' must emit export evidence." ++
  flag (!boundary.recovery.backupRequired || !boundary.recovery.deletionProtectionRequired ||
      !boundary.recovery.finalSnapshotRequired || !boundary.recovery.multiAzRequired)
    "DATA_RECOVERY_POSTURE" .critical
    s!"Confidential data boundary '{boundary.id}' requires protected backups, multi-AZ availability, deletion protection, and a final recovery point."

def dataViolations (boundary : DataBoundary) : List BlueprintViolation :=
  flag (boundary.services.length = 0) "DATA_SERVICE_MISSING" .high
    s!"Data boundary '{boundary.id}' must declare at least one data service." ++
  flag (boundary.recovery.backupRequired && decide (boundary.recovery.restoreTestIntervalDays < 1))
    "DATA_RESTORE_TEST_MISSING" .critical
    s!"Data boundary '{boundary.id}' cannot require backups without a restore-test cadence." ++
  if boundary.classification = .publicData ∨ boundary.classification = .internal then []
  else confidentialViolations boundary

def dataProtectionPolicy (blueprint : PlatformBlueprint) : List BlueprintViolation :=
  blueprint.dataBoundaries.flatMap dataViolations

/-! ## Evidence -/

def sinkViolations (blueprint : PlatformBlueprint) (requirement : EvidenceRequirement) : List BlueprintViolation :=
  match (indexBy (·.id) blueprint.evidenceSinks).get? requirement.sinkId with
  | none =>
    [violation "EVIDENCE_UNKNOWN_SINK" .critical
      s!"Evidence requirement '{requirement.id}' references unknown sink '{requirement.sinkId}'."]
  | some sink =>
    flag (!sink.immutable || decide (sink.retentionDays < blueprint.posture.minimumAuditRetentionDays))
      "EVIDENCE_WEAK_SINK" .critical
      s!"Evidence sink '{sink.id}' must be immutable and retain evidence for at least {blueprint.posture.minimumAuditRetentionDays} days."

def evidencePolicy (blueprint : PlatformBlueprint) : List BlueprintViolation :=
  if !blueprint.posture.requireImmutableAudit then []
  else
    let coveredSources := blueprint.evidenceRequirements.flatMap (·.sourceIds)
    flag (blueprint.evidenceSinks.length = 0) "EVIDENCE_SINK_MISSING" .critical
      "The blueprint requires immutable audit evidence but declares no evidence sink." ++
    blueprint.evidenceRequirements.flatMap (sinkViolations blueprint) ++
    blueprint.dataBoundaries.flatMap fun boundary =>
      flag (boundary.classification ≠ .publicData && !coveredSources.contains boundary.id)
        "EVIDENCE_DATA_NOT_COVERED" .critical
        s!"Data boundary '{boundary.id}' is not connected to an evidence requirement."

end SecureSaas.Blueprint
