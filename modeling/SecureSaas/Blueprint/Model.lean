import SecureSaas.Js.Record

/-!
# The platform blueprint

A blueprint declares trust zones, what is placed in them, the network flows between them
and who may access what. Kept here are the members the security graph, the entitlements and the
policies read. The blueprint parser admits integers only as numbers; a count of availability zones
can also come from a configuration, which is not parsed.
-/

namespace SecureSaas.Blueprint

open Js

instance instOfNatNumber {n : ℕ} : OfNat Number n := ⟨.int n⟩

inductive IsolationTier
  | pooled
  | dedicatedData
  | dedicatedNetwork
  | dedicatedAccount
deriving DecidableEq

inductive TrustZoneKind
  | edge
  | controlPlane
  | workload
  | execution
  | data
  | security
  | egress
  | external
deriving DecidableEq

inductive DataClassification
  | publicData
  | internal
  | confidential
  | regulated
deriving DecidableEq

inductive TenantScope
  | platform
  | pooled (tenantIds : List String)
  | dedicated (tenantId : String)
deriving DecidableEq

def platformTenantScope : TenantScope := .platform

structure SecurityPosture where
  forbidPublicControlPlanes : Bool
  requireInspectedEgress : Bool
  requireImmutableAudit : Bool
  minimumAuditRetentionDays : ℤ
deriving DecidableEq

structure TrustZone where
  id : String
  kind : TrustZoneKind
  publicAccess : Bool
  tenantScope : TenantScope
  isolationBoundary : Option String
deriving DecidableEq

structure NetworkDomain where
  id : String
  zoneId : String
  cidrs : List String
  availabilityZoneCount : Number
  directInternetAccess : Bool
  inspectedEgress : Bool
deriving DecidableEq

inductive FlowAuthorization
  | direct
  | brokered
deriving DecidableEq

structure NetworkFlow where
  id : String
  fromZoneId : String
  toZoneId : String
  authorization : FlowAuthorization
  viaZoneIds : Option (List String)
  externalDestinations : Option (List String)
deriving DecidableEq

inductive ExecutionTrust
  | trusted
  | semiTrusted
  | untrusted
deriving DecidableEq

inductive WorkloadOrchestrator
  | managedKubernetes
  | serverless
  | microvm
  | externalSandbox
deriving DecidableEq

inductive RuntimeIsolation
  | process
  | container
  | microvm
  | dedicatedVm
deriving DecidableEq

inductive CredentialMode
  | ambient
  | workloadIdentity
  | brokered
deriving DecidableEq

structure WorkloadPlane where
  id : String
  zoneId : String
  tenantScope : TenantScope
  executionTrust : ExecutionTrust
  orchestrator : WorkloadOrchestrator
  runtimeIsolation : RuntimeIsolation
  controlPlanePublic : Bool
  workloadIdentity : Bool
  credentialMode : CredentialMode
  maxExecutionMinutes : Option ℤ
deriving DecidableEq

structure EncryptionRequirement where
  customerManagedKey : Bool
  dedicatedPerTenant : Bool
  rotationRequired : Bool
deriving DecidableEq

inductive DataService
  | object
  | relational
deriving DecidableEq

structure RecoveryRequirement where
  backupRequired : Bool
  rpoMinutes : ℤ
  rtoMinutes : ℤ
  multiAzRequired : Bool
  deletionProtectionRequired : Bool
  finalSnapshotRequired : Bool
  restoreTestIntervalDays : ℤ
deriving DecidableEq

structure DataBoundary where
  id : String
  zoneId : String
  classification : DataClassification
  tenantScope : TenantScope
  services : List DataService
  encryption : EncryptionRequirement
  recovery : RecoveryRequirement
  retentionDays : ℤ
  versioningRequired : Bool
  replicationRequired : Bool
  objectAuditRequired : Bool
  deletionEvidenceRequired : Bool
  exportEvidenceRequired : Bool
deriving DecidableEq

inductive IdentityKind
  | workforce
  | workload
  | automation
  | vendor
deriving DecidableEq

structure Identity where
  id : String
  kind : IdentityKind
  tenantId : Option String
  shortLived : Bool
deriving DecidableEq

structure IdentityDelegation where
  id : String
  fromIdentityId : String
  toIdentityId : String
  conditions : Option (Record String)
deriving DecidableEq

structure AccessException where
  expiresAt : String
  auditRequirementId : String
deriving DecidableEq

inductive GrantEffect
  | allow
  | deny
deriving DecidableEq

structure IdentityGrant where
  id : String
  identityId : String
  resourceIds : List String
  actions : List String
  effect : GrantEffect
  tenantId : Option String
  conditions : Option (Record String)
  exception : Option AccessException
deriving DecidableEq

structure EvidenceSink where
  id : String
  immutable : Bool
  retentionDays : ℤ
  tenantScope : TenantScope
deriving DecidableEq

structure EvidenceRequirement where
  id : String
  sourceIds : List String
  sinkId : String
  eventTypes : List String
deriving DecidableEq

structure TenantPlacement where
  tenantId : String
  isolationTier : IsolationTier
  zoneIds : List String
  dataBoundaryIds : List String
  identityIds : List String
deriving DecidableEq

inductive DependencyProtocol
  | https
  | grpc
deriving DecidableEq

inductive DependencyAuthorization
  | workloadIdentity
  | capability
deriving DecidableEq

structure ApplicationDependency where
  deploymentId : String
  fromComponentId : String
  toComponentId : String
  protocol : DependencyProtocol
  authorization : DependencyAuthorization
  audience : String
  actions : List String
deriving DecidableEq

structure ApplicationComponentDependency where
  fromComponentId : String
  toComponentId : String
  protocol : DependencyProtocol
  authorization : DependencyAuthorization
  audience : String
  actions : List String
deriving DecidableEq

structure Availability where
  minimumReplicas : ℤ
  maximumUnavailable : ℤ
deriving DecidableEq

inductive ApplicationIngress
  | none
  | privateIngress
  | publicIngress
deriving DecidableEq

structure ApplicationComponent where
  id : String
  workloadPlaneId : String
  serviceIdentityId : String
  dataBoundaryIds : List String
  ingress : ApplicationIngress
  availability : Availability
deriving DecidableEq

structure ReleaseRequirement where
  digestPinnedImages : Bool
  signatureVerification : Bool
  provenanceVerification : Bool
  rollbackRequired : Bool
deriving DecidableEq

structure ApplicationDeployment where
  id : String
  workloadPlaneId : String
  serviceIdentityId : String
  tenantScope : TenantScope
  dataBoundaryIds : List String
  ingress : ApplicationIngress
  components : List ApplicationComponent
  componentDependencies : List ApplicationComponentDependency
  dependencies : List ApplicationDependency
  availability : Availability
  release : ReleaseRequirement
deriving DecidableEq

inductive PlatformCapability
  | privateNetwork
  | centralizedEgress
  | managedFirewall
  | privateControlPlane
  | workloadIdentity
  | customerManagedEncryption
  | immutableAuditLog
  | dedicatedAccountBoundary
  | microvmRuntime
  | externalSandbox
  | serverlessRuntime
deriving DecidableEq

structure PlatformBlueprint where
  name : String
  posture : SecurityPosture
  requiredCapabilities : List PlatformCapability
  trustZones : List TrustZone
  networkDomains : List NetworkDomain
  flows : List NetworkFlow
  workloadPlanes : List WorkloadPlane
  applications : List ApplicationDeployment
  tenants : List TenantPlacement
  dataBoundaries : List DataBoundary
  identities : List Identity
  identityDelegations : List IdentityDelegation
  grants : List IdentityGrant
  evidenceSinks : List EvidenceSink
  evidenceRequirements : List EvidenceRequirement
deriving DecidableEq

/-- The tenants a scope names; a platform scope names none. -/
def tenantIds : TenantScope → List String
  | .dedicated tenantId => [tenantId]
  | .pooled tenantIds => tenantIds
  | .platform => []

end SecureSaas.Blueprint
