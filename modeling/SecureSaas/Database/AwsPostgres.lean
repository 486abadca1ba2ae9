import SecureSaas.Database.ManagedPostgres
import SecureSaas.Broker.Claim
import SecureSaas.Js.Collect

/-!
# Managed Postgres on AWS (`src/adapters/aws/databaseAdapter.ts`, `src/adapters/aws/managedPostgresAdapter.ts`)

The relational boundaries of a blueprint become databases, and an intent's bindings become claims on
them for the resource broker. Of a database only what a claim is made from is kept, of the claims not the
members whose type is a single literal. The configuration admits integers only as numbers.

* `compileAwsManagedPostgres_ok`: what a compiled plan is made of.
-/

namespace SecureSaas.Database

open Js Blueprint
open Broker (ResourceClaimRequest resourceClaimApiVersion)

/-! ## The compiler of blueprints (`src/core/adapter.ts`) -/

structure AdapterDescriptor where
  name : String
  capabilities : List PlatformCapability

def PlatformCapability.text : PlatformCapability → String
  | .privateNetwork => "private-network"
  | .centralizedEgress => "centralized-egress"
  | .managedFirewall => "managed-firewall"
  | .privateControlPlane => "private-control-plane"
  | .workloadIdentity => "workload-identity"
  | .customerManagedEncryption => "customer-managed-encryption"
  | .immutableAuditLog => "immutable-audit-log"
  | .dedicatedAccountBoundary => "dedicated-account-boundary"
  | .microvmRuntime => "microvm-runtime"
  | .externalSandbox => "external-sandbox"
  | .serverlessRuntime => "serverless-runtime"

def compileBlueprint {plan : Type} (dates : Dates) (blueprint : PlatformBlueprint) (descriptor : AdapterDescriptor)
    (compile : PlatformBlueprint → Except String plan) : Except String plan := do
  assertBlueprint dates blueprint
  let missing := blueprint.requiredCapabilities.filter fun capability => !descriptor.capabilities.contains capability
  let names := ", ".intercalate (missing.map PlatformCapability.text)
  throwUnless missing.isEmpty s!"Cloud adapter '{descriptor.name}' does not support required capabilities: {names}."
  compile blueprint

/-! ## Databases -/

structure AwsDatabaseProviderExtensions where
  engineVersion : String
  instanceClass : String
  instanceCount : ℤ
  backupRetentionDays : ℤ
  continuousPointInTimeRecovery : Bool
  replicaRegion : Option String

structure AwsDatabasePlan where
  boundaryId : String
  clusterBoundaryId : String
  keyBoundaryId : String
  backupRetentionDays : ℤ
  restoreTestIntervalDays : ℤ
  evidenceSinkId : String

def awsDatabaseDescriptor : AdapterDescriptor where
  name := "aws-database"
  capabilities := [.privateNetwork, .centralizedEgress, .managedFirewall, .privateControlPlane, .workloadIdentity,
    .customerManagedEncryption, .immutableAuditLog, .dedicatedAccountBoundary, .microvmRuntime, .externalSandbox]

def requiredText (value : Option String) (label : String) : Except String String :=
  match value with
  | some text => if hasText text then .ok text else .error s!"AWS {label} is required."
  | none => .error s!"AWS {label} is required."

def restoreEvidenceSink (blueprint : PlatformBlueprint) (boundary : DataBoundary) : Except String String :=
  let requirement := blueprint.evidenceRequirements.find? fun candidate =>
    candidate.sourceIds.contains boundary.id && candidate.eventTypes.contains "backup" &&
      candidate.eventTypes.contains "restore-test"
  let sink := requirement.bind fun requirement =>
    blueprint.evidenceSinks.find? fun candidate => candidate.id == requirement.sinkId
  match sink with
  | some sink =>
    if sink.immutable && decide (boundary.retentionDays ≤ sink.retentionDays) then .ok sink.id
    else .error s!"AWS database '{boundary.id}' requires an immutable backup and restore-test evidence sink."
  | none => .error s!"AWS database '{boundary.id}' requires an immutable backup and restore-test evidence sink."

def compileDatabase (blueprint : PlatformBlueprint) (boundary : DataBoundary)
    (extensions : AwsDatabaseProviderExtensions) : Except String AwsDatabasePlan := do
  let recovery := boundary.recovery
  throwUnless (boundary.encryption.customerManagedKey && boundary.encryption.rotationRequired)
    s!"AWS database '{boundary.id}' requires a rotating customer-managed key."
  throwUnless (!(boundary.classification == .regulated && !boundary.encryption.dedicatedPerTenant))
    s!"AWS regulated database '{boundary.id}' requires tenant-dedicated encryption."
  throwUnless (!(recovery.multiAzRequired && decide (extensions.instanceCount < 2)))
    s!"AWS database '{boundary.id}' requires at least two instances for multi-AZ availability."
  throwUnless (recovery.deletionProtectionRequired && recovery.finalSnapshotRequired)
    s!"AWS database '{boundary.id}' requires deletion protection and a final snapshot."
  throwUnless (!(decide (recovery.rpoMinutes < 5) ||
      (decide (recovery.rpoMinutes < 1440) && !extensions.continuousPointInTimeRecovery)))
    s!"AWS database '{boundary.id}' cannot satisfy its {recovery.rpoMinutes}-minute RPO."
  let requiredRetention := min boundary.retentionDays 35
  throwUnless (decide (requiredRetention ≤ extensions.backupRetentionDays))
    s!"AWS database '{boundary.id}' requires {requiredRetention} days of automated backup retention."
  if boundary.replicationRequired then
    let _ ← requiredText extensions.replicaRegion s!"recovery-copy region for '{boundary.id}'"
  let evidenceSinkId ← restoreEvidenceSink blueprint boundary
  pure {
    boundaryId := boundary.id
    clusterBoundaryId := s!"aws:rds:{boundary.id}"
    keyBoundaryId := s!"aws:kms:{boundary.id}:database"
    backupRetentionDays := extensions.backupRetentionDays
    restoreTestIntervalDays := recovery.restoreTestIntervalDays
    evidenceSinkId }

def compileAwsDatabases (rt : Runtime) (dates : Dates) (blueprint : PlatformBlueprint)
    (extensions : AwsDatabaseProviderExtensions) : Except String (List AwsDatabasePlan) :=
  compileBlueprint dates blueprint awsDatabaseDescriptor fun blueprint =>
    (rt.sortByKey (·.id) (blueprint.dataBoundaries.filter fun boundary => boundary.services.contains .relational)).mapM
      fun boundary => compileDatabase blueprint boundary extensions

/-! ## The provider -/

/-- `ResourceProviderDescriptor`, without the members that are the same for every provider. -/
structure ResourceProviderDescriptor where
  id : String
  protocolVersion : String
  resourceKinds : List String
  capabilities : List String

def resourceProviderProtocolVersion : String := "security.deus.dev/resource-provider/v1alpha1"

def awsManagedPostgresCapabilities : List String :=
  ["private-network", "explicit-source-boundaries", "customer-managed-encryption", "multi-zone",
    "point-in-time-recovery", "workload-identity", "end-to-end-iam-proxy", "reference-only-outputs"]

def awsManagedPostgresProviderDescriptor : ResourceProviderDescriptor where
  id := "aws-aurora-postgresql"
  protocolVersion := resourceProviderProtocolVersion
  resourceKinds := ["ManagedPostgres"]
  capabilities := ["private-network", "explicit-source-boundaries", "customer-managed-encryption", "multi-zone",
    "point-in-time-recovery", "workload-identity", "end-to-end-iam-proxy", "reference-only-outputs"]

structure AwsManagedPostgresProviderExtensions where
  partition : String
  accountId : String
  region : String
  replicaRegion : String
  engineVersion : String
  instanceClass : String
  instanceCount : ℤ
  backupRetentionDays : ℤ
  supportedMajorVersions : List String
  supportedExtensions : List String
  rdsProxy : Bool
  endToEndIamAuthentication : Bool
  awsManagedMasterPassword : Bool

/-- `/^[a-z]{2}(?:-gov)?-[a-z]+-\d$/`. -/
def regionValue (value : String) : Bool :=
  open Pattern in
  fullMatch (seq (exactly isLowerLetter 2) <| seq (opt (lit "-gov")) <| seq (lit "-") <|
    seq (many1 isLowerLetter) <| seq (lit "-") (cls isDecimal)) value

/-- `/^\d{12}$/`. -/
def isAccountId (value : String) : Bool := Pattern.fullMatch (Pattern.exactly isDecimal 12) value

/-- `/^\d+\.\d+(?:\.\d+)?$/`. -/
def isEngineVersion (value : String) : Bool :=
  open Pattern in
  fullMatch (seq (many1 isDecimal) <| seq (lit ".") <| seq (many1 isDecimal) <|
    opt (seq (lit ".") (many1 isDecimal))) value

/-- `engineVersion.split(".")[0]`. -/
def engineMajor (engineVersion : String) : String := String.ofList (engineVersion.toList.takeWhile (· != '.'))

/-- The provider can run the database of this binding. -/
def validateBinding (extensions : AwsManagedPostgresProviderExtensions) (binding : ManagedPostgresBinding) :
    Except String Unit := do
  throwUnless (binding.database.majorVersion == engineMajor extensions.engineVersion &&
      extensions.supportedMajorVersions.contains binding.database.majorVersion)
    s!"AWS Managed Postgres binding '{binding.id}' requires unsupported PostgreSQL major '{binding.database.majorVersion}'."
  let unsupported := binding.database.extensions.filter fun extension =>
    !extensions.supportedExtensions.contains extension
  let names := ", ".intercalate (unsupported.insertionSort (· ≤ ·))
  throwUnless unsupported.isEmpty
    s!"AWS Managed Postgres binding '{binding.id}' requires unsupported extension(s): {names}."

def validateExtensions (intent : ManagedPostgresIntent) (extensions : AwsManagedPostgresProviderExtensions) :
    Except String Unit := do
  throwUnless (["aws", "aws-us-gov", "aws-cn"].contains extensions.partition && isAccountId extensions.accountId)
    "AWS Managed Postgres requires an exact partition and 12-digit account ID."
  throwUnless (regionValue extensions.region && regionValue extensions.replicaRegion)
    "AWS Managed Postgres requires valid primary and replica regions."
  throwUnless (extensions.region != extensions.replicaRegion)
    "AWS Managed Postgres replica region must differ from the primary region."
  throwUnless (extensions.rdsProxy && extensions.endToEndIamAuthentication && extensions.awsManagedMasterPassword)
    "AWS Managed Postgres requires RDS Proxy, end-to-end IAM authentication, and AWS-managed master credentials."
  throwUnless (isEngineVersion extensions.engineVersion) "AWS Managed Postgres engineVersion must be exact."
  intent.bindings.forM (validateBinding extensions)

/-! ## The plan -/

structure AwsManagedPostgresProviderPlan where
  partition : String
  accountId : String
  region : String
  replicaRegion : String
  engineVersion : String
  databaseName : String
  extensions : List String
  instanceClass : String
  instanceCount : ℤ
  backupRetentionDays : ℤ
  restoreTestIntervalDays : ℤ
  clusterBoundaryId : String
  keyBoundaryId : String
  evidenceSinkId : String
  runtimeBoundaryId : String
  migrationBoundaryId : String

inductive DatabaseRole
  | runtime
  | migration
deriving DecidableEq

structure AwsManagedPostgresIdentityPlan where
  identityId : String
  role : DatabaseRole
  databaseUser : String
  accessBoundaryId : String
  resourceIdRef : String
  databasePrivileges : List String

structure AwsManagedPostgresOutputs where
  endpointRef : String
  databaseName : String
  caBundleRef : String
  runtimeIdentityRef : String
  migrationIdentityRef : String
  region : String
  resourceIdRef : String

structure AwsManagedPostgresClaimPlan where
  claimId : String
  tenantId : String
  environment : ManagedPostgresEnvironment
  codeflyService : String
  dataBoundaryId : String
  desiredStateDigest : String
  resourceApiVersion : ManagedPostgresApiVersion
  brokerClaim : ResourceClaimRequest
  provider : AwsManagedPostgresProviderPlan
  runtimeIdentity : AwsManagedPostgresIdentityPlan
  migrationIdentity : AwsManagedPostgresIdentityPlan
  outputs : AwsManagedPostgresOutputs

structure AwsManagedPostgresPlan where
  intentDigest : String
  claims : List AwsManagedPostgresClaimPlan

/-! ## Claims -/

/-- `identityId.replace(/[^a-z0-9_]/g, "_")`, one underscore for each code unit. -/
def userChars (c : Char) : List Char :=
  if isLowerAlnum c || c == '_' then [c] else if c.toNat < 65536 then ['_'] else ['_', '_']

def awsManagedPostgresDatabaseUser (identityId : String) : Except String String :=
  open Pattern in
  let normalized := String.ofList (identityId.toList.flatMap userChars)
  if fullMatch (seq (cls fun c => isLowerLetter c || c == '_')
      (upTo (fun c => isLowerAlnum c || c == '_') 62)) normalized then .ok normalized
  else .error s!"AWS Managed Postgres identity '{identityId}' cannot become a safe PostgreSQL IAM user."

def identityPlan (identityId : String) (role : DatabaseRole) (accessBoundaryId claimId : String) :
    Except String AwsManagedPostgresIdentityPlan := do
  let databaseUser ← awsManagedPostgresDatabaseUser identityId
  pure {
    identityId
    role
    databaseUser
    accessBoundaryId
    resourceIdRef := s!"broker://{claimId}/proxy-resource-id"
    databasePrivileges := ["CONNECT", "USAGE", "SELECT", "INSERT", "UPDATE", "DELETE"] ++
      match role with
      | .runtime => []
      | .migration => ["CREATE", "ALTER"] }

/-- The request that a claim makes to the broker. -/
def brokerRequest (intent : ManagedPostgresIntent) (binding : ManagedPostgresBinding) (generation : ℤ)
    (desiredStateDigest : String) : ResourceClaimRequest where
  apiVersion := resourceClaimApiVersion
  kind := "ResourceClaim"
  claimId := binding.id
  tenantId := binding.tenantId
  generation := generation
  resourceKind := "ManagedPostgres"
  resourceApiVersion := intent.apiVersion.text
  desiredStateDigest := desiredStateDigest
  desiredStateRef := "broker://" ++ binding.id ++ "/desired-state"
  requiredProviderCapabilities := awsManagedPostgresCapabilities
  lifecycle := ⟨true, true, true, 5⟩

def providerPlan (binding : ManagedPostgresBinding) (databasePlan : AwsDatabasePlan)
    (extensions : AwsManagedPostgresProviderExtensions) : AwsManagedPostgresProviderPlan where
  partition := extensions.partition
  accountId := extensions.accountId
  region := extensions.region
  replicaRegion := extensions.replicaRegion
  engineVersion := extensions.engineVersion
  databaseName := binding.database.name
  extensions := binding.database.extensions.insertionSort (· ≤ ·)
  instanceClass := extensions.instanceClass
  instanceCount := extensions.instanceCount
  backupRetentionDays := databasePlan.backupRetentionDays
  restoreTestIntervalDays := databasePlan.restoreTestIntervalDays
  clusterBoundaryId := databasePlan.clusterBoundaryId
  keyBoundaryId := databasePlan.keyBoundaryId
  evidenceSinkId := databasePlan.evidenceSinkId
  runtimeBoundaryId := binding.access.networkAccess.runtimeBoundaryId
  migrationBoundaryId := binding.access.networkAccess.migrationBoundaryId

def outputsPlan (binding : ManagedPostgresBinding) (extensions : AwsManagedPostgresProviderExtensions) :
    AwsManagedPostgresOutputs where
  endpointRef := s!"broker://{binding.id}/endpoint"
  databaseName := binding.database.name
  caBundleRef := s!"broker://{binding.id}/ca-bundle"
  runtimeIdentityRef := s!"identity://{binding.access.runtimeIdentityId}"
  migrationIdentityRef := s!"identity://{binding.access.migrationIdentityId}"
  region := extensions.region
  resourceIdRef := s!"broker://{binding.id}/proxy-resource-id"

def compileClaim (rt : Runtime) (dates : Dates) (intent : ManagedPostgresIntent) (binding : ManagedPostgresBinding)
    (databasePlan : AwsDatabasePlan) (extensions : AwsManagedPostgresProviderExtensions) (generation : ℤ) :
    Except String AwsManagedPostgresClaimPlan := do
  let desiredStateDigest ← managedPostgresBindingDigest rt dates intent binding
  let runtimeIdentity ← identityPlan binding.access.runtimeIdentityId .runtime
    binding.access.networkAccess.runtimeBoundaryId binding.id
  let migrationIdentity ← identityPlan binding.access.migrationIdentityId .migration
    binding.access.networkAccess.migrationBoundaryId binding.id
  pure {
    claimId := binding.id
    tenantId := binding.tenantId
    environment := intent.environment
    codeflyService := codeflyServiceRef binding
    dataBoundaryId := binding.dataBoundaryId
    desiredStateDigest
    resourceApiVersion := intent.apiVersion
    brokerClaim := brokerRequest intent binding generation desiredStateDigest
    provider := providerPlan binding databasePlan extensions
    runtimeIdentity
    migrationIdentity
    outputs := outputsPlan binding extensions }

/-- `Number.isSafeInteger(generation) && generation >= 1`, as an integer. -/
def claimGeneration : Option Number → Option ℤ
  | some (.int n) => if 1 ≤ n ∧ n ≤ maxSafeInteger then some n else none
  | _ => none

/-- One round of the loop over the sorted bindings. -/
def compileBinding (rt : Runtime) (dates : Dates) (intent : ManagedPostgresIntent)
    (databasePlans : Record AwsDatabasePlan) (extensions : AwsManagedPostgresProviderExtensions)
    (claimGenerations : Record Number) (binding : ManagedPostgresBinding) :
    Except String AwsManagedPostgresClaimPlan :=
  match databasePlans.get? binding.dataBoundaryId with
  | none => .error s!"AWS Managed Postgres binding '{binding.id}' has no compiled database boundary."
  | some databasePlan =>
    match claimGeneration (claimGenerations.get? binding.id) with
    | none =>
      .error s!"AWS Managed Postgres binding '{binding.id}' requires one broker-owned positive claim generation."
    | some generation => compileClaim rt dates intent binding databasePlan extensions generation

def databaseExtensions (extensions : AwsManagedPostgresProviderExtensions) : AwsDatabaseProviderExtensions where
  engineVersion := extensions.engineVersion
  instanceClass := extensions.instanceClass
  instanceCount := extensions.instanceCount
  backupRetentionDays := extensions.backupRetentionDays
  continuousPointInTimeRecovery := true
  replicaRegion := some extensions.replicaRegion

def compileAwsManagedPostgres (rt : Runtime) (dates : Dates) (intent : ManagedPostgresIntent)
    (blueprint : PlatformBlueprint) (extensions : AwsManagedPostgresProviderExtensions)
    (claimGenerations : Record Number) : Except String AwsManagedPostgresPlan := do
  assertManagedPostgresIntent dates intent (some blueprint)
  validateExtensions intent extensions
  let databases ← compileAwsDatabases rt dates blueprint (databaseExtensions extensions)
  let databasePlans := indexBy (·.boundaryId) databases
  let intentDigest ← managedPostgresIntentDigest rt dates intent
  let claims ← (rt.sortByKey (·.id) intent.bindings).mapM
    (compileBinding rt dates intent databasePlans extensions claimGenerations)
  pure { intentDigest, claims }

/-! ## What a plan is made of -/

/-- The claim is compiled from the binding, for this generation. -/
structure ClaimOf (rt : Runtime) (dates : Dates) (intent : ManagedPostgresIntent) (claimGenerations : Record Number)
    (binding : ManagedPostgresBinding) (claim : AwsManagedPostgresClaimPlan) : Prop where
  claimId : claim.claimId = binding.id
  tenantId : claim.tenantId = binding.tenantId
  dataBoundaryId : claim.dataBoundaryId = binding.dataBoundaryId
  digest : managedPostgresBindingDigest rt dates intent binding = .ok claim.desiredStateDigest
  generation : ∃ generation, claimGenerations.get? binding.id = some (.int generation) ∧ 1 ≤ generation ∧
    claim.brokerClaim = brokerRequest intent binding generation claim.desiredStateDigest

variable {rt : Runtime} {dates : Dates} {intent : ManagedPostgresIntent}
  {extensions : AwsManagedPostgresProviderExtensions} {claimGenerations : Record Number}

theorem claimGeneration_some {number : Option Number} {generation : ℤ}
    (h : claimGeneration number = some generation) : number = some (.int generation) ∧ 1 ≤ generation := by
  unfold claimGeneration at h
  split at h
  · split at h
    · rename_i hbounds
      obtain rfl := Option.some.inj h
      exact ⟨rfl, hbounds.1⟩
    · cases h
  · cases h

theorem compileBinding_ok {databasePlans : Record AwsDatabasePlan} {binding : ManagedPostgresBinding}
    {claim : AwsManagedPostgresClaimPlan}
    (h : compileBinding rt dates intent databasePlans extensions claimGenerations binding = .ok claim) :
    ClaimOf rt dates intent claimGenerations binding claim := by
  unfold compileBinding at h
  split at h
  · cases h
  split at h
  · cases h
  rename_i generation hgeneration
  obtain ⟨hnumber, hpos⟩ := claimGeneration_some hgeneration
  unfold compileClaim at h
  simp only [bind_ok, pure_ok] at h
  obtain ⟨digest, hdigest, -, -, -, -, rfl⟩ := h
  exact ⟨rfl, rfl, rfl, hdigest, generation, hnumber, hpos, rfl⟩

/-- **A plan has one claim for each binding of the intent.** -/
theorem compileAwsManagedPostgres_ok {blueprint : PlatformBlueprint} {plan : AwsManagedPostgresPlan}
    (h : compileAwsManagedPostgres rt dates intent blueprint extensions claimGenerations = .ok plan) :
    (intent.bindings.map (·.id)).Nodup ∧
      (plan.claims.map (·.claimId)).Perm (intent.bindings.map (·.id)) ∧
      (∀ binding ∈ intent.bindings, ∃ claim ∈ plan.claims, ClaimOf rt dates intent claimGenerations binding claim) ∧
      ∀ claim ∈ plan.claims, ∃ binding ∈ intent.bindings, ClaimOf rt dates intent claimGenerations binding claim := by
  unfold compileAwsManagedPostgres at h
  simp only [bind_ok, pure_ok] at h
  obtain ⟨_, hassert, -, -, databases, -, intentDigest, -, claims, hclaims, rfl⟩ := h
  refine ⟨assertManagedPostgresIntent_ids hassert, ?_, fun binding hbinding => ?_, fun claim hclaim => ?_⟩
  · have hids : claims.map (·.claimId) = (rt.sortByKey (·.id) intent.bindings).map (·.id) :=
      mapM_map (fun _ _ hone => (compileBinding_ok hone).claimId) hclaims
    show (claims.map (·.claimId)).Perm _
    rw [hids]
    exact (rt.sortByKey_perm _ _).map _
  · obtain ⟨claim, hclaim, hone⟩ := mapM_ok hclaims binding (Runtime.mem_sortByKey.2 hbinding)
    exact ⟨claim, hclaim, compileBinding_ok hone⟩
  · obtain ⟨binding, hbinding, hone⟩ := mapM_source hclaims hclaim
    exact ⟨binding, Runtime.mem_sortByKey.1 hbinding, compileBinding_ok hone⟩

end SecureSaas.Database
