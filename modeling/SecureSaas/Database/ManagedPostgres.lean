import SecureSaas.Blueprint.Bypass
import SecureSaas.Js.Runtime

/-!
# Intents of managed Postgres (`src/core/managedPostgres.ts`)

An intent binds services of applications to relational data boundaries of a blueprint. A member
whose type is a single literal is written in the JavaScript value only. The parser of an intent
admits integers only as numbers.

* `assertManagedPostgresIntent_ids`: the bindings of an accepted intent have different ids.
* `isName`: what the parser of an intent admits as a name.
-/

namespace SecureSaas.Database

open Js Blueprint

/-! ## Data -/

inductive ManagedPostgresApiVersion
  | v1alpha1
  | v1alpha2
deriving DecidableEq

def ManagedPostgresApiVersion.text : ManagedPostgresApiVersion → String
  | .v1alpha1 => "security.deus.dev/managed-postgres/v1alpha1"
  | .v1alpha2 => "security.deus.dev/managed-postgres/v1alpha2"

inductive ManagedPostgresEnvironment
  | development
  | staging
  | production
deriving DecidableEq

def ManagedPostgresEnvironment.text : ManagedPostgresEnvironment → String
  | .development => "development"
  | .staging => "staging"
  | .production => "production"

structure ManagedPostgresPlugin where
  publisher : String
  version : String

structure ManagedPostgresTenancy where
  organizationId : String
  platformTenantId : String
  applicationId : String
  resourceOwnerId : String

structure ManagedPostgresService where
  workspaceName : String
  moduleName : String
  serviceName : String

structure ManagedPostgresDatabase where
  name : String
  majorVersion : String
  extensions : List String

structure ManagedPostgresProvisioning where
  backupRetentionDays : ℤ
  restoreTestIntervalDays : ℤ

structure ManagedPostgresNetworkAccess where
  runtimeBoundaryId : String
  migrationBoundaryId : String

structure ManagedPostgresAccess where
  runtimeIdentityId : String
  migrationIdentityId : String
  networkAccess : ManagedPostgresNetworkAccess

structure ManagedPostgresBinding where
  id : String
  tenantId : String
  tenancy : Option ManagedPostgresTenancy
  dataBoundaryId : String
  codefly : ManagedPostgresService
  database : ManagedPostgresDatabase
  provisioning : ManagedPostgresProvisioning
  access : ManagedPostgresAccess

structure ManagedPostgresIntent where
  apiVersion : ManagedPostgresApiVersion
  name : String
  environment : ManagedPostgresEnvironment
  plugin : ManagedPostgresPlugin
  bindings : List ManagedPostgresBinding

/-! ## As JavaScript values -/

private def texts (items : List String) : Value := .array (items.map .string)

private def days (n : ℤ) : Value := .number (.int n)

def managedPostgresBroker : Value := .object [
  ("apiVersion", .string "security.deus.dev/resource-broker/v1alpha1"),
  ("resourceKind", .string "ManagedPostgres"),
  ("authorization", .string "capability"),
  ("tenantBindingRequired", .bool true),
  ("idempotencyRequired", .bool true),
  ("directProviderCredentials", .bool false)]

def ManagedPostgresPlugin.toValue (plugin : ManagedPostgresPlugin) : Value := .object [
  ("publisher", .string plugin.publisher), ("name", .string "postgres"), ("version", .string plugin.version)]

def ManagedPostgresTenancy.toValue (tenancy : ManagedPostgresTenancy) : Value := .object [
  ("organizationId", .string tenancy.organizationId),
  ("platformTenantId", .string tenancy.platformTenantId),
  ("applicationId", .string tenancy.applicationId),
  ("resourceOwnerId", .string tenancy.resourceOwnerId)]

def ManagedPostgresService.toValue (service : ManagedPostgresService) : Value := .object [
  ("workspace", .string service.workspaceName),
  ("module", .string service.moduleName),
  ("service", .string service.serviceName)]

def ManagedPostgresDatabase.toValue (database : ManagedPostgresDatabase) : Value := .object [
  ("name", .string database.name),
  ("engine", .string "postgresql"),
  ("majorVersion", .string database.majorVersion),
  ("port", .number (.int 5432)),
  ("extensions", texts database.extensions)]

def ManagedPostgresProvisioning.toValue (provisioning : ManagedPostgresProvisioning) : Value := .object [
  ("requestedBy", .string "codefly-postgres-plugin"),
  ("owner", .string "provider-adapter"),
  ("serviceClass", .string "managed-postgresql"),
  ("networkExposure", .string "private"),
  ("multiZone", .bool true),
  ("customerManagedEncryption", .bool true),
  ("deletionProtection", .bool true),
  ("pointInTimeRecovery", .bool true),
  ("backupRetentionDays", days provisioning.backupRetentionDays),
  ("restoreTestIntervalDays", days provisioning.restoreTestIntervalDays)]

def ManagedPostgresNetworkAccess.toValue (access : ManagedPostgresNetworkAccess) : Value := .object [
  ("mode", .string "explicit-source-boundaries"),
  ("runtimeBoundaryId", .string access.runtimeBoundaryId),
  ("migrationBoundaryId", .string access.migrationBoundaryId),
  ("separateBoundaries", .bool true),
  ("allowNetworkCidr", .bool false)]

def ManagedPostgresAccess.toValue (access : ManagedPostgresAccess) : Value := .object [
  ("runtimeIdentityId", .string access.runtimeIdentityId),
  ("migrationIdentityId", .string access.migrationIdentityId),
  ("networkAccess", access.networkAccess.toValue),
  ("authentication", .string "workload-identity"),
  ("tlsMode", .string "verify-full"),
  ("credentialDelivery", .string "reference-only"),
  ("adminCredentialsExposed", .bool false),
  ("separateMigrationIdentity", .bool true)]

def managedPostgresOutputs : Value := .object [
  ("endpoint", .string "reference"),
  ("port", .string "value"),
  ("databaseName", .string "value"),
  ("caBundle", .string "reference"),
  ("runtimeIdentity", .string "reference"),
  ("migrationIdentity", .string "reference"),
  ("credentials", .string "never")]

def managedPostgresAudit : Value := .object [
  ("immutable", .bool true),
  ("denialEvents", .bool true),
  ("accessEvidence", .bool true),
  ("provisioningEvidence", .bool true)]

def ManagedPostgresBinding.toValue (binding : ManagedPostgresBinding) : Value := .object (
  [("id", .string binding.id), ("tenantId", .string binding.tenantId)] ++
  (binding.tenancy.map fun tenancy => ("tenancy", tenancy.toValue)).toList ++
  [("dataBoundaryId", .string binding.dataBoundaryId),
   ("codefly", binding.codefly.toValue),
   ("database", binding.database.toValue),
   ("provisioning", binding.provisioning.toValue),
   ("access", binding.access.toValue),
   ("outputs", managedPostgresOutputs),
   ("audit", managedPostgresAudit)])

def ManagedPostgresIntent.toValue (intent : ManagedPostgresIntent) : Value := .object [
  ("apiVersion", .string intent.apiVersion.text),
  ("name", .string intent.name),
  ("environment", .string intent.environment.text),
  ("broker", managedPostgresBroker),
  ("plugin", intent.plugin.toValue),
  ("bindings", .array (intent.bindings.map ManagedPostgresBinding.toValue))]

/-! ## The check of an intent -/

def codeflyServiceRef (binding : ManagedPostgresBinding) : String :=
  s!"{binding.codefly.workspaceName}/{binding.codefly.moduleName}/{binding.codefly.serviceName}"

/-- What the loop over the bindings has seen. -/
structure SeenBindings where
  ids : List String
  serviceRefs : List String
  dataBoundaries : List String
  applicationTenants : Record String
  tenantApplications : Record String

def SeenBindings.none : SeenBindings := ⟨[], [], [], Record.empty, Record.empty⟩

/-- `prior && prior !== text`. -/
def otherThan (prior : Option String) (text : String) : Bool := prior.any fun seen => seen != "" && seen != text

/-- The tenants and applications paired so far, with those of this binding. -/
def assertTenancy (apiVersion : ManagedPostgresApiVersion) (seen : SeenBindings) (binding : ManagedPostgresBinding) :
    Except String SeenBindings :=
  match apiVersion, binding.tenancy with
  | .v1alpha2, none =>
    .error s!"Managed Postgres binding '{binding.id}' has an invalid explicit tenancy owner chain."
  | .v1alpha2, some tenancy => do
    throwUnless (tenancy.applicationId == binding.tenantId &&
        tenancy.resourceOwnerId == binding.access.runtimeIdentityId)
      s!"Managed Postgres binding '{binding.id}' has an invalid explicit tenancy owner chain."
    throwUnless (!(otherThan (seen.applicationTenants.get? tenancy.applicationId) tenancy.platformTenantId ||
        otherThan (seen.tenantApplications.get? tenancy.platformTenantId) tenancy.applicationId))
      s!"Managed Postgres binding '{binding.id}' crosses an explicit platform tenant boundary."
    pure { seen with
      applicationTenants := seen.applicationTenants.set tenancy.applicationId tenancy.platformTenantId
      tenantApplications := seen.tenantApplications.set tenancy.platformTenantId tenancy.applicationId }
  | .v1alpha1, some _ =>
    .error s!"Managed Postgres v1alpha1 binding '{binding.id}' cannot claim v1alpha2 tenancy fields."
  | .v1alpha1, none => .ok seen

/-- One round of the loop over the bindings. -/
def assertBinding (intent : ManagedPostgresIntent) (seen : SeenBindings) (binding : ManagedPostgresBinding) :
    Except String SeenBindings := do
  let serviceRef := codeflyServiceRef binding
  throwUnless (!seen.ids.contains binding.id) s!"Managed Postgres binding '{binding.id}' is duplicated."
  throwUnless (!seen.serviceRefs.contains serviceRef)
    s!"Managed Postgres Codefly service '{serviceRef}' is bound more than once."
  throwUnless (!seen.dataBoundaries.contains binding.dataBoundaryId)
    s!"Managed Postgres data boundary '{binding.dataBoundaryId}' is bound more than once."
  let paired ← assertTenancy intent.apiVersion seen binding
  throwUnless (binding.access.runtimeIdentityId != binding.access.migrationIdentityId)
    s!"Managed Postgres binding '{binding.id}' must separate runtime and migration identities."
  throwUnless (binding.access.networkAccess.runtimeBoundaryId != binding.access.networkAccess.migrationBoundaryId)
    s!"Managed Postgres binding '{binding.id}' must separate runtime and migration network boundaries."
  throwUnless (!(intent.environment == .production && decide (binding.provisioning.backupRetentionDays < 14)))
    s!"Managed Postgres binding '{binding.id}' requires at least 14 backup days in production."
  pure { paired with
    ids := seen.ids ++ [binding.id]
    serviceRefs := seen.serviceRefs ++ [serviceRef]
    dataBoundaries := seen.dataBoundaries ++ [binding.dataBoundaryId] }

def assertBindingsFrom (intent : ManagedPostgresIntent) :
    SeenBindings → List ManagedPostgresBinding → Except String Unit
  | _, [] => .ok ()
  | seen, binding :: rest => do
    let seen ← assertBinding intent seen binding
    assertBindingsFrom intent seen rest

/-- The component that a binding names is bound to this boundary and runs as this identity. -/
def bindsComponent (binding : ManagedPostgresBinding) (application : ApplicationDeployment) : Bool :=
  application.id == binding.tenantId &&
    match application.components.find? fun candidate => candidate.id == binding.codefly.moduleName with
    | none => false
    | some component => component.dataBoundaryIds.contains binding.dataBoundaryId &&
        component.serviceIdentityId == binding.access.runtimeIdentityId

/-- The checks of a binding against the blueprint. -/
def assertBindingPlaced (blueprint : PlatformBlueprint) (binding : ManagedPostgresBinding) : Except String Unit :=
  match (dataById blueprint).get? binding.dataBoundaryId with
  | none =>
    .error s!"Managed Postgres binding '{binding.id}' requires relational data boundary '{binding.dataBoundaryId}'."
  | some boundary => do
    throwUnless (boundary.services.contains .relational)
      s!"Managed Postgres binding '{binding.id}' requires relational data boundary '{binding.dataBoundaryId}'."
    throwUnless (boundary.encryption.customerManagedKey && boundary.encryption.rotationRequired &&
        boundary.recovery.multiAzRequired && boundary.recovery.deletionProtectionRequired &&
        boundary.recovery.backupRequired)
      s!"Managed Postgres binding '{binding.id}' weakens data-boundary security or recovery."
    throwUnless (!(decide (binding.provisioning.backupRetentionDays < min boundary.retentionDays 35) ||
        decide (boundary.recovery.restoreTestIntervalDays < binding.provisioning.restoreTestIntervalDays)))
      s!"Managed Postgres binding '{binding.id}' does not satisfy data-boundary recovery."
    throwUnless (((applicationsById blueprint).get? binding.tenantId).any (bindsComponent binding))
      s!"Managed Postgres binding '{binding.id}' crosses its Codefly tenant or component data boundary."
    throwUnless (((identitiesById blueprint).get? binding.access.migrationIdentityId).any fun identity =>
        identity.kind == .automation && identity.shortLived)
      s!"Managed Postgres binding '{binding.id}' requires a short-lived automation migration identity."

def assertManagedPostgresIntent (dates : Dates) (intent : ManagedPostgresIntent)
    (blueprint : Option PlatformBlueprint) : Except String Unit := do
  throwUnless (!intent.bindings.isEmpty) "Managed Postgres requires at least one binding."
  assertBindingsFrom intent SeenBindings.none intent.bindings
  match blueprint with
  | none => pure ()
  | some blueprint =>
    assertBlueprint dates blueprint
    intent.bindings.forM (assertBindingPlaced blueprint)

/-! ## Digests -/

def canonicalJson (rt : Runtime) (value : Value) : String := String.ofList (textWith rt.sortedStyle value)

def managedPostgresIntentDigest (rt : Runtime) (dates : Dates) (intent : ManagedPostgresIntent) :
    Except String String := do
  assertManagedPostgresIntent dates intent none
  pure (rt.sha256 (canonicalJson rt intent.toValue))

def managedPostgresBindingDigest (rt : Runtime) (dates : Dates) (intent : ManagedPostgresIntent)
    (binding : ManagedPostgresBinding) : Except String String := do
  assertManagedPostgresIntent dates intent none
  pure (rt.sha256 (canonicalJson rt (.object [
    ("apiVersion", .string intent.apiVersion.text),
    ("environment", .string intent.environment.text),
    ("broker", managedPostgresBroker),
    ("plugin", intent.plugin.toValue),
    ("binding", binding.toValue)])))

/-! ## Names -/

/-- What `nameValue` admits: at most 128 code units, and
`/^[a-z0-9](?:[a-z0-9.-]*[a-z0-9])?$/`. -/
def isName (text : String) : Bool :=
  open Pattern in
  decide (stringLength text ≤ 128) &&
    fullMatch (seq (cls isLowerAlnum)
      (opt (seq (many fun c => isLowerAlnum c || c == '.' || c == '-') (cls isLowerAlnum)))) text

/-! ## What an accepted intent has -/

theorem assertTenancy_ids {apiVersion : ManagedPostgresApiVersion} {seen seen' : SeenBindings}
    {binding : ManagedPostgresBinding} (h : assertTenancy apiVersion seen binding = .ok seen') :
    seen'.ids = seen.ids := by
  unfold assertTenancy at h
  split at h
  · cases h
  · simp only [bind_ok, pure_ok, throwUnless_ok, exists_unit] at h
    obtain ⟨-, -, rfl⟩ := h
    rfl
  · cases h
  · obtain rfl := Except.ok.inj h
    rfl

theorem assertBinding_ids {intent : ManagedPostgresIntent} {seen seen' : SeenBindings}
    {binding : ManagedPostgresBinding} (h : assertBinding intent seen binding = .ok seen') :
    binding.id ∉ seen.ids ∧ seen'.ids = seen.ids ++ [binding.id] := by
  unfold assertBinding at h
  simp only [bind_ok, pure_ok, throwUnless_ok, exists_unit, Bool.not_eq_true', List.contains_eq_mem,
    decide_eq_false_iff_not] at h
  obtain ⟨hnew, -, -, paired, -, -, -, -, rfl⟩ := h
  exact ⟨hnew, rfl⟩

theorem assertBindingsFrom_ids {intent : ManagedPostgresIntent} {bindings : List ManagedPostgresBinding} :
    ∀ {seen : SeenBindings}, assertBindingsFrom intent seen bindings = .ok () →
      (bindings.map (·.id)).Nodup ∧ ∀ binding ∈ bindings, binding.id ∉ seen.ids := by
  induction bindings with
  | nil => exact fun _ => ⟨List.nodup_nil, fun _ h => absurd h List.not_mem_nil⟩
  | cons binding rest ih =>
    intro seen h
    obtain ⟨seen', hone, hrest⟩ := bind_ok.1 h
    obtain ⟨hnew, hids⟩ := assertBinding_ids hone
    obtain ⟨hnodup, hfresh⟩ := ih hrest
    rw [hids] at hfresh
    simp only [List.mem_append, List.mem_singleton, not_or] at hfresh
    refine ⟨List.nodup_cons.2 ⟨fun hmem => ?_, hnodup⟩, ?_⟩
    · obtain ⟨other, hother, heq⟩ := List.mem_map.1 hmem
      exact (hfresh other hother).2 heq
    · exact List.forall_mem_cons.2 ⟨hnew, fun other hother => (hfresh other hother).1⟩

/-- **The bindings of an accepted intent have different ids.** -/
theorem assertManagedPostgresIntent_ids {dates : Dates} {intent : ManagedPostgresIntent}
    {blueprint : Option PlatformBlueprint} (h : assertManagedPostgresIntent dates intent blueprint = .ok ()) :
    (intent.bindings.map (·.id)).Nodup := by
  obtain ⟨_, -, h⟩ := bind_ok.1 h
  obtain ⟨_, hbindings, -⟩ := bind_ok.1 h
  exact (assertBindingsFrom_ids hbindings).1

end SecureSaas.Database
