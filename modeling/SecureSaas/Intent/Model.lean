import SecureSaas.Blueprint.Applications

/-!
# The security intent of the platform and its invariants

`evaluatePaasSecurityIntent` lists what an intent violates; an intent is accepted when the list is
empty. The numbers of an intent are the integers its parser accepts.

* `accepted_identities`: an accepted intent has exactly one identity for each role, and no two
  identities have the same identifier.
-/

namespace SecureSaas.Intent

open Js
open Blueprint (duplicateValues nodup_of_duplicateValues sorted)

/-! ## Data -/

inductive PaasOperation
  | build | deploy | cancel | rollback | readState | readFile | writeFile | execCommand
  | openTerminal | pushArtifact | pullArtifact | invokeAgent
deriving DecidableEq

def PaasOperation.text : PaasOperation → String
  | .build => "build"
  | .deploy => "deploy"
  | .cancel => "cancel"
  | .rollback => "rollback"
  | .readState => "read-state"
  | .readFile => "read-file"
  | .writeFile => "write-file"
  | .execCommand => "exec-command"
  | .openTerminal => "open-terminal"
  | .pushArtifact => "push-artifact"
  | .pullArtifact => "pull-artifact"
  | .invokeAgent => "invoke-agent"

inductive PaasExecutionTarget
  | controlPlane | tenantSandbox | host
deriving DecidableEq

inductive PaasIdentityRole
  | controlPlane | builder | deployer | egress | registry | runtime | audit
deriving DecidableEq

def PaasIdentityRole.text : PaasIdentityRole → String
  | .controlPlane => "control-plane"
  | .builder => "builder"
  | .deployer => "deployer"
  | .egress => "egress"
  | .registry => "registry"
  | .runtime => "runtime"
  | .audit => "audit"

structure PaasTenantQuota where
  tenantId : String
  maxConcurrentBuilds : ℤ
  maxConcurrentDeployments : ℤ
  maxCpu : String
  maxMemory : String
  maxStorage : String
  maxExecutionMinutes : ℤ

inductive PaasExposure
  | privateNetwork | publicNetwork
deriving DecidableEq

inductive PaasAuthentication
  | none | oidc | mtls | oidcAndMtls
deriving DecidableEq

inductive PaasAuthorization
  | none | rbac | capability
deriving DecidableEq

structure PaasEndpoint where
  id : String
  exposure : PaasExposure
  authentication : PaasAuthentication
  authorization : PaasAuthorization
  tenantBindingRequired : Bool
  directHostExecution : Bool
  executionTarget : PaasExecutionTarget
  operations : List PaasOperation

structure PaasAccessControl where
  denyByDefault : Bool
  trustedCapabilityIssuers : List String
  maxCapabilityTtlSeconds : ℤ
  oneUseMutations : Bool
  idempotencyKeys : Bool

structure PaasIdentity where
  id : String
  role : PaasIdentityRole
  shortLived : Bool
  tenantScoped : Bool

inductive PaasTrust
  | trusted | untrusted
deriving DecidableEq

inductive PaasIsolation
  | container | microvm | dedicatedVm
deriving DecidableEq

inductive PaasEgress
  | none | brokered | direct
deriving DecidableEq

structure PaasSandbox where
  trust : PaasTrust
  isolation : PaasIsolation
  ephemeral : Bool
  privileged : Bool
  hostNetwork : Bool
  hostPid : Bool
  hostPathMounts : Bool
  containerSocket : Bool
  ambientCloudCredentials : Bool
  egress : PaasEgress
  perTenant : Bool
  maxLifetimeMinutes : ℤ

structure PaasScheduling where
  perTenantQueues : Bool
  fairScheduling : Bool
  cancellation : Bool
  timeouts : Bool
  maxGlobalConcurrency : ℤ

structure PaasSupplyChain where
  digestPinned : Bool
  signatureVerification : Bool
  provenanceVerification : Bool
  sbomRequired : Bool
  immutableArtifacts : Bool
  retentionDays : ℤ

structure PaasDeploymentState where
  durable : Bool
  encrypted : Bool
  idempotencyKeys : Bool
  perTenantLocks : Bool
  rollback : Bool
  backup : Bool
  restoreTests : Bool
  regionalRecovery : Bool

structure PaasAudit where
  immutable : Bool
  retentionDays : ℤ
  requiredFields : List String
  denialEvents : Bool

structure PaasSecurityIntent where
  name : String
  environment : String
  tenants : List PaasTenantQuota
  endpoints : List PaasEndpoint
  accessControl : PaasAccessControl
  identities : List PaasIdentity
  builder : PaasSandbox
  runtime : PaasSandbox
  scheduling : PaasScheduling
  supplyChain : PaasSupplyChain
  deploymentState : PaasDeploymentState
  audit : PaasAudit

/-! ## Violations -/

inductive PaasSeverity
  | critical | high | medium
deriving DecidableEq

structure PaasSecurityViolation where
  code : String
  severity : PaasSeverity
  message : String
  path : Option String
deriving DecidableEq

/-- `if (condition) violations.push(violation(…))`; an empty path is left out. -/
def violation (condition : Bool) (code : String) (severity : PaasSeverity) (message path : String) :
    List PaasSecurityViolation :=
  if condition then [⟨code, severity, message, if path = "" then none else some path⟩] else []

@[simp] theorem violation_eq_nil {condition : Bool} {code : String} {severity : PaasSeverity}
    {message path : String} : violation condition code severity message path = [] ↔ condition = false := by
  simp [violation]

def duplicates (values : List String) : List String := sorted (duplicateValues values)

theorem nodup_of_duplicates {values : List String} (h : duplicates values = []) : values.Nodup := by
  refine nodup_of_duplicateValues (List.length_eq_zero_iff.1 ?_)
  rw [← List.length_insertionSort (· ≤ ·) (duplicateValues values)]
  exact congrArg List.length h

def requiredRoles : List PaasIdentityRole :=
  [.controlPlane, .builder, .deployer, .egress, .registry, .runtime, .audit]

def requiredOperations : List PaasOperation :=
  [.build, .deploy, .cancel, .rollback, .readState, .readFile, .writeFile, .execCommand, .openTerminal,
    .pushArtifact, .pullArtifact, .invokeAgent]

def sandboxOperations : List PaasOperation := [.readFile, .writeFile, .execCommand, .openTerminal, .invokeAgent]

def requiredAuditFields : List String :=
  ["actor", "tenant", "request-id", "operation", "source-revision", "artifact-digest",
    "authorization-decision", "decision-epoch-seconds"]

def tenantViolations (tenant : PaasTenantQuota) : List PaasSecurityViolation :=
  violation (decide (tenant.maxConcurrentBuilds < 1) || decide (tenant.maxConcurrentDeployments < 1) ||
      decide (tenant.maxExecutionMinutes < 1) || !hasText tenant.maxCpu || !hasText tenant.maxMemory ||
      !hasText tenant.maxStorage) "PAAS_TENANT_QUOTA_INVALID" .critical
    s!"Tenant '{tenant.tenantId}' must have positive concurrency, lifetime, CPU, memory, and storage bounds."
    s!"tenants.{tenant.tenantId}"

def endpointViolations (endpoint : PaasEndpoint) : List PaasSecurityViolation :=
  let path := s!"endpoints.{endpoint.id}"
  violation (endpoint.authentication = .none) "PAAS_ENDPOINT_UNAUTHENTICATED" .critical
    s!"Endpoint '{endpoint.id}' permits unauthenticated access." path ++
  violation (endpoint.authorization = .none) "PAAS_ENDPOINT_UNAUTHORIZED" .critical
    s!"Endpoint '{endpoint.id}' has no authorization decision point." path ++
  violation (decide (endpoint.exposure = .publicNetwork) && decide (endpoint.authentication ≠ .oidcAndMtls))
    "PAAS_PUBLIC_ENDPOINT_WEAK_AUTH" .critical s!"Public endpoint '{endpoint.id}' requires both OIDC and mTLS." path ++
  violation (!endpoint.tenantBindingRequired) "PAAS_ENDPOINT_TENANT_UNBOUND" .critical
    s!"Endpoint '{endpoint.id}' does not bind authorization to a tenant." path ++
  violation endpoint.directHostExecution "PAAS_ENDPOINT_HOST_EXECUTION" .critical
    s!"Endpoint '{endpoint.id}' can execute directly on the host." path ++
  violation ((endpoint.operations.any fun operation => sandboxOperations.contains operation) &&
      decide (endpoint.executionTarget ≠ .tenantSandbox)) "PAAS_ENDPOINT_SANDBOX_BYPASS" .critical
    s!"Endpoint '{endpoint.id}' exposes file, command, terminal, or agent operations outside a tenant sandbox."
    path ++
  violation endpoint.operations.isEmpty "PAAS_ENDPOINT_OPERATION_UNBOUNDED" .high
    s!"Endpoint '{endpoint.id}' has no explicit operation allowlist." path

/-- The roles whose identities are derived for each tenant. -/
def tenantScopedRoles : List PaasIdentityRole := [.builder, .deployer, .egress, .runtime]

def roleViolations (identities : List PaasIdentity) (role : PaasIdentityRole) : List PaasSecurityViolation :=
  match identities.filter fun identity => identity.role = role with
  | [identity] =>
    violation (!identity.shortLived) "PAAS_IDENTITY_LONG_LIVED" .critical
      s!"PaaS role '{role.text}' uses a long-lived identity." s!"identities.{identity.id}" ++
    violation (tenantScopedRoles.contains role && !identity.tenantScoped) "PAAS_IDENTITY_TENANT_UNBOUND" .critical
      s!"PaaS role '{role.text}' must derive a tenant-scoped workload identity." s!"identities.{identity.id}"
  | _ =>
    violation true "PAAS_IDENTITY_ROLE_CARDINALITY" .critical
      s!"PaaS role '{role.text}' requires exactly one distinct identity." ""

def evaluateSandbox (name : String) (sandbox : PaasSandbox) : List PaasSecurityViolation :=
  violation (decide (sandbox.trust = .untrusted) && decide (sandbox.isolation ≠ .microvm) &&
      decide (sandbox.isolation ≠ .dedicatedVm)) "PAAS_SANDBOX_WEAK_ISOLATION" .critical
    s!"{name} sandbox requires a microVM or dedicated VM for untrusted execution." name ++
  violation sandbox.privileged "PAAS_SANDBOX_PRIVILEGED" .critical s!"{name} sandbox cannot be privileged." name ++
  violation (sandbox.hostNetwork || sandbox.hostPid || sandbox.hostPathMounts || sandbox.containerSocket)
    "PAAS_SANDBOX_HOST_ACCESS" .critical
    s!"{name} sandbox cannot access host namespaces, host paths, or the container socket." name ++
  violation sandbox.ambientCloudCredentials "PAAS_SANDBOX_AMBIENT_CREDENTIALS" .critical
    s!"{name} sandbox cannot receive ambient cloud credentials." name ++
  violation (decide (sandbox.egress = .direct)) "PAAS_SANDBOX_DIRECT_EGRESS" .critical
    s!"{name} sandbox egress must be absent or brokered." name ++
  violation (!sandbox.ephemeral || !sandbox.perTenant || decide (sandbox.maxLifetimeMinutes < 1))
    "PAAS_SANDBOX_LIFECYCLE_UNBOUNDED" .critical
    s!"{name} sandbox must be ephemeral, tenant-bound, and time-bounded." name

variable (intent : PaasSecurityIntent)

def tenantSetViolations : List PaasSecurityViolation :=
  ((duplicates (intent.tenants.map fun tenant => tenant.tenantId)).flatMap fun duplicate =>
    violation true "PAAS_DUPLICATE_TENANT" .critical s!"Tenant '{duplicate}' is declared more than once." "") ++
  violation intent.tenants.isEmpty "PAAS_TENANT_QUOTA_MISSING" .critical
    "At least one tenant quota is required." "" ++
  intent.tenants.flatMap tenantViolations

def surfaceViolations : List PaasSecurityViolation :=
  ((duplicates (intent.endpoints.map fun endpoint => endpoint.id)).flatMap fun duplicate =>
    violation true "PAAS_DUPLICATE_ENDPOINT" .critical
      s!"PaaS endpoint '{duplicate}' is declared more than once." "") ++
  intent.endpoints.flatMap endpointViolations ++
  (requiredOperations.flatMap fun operation =>
    violation (!(intent.endpoints.flatMap fun endpoint => endpoint.operations).contains operation)
      "PAAS_OPERATION_MISSING" .high s!"PaaS operation '{operation.text}' has no governed endpoint." "") ++
  violation (!intent.accessControl.denyByDefault || intent.accessControl.trustedCapabilityIssuers.isEmpty ||
      decide (intent.accessControl.maxCapabilityTtlSeconds > 900) || !intent.accessControl.oneUseMutations ||
      !intent.accessControl.idempotencyKeys) "PAAS_ACCESS_CONTROL_WEAK" .critical
    "Access control must deny by default, trust an explicit issuer set, cap capabilities at 15 minutes, and require one-use/idempotent mutations."
    "accessControl"

def identityViolations : List PaasSecurityViolation :=
  ((duplicates (intent.identities.map fun identity => identity.id)).flatMap fun duplicate =>
    violation true "PAAS_IDENTITY_REUSED" .critical
      s!"PaaS identity '{duplicate}' is reused across trust roles." "") ++
  requiredRoles.flatMap (roleViolations intent.identities)

def operationViolations : List PaasSecurityViolation :=
  violation (decide (intent.builder.trust ≠ .untrusted)) "PAAS_BUILDER_TRUST_INVALID" .critical
    "Customer-controlled builds must always be treated as untrusted." "" ++
  violation (!intent.scheduling.perTenantQueues || !intent.scheduling.fairScheduling ||
      !intent.scheduling.cancellation || !intent.scheduling.timeouts ||
      decide (intent.scheduling.maxGlobalConcurrency < 1)) "PAAS_SCHEDULER_UNBOUNDED" .critical
    "Scheduling requires bounded global concurrency, per-tenant queues, fairness, cancellation, and timeouts." "" ++
  violation (!intent.supplyChain.digestPinned || !intent.supplyChain.signatureVerification ||
      !intent.supplyChain.provenanceVerification || !intent.supplyChain.sbomRequired ||
      !intent.supplyChain.immutableArtifacts || decide (intent.supplyChain.retentionDays < 30))
    "PAAS_SUPPLY_CHAIN_WEAK" .critical
    "Artifacts require digests, signatures, provenance, SBOMs, immutability, and at least 30 days retention." "" ++
  violation (!intent.deploymentState.durable || !intent.deploymentState.encrypted ||
      !intent.deploymentState.idempotencyKeys || !intent.deploymentState.perTenantLocks ||
      !intent.deploymentState.rollback) "PAAS_STATE_UNSAFE" .critical
    "Deployment state requires durability, encryption, idempotency, tenant locks, and rollback." "" ++
  violation (!intent.deploymentState.backup || !intent.deploymentState.restoreTests ||
      !intent.deploymentState.regionalRecovery) "PAAS_RECOVERY_UNPROVEN" .high
    "Deployment state requires backups, restore testing, and regional recovery." "" ++
  violation (!intent.audit.immutable || !intent.audit.denialEvents || decide (intent.audit.retentionDays < 365))
    "PAAS_AUDIT_WEAK" .critical
    "PaaS audit evidence must be immutable, include denials, and be retained for at least 365 days." ""

/-- The audit fields that are required and not listed. -/
def missingAuditFields : List String :=
  requiredAuditFields.filter fun field => !intent.audit.requiredFields.contains field

def evaluatePaasSecurityIntent : List PaasSecurityViolation :=
  tenantSetViolations intent ++ surfaceViolations intent ++ identityViolations intent ++
    evaluateSandbox "builder" intent.builder ++ evaluateSandbox "runtime" intent.runtime ++
    operationViolations intent ++
    violation (!(missingAuditFields intent).isEmpty) "PAAS_AUDIT_FIELDS_MISSING" .critical
      (s!"PaaS audit evidence is missing fields: " ++ ", ".intercalate (missingAuditFields intent) ++ ".") ""

def PaasSeverity.text : PaasSeverity → String
  | .critical => "critical"
  | .high => "high"
  | .medium => "medium"

def assertPaasSecurityIntent : Except String Unit :=
  let violations := evaluatePaasSecurityIntent intent
  if violations.isEmpty then .ok ()
  else .error (s!"PaaS security intent '{intent.name}' violates security invariants:\n" ++
    "\n".intercalate (violations.map fun entry => s!"- [{entry.severity.text}] {entry.code}: {entry.message}"))

variable {intent}

theorem assertPaasSecurityIntent_ok (h : assertPaasSecurityIntent intent = .ok ()) :
    evaluatePaasSecurityIntent intent = [] := by
  unfold assertPaasSecurityIntent at h
  by_cases he : (evaluatePaasSecurityIntent intent).isEmpty = true
  · exact List.isEmpty_iff.1 he
  · simp [he] at h

theorem roleViolations_nil {identities : List PaasIdentity} {role : PaasIdentityRole}
    (h : roleViolations identities role = []) :
    ∃ identity, (identities.filter fun identity => identity.role = role) = [identity] := by
  unfold roleViolations at h
  split at h
  · rename_i identity heq
    exact ⟨identity, heq⟩
  · simp at h

/-- **An accepted intent has one identity for each role, and its identities have different
identifiers.** -/
theorem accepted_identities (h : assertPaasSecurityIntent intent = .ok ()) :
    (intent.identities.map fun identity => identity.id).Nodup ∧
      ∀ role, ∃ identity, (intent.identities.filter fun identity => identity.role = role) = [identity] := by
  have hnone := assertPaasSecurityIntent_ok h
  unfold evaluatePaasSecurityIntent at hnone
  simp only [List.append_eq_nil_iff, and_assoc] at hnone
  obtain ⟨-, -, hidentities, -⟩ := hnone
  obtain ⟨hreused, hroles⟩ := List.append_eq_nil_iff.1 hidentities
  constructor
  · refine nodup_of_duplicates ?_
    cases hd : duplicates (intent.identities.map fun identity => identity.id) with
    | nil => rfl
    | cons duplicate rest => simp [hd, violation] at hreused
  · intro role
    have hrole : role ∈ requiredRoles := by cases role <;> decide
    exact roleViolations_nil (List.flatMap_eq_nil_iff.1 hroles role hrole)

/-! ## The reference intent -/

def secureSandbox (trust : PaasTrust) (isolation : PaasIsolation) (maxLifetimeMinutes : ℤ) : PaasSandbox where
  trust := trust
  isolation := isolation
  ephemeral := true
  privileged := false
  hostNetwork := false
  hostPid := false
  hostPathMounts := false
  containerSocket := false
  ambientCloudCredentials := false
  egress := .brokered
  perTenant := true
  maxLifetimeMinutes := maxLifetimeMinutes

/-- A private endpoint of the reference intent. -/
def secureEndpoint (id : String) (executionTarget : PaasExecutionTarget) (operations : List PaasOperation) :
    PaasEndpoint where
  id := id
  exposure := .privateNetwork
  authentication := .mtls
  authorization := .capability
  tenantBindingRequired := true
  directHostExecution := false
  executionTarget := executionTarget
  operations := operations

def createSecurePaasSecurityIntent (tenantIds : List String) : PaasSecurityIntent where
  name := "codefly-multi-tenant-paas"
  environment := "production"
  tenants := tenantIds.map fun tenantId =>
    { tenantId, maxConcurrentBuilds := 4, maxConcurrentDeployments := 2, maxCpu := "16", maxMemory := "32Gi",
      maxStorage := "200Gi", maxExecutionMinutes := 30 }
  endpoints :=
    [secureEndpoint "codefly-api" .controlPlane [.build, .deploy, .cancel, .rollback, .readState],
      secureEndpoint "codefly-workspace-api" .tenantSandbox [.readFile, .writeFile],
      secureEndpoint "codefly-exec-api" .tenantSandbox [.execCommand, .openTerminal],
      secureEndpoint "codefly-registry-api" .controlPlane [.pushArtifact, .pullArtifact],
      secureEndpoint "codefly-agent-api" .tenantSandbox [.invokeAgent]]
  accessControl :=
    { denyByDefault := true, trustedCapabilityIssuers := ["codefly-control-plane"],
      maxCapabilityTtlSeconds := 300, oneUseMutations := true, idempotencyKeys := true }
  identities := requiredRoles.map fun role =>
    { id := s!"codefly-{role.text}", role, shortLived := true, tenantScoped := tenantScopedRoles.contains role }
  builder := secureSandbox .untrusted .microvm 30
  runtime := secureSandbox .trusted .container 1440
  scheduling := ⟨true, true, true, true, 32⟩
  supplyChain := ⟨true, true, true, true, true, 365⟩
  deploymentState := ⟨true, true, true, true, true, true, true, true⟩
  audit := { immutable := true, retentionDays := 2555, requiredFields := requiredAuditFields, denialEvents := true }

example : evaluatePaasSecurityIntent (createSecurePaasSecurityIntent ["acme", "globex"]) = [] := by
  decide +kernel

end SecureSaas.Intent
