import SecureSaas.Intent.Model
import SecureSaas.Js.Label
import SecureSaas.Js.Runtime

/-!
# The control plane of the platform (`src/adapters/codefly/paasControlPlane.ts`)

The plan that is compiled from a security intent: namespaces and service accounts for every
tenant, and service accounts for the platform. The names are labels, which are cut and tagged
with a digest when they are too long.

* `tagged_inj`: a label that was cut determines the part that was kept and the digits of the digest.
-/

namespace SecureSaas.Codefly

open Js Intent
open Blueprint (sorted)

/-! ## The text of an intent -/

def strings (texts : List String) : Value := .array (texts.map .string)

def integer (n : ℤ) : Value := .number (.int n)

def exposureText : PaasExposure → String
  | .privateNetwork => "private"
  | .publicNetwork => "public"

def authenticationText : PaasAuthentication → String
  | .none => "none"
  | .oidc => "oidc"
  | .mtls => "mtls"
  | .oidcAndMtls => "oidc+mtls"

def authorizationText : PaasAuthorization → String
  | .none => "none"
  | .rbac => "rbac"
  | .capability => "capability"

def executionTargetText : PaasExecutionTarget → String
  | .controlPlane => "control-plane"
  | .tenantSandbox => "tenant-sandbox"
  | .host => "host"

def trustText : PaasTrust → String
  | .trusted => "trusted"
  | .untrusted => "untrusted"

def isolationText : PaasIsolation → String
  | .container => "container"
  | .microvm => "microvm"
  | .dedicatedVm => "dedicated-vm"

def egressText : PaasEgress → String
  | .none => "none"
  | .brokered => "brokered"
  | .direct => "direct"

def tenantValue (tenant : PaasTenantQuota) : Value := .object [
  ("tenantId", .string tenant.tenantId),
  ("maxConcurrentBuilds", integer tenant.maxConcurrentBuilds),
  ("maxConcurrentDeployments", integer tenant.maxConcurrentDeployments),
  ("maxCpu", .string tenant.maxCpu),
  ("maxMemory", .string tenant.maxMemory),
  ("maxStorage", .string tenant.maxStorage),
  ("maxExecutionMinutes", integer tenant.maxExecutionMinutes)]

def endpointValue (endpoint : PaasEndpoint) : Value := .object [
  ("id", .string endpoint.id),
  ("exposure", .string (exposureText endpoint.exposure)),
  ("authentication", .string (authenticationText endpoint.authentication)),
  ("authorization", .string (authorizationText endpoint.authorization)),
  ("tenantBindingRequired", .bool endpoint.tenantBindingRequired),
  ("directHostExecution", .bool endpoint.directHostExecution),
  ("executionTarget", .string (executionTargetText endpoint.executionTarget)),
  ("operations", strings (endpoint.operations.map PaasOperation.text))]

def identityValue (identity : PaasIdentity) : Value := .object [
  ("id", .string identity.id),
  ("role", .string identity.role.text),
  ("shortLived", .bool identity.shortLived),
  ("tenantScoped", .bool identity.tenantScoped)]

def sandboxValue (sandbox : PaasSandbox) : Value := .object [
  ("trust", .string (trustText sandbox.trust)),
  ("isolation", .string (isolationText sandbox.isolation)),
  ("ephemeral", .bool sandbox.ephemeral),
  ("privileged", .bool sandbox.privileged),
  ("hostNetwork", .bool sandbox.hostNetwork),
  ("hostPid", .bool sandbox.hostPid),
  ("hostPathMounts", .bool sandbox.hostPathMounts),
  ("containerSocket", .bool sandbox.containerSocket),
  ("ambientCloudCredentials", .bool sandbox.ambientCloudCredentials),
  ("egress", .string (egressText sandbox.egress)),
  ("perTenant", .bool sandbox.perTenant),
  ("maxLifetimeMinutes", integer sandbox.maxLifetimeMinutes)]

def intentValue (intent : PaasSecurityIntent) : Value := .object [
  ("apiVersion", .string "security.deus.dev/paas-security/v1alpha1"),
  ("name", .string intent.name),
  ("environment", .string intent.environment),
  ("tenants", .array (intent.tenants.map tenantValue)),
  ("endpoints", .array (intent.endpoints.map endpointValue)),
  ("accessControl", .object [
    ("denyByDefault", .bool intent.accessControl.denyByDefault),
    ("trustedCapabilityIssuers", strings intent.accessControl.trustedCapabilityIssuers),
    ("maxCapabilityTtlSeconds", integer intent.accessControl.maxCapabilityTtlSeconds),
    ("oneUseMutations", .bool intent.accessControl.oneUseMutations),
    ("idempotencyKeys", .bool intent.accessControl.idempotencyKeys)]),
  ("identities", .array (intent.identities.map identityValue)),
  ("builder", sandboxValue intent.builder),
  ("runtime", sandboxValue intent.runtime),
  ("scheduling", .object [
    ("perTenantQueues", .bool intent.scheduling.perTenantQueues),
    ("fairScheduling", .bool intent.scheduling.fairScheduling),
    ("cancellation", .bool intent.scheduling.cancellation),
    ("timeouts", .bool intent.scheduling.timeouts),
    ("maxGlobalConcurrency", integer intent.scheduling.maxGlobalConcurrency)]),
  ("supplyChain", .object [
    ("digestPinned", .bool intent.supplyChain.digestPinned),
    ("signatureVerification", .bool intent.supplyChain.signatureVerification),
    ("provenanceVerification", .bool intent.supplyChain.provenanceVerification),
    ("sbomRequired", .bool intent.supplyChain.sbomRequired),
    ("immutableArtifacts", .bool intent.supplyChain.immutableArtifacts),
    ("retentionDays", integer intent.supplyChain.retentionDays)]),
  ("deploymentState", .object [
    ("durable", .bool intent.deploymentState.durable),
    ("encrypted", .bool intent.deploymentState.encrypted),
    ("idempotencyKeys", .bool intent.deploymentState.idempotencyKeys),
    ("perTenantLocks", .bool intent.deploymentState.perTenantLocks),
    ("rollback", .bool intent.deploymentState.rollback),
    ("backup", .bool intent.deploymentState.backup),
    ("restoreTests", .bool intent.deploymentState.restoreTests),
    ("regionalRecovery", .bool intent.deploymentState.regionalRecovery)]),
  ("audit", .object [
    ("immutable", .bool intent.audit.immutable),
    ("retentionDays", integer intent.audit.retentionDays),
    ("requiredFields", strings intent.audit.requiredFields),
    ("denialEvents", .bool intent.audit.denialEvents)])]

/-! ## Labels -/

def digest (rt : Runtime) (value : Value) : String := rt.sha256 (String.ofList (textWith rt.sortedStyle value))

/-- `value` in lower case, with single dashes for what is no letter or digit. -/
def normalizedLabel (value : String) : List Char := collapseDashes false (trimDashes (lowerDashed value))

/-- What is kept of a label that is too long. -/
def labelStem (value : String) : List Char := trimEndDashes ((normalizedLabel value).take 54)

/-- The digits of the digest that such a label ends with. -/
def labelTag (rt : Runtime) (value : String) : List Char := (digest rt (.string value)).toList.take 8

def dnsLabel (rt : Runtime) (value : String) : Except String String :=
  let normalized := normalizedLabel value
  if normalized = [] then .error s!"Codefly DNS label '{value}' is invalid."
  else if normalized.length ≤ 63 then .ok (String.ofList normalized)
  else .ok (String.ofList (labelStem value ++ '-' :: labelTag rt value))

/-- The digits are eight. -/
theorem labelTag_spec {rt : Runtime} {value : String} :
    (labelTag rt value).length = 8 ∧ ∀ c ∈ labelTag rt value, isHex c = true := by
  obtain ⟨hlength, hhex⟩ := isHexDigest_spec (rt.sha256_hex (String.ofList (textWith rt.sortedStyle (.string value))))
  unfold labelTag digest
  rw [List.length_take, hlength]
  exact ⟨rfl, fun c hc => hhex c (List.mem_of_mem_take hc)⟩

/-- The part that is kept and the digits of the digest can be told from a label that was cut. -/
theorem tagged_inj {rt : Runtime} {stem otherStem : List Char} {value other : String}
    (h : stem ++ '-' :: labelTag rt value = otherStem ++ '-' :: labelTag rt other) :
    stem = otherStem ∧ labelTag rt value = labelTag rt other := by
  have hlength : stem.length = otherStem.length := by
    have := congrArg List.length h
    simp only [List.length_append, List.length_cons, labelTag_spec.1] at this
    omega
  obtain ⟨hstem, htag⟩ := List.append_inj h hlength
  exact ⟨hstem, (List.cons.inj htag).2⟩

/-! ## Plans -/

structure TenantNamespaces where
  builder : String
  runtime : String
  egress : String

structure TenantServiceAccounts where
  builder : String
  deployer : String
  runtime : String
  egress : String

structure CodeflyPaasTenantBoundaryPlan where
  tenantId : String
  namespaces : TenantNamespaces
  serviceAccounts : TenantServiceAccounts
  quota : PaasTenantQuota
  builderRuntimeClass : String
  runtimeClass : Option String

structure GlobalServiceAccounts where
  controlPlane : String
  registry : String
  audit : String

structure CodeflyPaasControlPlanePlan where
  intentDigest : String
  name : String
  environment : String
  systemNamespace : String
  globalServiceAccounts : GlobalServiceAccounts
  endpoints : List PaasEndpoint
  accessControl : PaasAccessControl
  tenants : List CodeflyPaasTenantBoundaryPlan
  scheduling : PaasScheduling
  supplyChain : PaasSupplyChain
  deploymentState : PaasDeploymentState
  audit : PaasAudit

def TenantNamespaces.values (namespaces : TenantNamespaces) : List String :=
  [namespaces.builder, namespaces.runtime, namespaces.egress]

/-- `new Map(identities.map((identity) => [identity.role, identity])).get(role)!.id`. -/
def identityId (intent : PaasSecurityIntent) (role : PaasIdentityRole) : Except String String :=
  match (intent.identities.filter fun identity => identity.role = role).getLast? with
  | some identity => .ok identity.id
  | none => .error "Cannot read properties of undefined (reading 'id')"

def runtimeClassOf (sandbox : PaasSandbox) : String :=
  if sandbox.isolation = .microvm then "deus-microvm" else "deus-dedicated-vm"

/-- The service account of a role for the tenant with the label. -/
def serviceAccount (rt : Runtime) (intent : PaasSecurityIntent) (tenantLabel : String) (role : PaasIdentityRole) :
    Except String String := do
  let id ← identityId intent role
  dnsLabel rt (id ++ "-" ++ tenantLabel)

def globalIdentity (rt : Runtime) (intent : PaasSecurityIntent) (role : PaasIdentityRole) : Except String String := do
  let id ← identityId intent role
  dnsLabel rt id

def compileTenant (rt : Runtime) (intent : PaasSecurityIntent) (tenant : PaasTenantQuota) :
    Except String CodeflyPaasTenantBoundaryPlan := do
  let tenantLabel ← dnsLabel rt tenant.tenantId
  let namespaces : TenantNamespaces :=
    { builder := ← dnsLabel rt ("codefly-build-" ++ tenantLabel ++ "-" ++ intent.environment)
      runtime := ← dnsLabel rt ("codefly-runtime-" ++ tenantLabel ++ "-" ++ intent.environment)
      egress := ← dnsLabel rt ("codefly-egress-" ++ tenantLabel ++ "-" ++ intent.environment) }
  let serviceAccounts : TenantServiceAccounts :=
    { builder := ← serviceAccount rt intent tenantLabel .builder
      deployer := ← serviceAccount rt intent tenantLabel .deployer
      runtime := ← serviceAccount rt intent tenantLabel .runtime
      egress := ← serviceAccount rt intent tenantLabel .egress }
  .ok
    { tenantId := tenant.tenantId
      namespaces := namespaces
      serviceAccounts := serviceAccounts
      quota := tenant
      builderRuntimeClass := runtimeClassOf intent.builder
      runtimeClass := if intent.runtime.trust = .untrusted then some (runtimeClassOf intent.runtime) else none }

def compileCodeflyPaasControlPlane (rt : Runtime) (intent : PaasSecurityIntent) :
    Except String CodeflyPaasControlPlanePlan := do
  assertPaasSecurityIntent intent
  let intentDigest := digest rt (intentValue intent)
  let tenants ← (rt.sortByKey (fun tenant => tenant.tenantId) intent.tenants).mapM (compileTenant rt intent)
  let namespaceValues := tenants.flatMap fun tenant => tenant.namespaces.values
  if ¬ namespaceValues.Nodup then
    .error "Codefly PaaS tenant namespaces must be globally unique."
  let systemNamespace ← dnsLabel rt ("codefly-system-" ++ intent.environment)
  let globalServiceAccounts : GlobalServiceAccounts :=
    { controlPlane := ← globalIdentity rt intent .controlPlane
      registry := ← globalIdentity rt intent .registry
      audit := ← globalIdentity rt intent .audit }
  .ok
    { intentDigest := intentDigest
      name := intent.name
      environment := intent.environment
      systemNamespace := systemNamespace
      globalServiceAccounts := globalServiceAccounts
      endpoints := (rt.sortByKey (fun endpoint => endpoint.id) intent.endpoints).map fun endpoint =>
        { endpoint with
          operations := endpoint.operations.insertionSort fun left right => left.text ≤ right.text
          tenantBindingRequired := true
          directHostExecution := false }
      accessControl :=
        { intent.accessControl with
          trustedCapabilityIssuers := sorted intent.accessControl.trustedCapabilityIssuers }
      tenants := tenants
      scheduling := intent.scheduling
      supplyChain := intent.supplyChain
      deploymentState := intent.deploymentState
      audit := { intent.audit with requiredFields := sorted intent.audit.requiredFields } }

/-! ## Rendered service accounts -/

structure RenderedServiceAccount where
  namespaceName : String
  name : String
  role : PaasIdentityRole
  tenantId : Option String

/-- The service accounts of `renderCodeflyPaasControlPlaneArtifacts` for a tenant. -/
def CodeflyPaasTenantBoundaryPlan.rendered (tenant : CodeflyPaasTenantBoundaryPlan) : List RenderedServiceAccount :=
  [⟨tenant.namespaces.builder, tenant.serviceAccounts.builder, .builder, some tenant.tenantId⟩,
   ⟨tenant.namespaces.runtime, tenant.serviceAccounts.deployer, .deployer, some tenant.tenantId⟩,
   ⟨tenant.namespaces.runtime, tenant.serviceAccounts.runtime, .runtime, some tenant.tenantId⟩,
   ⟨tenant.namespaces.egress, tenant.serviceAccounts.egress, .egress, some tenant.tenantId⟩]

/-- The service accounts of `renderCodeflyPaasControlPlaneArtifacts`. -/
def CodeflyPaasControlPlanePlan.rendered (plan : CodeflyPaasControlPlanePlan) : List RenderedServiceAccount :=
  [⟨plan.systemNamespace, plan.globalServiceAccounts.controlPlane, .controlPlane, none⟩,
   ⟨plan.systemNamespace, plan.globalServiceAccounts.registry, .registry, none⟩,
   ⟨plan.systemNamespace, plan.globalServiceAccounts.audit, .audit, none⟩] ++
    plan.tenants.flatMap CodeflyPaasTenantBoundaryPlan.rendered

end SecureSaas.Codefly
