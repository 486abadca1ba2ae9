import SecureSaas.Cluster
import SecureSaas.Codefly.ControlPlane
import SecureSaas.Js.Collect
import SecureSaas.Js.Record

/-!
# The artifacts of the control plane (`renderCodeflyPaasControlPlaneArtifacts`)

A compiled plan is rendered to files: manifests for the platform, for every tenant a directory of
manifests, the plan itself as JSON, and the kustomization that lists the files. Manifests are kept
as the objects they are; service accounts mount no token.

* `artifacts_ok`: **a file is in the result as it was written if no other one has its path.**
-/

namespace SecureSaas.Codefly.Paas

open Js Intent Cluster

/-! ## The text of a plan -/

def planEndpointValue (endpoint : PaasEndpoint) : Value := .object [
  ("id", .string endpoint.id),
  ("exposure", .string (exposureText endpoint.exposure)),
  ("authentication", .string (authenticationText endpoint.authentication)),
  ("authorization", .string (authorizationText endpoint.authorization)),
  ("operations", strings (endpoint.operations.map PaasOperation.text)),
  ("tenantBindingRequired", .bool endpoint.tenantBindingRequired),
  ("directHostExecution", .bool endpoint.directHostExecution),
  ("executionTarget", .string (executionTargetText endpoint.executionTarget))]

def accessControlValue (accessControl : PaasAccessControl) : Value := .object [
  ("denyByDefault", .bool accessControl.denyByDefault),
  ("trustedCapabilityIssuers", strings accessControl.trustedCapabilityIssuers),
  ("maxCapabilityTtlSeconds", integer accessControl.maxCapabilityTtlSeconds),
  ("oneUseMutations", .bool accessControl.oneUseMutations),
  ("idempotencyKeys", .bool accessControl.idempotencyKeys)]

def schedulingValue (scheduling : PaasScheduling) : Value := .object [
  ("perTenantQueues", .bool scheduling.perTenantQueues),
  ("fairScheduling", .bool scheduling.fairScheduling),
  ("cancellation", .bool scheduling.cancellation),
  ("timeouts", .bool scheduling.timeouts),
  ("maxGlobalConcurrency", integer scheduling.maxGlobalConcurrency)]

def supplyChainValue (supplyChain : PaasSupplyChain) : Value := .object [
  ("digestPinned", .bool supplyChain.digestPinned),
  ("signatureVerification", .bool supplyChain.signatureVerification),
  ("provenanceVerification", .bool supplyChain.provenanceVerification),
  ("sbomRequired", .bool supplyChain.sbomRequired),
  ("immutableArtifacts", .bool supplyChain.immutableArtifacts),
  ("retentionDays", integer supplyChain.retentionDays)]

def deploymentStateValue (deploymentState : PaasDeploymentState) : Value := .object [
  ("durable", .bool deploymentState.durable),
  ("encrypted", .bool deploymentState.encrypted),
  ("idempotencyKeys", .bool deploymentState.idempotencyKeys),
  ("perTenantLocks", .bool deploymentState.perTenantLocks),
  ("rollback", .bool deploymentState.rollback),
  ("backup", .bool deploymentState.backup),
  ("restoreTests", .bool deploymentState.restoreTests),
  ("regionalRecovery", .bool deploymentState.regionalRecovery)]

def auditValue (audit : PaasAudit) : Value := .object [
  ("immutable", .bool audit.immutable),
  ("retentionDays", integer audit.retentionDays),
  ("requiredFields", strings audit.requiredFields),
  ("denialEvents", .bool audit.denialEvents)]

def namespacesValue (namespaces : TenantNamespaces) : Value := .object [
  ("builder", .string namespaces.builder),
  ("runtime", .string namespaces.runtime),
  ("egress", .string namespaces.egress)]

def serviceAccountsValue (serviceAccounts : TenantServiceAccounts) : Value := .object [
  ("builder", .string serviceAccounts.builder),
  ("deployer", .string serviceAccounts.deployer),
  ("runtime", .string serviceAccounts.runtime),
  ("egress", .string serviceAccounts.egress)]

def quotaValue (quota : PaasTenantQuota) : Value := .object [
  ("maxConcurrentBuilds", integer quota.maxConcurrentBuilds),
  ("maxConcurrentDeployments", integer quota.maxConcurrentDeployments),
  ("maxCpu", .string quota.maxCpu),
  ("maxMemory", .string quota.maxMemory),
  ("maxStorage", .string quota.maxStorage),
  ("maxExecutionMinutes", integer quota.maxExecutionMinutes)]

def boundaryValue (tenant : CodeflyPaasTenantBoundaryPlan) : Value := .object ([
  ("tenantId", .string tenant.tenantId),
  ("namespaces", namespacesValue tenant.namespaces),
  ("serviceAccounts", serviceAccountsValue tenant.serviceAccounts),
  ("quota", quotaValue tenant.quota),
  ("builderRuntimeClass", .string tenant.builderRuntimeClass)] ++
  tenant.runtimeClass.toList.map fun runtimeClass => ("runtimeClass", .string runtimeClass))

def paasControlStateApiVersion : String := "security.deus.dev/paas-control-state/v1alpha1"

def planValue (plan : CodeflyPaasControlPlanePlan) : Value := .object [
  ("apiVersion", .string "paas.codefly.dev/control-plane/v1alpha1"),
  ("intentDigest", .string plan.intentDigest),
  ("name", .string plan.name),
  ("environment", .string plan.environment),
  ("controlStateApiVersion", .string paasControlStateApiVersion),
  ("systemNamespace", .string plan.systemNamespace),
  ("globalServiceAccounts", .object [
    ("control-plane", .string plan.globalServiceAccounts.controlPlane),
    ("registry", .string plan.globalServiceAccounts.registry),
    ("audit", .string plan.globalServiceAccounts.audit)]),
  ("endpoints", .array (plan.endpoints.map planEndpointValue)),
  ("accessControl", accessControlValue plan.accessControl),
  ("tenants", .array (plan.tenants.map boundaryValue)),
  ("scheduling", schedulingValue plan.scheduling),
  ("supplyChain", supplyChainValue plan.supplyChain),
  ("deploymentState", deploymentStateValue plan.deploymentState),
  ("audit", auditValue plan.audit)]

/-! ## Manifests -/

/-- A rule for the pods of one namespace. -/
structure PolicyRule where
  name : String
  namespaceName : String
  message : String
  labels : Labels
  serviceAccountName : String
  runtimeClassName : String
  automountServiceAccountToken : Bool
  activeDeadlineSeconds : String
  seccompProfile : String

structure ClusterPolicy where
  name : String
  validationFailureAction : String
  background : Bool
  failurePolicy : String
  rules : List PolicyRule

inductive Manifest
  | namespaceObject (object : Namespace) (annotations : Labels)
  | serviceAccount (namespaceName name : String) (labels : Labels)
  | resourceQuota (namespaceName name : String) (hard : Labels)
  | networkPolicy (policy : NetworkPolicy)
  | runtimeClass (name handler : String)
  | clusterPolicy (policy : ClusterPolicy)
  | configMap (namespaceName name : String) (data : Labels)

variable (rt : Runtime)

/-- The label of a tenant. -/
def tenantIdLabel (tenantLabel : String) : String × String := ("security.deus.dev/tenant-id", tenantLabel)

def namespaceManifest (name tenantId plane intentDigest : String) : Except String Manifest := do
  let tenantLabel ← dnsLabel rt tenantId
  .ok (.namespaceObject
    { name := name
      labels := [tenantIdLabel tenantLabel,
        ("security.deus.dev/paas-plane", plane),
        ("security.deus.dev/paas-intent-digest", String.ofList (intentDigest.toList.take 63)),
        ("pod-security.kubernetes.io/enforce", "restricted"),
        ("pod-security.kubernetes.io/enforce-version", "latest"),
        ("pod-security.kubernetes.io/audit", "restricted"),
        ("pod-security.kubernetes.io/warn", "restricted")] }
    [("security.deus.dev/paas-intent-digest", intentDigest)])

/-- The account of a role; a tenant without a text is none. -/
def serviceAccountManifest (namespaceName name role : String) (tenantId : Option String) : Except String Manifest := do
  let tenantLabels ← (tenantId.toList.filter (· ≠ "")).mapM fun tenantId =>
    (dnsLabel rt tenantId).map tenantIdLabel
  .ok (.serviceAccount namespaceName name (("security.deus.dev/paas-role", role) :: tenantLabels))

def quota (namespaceName name : String) (pods : ℤ) (resources : PaasTenantQuota) : Manifest :=
  .resourceQuota namespaceName name [
    ("pods", toString pods),
    ("requests.cpu", resources.maxCpu),
    ("limits.cpu", resources.maxCpu),
    ("requests.memory", resources.maxMemory),
    ("limits.memory", resources.maxMemory),
    ("requests.storage", resources.maxStorage),
    ("persistentvolumeclaims", "20"),
    ("services.loadbalancers", "0"),
    ("services.nodeports", "0")]

def resourceQuotas (tenant : CodeflyPaasTenantBoundaryPlan) : List Manifest :=
  [quota tenant.namespaces.builder "builder-quota" tenant.quota.maxConcurrentBuilds tenant.quota,
   quota tenant.namespaces.runtime "runtime-quota" (tenant.quota.maxConcurrentDeployments * 20) tenant.quota,
   quota tenant.namespaces.egress "egress-quota" (tenant.quota.maxConcurrentDeployments * 2) tenant.quota]

def defaultDenyNetworkPolicy (namespaceName : String) : Manifest :=
  .networkPolicy
    { namespaceName := namespaceName
      name := "default-deny"
      podSelector := []
      policyTypes := [.ingress, .egress]
      ingress := []
      egress := [] }

def allowDnsNetworkPolicy (namespaceName : String) : Manifest :=
  .networkPolicy
    { namespaceName := namespaceName
      name := "allow-dns"
      podSelector := []
      policyTypes := [.egress]
      ingress := []
      egress := [⟨[⟨some [("kubernetes.io/metadata.name", "kube-system")], none⟩],
        [⟨"UDP", .number 53⟩, ⟨"TCP", .number 53⟩]⟩] }

def allowBrokeredEgress (namespaceName : String) (tenant : CodeflyPaasTenantBoundaryPlan) : Except String Manifest := do
  let tenantLabel ← dnsLabel rt tenant.tenantId
  .ok (.networkPolicy
    { namespaceName := namespaceName
      name := "allow-tenant-egress-broker"
      podSelector := []
      policyTypes := [.egress]
      ingress := []
      egress := [⟨[⟨some [("kubernetes.io/metadata.name", tenant.namespaces.egress)],
        some [tenantIdLabel tenantLabel, ("security.deus.dev/paas-role", "egress")]⟩], []⟩] })

def namespacePolicies (tenant : CodeflyPaasTenantBoundaryPlan) (namespaceName : String) :
    Except String (List Manifest) := do
  let closed := [defaultDenyNetworkPolicy namespaceName, allowDnsNetworkPolicy namespaceName]
  if namespaceName = tenant.namespaces.builder ∨ namespaceName = tenant.namespaces.runtime then
    let brokered ← allowBrokeredEgress rt namespaceName tenant
    .ok (closed ++ [brokered])
  else .ok closed

def tenantNetworkPolicies (tenant : CodeflyPaasTenantBoundaryPlan) : Except String (List Manifest) :=
  collect (namespacePolicies rt tenant) tenant.namespaces.values

def builderRule (tenant : CodeflyPaasTenantBoundaryPlan) : Except String PolicyRule := do
  let tenantLabel ← dnsLabel rt tenant.tenantId
  .ok
    { name := "builder-" ++ tenantLabel
      namespaceName := tenant.namespaces.builder
      message := "Codefly builders require tenant/job identity, microVM isolation, no service-account token, and a deadline."
      labels := [tenantIdLabel tenantLabel, ("security.deus.dev/build-id", "?*")]
      serviceAccountName := tenant.serviceAccounts.builder
      runtimeClassName := tenant.builderRuntimeClass
      automountServiceAccountToken := false
      activeDeadlineSeconds := "?*"
      seccompProfile := "RuntimeDefault" }

variable (plan : CodeflyPaasControlPlanePlan)

def builderPolicy : Except String Manifest := do
  let rules ← plan.tenants.mapM (builderRule rt)
  .ok (.clusterPolicy
    { name := "codefly-tenant-builder-sandbox"
      validationFailureAction := "Enforce"
      background := true
      failurePolicy := "Fail"
      rules := rules })

def controlPlaneContract : Manifest :=
  .configMap plan.systemNamespace "codefly-control-plane-security-contract" [
    ("intent-digest", plan.intentDigest),
    ("control-state-api-version", paasControlStateApiVersion),
    ("endpoints.json", jsonStringify (.array (plan.endpoints.map planEndpointValue))),
    ("access-control.json", jsonStringify (accessControlValue plan.accessControl)),
    ("scheduling.json", jsonStringify (schedulingValue plan.scheduling)),
    ("supply-chain.json", jsonStringify (supplyChainValue plan.supplyChain)),
    ("deployment-state.json", jsonStringify (deploymentStateValue plan.deploymentState)),
    ("audit.json", jsonStringify (auditValue plan.audit))]

def tenantContract (tenant : CodeflyPaasTenantBoundaryPlan) : Manifest :=
  .configMap tenant.namespaces.runtime "codefly-tenant-security-contract" [
    ("tenant-id", tenant.tenantId),
    ("intent-digest", plan.intentDigest),
    ("namespaces.json", jsonStringify (namespacesValue tenant.namespaces)),
    ("service-accounts.json", jsonStringify (serviceAccountsValue tenant.serviceAccounts)),
    ("quota.json", jsonStringify (quotaValue tenant.quota)),
    ("builder-runtime-class", tenant.builderRuntimeClass)]

/-! ## Files -/

/-- What is written to a file. -/
inductive Content
  | manifests (documents : List Manifest)
  | json (value : Value)
  | kustomization (resources : List String)

abbrev File := String × Content

/-- The files of a tenant by their names, which the kustomization lists in this order. -/
def tenantFileNames : List String :=
  ["namespaces.yaml", "service-accounts.yaml", "resource-quotas.yaml", "network-policies.yaml", "contract.yaml"]

/-- The accounts of a rendered list. -/
def accountManifests (accounts : List RenderedServiceAccount) : Except String (List Manifest) :=
  accounts.mapM fun account => serviceAccountManifest rt account.namespaceName account.name account.role.text account.tenantId

/-- The directory of a tenant. -/
def tenantRoot (tenantLabel : String) : String := "tenants/" ++ tenantLabel

def tenantFiles (tenant : CodeflyPaasTenantBoundaryPlan) : Except String (List File) := do
  let tenantLabel ← dnsLabel rt tenant.tenantId
  let root := "paas/" ++ tenantRoot tenantLabel
  let builder ← namespaceManifest rt tenant.namespaces.builder tenant.tenantId "builder" plan.intentDigest
  let runtime ← namespaceManifest rt tenant.namespaces.runtime tenant.tenantId "runtime" plan.intentDigest
  let egress ← namespaceManifest rt tenant.namespaces.egress tenant.tenantId "egress" plan.intentDigest
  let accounts ← accountManifests rt tenant.rendered
  let policies ← tenantNetworkPolicies rt tenant
  .ok [(root ++ "/namespaces.yaml", .manifests [builder, runtime, egress]),
    (root ++ "/service-accounts.yaml", .manifests accounts),
    (root ++ "/resource-quotas.yaml", .manifests (resourceQuotas tenant)),
    (root ++ "/network-policies.yaml", .manifests policies),
    (root ++ "/contract.yaml", .manifests [tenantContract plan tenant])]

def rootKustomization : Except String Content := do
  let roots ← plan.tenants.mapM fun tenant => (dnsLabel rt tenant.tenantId).map tenantRoot
  .ok (.kustomization (["control-plane/namespace.yaml", "control-plane/service-accounts.yaml",
    "control-plane/network-policy.yaml", "control-plane/contract.yaml", "policies/builder-sandbox.yaml",
    "runtime-classes.yaml"] ++ roots.flatMap fun root => tenantFileNames.map fun name => root ++ "/" ++ name))

/-- The accounts of the platform. -/
def globalAccounts : List RenderedServiceAccount :=
  [⟨plan.systemNamespace, plan.globalServiceAccounts.controlPlane, .controlPlane, none⟩,
   ⟨plan.systemNamespace, plan.globalServiceAccounts.registry, .registry, none⟩,
   ⟨plan.systemNamespace, plan.globalServiceAccounts.audit, .audit, none⟩]

/-- The files in the order in which they are written. -/
def renderedFiles : Except String (List File) := do
  let platform ← namespaceManifest rt plan.systemNamespace "platform" "control-plane" plan.intentDigest
  let accounts ← accountManifests rt (globalAccounts plan)
  let sandbox ← builderPolicy rt plan
  let tenants ← collect (tenantFiles rt plan) plan.tenants
  let kustomization ← rootKustomization rt plan
  .ok ([("paas/control-plane/namespace.yaml", .manifests [platform]),
    ("paas/control-plane/service-accounts.yaml", .manifests accounts),
    ("paas/control-plane/network-policy.yaml",
      .manifests [defaultDenyNetworkPolicy plan.systemNamespace, allowDnsNetworkPolicy plan.systemNamespace]),
    ("paas/control-plane/contract.yaml", .manifests [controlPlaneContract plan]),
    ("paas/policies/builder-sandbox.yaml", .manifests [sandbox]),
    ("paas/runtime-classes.yaml",
      .manifests [.runtimeClass "deus-microvm" "deus-microvm", .runtimeClass "deus-dedicated-vm" "deus-dedicated-vm"])] ++
    tenants ++ [("paas/paas-security-plan.json", .json (planValue plan)), ("paas/kustomization.yaml", kustomization)])

/-- The last file that is written to a path is the one that is there. -/
def renderCodeflyPaasControlPlaneArtifacts : Except String (Record Content) := do
  let files ← renderedFiles rt plan
  .ok (Record.fromEntries (rt.sortByKey Prod.fst (Record.fromEntries files).entries))

variable {rt plan} {files : List File} {artifacts : Record Content}

/-- **A file is in the result as it was written if no other one has its path.** -/
theorem artifacts_ok (h : renderCodeflyPaasControlPlaneArtifacts rt plan = .ok artifacts)
    (hfiles : renderedFiles rt plan = .ok files) (hnodup : (files.map Prod.fst).Nodup) (path : String)
    (content : Content) : artifacts.get? path = some content ↔ (path, content) ∈ files := by
  obtain ⟨written, hwritten, h⟩ := bind_ok.1 h
  obtain rfl : files = written := Except.ok.inj (hfiles.symm.trans hwritten)
  rw [← Except.ok.inj h, Record.fromEntries_perm (rt.sortByKey_perm Prod.fst (Record.fromEntries files).entries),
    Record.fromEntries_get? hnodup]

end SecureSaas.Codefly.Paas
