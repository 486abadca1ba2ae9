import SecureSaas.Codefly.ProductRenderer

/-!
# The security artifacts of products (`src/adapters/codefly/productSecurityRenderer.ts`)

The plan of a topology is rendered to manifests, file by file. Namespaces, accounts, network policies and
authorization policies are kept as the objects they are; the other documents are kept as the data of their
text.

* `artifacts_ok`: the result has the files as they were written last.
* `artifacts_of_nodup`: a file is in the result as it was written if no other one has its path.
-/

namespace SecureSaas.Codefly.Product

open Js Blueprint Cluster

/-! ## The digest of a plan -/

def protocolText : DependencyProtocol → String
  | .https => "https"
  | .grpc => "grpc"

def authorizationText : DependencyAuthorization → String
  | .workloadIdentity => "workload-identity"
  | .capability => "capability"

def ingressText : ApplicationIngress → String
  | .none => "none"
  | .privateIngress => "private"
  | .publicIngress => "public"

def tenantScopeValue : TenantScope → Value
  | .platform => .object [("kind", .string "platform")]
  | .pooled tenantIds => .object [("kind", .string "pooled"), ("tenantIds", strings tenantIds)]
  | .dedicated tenantId => .object [("kind", .string "dedicated"), ("tenantId", .string tenantId)]

def releaseValue (release : ReleaseRequirement) : Value := .object [
  ("digestPinnedImages", .bool release.digestPinnedImages),
  ("signatureVerification", .bool release.signatureVerification),
  ("provenanceVerification", .bool release.provenanceVerification),
  ("rollbackRequired", .bool release.rollbackRequired)]

def serviceValue (service : CodeflyProductService) : Value := .object [
  ("name", .string service.name),
  ("agent", .object [
    ("publisher", .string service.agent.publisher),
    ("agent", .string service.agent.agent),
    ("version", .string service.agent.version)])]

def componentValue (component : CodeflyProductComponentPlan) : Value := .object [
  ("componentId", .string component.componentId),
  ("moduleName", .string component.moduleName),
  ("workloadPlaneId", .string component.workloadPlaneId),
  ("serviceIdentityId", .string component.serviceIdentityId),
  ("dataBoundaryIds", strings component.dataBoundaryIds),
  ("tenantScope", tenantScopeValue component.tenantScope),
  ("ingress", .string (ingressText component.ingress)),
  ("minimumReplicas", integer component.minimumReplicas),
  ("maximumUnavailable", integer component.maximumUnavailable),
  ("release", releaseValue component.release),
  ("services", .array (component.services.map serviceValue))]

def componentDependencyValue (dependency : CodeflyProductComponentDependency) : Value := .object [
  ("fromComponentId", .string dependency.fromComponentId),
  ("toComponentId", .string dependency.toComponentId),
  ("protocol", .string (protocolText dependency.protocol)),
  ("authorization", .string (authorizationText dependency.authorization)),
  ("audience", .string dependency.audience),
  ("actions", strings dependency.actions)]

def dependencyValue (dependency : CodeflyProductDependency) : Value := .object [
  ("fromComponentId", .string dependency.fromComponentId),
  ("toDeploymentId", .string dependency.toDeploymentId),
  ("toComponentId", .string dependency.toComponentId),
  ("protocol", .string (protocolText dependency.protocol)),
  ("authorization", .string (authorizationText dependency.authorization)),
  ("audience", .string dependency.audience),
  ("actions", strings dependency.actions)]

def workspaceValue (workspace : CodeflyProductWorkspacePlan) : Value := .object [
  ("deploymentId", .string workspace.deploymentId),
  ("workspaceName", .string workspace.workspaceName),
  ("deploymentIdentityId", .string workspace.deploymentIdentityId),
  ("components", .array (workspace.components.map componentValue)),
  ("componentDependencies", .array (workspace.componentDependencies.map componentDependencyValue)),
  ("dependencies", .array (workspace.dependencies.map dependencyValue))]

def apiVersion : String := "paas.codefly.dev/product-topology/v1alpha1"

def planValue (plan : CodeflyProductTopologyPlan) : Value := .object [
  ("apiVersion", .string apiVersion),
  ("workspaces", .array (plan.workspaces.map workspaceValue))]

/-! ## Manifests -/

inductive Manifest
  | namespaceObject (object : Namespace) (annotations : Labels)
  | serviceAccount (namespaceName name : String) (annotations : Labels)
  | networkPolicy (policy : NetworkPolicy)
  | authorizationPolicy (policy : AuthorizationPolicy)
  | document (value : Value)

/-- `apiVersion`, `kind` and what follows. -/
def objectOf (version kind : String) (fields : List (String × Value)) : Manifest :=
  .document (.object (("apiVersion", .string version) :: ("kind", .string kind) :: fields))

/-- The metadata of an object in a namespace. -/
def metadata (namespaceName name : String) : String × Value :=
  ("metadata", .object [("name", .string name), ("namespace", .string namespaceName)])

section
variable (options : CodeflyProductSecurityRenderOptions) (member : Member)

def componentSelector (target : Target) : Labels :=
  [("security.deus.dev/application", target.deploymentId), ("security.deus.dev/component", target.componentId)]

def nameSelector (namespaceName : String) : Labels := [("kubernetes.io/metadata.name", namespaceName)]

def renderNamespace (namespaceName planDigest : String) : Namespace :=
  { name := namespaceName
    labels := componentSelector member.target ++
      [("security.deus.dev/identity", member.component.serviceIdentityId),
        ("security.deus.dev/blueprint-digest", String.ofList (planDigest.toList.take 63)),
        ("istio.io/dataplane-mode", "ambient"),
        ("pod-security.kubernetes.io/enforce", "restricted"),
        ("pod-security.kubernetes.io/enforce-version", "latest"),
        ("pod-security.kubernetes.io/audit", "restricted"),
        ("pod-security.kubernetes.io/warn", "restricted")] }

def renderServiceAccount (rt : Runtime) (namespaceName serviceAccount : String) : Manifest :=
  let annotations := (options.annotations.get? member.key).getD Record.empty
  .serviceAccount namespaceName serviceAccount (rt.sortByKey Prod.fst annotations.entries)

/-! ## Network policies -/

def defaultDeny (namespaceName : String) : NetworkPolicy :=
  { namespaceName := namespaceName
    name := "default-deny"
    podSelector := []
    policyTypes := [.ingress, .egress]
    ingress := []
    egress := [] }

def allowDns (namespaceName : String) : NetworkPolicy :=
  { namespaceName := namespaceName
    name := "allow-dns"
    podSelector := []
    policyTypes := [.egress]
    ingress := []
    egress := [⟨[⟨some (nameSelector "kube-system"), some [("k8s-app", "kube-dns")]⟩],
      [⟨"UDP", .number 53⟩, ⟨"TCP", .number 53⟩]⟩] }

def allowComponentInternal (namespaceName : String) : NetworkPolicy :=
  { namespaceName := namespaceName
    name := "allow-component-internal"
    podSelector := []
    policyTypes := [.ingress, .egress]
    ingress := [⟨[⟨none, some []⟩], []⟩]
    egress := [⟨[⟨none, some []⟩], []⟩] }

def egressName (endpoint : String) : String := "allow-egress-" ++ endpoint

def ingressName (endpoint : String) : String := "allow-ingress-" ++ endpoint

def egressPolicy (namespaceName : String) (target : EndpointRef) : NetworkPolicy :=
  { namespaceName := namespaceName
    name := egressName target.name
    podSelector := []
    policyTypes := [.egress]
    ingress := []
    egress := [⟨[⟨some (componentSelector target.target), none⟩], []⟩] }

def ingressPolicy (namespaceName : String) (caller : EndpointRef) : NetworkPolicy :=
  { namespaceName := namespaceName
    name := ingressName caller.name
    podSelector := []
    policyTypes := [.ingress]
    ingress := [⟨[⟨some (componentSelector caller.target), none⟩], []⟩]
    egress := [] }

def platformIngress (namespaceName ingressNamespace : String) : NetworkPolicy :=
  { namespaceName := namespaceName
    name := "allow-platform-ingress"
    podSelector := []
    policyTypes := [.ingress]
    ingress := [⟨[⟨some (nameSelector ingressNamespace), none⟩], []⟩]
    egress := [] }

/-- The ingress that a public component is open to; one is required of the options then. -/
def publicIngress : List CodeflyProductIngress :=
  if member.component.ingress = .publicIngress then options.ingress.toList else []

def renderNetworkPolicies (rt : Runtime) (plan : CodeflyProductTopologyPlan) (namespaceName : String) :
    Except String (List NetworkPolicy) := do
  let targets ← outgoingTargets rt plan options.environmentName member
  let callers ← incomingCallers rt plan options.environmentName member
  .ok ([defaultDeny namespaceName, allowDns namespaceName, allowComponentInternal namespaceName] ++
    targets.map (egressPolicy namespaceName) ++ callers.map (ingressPolicy namespaceName) ++
      (publicIngress options member).map fun ingress => platformIngress namespaceName ingress.namespaceName)

/-! ## Authorization -/

/-- The principal of a caller. -/
def EndpointRef.principal (rt : Runtime) (caller : EndpointRef) : String :=
  Product.principal options caller.namespaceName (dnsLabel rt (workloadText caller.deploymentId caller.componentId))

def renderAuthorizationPolicy (rt : Runtime) (plan : CodeflyProductTopologyPlan) (namespaceName serviceAccount : String) :
    Except String AuthorizationPolicy := do
  let callers ← incomingCallers rt plan options.environmentName member
  let principals := principal options namespaceName serviceAccount :: callers.map (EndpointRef.principal options rt) ++
    (publicIngress options member).map fun ingress => principal options ingress.namespaceName ingress.serviceAccount
  .ok
    { namespaceName := namespaceName
      name := "allow-declared-identities"
      principals := sorted principals.eraseDups }

/-! ## Other documents -/

def imageOf (service : CodeflyProductService) : String :=
  (options.images.get?
    (productServiceKey member.workspace.deploymentId member.component.componentId service.name)).getD ""

def renderPdb (namespaceName : String) (service : CodeflyProductService) : Manifest :=
  objectOf "policy/v1" "PodDisruptionBudget" [
    metadata namespaceName (service.name ++ "-availability"),
    ("spec", .object [
      ("maxUnavailable", integer member.component.maximumUnavailable),
      ("selector", .object [("matchLabels", .object [("app", .string service.name)])])])]

def attestor : Value := .object [
  ("count", integer 1),
  ("entries", .array [.object [("keyless", .object [
    ("issuer", .string options.imageVerification.issuer),
    ("subject", .string options.imageVerification.subject),
    ("rekor", .object [
      ("url", .string (options.imageVerification.rekorUrl.getD "https://rekor.sigstore.dev"))])])]])]

def imageRule (service : CodeflyProductService) : Value := .object [
  ("name", .string ("verify-" ++ service.name)),
  ("match", .object [("any", .array [.object [("resources", .object [
    ("kinds", strings ["Pod"]),
    ("selector", .object [("matchLabels", .object [("app", .string service.name)])])])]])]),
  ("verifyImages", .array [.object [
    ("imageReferences", strings [imageOf options member service]),
    ("failureAction", .string "Enforce"),
    ("required", .bool true),
    ("mutateDigest", .bool false),
    ("verifyDigest", .bool true),
    ("attestors", .array [attestor options]),
    ("attestations", .array (["https://slsa.dev/provenance/v1", "https://spdx.dev/Document"].map fun type =>
      .object [("type", .string type), ("attestors", .array [attestor options])]))]])]

def renderImagePolicy (namespaceName : String) : Manifest :=
  objectOf "kyverno.io/v1" "Policy" [
    metadata namespaceName "verify-product-images",
    ("spec", .object [
      ("admission", .bool true),
      ("background", .bool false),
      ("validationFailureAction", .string "Enforce"),
      ("webhookConfiguration", .object [("failurePolicy", .string "Fail"), ("timeoutSeconds", integer 30)]),
      ("rules", .array (member.component.services.map (imageRule options member)))])]

def contractValue (scope : Scope) (deploymentId toComponentId : String) (protocol : DependencyProtocol)
    (authorization : DependencyAuthorization) (audience : String) (actions : List String) : Value := .object [
  ("scope", .string scope.text),
  ("target", .string (productComponentKey deploymentId toComponentId)),
  ("protocol", .string (protocolText protocol)),
  ("authorization", .string (authorizationText authorization)),
  ("audience", .string audience),
  ("actions", strings actions)]

/-- `[...internalContracts, ...externalContracts]`. -/
def outgoingContracts : List Value :=
  let internal := member.workspace.componentDependencies.filter fun dependency =>
    dependency.fromComponentId = member.component.componentId
  let external := member.workspace.dependencies.filter fun dependency =>
    dependency.fromComponentId = member.component.componentId
  internal.map (fun dependency => contractValue .internal member.workspace.deploymentId dependency.toComponentId
    dependency.protocol dependency.authorization dependency.audience dependency.actions) ++
  external.map fun dependency => contractValue .external dependency.toDeploymentId dependency.toComponentId
    dependency.protocol dependency.authorization dependency.audience dependency.actions

def booleanText (b : Bool) : String := if b then "true" else "false"

def renderSecurityContract (rt : Runtime) (plan : CodeflyProductTopologyPlan) (namespaceName planDigest : String) :
    Except String Manifest := do
  let component := member.component
  let callers ← incomingCallers rt plan options.environmentName member
  let callerKeys := callers.map fun caller => productComponentKey caller.deploymentId caller.componentId
  .ok (objectOf "v1" "ConfigMap" [
    metadata namespaceName "deus-product-security-contract",
    ("data", .object [
      ("plan-digest", .string planDigest),
      ("deployment", .string member.workspace.deploymentId),
      ("component", .string component.componentId),
      ("workload-plane", .string component.workloadPlaneId),
      ("workload-identity", .string component.serviceIdentityId),
      ("data-boundaries", .string (",".intercalate component.dataBoundaryIds)),
      ("minimum-replicas", .string (toString component.minimumReplicas)),
      ("maximum-unavailable", .string (toString component.maximumUnavailable)),
      ("digest-pinned-images", .string (",".intercalate (component.services.map (imageOf options member)))),
      ("declared-callers", .string (",".intercalate (sorted callerKeys))),
      ("outgoing-contracts", .string (String.ofList (textWith rt.sortedStyle (.array (outgoingContracts member))))),
      ("signature-verification-required", .string (booleanText component.release.signatureVerification)),
      ("provenance-verification-required", .string (booleanText component.release.provenanceVerification)),
      ("rollback-required", .string (booleanText component.release.rollbackRequired))])])

def statefulAgent (agent : String) : Bool := ["postgres", "redis", "vault", "s3"].contains agent

/-- The names of the table's prototype, which are found in it as well. -/
def inheritedNames : List String :=
  ["constructor", "hasOwnProperty", "isPrototypeOf", "propertyIsEnumerable", "toLocaleString", "toString", "valueOf",
    "__defineGetter__", "__defineSetter__", "__lookupGetter__", "__lookupSetter__"]

def containerName (agent service : String) : Value :=
  match ([("nextjs", "nextjs"), ("postgres", "postgres"), ("redis", "redis"), ("vault", "vault"), ("s3", "minio")] :
      List (String × String)).lookup agent with
  | some name => .string name
  | none =>
    if inheritedNames.contains agent then .string "undefined"
    else if agent = "__proto__" then .object []
    else .string service

/-- The labels of the component's pods. -/
def podLabels : Labels :=
  componentSelector member.target ++ [("security.deus.dev/identity", member.component.serviceIdentityId)]

def labelsValue (labels : Labels) : Value := .object (labels.map fun label => (label.1, .string label.2))

def renderWorkloadPatch (namespaceName serviceAccount : String) (service : CodeflyProductService) : Manifest :=
  objectOf "apps/v1" (if statefulAgent service.agent.agent then "StatefulSet" else "Deployment") [
    metadata namespaceName service.name,
    ("spec", .object [("template", .object [
      ("metadata", .object [("labels", labelsValue (podLabels member))]),
      ("spec", .object [
        ("serviceAccountName", .string serviceAccount),
        ("automountServiceAccountToken", .bool false),
        ("containers", .array [.object [
          ("name", containerName service.agent.agent service.name),
          ("image", .string (imageOf options member service))]])])])])]

def renderKustomization (namespaceName : String) : Manifest :=
  objectOf "kustomize.config.k8s.io/v1beta1" "Kustomization" [
    ("namespace", .string namespaceName),
    ("resources", strings ["namespace.yaml", "service-account.yaml", "network-policy.yaml", "authorization-policy.yaml",
      "pod-disruption-budget.yaml", "verify-images.yaml", "security-contract.yaml"]),
    ("commonLabels", labelsValue (componentSelector member.target))]

/-- `path.posix.normalize` of a relative path without a segment `..`. -/
def posixNormalize (path : String) : String :=
  let kept := (segments path).filter fun segment => segment ≠ "" ∧ segment ≠ "."
  let trailing := if path.toList.getLast? = some '/' then "/" else ""
  if kept.isEmpty then "." ++ trailing else "/".intercalate kept ++ trailing

/-- The directory of a service below the root of its component. -/
def Member.serviceDirectory (environmentName service : String) : String :=
  s!"{member.root environmentName}/services/{service}"

/-- The overlay is below the directory, so the relative path is what follows it. -/
def renderServiceIntegrationKustomization (service serviceOverlayPath : String) : Except String Manifest := do
  let integrationDirectory := member.serviceDirectory options.environmentName service
  let normalizedResource := posixNormalize serviceOverlayPath
  let key := productServiceKey member.workspace.deploymentId member.component.componentId service
  throwUnless (startsWith normalizedResource (integrationDirectory ++ "/"))
    s!"Codefly product service overlay '{key}' must be contained by its generated integration directory."
  let rest := normalizedResource.toList.drop (integrationDirectory.toList.length + 1)
  let resource := if rest.getLast? = some '/' then rest.dropLast else rest
  .ok (objectOf "kustomize.config.k8s.io/v1beta1" "Kustomization" [
    ("resources", strings [String.ofList resource]),
    ("patchesStrategicMerge", strings ["workload-patch.yaml"])])

/-- What the evidence says of a component. -/
def evidenceValue (rt : Runtime) : Value := .object [
  ("name", .string member.component.componentId),
  ("namespace", .string (member.namespaceName rt options.environmentName)),
  ("identity", .string member.component.serviceIdentityId),
  ("services", strings (member.component.services.map (·.name)))]

def renderPlanEvidence (rt : Runtime) (plan : CodeflyProductTopologyPlan) (planDigest : String) : Manifest :=
  objectOf apiVersion "ProductSecurityEvidence" [
    ("metadata", .object [
      ("environment", .string options.environmentName),
      ("planDigest", .string planDigest),
      ("composedWithServiceOutputs", .bool options.serviceOverlayPaths.isSome)]),
    ("workspaces", .array (plan.workspaces.map fun workspace => .object [
      ("deployment", .string workspace.deploymentId),
      ("workspace", .string workspace.workspaceName),
      ("components", .array (workspace.members.map fun member => evidenceValue options member rt))]))]

/-! ## Files -/

/-- A path and what is written to it. -/
abbrev File := String × List Manifest

/-- A path below the root of the component. -/
def Member.path (member : Member) (environmentName name : String) : String :=
  member.root environmentName ++ "/" ++ name

/-- The files of one service. -/
def serviceFiles (namespaceName serviceAccount : String) (service : CodeflyProductService) : Except String (List File) := do
  let path := member.path options.environmentName
  let workloadPatch := renderWorkloadPatch options member namespaceName serviceAccount service
  let patch := (path ("patches/" ++ service.name ++ ".yaml"), [workloadPatch])
  match options.serviceOverlayPaths with
  | none => .ok [patch]
  | some serviceOverlayPaths =>
    let overlay := (serviceOverlayPaths.get?
      (productServiceKey member.workspace.deploymentId member.component.componentId service.name)).getD ""
    let kustomization ← renderServiceIntegrationKustomization options member service.name overlay
    .ok [patch, (path ("services/" ++ service.name ++ "/workload-patch.yaml"), [workloadPatch]),
      (path ("services/" ++ service.name ++ "/kustomization.yaml"), [kustomization])]

/-- The files of one component. -/
def componentFiles (rt : Runtime) (plan : CodeflyProductTopologyPlan) (planDigest : String) : Except String (List File) := do
  let namespaceName := member.namespaceName rt options.environmentName
  let serviceAccount := member.serviceAccount rt
  let path := member.path options.environmentName
  let networkPolicies ← renderNetworkPolicies options member rt plan namespaceName
  let authorizationPolicy ← renderAuthorizationPolicy options member rt plan namespaceName serviceAccount
  let securityContract ← renderSecurityContract options member rt plan namespaceName planDigest
  let services ← collect (serviceFiles options member namespaceName serviceAccount) member.component.services
  .ok ([
    (path "namespace.yaml", [.namespaceObject (renderNamespace member namespaceName planDigest)
      [("security.deus.dev/blueprint-digest", planDigest)]]),
    (path "service-account.yaml", [renderServiceAccount options member rt namespaceName serviceAccount]),
    (path "network-policy.yaml", networkPolicies.map .networkPolicy),
    (path "authorization-policy.yaml", [.authorizationPolicy authorizationPolicy]),
    (path "pod-disruption-budget.yaml", member.component.services.map (renderPdb member namespaceName)),
    (path "verify-images.yaml", [renderImagePolicy options member namespaceName]),
    (path "security-contract.yaml", [securityContract])] ++ services ++
    [(path "kustomization.yaml", [renderKustomization member namespaceName])])

end

section
variable (rt : Runtime) (plan : CodeflyProductTopologyPlan) (options : CodeflyProductSecurityRenderOptions)

/-- The files in the order in which they are written. -/
def renderedFiles : Except String (List File) := do
  validateOptions plan options
  let planDigest := digest rt (planValue plan)
  let files ← collect (fun member => componentFiles options member rt plan planDigest) plan.members
  .ok (files ++ [("product-security-plan.yaml", [renderPlanEvidence options rt plan planDigest])])

/-- The last file that is written to a path is the one that is there. -/
def renderCodeflyProductSecurityArtifacts : Except String (Record (List Manifest)) := do
  let files ← renderedFiles rt plan options
  .ok (Record.fromEntries (rt.sortByKey Prod.fst (Record.fromEntries files).entries))

end

section
variable {rt : Runtime} {plan : CodeflyProductTopologyPlan} {options : CodeflyProductSecurityRenderOptions}
  {artifacts : Record (List Manifest)} {files : List File} {path : String} {manifests : List Manifest}

/-- The result has the files as they were written last. -/
theorem artifacts_ok (h : renderCodeflyProductSecurityArtifacts rt plan options = .ok artifacts) :
    ∃ files, renderedFiles rt plan options = .ok files ∧
      ∀ path manifests, artifacts.get? path = some manifests ↔ (Record.fromEntries files).get? path = some manifests := by
  obtain ⟨files, hfiles, h⟩ := bind_ok.1 h
  refine ⟨files, hfiles, fun path manifests => ?_⟩
  rw [← Except.ok.inj h, Record.fromEntries_perm (rt.sortByKey_perm Prod.fst (Record.fromEntries files).entries)]

/-- **A file is in the result as it was written if no other one has its path.** -/
theorem artifacts_of_nodup (h : renderCodeflyProductSecurityArtifacts rt plan options = .ok artifacts)
    (hfiles : renderedFiles rt plan options = .ok files) (hnodup : (files.map Prod.fst).Nodup) :
    artifacts.get? path = some manifests ↔ (path, manifests) ∈ files := by
  obtain ⟨written, hwritten, hget⟩ := artifacts_ok h
  obtain rfl : files = written := Except.ok.inj (hfiles.symm.trans hwritten)
  rw [hget, Record.fromEntries_get? hnodup]

end

end SecureSaas.Codefly.Product
