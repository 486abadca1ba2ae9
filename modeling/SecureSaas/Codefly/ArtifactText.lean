import SecureSaas.Codefly.ApplicationPolicies
import SecureSaas.Js.PosixPath
import SecureSaas.Js.YamlDocument

/-!
# The artifacts of a plan as texts (`src/adapters/codefly/artifactRenderer.ts`)

A renderer writes every file line by line. Values are quoted; the names of annotations, of images, of services and of
the environment are written as they are in some lines and in the paths.

* `renderedFiles`: the files in the order in which they are written, with the lines they are meant to have.
* `renderCodeflyArtifacts`: the record of their texts.
-/

namespace SecureSaas.Codefly.Artifacts

open Js Yaml Blueprint Applications

/-! ## Lines -/

/-- The fields of the plan and of its environment that are rendered only. -/
structure PlanDetails where
  blueprintDigest : String
  kubeconfig : Option String
  kubeContext : Option String
  registryAuth : Option String
  gitopsRepository : Option String
  gitopsPath : Option String
  gitopsBranch : Option String

def clusterKindText : CodeflyClusterKind → String
  | .k3d => "k3d"
  | .eks => "eks"
  | .gke => "gke"
  | .aks => "aks"

def apiText : CodeflyEndpointApi → String
  | .http => "http"
  | .rest => "rest"
  | .grpc => "grpc"
  | .connect => "connect"
  | .tcp => "tcp"

def endpointVisibilityText : CodeflyEndpointVisibility → String
  | .privateEndpoint => "private"
  | .moduleEndpoint => "module"
  | .publicEndpoint => "public"

def interfaceVisibilityText : CodeflyInterfaceVisibility → String
  | .moduleInterface => "module"
  | .publicInterface => "public"

/-- An entry, unless its value is missing or empty. -/
def optionalEntry (indent : ℕ) (key : String) (value : Option String) : List Line :=
  match truthy value with
  | none => []
  | some value => [Line.entry indent false key value]

section
variable (details : PlanDetails) (plan : CodeflyPaasPlan) (deployment : CodeflyDeploymentPlan)

def gitopsLines : List Line :=
  match truthy details.gitopsRepository with
  | none => []
  | some repository =>
    [Line.fixed "gitops:", Line.entry 2 false "repo-url" repository] ++ optionalEntry 2 "path" details.gitopsPath ++
      [Line.entry 2 false "branch" (details.gitopsBranch.getD "main")]

def renderWorkspace : List Line :=
  [Line.entry 0 false "name" plan.environment.namespacePrefix,
    Line.entry 0 false "description" "Warden and Mind secure PaaS workspace",
    Line.fixed "layout: modules",
    Line.fixed "modules:"] ++
  plan.deployments.map (fun deployment => Line.entry 2 true "name" deployment.moduleName) ++
  [Line.fixed "environments:",
    Line.entry 2 true "name" plan.environment.name,
    Line.entry 4 false "description"
      ("Generated " ++ clusterKindText plan.environment.clusterKind ++ " deployment target"),
    Line.fixed "    cluster:",
    Line.entry 6 false "kind" (clusterKindText plan.environment.clusterKind)] ++
  optionalEntry 6 "kubeconfig" details.kubeconfig ++ optionalEntry 6 "context" details.kubeContext ++
  [Line.fixed "    registry:",
    Line.entry 6 false "url" plan.environment.registry] ++
  optionalEntry 6 "auth" details.registryAuth ++ gitopsLines details

def renderModule : List Line :=
  [Line.fixed "kind: module",
    Line.entry 0 false "name" deployment.moduleName,
    Line.entry 0 false "description" (deployment.deploymentId ++ " independent product deployment"),
    Line.fixed "interface:",
    Line.fixed "  endpoints:"] ++
  deployment.interfaceEndpoints.flatMap (fun endpoint =>
    [Line.entry 4 true "service" endpoint.service,
      Line.entry 6 false "endpoint" endpoint.endpoint,
      Line.entry 6 false "visibility" (interfaceVisibilityText endpoint.visibility)]) ++
  [Line.fixed "services:"] ++
  deployment.services.map fun service => Line.entry 2 true "name" service

/-- The lines of an internal dependency. -/
def internalLines (name : String) : List Line := [Line.entry 2 true "name" name]

def externalLines (dependency : CodeflyExternalDependency) : List Line :=
  Line.entry 2 true "name" dependency.serviceName :: optionalEntry 4 "module" dependency.moduleName ++
    match truthy dependency.endpointName with
    | none => []
    | some endpoint => [Line.fixed "    endpoints:", Line.entry 6 true "name" endpoint]

def dependencyLines (service : CodeflyServicePlan) : List Line :=
  if service.internalDependencies = [] ∧ service.externalDependencies.isEmpty then []
  else
    Line.fixed "service-dependencies:" :: service.internalDependencies.flatMap internalLines ++
      service.externalDependencies.flatMap externalLines

def renderService (service : CodeflyServicePlan) : List Line :=
  [Line.entry 0 false "name" service.name,
    Line.fixed "version: 0.0.0",
    Line.fixed "agent:",
    Line.fixed "  kind: codefly:service",
    Line.entry 2 false "name" service.agent.name,
    Line.entry 2 false "version" service.agent.version,
    Line.entry 2 false "publisher" service.agent.publisher] ++
  dependencyLines service ++
  [Line.fixed "endpoints:"] ++
  service.endpoints.flatMap (fun endpoint =>
    [Line.entry 2 true "name" endpoint.name,
      Line.entry 4 false "api" (apiText endpoint.api),
      Line.entry 4 false "visibility" (endpointVisibilityText endpoint.visibility)]) ++
  [Line.fixed "spec:",
    Line.fixed "  hot-reload: false",
    Line.entry 2 false "image" service.image,
    Line.entry 2 false "service-account" deployment.serviceAccountName]

def renderNamespaceLines : List Line :=
  [Line.fixed "apiVersion: v1",
    Line.fixed "kind: Namespace",
    Line.fixed "metadata:",
    Line.entry 2 false "name" deployment.namespaceName,
    Line.fixed "  labels:",
    Line.entry 4 false "security.deus.dev/application" deployment.deploymentId,
    Line.fixed "    istio.io/dataplane-mode: ambient",
    Line.fixed "    pod-security.kubernetes.io/enforce: restricted",
    Line.fixed "    pod-security.kubernetes.io/enforce-version: latest",
    Line.fixed "    pod-security.kubernetes.io/audit: restricted",
    Line.fixed "    pod-security.kubernetes.io/warn: restricted"]

/-- The annotations, with their keys as they are. -/
def annotationLines : List Line :=
  if deployment.serviceAccountAnnotations.entries = [] then []
  else
    Line.fixed "  annotations:" ::
      deployment.serviceAccountAnnotations.entries.map fun annotation => Line.entry 4 false annotation.1 annotation.2

def renderServiceAccount : List Line :=
  [Line.fixed "apiVersion: v1",
    Line.fixed "kind: ServiceAccount",
    Line.fixed "metadata:",
    Line.entry 2 false "name" deployment.serviceAccountName,
    Line.entry 2 false "namespace" deployment.namespaceName] ++
  annotationLines deployment ++
  [Line.fixed "automountServiceAccountToken: false"]

/-! ## Network policies -/

/-- The head of a network policy. -/
def policyHead (name : Line) : List Line :=
  [Line.fixed "apiVersion: networking.k8s.io/v1",
    Line.fixed "kind: NetworkPolicy",
    Line.fixed "metadata:",
    name,
    Line.entry 2 false "namespace" deployment.namespaceName,
    Line.fixed "spec:"]

def defaultDenyLines : List Line :=
  policyHead deployment (Line.fixed "  name: default-deny") ++
  [Line.fixed "  podSelector: \x7b\x7d",
    Line.fixed "  policyTypes:",
    Line.fixed "    - Ingress",
    Line.fixed "    - Egress"]

def allowDnsLines : List Line :=
  policyHead deployment (Line.fixed "  name: allow-dns") ++
  [Line.fixed "  podSelector: \x7b\x7d",
    Line.fixed "  policyTypes:",
    Line.fixed "    - Egress",
    Line.fixed "  egress:",
    Line.fixed "    - to:",
    Line.fixed "        - namespaceSelector:",
    Line.fixed "            matchLabels:",
    Line.fixed "              kubernetes.io/metadata.name: kube-system",
    Line.fixed "      ports:",
    Line.fixed "        - protocol: UDP",
    Line.fixed "          port: 53",
    Line.fixed "        - protocol: TCP",
    Line.fixed "          port: 53"]

def egressLines (targetId : String) (dependency : CodeflyDependencyPlan) : List Line :=
  policyHead deployment (Line.entry 2 false "name" (egressName targetId)) ++
  [Line.fixed "  podSelector: \x7b\x7d",
    Line.fixed "  policyTypes:",
    Line.fixed "    - Egress",
    Line.fixed "  egress:",
    Line.fixed "    - to:",
    Line.fixed "        - namespaceSelector:",
    Line.fixed "            matchLabels:",
    Line.entry 14 false "security.deus.dev/application" targetId,
    Line.fixed "          podSelector:",
    Line.fixed "            matchLabels:",
    Line.entry 14 false "app" dependency.serviceName,
    Line.fixed "      ports:",
    Line.entry 8 true "port" dependency.endpointName,
    Line.fixed "          protocol: TCP"]

/-- A dependency on no deployment of the plan is passed over. -/
def egressDocuments : List (List Line) :=
  deployment.dependencies.filterMap fun dependency =>
    (plan.deployments.find? fun candidate => candidate.deploymentId = dependency.deploymentId).map fun target =>
      egressLines deployment target.deploymentId dependency

def ingressLines (callerId : String) (dependency : CodeflyDependencyPlan) : List Line :=
  policyHead deployment (Line.entry 2 false "name" (ingressName callerId)) ++
  [Line.fixed "  podSelector:",
    Line.fixed "    matchLabels:",
    Line.entry 6 false "app" dependency.serviceName,
    Line.fixed "  policyTypes:",
    Line.fixed "    - Ingress",
    Line.fixed "  ingress:",
    Line.fixed "    - from:",
    Line.fixed "        - namespaceSelector:",
    Line.fixed "            matchLabels:",
    Line.entry 14 false "security.deus.dev/application" callerId,
    Line.fixed "      ports:",
    Line.entry 8 true "port" dependency.endpointName,
    Line.fixed "          protocol: TCP"]

def callerDocument (caller : CodeflyDeploymentPlan) : Except String (List Line) :=
  match callerDependency deployment caller with
  | none =>
    .error ("Codefly caller '" ++ caller.deploymentId ++ "' has no dependency on '" ++ deployment.deploymentId ++ "'.")
  | some dependency => .ok (ingressLines deployment caller.deploymentId dependency)

def publicLines (ingressNamespace : String) (exposed : CodeflyModuleInterfaceExtension) : List Line :=
  policyHead deployment (Line.entry 2 false "name" (publicName exposed)) ++
  [Line.fixed "  podSelector:",
    Line.fixed "    matchLabels:",
    Line.entry 6 false "app" exposed.service,
    Line.fixed "  policyTypes:",
    Line.fixed "    - Ingress",
    Line.fixed "  ingress:",
    Line.fixed "    - from:",
    Line.fixed "        - namespaceSelector:",
    Line.fixed "            matchLabels:",
    Line.entry 14 false "kubernetes.io/metadata.name" ingressNamespace,
    Line.fixed "      ports:",
    Line.entry 8 true "port" exposed.endpoint,
    Line.fixed "          protocol: TCP"]

def publicDocuments : Except String (List (List Line)) :=
  if deployment.ingress = .publicIngress then
    match truthy plan.environment.ingressNamespace with
    | none =>
      .error ("Codefly deployment '" ++ deployment.deploymentId ++ "' has public ingress without an ingress namespace.")
    | some ingressNamespace => .ok ((publicEndpoints deployment).map (publicLines deployment ingressNamespace))
  else .ok []

def networkPolicyDocuments : Except String (List (List Line)) := do
  let fromCallers ← (callers plan deployment).mapM (callerDocument deployment)
  let fromIngress ← publicDocuments plan deployment
  .ok ([defaultDenyLines deployment, allowDnsLines deployment] ++ egressDocuments plan deployment ++ fromCallers ++
    fromIngress)

/-! ## The other files -/

def disruptionBudgetLines (service : String) : List Line :=
  [Line.fixed "apiVersion: policy/v1",
    Line.fixed "kind: PodDisruptionBudget",
    Line.fixed "metadata:",
    Line.entry 2 false "name" (service ++ "-availability"),
    Line.entry 2 false "namespace" deployment.namespaceName,
    Line.fixed "spec:",
    .number 2 "maxUnavailable" deployment.maximumUnavailable,
    Line.fixed "  selector:",
    Line.fixed "    matchLabels:",
    Line.entry 6 false "app" service]

/-- The requirements of a deployment are all `true`. -/
def renderSecurityContract : List Line :=
  [Line.fixed "apiVersion: v1",
    Line.fixed "kind: ConfigMap",
    Line.fixed "metadata:",
    Line.fixed "  name: deus-security-contract",
    Line.entry 2 false "namespace" deployment.namespaceName,
    Line.fixed "  labels:",
    Line.entry 4 false "security.deus.dev/application" deployment.deploymentId,
    Line.entry 4 false "security.deus.dev/blueprint-digest" details.blueprintDigest,
    Line.fixed "data:",
    Line.entry 2 false "workload-plane" deployment.workloadPlaneId,
    Line.entry 2 false "data-boundaries" (",".intercalate deployment.dataBoundaryIds),
    Line.entry 2 false "workload-identity-required" "true",
    Line.entry 2 false "signature-verification-required" "true",
    Line.entry 2 false "provenance-verification-required" "true",
    Line.entry 2 false "rollback-required" "true"]

def renderBaseKustomization : List Line :=
  [Line.fixed "apiVersion: kustomize.config.k8s.io/v1beta1",
    Line.fixed "kind: Kustomization",
    Line.fixed "resources:",
    Line.fixed "  - namespace.yaml",
    Line.fixed "  - service-account.yaml",
    Line.fixed "  - network-policy.yaml",
    Line.fixed "  - pod-disruption-budget.yaml",
    Line.fixed "  - security-contract.yaml"]

/-- The overlay of a service, from the overlay of its module. -/
def serviceOverlay (environmentName service : String) : String :=
  "../../../../services/" ++ service ++ "/deployment/kustomize/overlays/" ++ environmentName

/-- The lines of a patch are the lines of its text. -/
def patchLines (service : CodeflyServicePlan) : List Line :=
  [Line.fixed "  - target:",
    Line.fixed "      group: apps",
    Line.fixed "      version: v1",
    Line.fixed "      kind: Deployment",
    Line.entry 6 false "name" service.name,
    Line.fixed "    patch: |-",
    Line.fixed "      - op: add",
    Line.fixed "        path: /spec/template/spec/serviceAccountName",
    Line.entry 8 false "value" deployment.serviceAccountName,
    Line.fixed "      - op: replace",
    Line.fixed "        path: /spec/template/spec/automountServiceAccountToken",
    Line.fixed "        value: false",
    Line.fixed "      - op: replace",
    Line.fixed "        path: /spec/replicas",
    .number 8 "value" deployment.minimumReplicas,
    Line.fixed "      - op: replace",
    Line.fixed "        path: /spec/template/spec/containers/0/image",
    Line.entry 8 false "value" service.image]

def renderEnvironmentOverlay (environmentName : String) : List Line :=
  [Line.fixed "apiVersion: kustomize.config.k8s.io/v1beta1",
    Line.fixed "kind: Kustomization",
    Line.entry 0 false "namespace" deployment.namespaceName,
    Line.fixed "resources:",
    Line.fixed "  - ../../base"] ++
  deployment.services.map (fun service => .plainItem 2 (serviceOverlay environmentName service)) ++
  [Line.fixed "patches:"] ++
  deployment.servicePlans.flatMap (patchLines deployment) ++
  [Line.fixed "commonLabels:",
    Line.entry 2 false "security.deus.dev/application" deployment.deploymentId,
    Line.entry 2 false "security.deus.dev/workload-plane" deployment.workloadPlaneId]

/-- The images, with the names of their services as they are. -/
def evidenceLines : List Line :=
  [Line.entry 2 true "id" deployment.deploymentId,
    Line.entry 4 false "module" deployment.moduleName,
    Line.entry 4 false "namespace" deployment.namespaceName,
    Line.entry 4 false "serviceAccount" deployment.serviceAccountName,
    Line.fixed "    dataBoundaries:"] ++
  deployment.dataBoundaryIds.map (fun boundary => .quotedItem 6 boundary) ++
  [Line.fixed "    images:"] ++
  deployment.images.entries.map fun image => Line.entry 6 false image.1 image.2

def renderPlanEvidence : List Line :=
  [Line.entry 0 false "apiVersion" "paas.codefly.dev/v1alpha1",
    Line.fixed "kind: DeploymentEvidence",
    Line.fixed "metadata:",
    Line.entry 2 false "blueprintDigest" details.blueprintDigest,
    Line.entry 2 false "environment" plan.environment.name,
    Line.fixed "  compatibility:",
    Line.entry 4 false "minimumCliVersion" "0.1.3",
    Line.entry 4 false "maximumCliVersionExclusive" "0.2.0",
    .number 4 "agentProtocolVersion" 2,
    Line.fixed "    requiredAgents:",
    Line.fixed "      \"codefly.dev/go-grpc\": \"0.1.6\"",
    Line.fixed "      \"codefly.dev/nextjs\": \"0.0.110\"",
    Line.fixed "deployments:"] ++
  plan.deployments.flatMap evidenceLines

end

/-! ## Files -/

/-- A file: the parts of its path, its text, and the lines that it is meant to have. -/
structure ArtifactFile where
  segments : List String
  text : List Char
  lines : List Line

def ArtifactFile.path (file : ArtifactFile) : String := "/".intercalate file.segments

/-- A file with one document. -/
def documentFile (segments : List String) (lines : List Line) : ArtifactFile := ⟨segments, document lines, lines⟩

/-- A file with several documents. -/
def documentsFile (segments : List String) (documents : List (List Line)) : ArtifactFile :=
  ⟨segments, joinDocuments documents, separated documents⟩

section
variable (details : PlanDetails) (plan : CodeflyPaasPlan)

def root (deployment : CodeflyDeploymentPlan) : List String := ["modules", deployment.moduleName]

def base (deployment : CodeflyDeploymentPlan) : List String := root deployment ++ ["deployment", "kustomize", "base"]

/-- The files of one deployment. -/
def deploymentFiles (deployment : CodeflyDeploymentPlan) : Except String (List ArtifactFile) := do
  let networkPolicies ← networkPolicyDocuments plan deployment
  .ok (
    [documentFile (root deployment ++ ["module.codefly.yaml"]) (renderModule deployment)] ++
    deployment.servicePlans.map (fun service =>
      documentFile (root deployment ++ ["services", service.name, "service.codefly.yaml"])
        (renderService deployment service)) ++
    [documentFile (base deployment ++ ["namespace.yaml"]) (renderNamespaceLines deployment),
      documentFile (base deployment ++ ["service-account.yaml"]) (renderServiceAccount deployment),
      documentsFile (base deployment ++ ["network-policy.yaml"]) networkPolicies,
      documentsFile (base deployment ++ ["pod-disruption-budget.yaml"])
        (deployment.services.map (disruptionBudgetLines deployment)),
      documentFile (base deployment ++ ["security-contract.yaml"]) (renderSecurityContract details deployment),
      documentFile (base deployment ++ ["kustomization.yaml"]) renderBaseKustomization,
      documentFile (root deployment ++ ["deployment", "kustomize", "overlays", plan.environment.name, "kustomization.yaml"])
        (renderEnvironmentOverlay deployment plan.environment.name)])

/-- The loop over the deployments, with the modules of those before. -/
def moduleFiles : List String → List CodeflyDeploymentPlan → Except String (List ArtifactFile)
  | _, [] => .ok []
  | moduleNames, deployment :: rest => do
    throwUnless (!moduleNames.contains deployment.moduleName)
      ("Codefly module '" ++ deployment.moduleName ++ "' is bound to multiple deployments.")
    let files ← deploymentFiles details plan deployment
    let others ← moduleFiles (deployment.moduleName :: moduleNames) rest
    .ok (files ++ others)

/-- The files in the order in which they are written. -/
def renderedFiles : Except String (List ArtifactFile) := do
  let files ← moduleFiles details plan [] plan.deployments
  .ok (documentFile ["workspace.codefly.yaml"] (renderWorkspace details plan) ::
    documentFile ["codefly-plan.yaml"] (renderPlanEvidence details plan) :: files)

/-- The last text that is written to a path is the one that is there. -/
def renderCodeflyArtifacts (rt : Runtime) : Except String (Record String) := do
  let files ← renderedFiles details plan
  let artifacts := Record.fromEntries (files.map fun file => (file.path, String.ofList file.text))
  .ok (Record.fromEntries (rt.sortByKey Prod.fst artifacts.entries))

end

end SecureSaas.Codefly.Artifacts
