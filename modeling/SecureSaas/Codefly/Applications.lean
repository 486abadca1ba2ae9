import SecureSaas.Blueprint.Bypass
import SecureSaas.Js.Collect
import SecureSaas.Js.Label
import SecureSaas.Js.Runtime

/-!
# The deployments of applications (`src/adapters/codefly/codeflyAdapter.ts`)

A blueprint and the extensions of a provider, which give every application a module with services
and the endpoints that the module exposes, are compiled to a plan with a deployment for every
application. A dependency is resolved to the first exposed endpoint that speaks its protocol.

* `compileApplication_ok`: what a compiled deployment has of its application and its extension.
* `compile_ok`: what a compiled plan has.
-/

namespace SecureSaas.Codefly

open Js

/-- `/^\d+\.\d+\.\d+$/`. -/
def isExactVersion (version : String) : Bool :=
  Pattern.fullMatch (.seq (.many1 isDecimal) (.seq (.lit ".") (.seq (.many1 isDecimal) (.seq (.lit ".") (.many1 isDecimal)))))
    version

/-- `/@sha256:[a-f0-9]{64}$/`. -/
def isDigestPinned (image : String) : Bool :=
  image.toList.tails.any fun cs => ((Pattern.lit "@sha256:").seq (.exactly isHex 64) cs).any List.isEmpty

end SecureSaas.Codefly

namespace SecureSaas.Codefly.Applications

open Js Blueprint

/-! ## Extensions -/

inductive CodeflyClusterKind
  | k3d
  | eks
  | gke
  | aks
deriving DecidableEq

structure CodeflyEnvironmentExtension where
  name : String
  clusterKind : CodeflyClusterKind
  registry : String
  namespacePrefix : String
  ingressNamespace : Option String

structure CodeflyAgentExtension where
  name : String
  version : String
  publisher : String

inductive CodeflyEndpointApi
  | http
  | rest
  | grpc
  | connect
  | tcp
deriving DecidableEq

inductive CodeflyEndpointVisibility
  | privateEndpoint
  | moduleEndpoint
  | publicEndpoint
deriving DecidableEq

structure CodeflyEndpointExtension where
  name : String
  api : CodeflyEndpointApi
  visibility : CodeflyEndpointVisibility

structure CodeflyServiceExtension where
  agent : CodeflyAgentExtension
  endpoints : List CodeflyEndpointExtension
  internalDependencies : Option (List String)

inductive CodeflyInterfaceVisibility
  | moduleInterface
  | publicInterface
deriving DecidableEq

structure CodeflyModuleInterfaceExtension where
  service : String
  endpoint : String
  visibility : CodeflyInterfaceVisibility
deriving DecidableEq

structure CodeflyDeploymentExtension where
  moduleName : String
  services : List String
  images : Record String
  serviceDefinitions : Record CodeflyServiceExtension
  interfaceEndpoints : List CodeflyModuleInterfaceExtension
  dependencyConsumerService : String
  serviceAccountAnnotations : Option (Record String)

structure CodeflyProviderExtensions where
  environment : CodeflyEnvironmentExtension
  deployments : Record CodeflyDeploymentExtension

/-! ## The plan -/

structure CodeflyDependencyPlan where
  deploymentId : String
  fromComponentId : String
  toComponentId : String
  endpoint : String
  protocol : DependencyProtocol
  authorization : DependencyAuthorization
  audience : String
  actions : List String
  moduleName : String
  serviceName : String
  endpointName : String

structure CodeflyExternalDependency where
  moduleName : String
  serviceName : String
  endpointName : String

structure CodeflyServicePlan where
  name : String
  image : String
  agent : CodeflyAgentExtension
  endpoints : List CodeflyEndpointExtension
  internalDependencies : List String
  externalDependencies : List CodeflyExternalDependency

structure CodeflyDeploymentPlan where
  deploymentId : String
  moduleName : String
  environmentName : String
  clusterKind : CodeflyClusterKind
  namespaceName : String
  serviceAccountName : String
  workloadPlaneId : String
  tenantScope : TenantScope
  dataBoundaryIds : List String
  services : List String
  servicePlans : List CodeflyServicePlan
  images : Record String
  interfaceEndpoints : List CodeflyModuleInterfaceExtension
  serviceAccountAnnotations : Record String
  ingress : ApplicationIngress
  dependencies : List CodeflyDependencyPlan
  minimumReplicas : ℤ
  maximumUnavailable : ℤ

structure CodeflyPaasPlan where
  environment : CodeflyEnvironmentExtension
  deployments : List CodeflyDeploymentPlan

/-! ## Compiling -/

/-- The label is cut nowhere: one that is too long is refused. -/
def dnsLabel (value : String) : Except String String :=
  let label := trimDashes (lowerDashed value)
  if label = [] ∨ label.length > 63 then .error s!"Codefly DNS label '{value}' is invalid."
  else .ok (String.ofList label)

def validateEnvironment (environment : CodeflyEnvironmentExtension) : Except String Unit := do
  throwUnless (hasText environment.name && hasText environment.registry)
    "Codefly environment requires a name and registry."
  throwUnless (hasText environment.namespacePrefix) "Codefly environment requires a namespace prefix."

def validateService (applicationId : String) (extension : CodeflyDeploymentExtension) (services : List String)
    (service : String) : Except String Unit := do
  throwUnless ((extension.images.get? service).any isDigestPinned)
    s!"Codefly service '{applicationId}/{service}' requires a digest-pinned image."
  match extension.serviceDefinitions.get? service with
  | none => .error s!"Codefly service '{applicationId}/{service}' requires a service definition."
  | some definition =>
    throwUnless (isExactVersion definition.agent.version)
      s!"Codefly service '{applicationId}/{service}' requires a pinned agent version."
    (definition.internalDependencies.getD []).forM fun dependency =>
      throwUnless (services.contains dependency && dependency ≠ service)
        s!"Codefly service '{applicationId}/{service}' has an invalid internal dependency '{dependency}'."

/-- `definition?.endpoints.some(...)` for the definition of the service. -/
def definesEndpoint (extension : CodeflyDeploymentExtension) (service : String)
    (suits : CodeflyEndpointExtension → Bool) : Bool :=
  (extension.serviceDefinitions.get? service).any fun definition => definition.endpoints.any suits

def CodeflyModuleInterfaceExtension.isPublic (exposed : CodeflyModuleInterfaceExtension) : Bool :=
  exposed.visibility = .publicInterface

/-- The checks of `compileApplication` on the extension of an application. -/
def validateExtension (application : ApplicationDeployment) (extension : CodeflyDeploymentExtension)
    (services : List String) : Except String Unit := do
  throwUnless (!extension.services.isEmpty)
    s!"Codefly deployment '{application.id}' must contain at least one service."
  throwUnless (extension.serviceDefinitions.keys.all services.contains)
    s!"Codefly deployment '{application.id}' defines an undeclared service."
  throwUnless (extension.images.keys.all services.contains)
    s!"Codefly deployment '{application.id}' has an image for an undeclared service."
  services.forM (validateService application.id extension services)
  throwUnless (services.contains extension.dependencyConsumerService)
    s!"Codefly deployment '{application.id}' has an invalid dependency consumer service."
  extension.interfaceEndpoints.forM fun exposed =>
    throwUnless (definesEndpoint extension exposed.service fun endpoint => endpoint.name = exposed.endpoint)
      s!"Codefly deployment '{application.id}' exposes an undeclared module endpoint."
  throwUnless (application.ingress ≠ .publicIngress ||
      extension.interfaceEndpoints.any CodeflyModuleInterfaceExtension.isPublic)
    s!"Codefly public deployment '{application.id}' requires an explicit public module endpoint."

def protocolText : DependencyProtocol → String
  | .https => "https"
  | .grpc => "grpc"

def expectedApis : DependencyProtocol → List CodeflyEndpointApi
  | .grpc => [.grpc]
  | .https => [.http, .rest, .connect]

/-- The endpoint of the module that a dependency with the protocol is resolved to. -/
def dependencyEndpoint (target : CodeflyDeploymentExtension) (protocol : DependencyProtocol) :
    Option CodeflyModuleInterfaceExtension :=
  target.interfaceEndpoints.find? fun candidate =>
    definesEndpoint target candidate.service fun endpoint =>
      endpoint.name = candidate.endpoint && (expectedApis protocol).contains endpoint.api

def deploymentNamespace (environment : CodeflyEnvironmentExtension) (extension : CodeflyDeploymentExtension) :
    Except String String :=
  dnsLabel s!"{environment.namespacePrefix}-{extension.moduleName}-{environment.name}"

def compileDependency (extensions : CodeflyProviderExtensions) (applicationId : String)
    (dependency : ApplicationDependency) : Except String CodeflyDependencyPlan := do
  let protocolName := protocolText dependency.protocol
  match extensions.deployments.get? dependency.deploymentId with
  | none => .error s!"Codefly dependency '{applicationId}' -> '{dependency.deploymentId}' has no target extension."
  | some target =>
    match dependencyEndpoint target dependency.protocol with
    | none =>
      .error s!"Codefly dependency '{applicationId}' -> '{dependency.deploymentId}' has no '{protocolName}' module interface."
    | some endpoint =>
      let targetNamespace ← deploymentNamespace extensions.environment target
      .ok
        { deploymentId := dependency.deploymentId
          fromComponentId := dependency.fromComponentId
          toComponentId := dependency.toComponentId
          endpoint := s!"{endpoint.service}.{targetNamespace}.svc.cluster.local"
          protocol := dependency.protocol
          authorization := dependency.authorization
          audience := dependency.audience
          actions := sorted dependency.actions
          moduleName := target.moduleName
          serviceName := endpoint.service
          endpointName := endpoint.endpoint }

def compileService (rt : Runtime) (extension : CodeflyDeploymentExtension) (dependencies : List CodeflyDependencyPlan)
    (service : String) : Except String CodeflyServicePlan :=
  match extension.serviceDefinitions.get? service with
  | none => .error "Cannot read properties of undefined (reading 'agent')"
  | some definition =>
    .ok
      { name := service
        image := (extension.images.get? service).getD ""
        agent := definition.agent
        endpoints := rt.sortByKey (·.name) definition.endpoints
        internalDependencies := sorted (definition.internalDependencies.getD [])
        externalDependencies :=
          if service = extension.dependencyConsumerService then
            dependencies.map fun dependency => ⟨dependency.moduleName, dependency.serviceName, dependency.endpointName⟩
          else [] }

/-- `Object.fromEntries(Object.entries(record).sort(...))`. -/
def sortRecord (rt : Runtime) (record : Record String) : Record String :=
  Record.fromEntries (rt.sortByKey Prod.fst record.entries)

def compileApplication (rt : Runtime) (extensions : CodeflyProviderExtensions) (application : ApplicationDeployment) :
    Except String CodeflyDeploymentPlan := do
  match extensions.deployments.get? application.id with
  | none => .error s!"Codefly deployment '{application.id}' has no provider extension."
  | some extension =>
    let services := sorted extension.services.eraseDups
    validateExtension application extension services
    let environment := extensions.environment
    let namespaceName ← deploymentNamespace environment extension
    let resolved ← application.dependencies.mapM (compileDependency extensions application.id)
    let dependencies := rt.sortByKey (·.deploymentId) resolved
    let serviceAccountName ← dnsLabel s!"{application.id}-service"
    let servicePlans ← services.mapM (compileService rt extension dependencies)
    .ok
      { deploymentId := application.id
        moduleName := extension.moduleName
        environmentName := environment.name
        clusterKind := environment.clusterKind
        namespaceName := namespaceName
        serviceAccountName := serviceAccountName
        workloadPlaneId := application.workloadPlaneId
        tenantScope := application.tenantScope
        dataBoundaryIds := sorted application.dataBoundaryIds
        services := services
        servicePlans := servicePlans
        images := sortRecord rt extension.images
        interfaceEndpoints := rt.sortByKey (fun endpoint => s!"{endpoint.service}:{endpoint.endpoint}")
          extension.interfaceEndpoints
        serviceAccountAnnotations := sortRecord rt (extension.serviceAccountAnnotations.getD Record.empty)
        ingress := application.ingress
        dependencies := dependencies
        minimumReplicas := application.availability.minimumReplicas
        maximumUnavailable := application.availability.maximumUnavailable }

def compileCodeflyApplications (rt : Runtime) (dates : Dates) (blueprint : PlatformBlueprint)
    (extensions : CodeflyProviderExtensions) : Except String CodeflyPaasPlan := do
  assertBlueprint dates blueprint
  validateEnvironment extensions.environment
  let deployments ← (rt.sortByKey (·.id) blueprint.applications).mapM (compileApplication rt extensions)
  throwUnless (decide (deployments.map (·.namespaceName)).Nodup)
    "Codefly deployments must compile to independent namespaces."
  throwUnless (!(deployments.any fun deployment => deployment.ingress = .publicIngress) ||
      (truthy extensions.environment.ingressNamespace).isSome)
    "Codefly public deployments require an explicit ingress namespace."
  .ok ⟨extensions.environment, deployments⟩

/-! ## Compiled deployments -/

/-- The dependency of the plan comes from the one of the application. -/
structure Resolved (extensions : CodeflyProviderExtensions) (dependency : ApplicationDependency)
    (compiled : CodeflyDependencyPlan) : Prop where
  deploymentId : compiled.deploymentId = dependency.deploymentId
  endpoint : ∃ target exposed, extensions.deployments.get? dependency.deploymentId = some target ∧
    dependencyEndpoint target dependency.protocol = some exposed ∧
      compiled.serviceName = exposed.service ∧ compiled.endpointName = exposed.endpoint

/-- What a compiled deployment has of its application and its extension. -/
structure CompiledFrom (extensions : CodeflyProviderExtensions) (application : ApplicationDeployment)
    (extension : CodeflyDeploymentExtension) (deployment : CodeflyDeploymentPlan) : Prop where
  provided : extensions.deployments.get? application.id = some extension
  deploymentId : deployment.deploymentId = application.id
  moduleName : deployment.moduleName = extension.moduleName
  ingress : deployment.ingress = application.ingress
  namespaceName : deploymentNamespace extensions.environment extension = .ok deployment.namespaceName
  interfaceEndpoints : deployment.interfaceEndpoints.Perm extension.interfaceEndpoints
  dependencyIds : (deployment.dependencies.map (·.deploymentId)).Perm (application.dependencies.map (·.deploymentId))
  resolved : ∀ compiled ∈ deployment.dependencies, ∃ dependency ∈ application.dependencies,
    Resolved extensions dependency compiled
  resolves : ∀ dependency ∈ application.dependencies, ∃ compiled ∈ deployment.dependencies,
    Resolved extensions dependency compiled

section
variable {rt : Runtime} {dates : Dates} {blueprint : PlatformBlueprint} {extensions : CodeflyProviderExtensions}
  {application : ApplicationDeployment} {deployment : CodeflyDeploymentPlan} {plan : CodeflyPaasPlan}

theorem compileDependency_ok {applicationId : String} {dependency : ApplicationDependency} {compiled : CodeflyDependencyPlan}
    (h : compileDependency extensions applicationId dependency = .ok compiled) : Resolved extensions dependency compiled := by
  unfold compileDependency at h
  dsimp only at h
  split at h
  · cases h
  · rename_i target htarget
    split at h
    · cases h
    · rename_i exposed hexposed
      obtain ⟨targetNamespace, -, h⟩ := bind_ok.1 h
      rw [← Except.ok.inj h]
      exact ⟨rfl, target, exposed, htarget, hexposed, rfl, rfl⟩

/-- **What a compiled deployment has.** -/
theorem compileApplication_ok (h : compileApplication rt extensions application = .ok deployment) :
    ∃ extension, CompiledFrom extensions application extension deployment := by
  unfold compileApplication at h
  split at h
  · cases h
  · rename_i extension hextension
    obtain ⟨_, -, h⟩ := bind_ok.1 h
    obtain ⟨namespaceName, hnamespace, h⟩ := bind_ok.1 h
    obtain ⟨resolved, hresolved, h⟩ := bind_ok.1 h
    obtain ⟨serviceAccountName, -, h⟩ := bind_ok.1 h
    obtain ⟨servicePlans, -, h⟩ := bind_ok.1 h
    rw [← Except.ok.inj h]
    refine ⟨extension, hextension, rfl, rfl, rfl, hnamespace, rt.sortByKey_perm _ _, ?_, ?_, ?_⟩
    · have hids : resolved.map (·.deploymentId) = application.dependencies.map (·.deploymentId) :=
        mapM_map (fun _ _ hone => (compileDependency_ok hone).deploymentId) hresolved
      rw [← hids]
      exact (rt.sortByKey_perm _ _).map _
    · intro compiled hcompiled
      obtain ⟨dependency, hdependency, hone⟩ := mapM_source hresolved (Runtime.mem_sortByKey.1 hcompiled)
      exact ⟨dependency, hdependency, compileDependency_ok hone⟩
    · intro dependency hdependency
      obtain ⟨compiled, hcompiled, hone⟩ := mapM_ok hresolved dependency hdependency
      exact ⟨compiled, Runtime.mem_sortByKey.2 hcompiled, compileDependency_ok hone⟩

/-- What a compiled plan has. -/
structure CompiledPlan (blueprint : PlatformBlueprint) (extensions : CodeflyProviderExtensions) (plan : CodeflyPaasPlan) :
    Prop where
  environment : plan.environment = extensions.environment
  ids : (plan.deployments.map (·.deploymentId)).Nodup
  namespaces : (plan.deployments.map (·.namespaceName)).Nodup
  /-- What a deployment depends on is deployed. -/
  targets : ∀ deployment ∈ plan.deployments, ∀ dependency ∈ deployment.dependencies,
    dependency.deploymentId ∈ plan.deployments.map (·.deploymentId)
  ingress : ∀ deployment ∈ plan.deployments, deployment.ingress = .publicIngress →
    (truthy plan.environment.ingressNamespace).isSome = true
  source : ∀ deployment ∈ plan.deployments, ∃ application ∈ blueprint.applications, ∃ extension,
    CompiledFrom extensions application extension deployment
  compiled : ∀ application ∈ blueprint.applications, ∃ deployment ∈ plan.deployments, ∃ extension,
    CompiledFrom extensions application extension deployment

/-- **What a compiled plan has.** -/
theorem compile_ok (h : compileCodeflyApplications rt dates blueprint extensions = .ok plan) :
    CompiledPlan blueprint extensions plan := by
  obtain ⟨_, hassert, h⟩ := bind_ok.1 h
  obtain ⟨_, -, h⟩ := bind_ok.1 h
  obtain ⟨deployments, hdeployments, h⟩ := bind_ok.1 h
  obtain ⟨_, hnamespaces, h⟩ := bind_ok.1 h
  obtain ⟨_, hingress, h⟩ := bind_ok.1 h
  obtain rfl : (⟨extensions.environment, deployments⟩ : CodeflyPaasPlan) = plan := Except.ok.inj h
  obtain ⟨hpolicy, hids⟩ := assertBlueprint_applications hassert
  have hsource : ∀ deployment ∈ deployments, ∃ application ∈ blueprint.applications, ∃ extension,
      CompiledFrom extensions application extension deployment := by
    intro deployment hdeployment
    obtain ⟨application, happlication, hone⟩ := mapM_source hdeployments hdeployment
    exact ⟨application, Runtime.mem_sortByKey.1 happlication, compileApplication_ok hone⟩
  have hmap : deployments.map (·.deploymentId) = (rt.sortByKey (·.id) blueprint.applications).map (·.id) :=
    mapM_map (fun _ _ hone => (compileApplication_ok hone).elim fun _ hfrom => hfrom.deploymentId) hdeployments
  have hperm : (deployments.map (·.deploymentId)).Perm (blueprint.applications.map (·.id)) := by
    rw [hmap]
    exact (rt.sortByKey_perm _ _).map _
  refine ⟨rfl, hperm.nodup_iff.2 hids, of_decide_eq_true (throwUnless_ok.1 hnamespaces), ?_, ?_, hsource, ?_⟩
  · intro deployment hdeployment dependency hdependency
    obtain ⟨application, happlication, extension, hfrom⟩ := hsource deployment hdeployment
    obtain ⟨declared, hdeclared, hresolved⟩ := hfrom.resolved dependency hdependency
    rw [hresolved.deploymentId]
    exact hperm.mem_iff.2 (dependencies_target hpolicy happlication hdeclared)
  · intro deployment hdeployment hpublic
    have hsome := throwUnless_ok.1 hingress
    rw [Bool.or_eq_true] at hsome
    refine hsome.resolve_left fun hnone => ?_
    have hany : (deployments.any fun deployment => deployment.ingress = .publicIngress) = true :=
      List.any_eq_true.2 ⟨deployment, hdeployment, decide_eq_true hpublic⟩
    rw [hany] at hnone
    cases hnone
  · intro application happlication
    obtain ⟨deployment, hdeployment, hone⟩ := mapM_ok hdeployments application (Runtime.mem_sortByKey.2 happlication)
    exact ⟨deployment, hdeployment, compileApplication_ok hone⟩

end

end SecureSaas.Codefly.Applications
