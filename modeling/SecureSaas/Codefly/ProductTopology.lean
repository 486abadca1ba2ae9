import SecureSaas.Codefly.Applications

/-!
# The topology of products (`src/adapters/codefly/productTopology.ts`)

A blueprint and a contract, which names the workspace, the modules and the services of every
application, are compiled to a plan: a workspace for every application and a module for every
component of it.

* `compile_ok`: what a plan has.
* `members_nodup`: no two members of a plan have one deployment and one component id.
-/

namespace SecureSaas.Codefly.Product

open Js Blueprint

/-! ## The contract

A contract is read from a file, so its objects may have fields that their types do not name:
those are `otherFields`. -/

structure CodeflyProductAgentContract where
  publisher : String
  agent : String
  version : String
  otherFields : List String
deriving DecidableEq

structure CodeflyProductModule where
  services : Record CodeflyProductAgentContract
  otherFields : List String

structure CodeflyProduct where
  workspaceName : String
  modules : Record CodeflyProductModule
  otherFields : List String

structure CodeflyProductContract where
  apiVersion : String
  products : Record CodeflyProduct
  otherFields : List String

/-- The fields that are left over when the allowed ones are taken away. -/
def assertObjectKeys (label : String) (unknown : List String) : Except String Unit :=
  let names := ", ".intercalate (sorted unknown)
  throwUnless unknown.isEmpty s!"Codefly product {label} contains unknown field(s): {names}."

def assertStrictModule (productName moduleName : String) (module : CodeflyProductModule) : Except String Unit := do
  assertObjectKeys s!"module '{productName}/{moduleName}'" module.otherFields
  throwUnless (!module.services.keys.isEmpty)
    s!"Codefly product contract module '{productName}/{moduleName}' requires services."
  module.services.entries.forM fun (serviceName, agent) =>
    assertObjectKeys s!"agent '{productName}/{moduleName}/{serviceName}'" agent.otherFields

def assertStrictProduct (productName : String) (product : CodeflyProduct) : Except String Unit := do
  assertObjectKeys s!"product '{productName}'" product.otherFields
  throwUnless (hasText product.workspaceName)
    s!"Codefly product contract has an invalid product '{productName}'."
  product.modules.entries.forM fun (moduleName, module) => assertStrictModule productName moduleName module

def assertStrictProductContract (contract : CodeflyProductContract) : Except String Unit := do
  assertObjectKeys "contract" contract.otherFields
  throwUnless (!contract.products.keys.isEmpty) "Codefly product contract requires at least one product."
  contract.products.entries.forM fun (productName, product) => assertStrictProduct productName product

def validateAgent (product moduleName service : String) (agent : CodeflyProductAgentContract) : Except String Unit :=
  throwUnless (hasText agent.publisher && hasText agent.agent && isExactVersion agent.version && agent.version ≠ "latest")
    s!"Codefly product '{product}/{moduleName}/{service}' requires an exact agent contract."

/-- Both lists name the same things; the texts of two JSON arrays of strings are equal exactly if
the arrays are. -/
def assertSameNames (label : String) (expected observed : List String) : Except String Unit :=
  let left := sorted expected.eraseDups
  let right := sorted observed.eraseDups
  let leftNames := ", ".intercalate left
  let rightNames := ", ".intercalate right
  throwUnless (left = right)
    s!"Codefly {label} mismatch; expected [{leftNames}], observed [{rightNames}]."

/-! ## The plan -/

structure CodeflyProductService where
  name : String
  agent : CodeflyProductAgentContract
deriving DecidableEq

structure CodeflyProductComponentPlan where
  componentId : String
  moduleName : String
  workloadPlaneId : String
  serviceIdentityId : String
  dataBoundaryIds : List String
  tenantScope : TenantScope
  ingress : ApplicationIngress
  minimumReplicas : ℤ
  maximumUnavailable : ℤ
  release : ReleaseRequirement
  services : List CodeflyProductService
deriving DecidableEq

structure CodeflyProductComponentDependency where
  fromComponentId : String
  toComponentId : String
  protocol : DependencyProtocol
  authorization : DependencyAuthorization
  audience : String
  actions : List String
deriving DecidableEq

structure CodeflyProductDependency where
  fromComponentId : String
  toDeploymentId : String
  toComponentId : String
  protocol : DependencyProtocol
  authorization : DependencyAuthorization
  audience : String
  actions : List String
deriving DecidableEq

structure CodeflyProductWorkspacePlan where
  deploymentId : String
  workspaceName : String
  deploymentIdentityId : String
  components : List CodeflyProductComponentPlan
  componentDependencies : List CodeflyProductComponentDependency
  dependencies : List CodeflyProductDependency
deriving DecidableEq

structure CodeflyProductTopologyPlan where
  workspaces : List CodeflyProductWorkspacePlan
deriving DecidableEq

/-! ## Compiling -/

def compileService (deploymentId componentId : String) (service : String × CodeflyProductAgentContract) :
    Except String CodeflyProductService := do
  validateAgent deploymentId componentId service.1 service.2
  .ok ⟨service.1, service.2⟩

def compileComponent (rt : Runtime) (application : ApplicationDeployment) (product : CodeflyProduct)
    (component : ApplicationComponent) : Except String CodeflyProductComponentPlan := do
  match product.modules.get? component.id with
  | none => .error "Cannot read properties of undefined (reading 'services')"
  | some module =>
    let services ← (rt.sortByKey Prod.fst module.services.entries).mapM (compileService application.id component.id)
    .ok
      { componentId := component.id
        moduleName := component.id
        workloadPlaneId := component.workloadPlaneId
        serviceIdentityId := component.serviceIdentityId
        dataBoundaryIds := sorted component.dataBoundaryIds
        tenantScope := application.tenantScope
        ingress := component.ingress
        minimumReplicas := component.availability.minimumReplicas
        maximumUnavailable := component.availability.maximumUnavailable
        release := application.release
        services := services }

def compileComponentDependency (dependency : ApplicationComponentDependency) : CodeflyProductComponentDependency :=
  { fromComponentId := dependency.fromComponentId
    toComponentId := dependency.toComponentId
    protocol := dependency.protocol
    authorization := dependency.authorization
    audience := dependency.audience
    actions := sorted dependency.actions }

def compileDependency (dependency : ApplicationDependency) : CodeflyProductDependency :=
  { fromComponentId := dependency.fromComponentId
    toDeploymentId := dependency.deploymentId
    toComponentId := dependency.toComponentId
    protocol := dependency.protocol
    authorization := dependency.authorization
    audience := dependency.audience
    actions := sorted dependency.actions }

def compileWorkspace (rt : Runtime) (contract : CodeflyProductContract) (application : ApplicationDeployment) :
    Except String CodeflyProductWorkspacePlan := do
  match contract.products.get? application.id with
  | none => .error "Cannot read properties of undefined (reading 'modules')"
  | some product =>
    assertSameNames s!"components for '{application.id}'" product.modules.keys (application.components.map (·.id))
    let components ← (rt.sortByKey (·.id) application.components).mapM (compileComponent rt application product)
    .ok
      { deploymentId := application.id
        workspaceName := product.workspaceName
        deploymentIdentityId := application.serviceIdentityId
        components := components
        componentDependencies := rt.sortByKey (fun dependency => s!"{dependency.fromComponentId}:{dependency.toComponentId}")
          (application.componentDependencies.map compileComponentDependency)
        dependencies := rt.sortByKey
          (fun dependency => s!"{dependency.fromComponentId}:{dependency.toDeploymentId}:{dependency.toComponentId}")
          (application.dependencies.map compileDependency) }

def compileCodeflyProductTopology (rt : Runtime) (dates : Dates) (blueprint : PlatformBlueprint)
    (contract : CodeflyProductContract) : Except String CodeflyProductTopologyPlan := do
  assertBlueprint dates blueprint
  assertStrictProductContract contract
  throwUnless (contract.apiVersion = "contracts.security.deus.dev/codefly-products/v1")
    s!"Unsupported Codefly product contract '{contract.apiVersion}'."
  assertSameNames "product deployments" contract.products.keys (blueprint.applications.map (·.id))
  let workspaces ← (rt.sortByKey (·.id) blueprint.applications).mapM (compileWorkspace rt contract)
  .ok ⟨workspaces⟩

/-! ## Members of a plan -/

/-- A component of a plan with the workspace it is in. -/
structure Member where
  workspace : CodeflyProductWorkspacePlan
  component : CodeflyProductComponentPlan

/-- What a dependency leads to: a component of a deployment. -/
structure Target where
  deploymentId : String
  componentId : String
deriving DecidableEq

def Member.target (member : Member) : Target := ⟨member.workspace.deploymentId, member.component.componentId⟩

def CodeflyProductWorkspacePlan.members (workspace : CodeflyProductWorkspacePlan) : List Member :=
  workspace.components.map fun component => ⟨workspace, component⟩

def CodeflyProductTopologyPlan.members (plan : CodeflyProductTopologyPlan) : List Member :=
  plan.workspaces.flatMap CodeflyProductWorkspacePlan.members

/-- What the workspaces of a plan have. -/
structure WorkspaceValid (workspace : CodeflyProductWorkspacePlan) : Prop where
  components : (workspace.components.map (·.componentId)).Nodup
  services : ∀ component ∈ workspace.components, (component.services.map (·.name)).Nodup
  modules : ∀ component ∈ workspace.components, component.moduleName = component.componentId
  /-- A component depends on another one of its workspace. -/
  internal : ∀ dependency ∈ workspace.componentDependencies, dependency.fromComponentId ≠ dependency.toComponentId
  /-- A cross-product dependency leads to another workspace. -/
  external : ∀ dependency ∈ workspace.dependencies, dependency.toDeploymentId ≠ workspace.deploymentId

/-- What a plan has. -/
structure PlanValid (plan : CodeflyProductTopologyPlan) : Prop where
  deployments : (plan.workspaces.map (·.deploymentId)).Nodup
  workspaces : ∀ workspace ∈ plan.workspaces, WorkspaceValid workspace

section
variable {rt : Runtime} {dates : Dates} {blueprint : PlatformBlueprint} {contract : CodeflyProductContract}
  {plan : CodeflyProductTopologyPlan} {application : ApplicationDeployment} {product : CodeflyProduct}

theorem compileService_ok {deploymentId componentId : String} {service : String × CodeflyProductAgentContract}
    {compiled : CodeflyProductService} (h : compileService deploymentId componentId service = .ok compiled) :
    compiled.name = service.1 := by
  obtain ⟨_, -, h⟩ := bind_ok.1 h
  rw [← Except.ok.inj h]

theorem compileComponent_ok {component : ApplicationComponent} {compiled : CodeflyProductComponentPlan}
    (h : compileComponent rt application product component = .ok compiled) : compiled.componentId = component.id ∧
      compiled.moduleName = component.id ∧ (compiled.services.map (·.name)).Nodup := by
  unfold compileComponent at h
  split at h
  · cases h
  · rename_i module hmodule
    obtain ⟨services, hservices, h⟩ := bind_ok.1 h
    rw [← Except.ok.inj h]
    refine ⟨rfl, rfl, ?_⟩
    rw [mapM_map (fun _ _ => compileService_ok) hservices]
    exact ((rt.sortByKey_perm _ _).map _).nodup_iff.2 module.services.keys_nodup

theorem compileWorkspace_id {workspace : CodeflyProductWorkspacePlan}
    (h : compileWorkspace rt contract application = .ok workspace) : workspace.deploymentId = application.id := by
  unfold compileWorkspace at h
  split at h
  · cases h
  · obtain ⟨_, -, h⟩ := bind_ok.1 h
    obtain ⟨components, -, h⟩ := bind_ok.1 h
    rw [← Except.ok.inj h]

theorem compileWorkspace_ok (hpolicy : applicationDeploymentPolicy blueprint = []) (hmem : application ∈ blueprint.applications)
    {workspace : CodeflyProductWorkspacePlan} (h : compileWorkspace rt contract application = .ok workspace) :
    WorkspaceValid workspace := by
  unfold compileWorkspace at h
  split at h
  · cases h
  · rename_i product hproduct
    obtain ⟨_, -, h⟩ := bind_ok.1 h
    obtain ⟨components, hcomponents, h⟩ := bind_ok.1 h
    rw [← Except.ok.inj h]
    refine ⟨?_, ?_, ?_, ?_, ?_⟩
    · show (components.map (·.componentId)).Nodup
      rw [mapM_map (fun _ _ hcompiled => (compileComponent_ok hcompiled).1) hcomponents]
      exact ((rt.sortByKey_perm _ _).map _).nodup_iff.2 (componentIds_nodup hpolicy hmem)
    · intro component hcomponent
      obtain ⟨source, -, hsource⟩ := mapM_source hcomponents hcomponent
      exact (compileComponent_ok hsource).2.2
    · intro component hcomponent
      obtain ⟨source, -, hsource⟩ := mapM_source hcomponents hcomponent
      exact (compileComponent_ok hsource).2.1.trans (compileComponent_ok hsource).1.symm
    · intro dependency hdependency
      obtain ⟨source, hsource, rfl⟩ := List.mem_map.1 (Runtime.mem_sortByKey.1 hdependency)
      exact (componentDependencies_valid hpolicy hmem hsource).1
    · intro dependency hdependency
      obtain ⟨source, hsource, rfl⟩ := List.mem_map.1 (Runtime.mem_sortByKey.1 hdependency)
      exact (dependencies_valid hpolicy hmem hsource).1

/-- **What a compiled plan has.** -/
theorem compile_ok (h : compileCodeflyProductTopology rt dates blueprint contract = .ok plan) : PlanValid plan := by
  obtain ⟨_, hassert, h⟩ := bind_ok.1 h
  obtain ⟨_, -, h⟩ := bind_ok.1 h
  obtain ⟨_, -, h⟩ := bind_ok.1 h
  obtain ⟨_, -, h⟩ := bind_ok.1 h
  obtain ⟨workspaces, hworkspaces, h⟩ := bind_ok.1 h
  rw [← Except.ok.inj h]
  obtain ⟨happlications, hids⟩ := assertBlueprint_applications hassert
  constructor
  · rw [mapM_map (fun _ _ => compileWorkspace_id) hworkspaces]
    exact ((rt.sortByKey_perm _ _).map _).nodup_iff.2 hids
  · intro workspace hworkspace
    obtain ⟨application, happlication, hcompiled⟩ := mapM_source hworkspaces hworkspace
    exact compileWorkspace_ok happlications (Runtime.mem_sortByKey.1 happlication) hcompiled

/-! ## Members -/

theorem mem_members {member : Member} :
    member ∈ plan.members ↔ member.workspace ∈ plan.workspaces ∧ member.component ∈ member.workspace.components := by
  unfold CodeflyProductTopologyPlan.members CodeflyProductWorkspacePlan.members
  simp only [List.mem_flatMap, List.mem_map]
  constructor
  · rintro ⟨workspace, hworkspace, component, hcomponent, rfl⟩
    exact ⟨hworkspace, hcomponent⟩
  · rintro ⟨hworkspace, hcomponent⟩
    exact ⟨member.workspace, hworkspace, member.component, hcomponent, rfl⟩

/-- **No two members of a plan have one deployment and one component id.** -/
theorem members_nodup (h : PlanValid plan) : (plan.members.map Member.target).Nodup := by
  unfold CodeflyProductTopologyPlan.members
  rw [List.map_flatMap, List.nodup_flatMap]
  constructor
  · intro workspace hworkspace
    unfold CodeflyProductWorkspacePlan.members
    rw [List.map_map]
    exact List.Nodup.map_on (fun a ha b hb heq => List.inj_on_of_nodup_map (h.workspaces workspace hworkspace).components
      ha hb (congrArg Target.componentId heq)) (List.Nodup.of_map _ (h.workspaces workspace hworkspace).components)
  · have hpairwise := List.pairwise_map.1 (List.nodup_iff_pairwise_ne.1 h.deployments)
    refine hpairwise.imp ?_
    intro first second hne target hfirst hsecond
    obtain ⟨member, hmember, rfl⟩ := List.mem_map.1 hfirst
    obtain ⟨other, hother, heq⟩ := List.mem_map.1 hsecond
    obtain ⟨component, -, rfl⟩ := List.mem_map.1 hmember
    obtain ⟨otherComponent, -, rfl⟩ := List.mem_map.1 hother
    exact hne (congrArg Target.deploymentId heq).symm

theorem member_eq (h : PlanValid plan) {member other : Member} (hmember : member ∈ plan.members)
    (hother : other ∈ plan.members) (heq : member.target = other.target) : member = other :=
  List.inj_on_of_nodup_map (members_nodup h) hmember hother heq

end

end SecureSaas.Codefly.Product
