import SecureSaas.Blueprint.Policy
import Mathlib.Data.List.Pairwise
import Mathlib.Data.List.Sort
import Mathlib.Data.String.Basic

/-!
# The policy on application deployments

An application, its components, the workload planes they run on and the data they own share
one tenant scope; nothing but declared dependencies joins two components. Scopes are compared
as JSON text, which for parsed scopes is the same as comparing the scopes.
-/

namespace SecureSaas.Blueprint

open Js

/-- `[...names].sort()`. -/
def sorted (names : List String) : List String := names.insertionSort (· ≤ ·)

/-- `identity && identity.kind === "workload" && identity.shortLived`. -/
def serviceIdentity (blueprint : PlatformBlueprint) (identityId : String) : Bool :=
  match (identitiesById blueprint).get? identityId with
  | none => false
  | some identity => decide (identity.kind = .workload) && identity.shortLived

def workloadsById (blueprint : PlatformBlueprint) : Record WorkloadPlane := indexBy (·.id) blueprint.workloadPlanes

def applicationsById (blueprint : PlatformBlueprint) : Record ApplicationDeployment :=
  indexBy (·.id) blueprint.applications

/-- What two deployments or two components share that each needs for itself. -/
def sharedViolations (blueprint : PlatformBlueprint) : List BlueprintViolation :=
  ((duplicateValues (blueprint.applications.map (·.serviceIdentityId))).flatMap fun identityId =>
    [violation "APP_SHARED_SERVICE_IDENTITY" .critical
      s!"Service identity '{identityId}' cannot be shared by multiple application deployments."]) ++
  ((duplicateValues (blueprint.applications.flatMap (·.dataBoundaryIds))).flatMap fun boundaryId =>
    [violation "APP_SHARED_DATA_BOUNDARY" .critical
      s!"Data boundary '{boundaryId}' cannot be implicitly shared by multiple application deployments."]) ++
  ((duplicateValues (blueprint.applications.flatMap fun application =>
      application.components.map (·.serviceIdentityId))).flatMap fun identityId =>
    [violation "APP_SHARED_COMPONENT_IDENTITY" .critical
      s!"Component service identity '{identityId}' cannot be shared by multiple application components."]) ++
  ((duplicateValues (blueprint.applications.flatMap fun application =>
      application.components.flatMap (·.dataBoundaryIds))).flatMap fun boundaryId =>
    [violation "APP_SHARED_COMPONENT_DATA" .critical
      s!"Data boundary '{boundaryId}' cannot be implicitly shared by multiple application components."])

def workloadViolations (blueprint : PlatformBlueprint) (application : ApplicationDeployment) :
    List BlueprintViolation :=
  match (workloadsById blueprint).get? application.workloadPlaneId with
  | none =>
    [violation "APP_UNKNOWN_WORKLOAD_PLANE" .critical
      s!"Application '{application.id}' references unknown workload plane '{application.workloadPlaneId}'."]
  | some workload =>
    flag (workload.tenantScope ≠ application.tenantScope) "APP_SCOPE_MISMATCH" .critical
      s!"Application '{application.id}' and its workload plane have different tenant scopes."

/-- A workload plane or data boundary that is unknown has no scope. -/
def otherScope (scope : Option TenantScope) (application : ApplicationDeployment) : Bool :=
  scope ≠ some application.tenantScope

def componentViolations (blueprint : PlatformBlueprint) (application : ApplicationDeployment)
    (component : ApplicationComponent) : List BlueprintViolation :=
  flag (otherScope (((workloadsById blueprint).get? component.workloadPlaneId).map (·.tenantScope)) application)
    "APP_COMPONENT_WORKLOAD_POSTURE" .critical
    s!"Application '{application.id}' component '{component.id}' requires a matching workload plane." ++
  flag (!serviceIdentity blueprint component.serviceIdentityId) "APP_COMPONENT_IDENTITY_POSTURE" .critical
    s!"Application '{application.id}' component '{component.id}' requires a short-lived workload identity." ++
  flag (decide (component.availability.minimumReplicas < 1) ||
      decide (component.availability.maximumUnavailable ≥ component.availability.minimumReplicas))
    "APP_COMPONENT_AVAILABILITY_POSTURE" .high
    s!"Application '{application.id}' component '{component.id}' must retain at least one available replica during disruption." ++
  component.dataBoundaryIds.flatMap fun boundaryId =>
    flag (otherScope (((dataById blueprint).get? boundaryId).map (·.tenantScope)) application)
      "APP_COMPONENT_DATA_POSTURE" .critical
      s!"Application '{application.id}' component '{component.id}' has invalid data boundary '{boundaryId}'."

def boundaryViolations (blueprint : PlatformBlueprint) (application : ApplicationDeployment) (boundaryId : String) :
    List BlueprintViolation :=
  match (dataById blueprint).get? boundaryId with
  | none =>
    [violation "APP_UNKNOWN_DATA_BOUNDARY" .critical
      s!"Application '{application.id}' references unknown data boundary '{boundaryId}'."]
  | some boundary =>
    flag (boundary.tenantScope ≠ application.tenantScope) "APP_DATA_SCOPE_MISMATCH" .critical
      s!"Application '{application.id}' cannot attach data boundary '{boundaryId}' with a different tenant scope."

def dependencyKey (dependency : ApplicationComponentDependency) : String :=
  s!"{dependency.fromComponentId}:{dependency.toComponentId}:{dependency.audience}"

/-- The loop over the component dependencies, with the keys of those before. -/
def componentDependencyViolations (application : ApplicationDeployment) :
    List String → List ApplicationComponentDependency → List BlueprintViolation
  | _, [] => []
  | keys, dependency :: rest =>
    let componentIds := application.components.map (·.id)
    flag (dependency.fromComponentId = dependency.toComponentId ||
        !componentIds.contains dependency.fromComponentId || !componentIds.contains dependency.toComponentId ||
        dependency.actions.length = 0 || dependency.audience = "" || keys.contains (dependencyKey dependency))
      "APP_COMPONENT_DEPENDENCY_INVALID" .critical
      s!"Application '{application.id}' has an invalid component dependency '{dependency.fromComponentId}' -> '{dependency.toComponentId}'." ++
    componentDependencyViolations application (dependencyKey dependency :: keys) rest

def targetHas (blueprint : PlatformBlueprint) (dependency : ApplicationDependency) : Bool :=
  match (applicationsById blueprint).get? dependency.deploymentId with
  | none => false
  | some target => target.components.any (·.id = dependency.toComponentId)

def dependencyViolations (blueprint : PlatformBlueprint) (application : ApplicationDeployment)
    (dependency : ApplicationDependency) : List BlueprintViolation :=
  flag (dependency.deploymentId = application.id ||
      !(application.components.map (·.id)).contains dependency.fromComponentId || !targetHas blueprint dependency ||
      dependency.actions.length = 0 || dependency.audience = "")
    "APP_DEPENDENCY_INVALID" .critical
    s!"Application '{application.id}' has an invalid dependency on '{dependency.deploymentId}'."

/-- Whether some requirement records the deployments and the authorizations of the application. -/
def hasEvidence (blueprint : PlatformBlueprint) (application : ApplicationDeployment) : Bool :=
  blueprint.evidenceRequirements.any fun requirement =>
    requirement.sourceIds.contains application.id && requirement.eventTypes.contains "deployment" &&
      requirement.eventTypes.contains "authorization"

def applicationViolations (blueprint : PlatformBlueprint) (application : ApplicationDeployment) :
    List BlueprintViolation :=
  let componentIds := application.components.map (·.id)
  let componentData := sorted (application.components.flatMap (·.dataBoundaryIds)).eraseDups
  workloadViolations blueprint application ++
  flag (!serviceIdentity blueprint application.serviceIdentityId) "APP_IDENTITY_POSTURE" .critical
    s!"Application '{application.id}' requires a short-lived workload service identity." ++
  ((duplicateValues componentIds).flatMap fun duplicate =>
    [violation "APP_DUPLICATE_COMPONENT" .critical
      s!"Application '{application.id}' has duplicate component '{duplicate}'."]) ++
  flag (componentData ≠ sorted application.dataBoundaryIds) "APP_COMPONENT_DATA_COVERAGE" .critical
    s!"Application '{application.id}' data boundaries must exactly equal component-owned data boundaries." ++
  application.components.flatMap (componentViolations blueprint application) ++
  application.dataBoundaryIds.flatMap (boundaryViolations blueprint application) ++
  componentDependencyViolations application [] application.componentDependencies ++
  flag (decide (application.availability.minimumReplicas < 2) ||
      decide (application.availability.maximumUnavailable ≥ application.availability.minimumReplicas))
    "APP_AVAILABILITY_POSTURE" .high
    s!"Application '{application.id}' must retain at least one available replica during disruption." ++
  flag (!application.release.digestPinnedImages || !application.release.signatureVerification ||
      !application.release.provenanceVerification || !application.release.rollbackRequired)
    "APP_RELEASE_POSTURE" .critical
    s!"Application '{application.id}' requires digest pinning, signature and provenance verification, and rollback." ++
  application.dependencies.flatMap (dependencyViolations blueprint application) ++
  flag (!hasEvidence blueprint application) "APP_EVIDENCE_MISSING" .high
    s!"Application '{application.id}' requires deployment and authorization evidence."

def applicationDeploymentPolicy (blueprint : PlatformBlueprint) : List BlueprintViolation :=
  sharedViolations blueprint ++ blueprint.applications.flatMap (applicationViolations blueprint)

/-! ## Applications nothing is reported of -/

section
variable {blueprint : PlatformBlueprint} {application : ApplicationDeployment}

/-- The components of an application have different ids. -/
theorem componentIds_nodup (h : applicationDeploymentPolicy blueprint = []) (hmem : application ∈ blueprint.applications) :
    (application.components.map (·.id)).Nodup := by
  simp only [applicationDeploymentPolicy, List.append_eq_nil_iff, List.flatMap_eq_nil_iff] at h
  have hclean := h.2 application hmem
  simp only [applicationViolations, List.append_eq_nil_iff, List.flatMap_eq_nil_iff] at hclean
  have hnone : duplicateValues (application.components.map (·.id)) = [] :=
    List.eq_nil_iff_forall_not_mem.2 fun value hvalue => by
      have := hclean.1.1.1.1.1.1.1.1.2 value hvalue
      cases this
  exact nodup_of_duplicateValues hnone

/-- Two applications have no component identity in common. -/
theorem componentIdentities_apart (h : applicationDeploymentPolicy blueprint = []) {other : ApplicationDeployment}
    (hmem : application ∈ blueprint.applications) (hother : other ∈ blueprint.applications) (hne : application ≠ other)
    {component component' : ApplicationComponent} (hcomponent : component ∈ application.components)
    (hcomponent' : component' ∈ other.components) : component.serviceIdentityId ≠ component'.serviceIdentityId := by
  simp only [applicationDeploymentPolicy, sharedViolations, List.append_eq_nil_iff, List.flatMap_eq_nil_iff] at h
  have hnone : duplicateValues (blueprint.applications.flatMap fun application =>
      application.components.map (·.serviceIdentityId)) = [] :=
    List.eq_nil_iff_forall_not_mem.2 fun value hvalue => by
      have := h.1.1.2 value hvalue
      cases this
  have hapart := (List.nodup_flatMap.1 (nodup_of_duplicateValues hnone)).2
  intro heq
  have hsymm : Std.Symm (Function.onFun List.Disjoint fun application : ApplicationDeployment =>
      application.components.map (·.serviceIdentityId)) := ⟨fun _ _ hd _ hleft hright => hd hright hleft⟩
  have hdisjoint : List.Disjoint _ _ := hapart.forall hmem hother hne
  exact hdisjoint (List.mem_map_of_mem hcomponent) (heq ▸ List.mem_map_of_mem hcomponent')

/-- The identity of a component is that of a workload. -/
theorem componentIdentity_workload (h : applicationDeploymentPolicy blueprint = [])
    (hmem : application ∈ blueprint.applications) {component : ApplicationComponent}
    (hcomponent : component ∈ application.components) :
    ∃ identity, (identitiesById blueprint).get? component.serviceIdentityId = some identity ∧
      identity.kind = .workload := by
  simp only [applicationDeploymentPolicy, List.append_eq_nil_iff, List.flatMap_eq_nil_iff] at h
  have hclean := h.2 application hmem
  simp only [applicationViolations, List.append_eq_nil_iff, List.flatMap_eq_nil_iff] at hclean
  have hviolations := hclean.1.1.1.1.1.1.2 component hcomponent
  simp only [componentViolations, List.append_eq_nil_iff, flag_eq_nil, Bool.not_eq_false'] at hviolations
  have hservice : serviceIdentity blueprint component.serviceIdentityId = true := hviolations.1.1.2
  unfold serviceIdentity at hservice
  split at hservice
  · cases hservice
  · rename_i identity hidentity
    exact ⟨identity, hidentity, of_decide_eq_true (Bool.and_eq_true_iff.1 hservice).1⟩

theorem componentDependency_clean : ∀ {keys : List String} {dependencies : List ApplicationComponentDependency},
    componentDependencyViolations application keys dependencies = [] → ∀ dependency ∈ dependencies,
      dependency.fromComponentId ≠ dependency.toComponentId ∧
        dependency.fromComponentId ∈ application.components.map (·.id) ∧
          dependency.toComponentId ∈ application.components.map (·.id) := by
  intro keys dependencies
  induction dependencies generalizing keys with
  | nil => exact fun _ _ hmem => absurd hmem List.not_mem_nil
  | cons first rest ih =>
    intro h dependency hmem
    rw [componentDependencyViolations, List.append_eq_nil_iff] at h
    rcases List.mem_cons.1 hmem with rfl | hmem
    · have hflag := flag_eq_nil.1 h.1
      simp only [Bool.or_eq_false_iff, Bool.not_eq_false', decide_eq_false_iff_not, List.contains_iff_mem] at hflag
      exact ⟨hflag.1.1.1.1.1, hflag.1.1.1.1.2, hflag.1.1.1.2⟩
    · exact ih h.2 dependency hmem

/-- A component depends on another component of its application. -/
theorem componentDependencies_valid (h : applicationDeploymentPolicy blueprint = [])
    (hmem : application ∈ blueprint.applications) {dependency : ApplicationComponentDependency}
    (hdependency : dependency ∈ application.componentDependencies) :
    dependency.fromComponentId ≠ dependency.toComponentId ∧
      dependency.fromComponentId ∈ application.components.map (·.id) ∧
        dependency.toComponentId ∈ application.components.map (·.id) := by
  simp only [applicationDeploymentPolicy, List.append_eq_nil_iff, List.flatMap_eq_nil_iff] at h
  have hclean := h.2 application hmem
  simp only [applicationViolations, List.append_eq_nil_iff, List.flatMap_eq_nil_iff] at hclean
  exact componentDependency_clean hclean.1.1.1.1.2 dependency hdependency

/-- A dependency leads from a component of the application to another application. -/
theorem dependencies_valid (h : applicationDeploymentPolicy blueprint = [])
    (hmem : application ∈ blueprint.applications) {dependency : ApplicationDependency}
    (hdependency : dependency ∈ application.dependencies) :
    dependency.deploymentId ≠ application.id ∧ dependency.fromComponentId ∈ application.components.map (·.id) := by
  simp only [applicationDeploymentPolicy, List.append_eq_nil_iff, List.flatMap_eq_nil_iff] at h
  have hclean := h.2 application hmem
  simp only [applicationViolations, List.append_eq_nil_iff, List.flatMap_eq_nil_iff] at hclean
  have hflag := hclean.1.2 dependency hdependency
  simp only [dependencyViolations, flag_eq_nil, Bool.or_eq_false_iff, Bool.not_eq_false', decide_eq_false_iff_not,
    List.contains_iff_mem] at hflag
  exact ⟨hflag.1.1.1.1, hflag.1.1.1.2⟩

/-- The application a dependency leads to is there. -/
theorem dependencies_target (h : applicationDeploymentPolicy blueprint = [])
    (hmem : application ∈ blueprint.applications) {dependency : ApplicationDependency}
    (hdependency : dependency ∈ application.dependencies) :
    dependency.deploymentId ∈ blueprint.applications.map (·.id) := by
  simp only [applicationDeploymentPolicy, List.append_eq_nil_iff, List.flatMap_eq_nil_iff] at h
  have hclean := h.2 application hmem
  simp only [applicationViolations, List.append_eq_nil_iff, List.flatMap_eq_nil_iff] at hclean
  have hflag := hclean.1.2 dependency hdependency
  simp only [dependencyViolations, flag_eq_nil, Bool.or_eq_false_iff, Bool.not_eq_false'] at hflag
  have hhas : targetHas blueprint dependency = true := hflag.1.1.2
  unfold targetHas at hhas
  cases htarget : (applicationsById blueprint).get? dependency.deploymentId with
  | none =>
    rw [htarget] at hhas
    cases hhas
  | some target =>
    obtain ⟨source, hsource, heq⟩ := List.mem_map.1 (Record.mem_of_fromEntries_get? htarget)
    exact List.mem_map.2 ⟨source, hsource, congrArg Prod.fst heq⟩

end

end SecureSaas.Blueprint
