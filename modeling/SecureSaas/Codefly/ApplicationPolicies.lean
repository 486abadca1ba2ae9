import SecureSaas.Cluster
import SecureSaas.Codefly.Applications

/-!
# The network policies of applications (`src/adapters/codefly/artifactRenderer.ts`)

A deployment is rendered to its namespace and to network policies, which deny all traffic but what
other policies allow: to the target of each dependency, from each deployment that depends on this
one, and from the namespace of the ingress to the public endpoints.

* `mem_rendered`, `mem_policies`: what is rendered.
* `policies_nodup`: when the policies have different names.
* `egress_iff`, `ingress_iff`: the traffic that they let through.
* `policies_agree_iff`: **when that is the traffic of the declared dependencies**.
* `second_dependency_replaces`: two dependencies on one application get policies of one name.
-/

namespace SecureSaas.Codefly.Applications

open Js Blueprint Cluster

/-! ## Rendering -/

def renderNamespace (deployment : CodeflyDeploymentPlan) : Namespace :=
  { name := deployment.namespaceName
    labels := [("security.deus.dev/application", deployment.deploymentId), ("istio.io/dataplane-mode", "ambient"),
      ("pod-security.kubernetes.io/enforce", "restricted"), ("pod-security.kubernetes.io/enforce-version", "latest"),
      ("pod-security.kubernetes.io/audit", "restricted"), ("pod-security.kubernetes.io/warn", "restricted")] }

/-- The named port of an endpoint. -/
def endpointPort (endpoint : String) : Port := ⟨"TCP", .named endpoint⟩

def applicationSelector (deploymentId : String) : Labels := [("security.deus.dev/application", deploymentId)]

def serviceSelector (service : String) : Labels := [("app", service)]

def nameSelector (namespaceName : String) : Labels := [("kubernetes.io/metadata.name", namespaceName)]

def egressName (deploymentId : String) : String := "allow-egress-to-" ++ deploymentId

def ingressName (deploymentId : String) : String := "allow-ingress-from-" ++ deploymentId

def CodeflyModuleInterfaceExtension.text (exposed : CodeflyModuleInterfaceExtension) : String :=
  s!"{exposed.service}-{exposed.endpoint}"

def publicName (exposed : CodeflyModuleInterfaceExtension) : String := "allow-public-" ++ exposed.text

section
variable (plan : CodeflyPaasPlan) (deployment : CodeflyDeploymentPlan)

def defaultDeny : NetworkPolicy :=
  { namespaceName := deployment.namespaceName
    name := "default-deny"
    podSelector := []
    policyTypes := [.ingress, .egress]
    ingress := []
    egress := [] }

def allowDns : NetworkPolicy :=
  { namespaceName := deployment.namespaceName
    name := "allow-dns"
    podSelector := []
    policyTypes := [.egress]
    ingress := []
    egress := [⟨[⟨some (nameSelector "kube-system"), none⟩], [⟨"UDP", .number 53⟩, ⟨"TCP", .number 53⟩]⟩] }

def egressPolicy (targetId : String) (dependency : CodeflyDependencyPlan) : NetworkPolicy :=
  { namespaceName := deployment.namespaceName
    name := egressName targetId
    podSelector := []
    policyTypes := [.egress]
    ingress := []
    egress := [⟨[⟨some (applicationSelector targetId), some (serviceSelector dependency.serviceName)⟩],
      [endpointPort dependency.endpointName]⟩] }

/-- A dependency on no deployment of the plan is passed over. -/
def egressPolicies : List NetworkPolicy :=
  deployment.dependencies.filterMap fun dependency =>
    (plan.deployments.find? fun candidate => candidate.deploymentId = dependency.deploymentId).map fun target =>
      egressPolicy deployment target.deploymentId dependency

def ingressPolicy (callerId : String) (dependency : CodeflyDependencyPlan) : NetworkPolicy :=
  { namespaceName := deployment.namespaceName
    name := ingressName callerId
    podSelector := serviceSelector dependency.serviceName
    policyTypes := [.ingress]
    ingress := [⟨[⟨some (applicationSelector callerId), none⟩], [endpointPort dependency.endpointName]⟩]
    egress := [] }

/-- `caller.dependencies.find(...)`: the first dependency of the caller on the deployment. -/
def callerDependency (caller : CodeflyDeploymentPlan) : Option CodeflyDependencyPlan :=
  caller.dependencies.find? fun dependency => dependency.deploymentId = deployment.deploymentId

def callers : List CodeflyDeploymentPlan :=
  plan.deployments.filter fun candidate =>
    candidate.dependencies.any fun dependency => dependency.deploymentId = deployment.deploymentId

def callerPolicy (caller : CodeflyDeploymentPlan) : Except String NetworkPolicy :=
  match callerDependency deployment caller with
  | none => .error s!"Codefly caller '{caller.deploymentId}' has no dependency on '{deployment.deploymentId}'."
  | some dependency => .ok (ingressPolicy deployment caller.deploymentId dependency)

def publicPolicy (ingressNamespace : String) (exposed : CodeflyModuleInterfaceExtension) : NetworkPolicy :=
  { namespaceName := deployment.namespaceName
    name := publicName exposed
    podSelector := serviceSelector exposed.service
    policyTypes := [.ingress]
    ingress := [⟨[⟨some (nameSelector ingressNamespace), none⟩], [endpointPort exposed.endpoint]⟩]
    egress := [] }

/-- The endpoints that a deployment exposes to the ingress. -/
def publicEndpoints : List CodeflyModuleInterfaceExtension :=
  if deployment.ingress = .publicIngress then
    deployment.interfaceEndpoints.filter CodeflyModuleInterfaceExtension.isPublic
  else []

def publicPolicies : Except String (List NetworkPolicy) :=
  if deployment.ingress = .publicIngress then
    match truthy plan.environment.ingressNamespace with
    | none => .error s!"Codefly deployment '{deployment.deploymentId}' has public ingress without an ingress namespace."
    | some ingressNamespace => .ok ((publicEndpoints deployment).map (publicPolicy deployment ingressNamespace))
  else .ok []

def renderNetworkPolicies : Except String (List NetworkPolicy) := do
  let fromCallers ← (callers plan deployment).mapM (callerPolicy deployment)
  let fromIngress ← publicPolicies plan deployment
  .ok ([defaultDeny deployment, allowDns deployment] ++ egressPolicies plan deployment ++ fromCallers ++ fromIngress)

/-- The loop of `renderCodeflyArtifacts` over the deployments, with the modules of those before. -/
def renderDeployments : List String → List CodeflyDeploymentPlan → Except String (List NetworkPolicy)
  | _, [] => .ok []
  | moduleNames, deployment :: rest => do
    throwUnless (!moduleNames.contains deployment.moduleName)
      s!"Codefly module '{deployment.moduleName}' is bound to multiple deployments."
    let policies ← renderNetworkPolicies plan deployment
    let others ← renderDeployments (deployment.moduleName :: moduleNames) rest
    .ok (policies ++ others)

/-- The network policies of `renderCodeflyArtifacts`. -/
def renderCodeflyPolicies : Except String (List NetworkPolicy) := renderDeployments plan [] plan.deployments

end

/-! ## Traffic -/

/-- Pods of a deployment. -/
def CodeflyDeploymentPlan.pods (deployment : CodeflyDeploymentPlan) (labels : Labels) : Workload :=
  (renderNamespace deployment).pods labels

/-- The caller declares a dependency on exactly that service and endpoint of the target. -/
def Declares (caller target : CodeflyDeploymentPlan) (service endpoint : String) : Prop :=
  ∃ dependency ∈ caller.dependencies, dependency.deploymentId = target.deploymentId ∧
    dependency.serviceName = service ∧ dependency.endpointName = endpoint

/-- The policies have different names in each namespace, and let through the traffic that the
dependencies declare. -/
structure PoliciesAgree (plan : CodeflyPaasPlan) (policies : List NetworkPolicy) : Prop where
  names : (policies.map NetworkPolicy.key).Nodup
  traffic : ∀ caller ∈ plan.deployments, ∀ target ∈ plan.deployments, ∀ (callerLabels targetLabels : Labels)
    (service endpoint : String), targetLabels.lookup "app" = some service →
      (allows (applied NetworkPolicy.key policies) .egress (caller.pods callerLabels) (target.pods targetLabels)
          (endpointPort endpoint) = true ↔ Declares caller target service endpoint) ∧
        (allows (applied NetworkPolicy.key policies) .ingress (target.pods targetLabels) (caller.pods callerLabels)
          (endpointPort endpoint) = true ↔ Declares caller target service endpoint)

/-- When the policies agree with the dependencies: no application has two dependencies on the same
application, the policies of its public endpoints have different names, and an application in the
namespace of the ingress depends on every public endpoint. -/
structure DependenciesSingle (blueprint : PlatformBlueprint) (extensions : CodeflyProviderExtensions) : Prop where
  targets : ∀ application ∈ blueprint.applications, (application.dependencies.map (·.deploymentId)).Nodup
  endpoints : ∀ application ∈ blueprint.applications, application.ingress = .publicIngress →
    ∀ extension, extensions.deployments.get? application.id = some extension →
      ((extension.interfaceEndpoints.filter CodeflyModuleInterfaceExtension.isPublic).map
        CodeflyModuleInterfaceExtension.text).Nodup
  ingress : ∀ target ∈ blueprint.applications, target.ingress = .publicIngress →
    ∀ extension, extensions.deployments.get? target.id = some extension →
      ∀ exposed ∈ extension.interfaceEndpoints, exposed.isPublic = true →
        ∀ caller ∈ blueprint.applications, ∀ callerExtension,
          extensions.deployments.get? caller.id = some callerExtension →
            ∀ namespaceName, deploymentNamespace extensions.environment callerExtension = .ok namespaceName →
              extensions.environment.ingressNamespace = some namespaceName →
                ∃ dependency ∈ caller.dependencies, dependency.deploymentId = target.id ∧
                  ∃ found, dependencyEndpoint extension dependency.protocol = some found ∧
                    found.service = exposed.service ∧ found.endpoint = exposed.endpoint

/-! ## The policies of one deployment -/

section
variable {plan : CodeflyPaasPlan} {deployment : CodeflyDeploymentPlan} {policies : List NetworkPolicy}
  {policy : NetworkPolicy}

theorem callerPolicy_ok {caller : CodeflyDeploymentPlan} (h : callerPolicy deployment caller = .ok policy) :
    ∃ dependency, callerDependency deployment caller = some dependency ∧
      policy = ingressPolicy deployment caller.deploymentId dependency := by
  unfold callerPolicy at h
  split at h
  · cases h
  · rename_i dependency hdependency
    exact ⟨dependency, hdependency, (Except.ok.inj h).symm⟩

theorem callerDependency_some {caller : CodeflyDeploymentPlan} {dependency : CodeflyDependencyPlan}
    (h : callerDependency deployment caller = some dependency) :
    dependency ∈ caller.dependencies ∧ dependency.deploymentId = deployment.deploymentId := by
  unfold callerDependency at h
  exact ⟨List.mem_of_find?_eq_some h, by simpa using List.find?_some h⟩

theorem callerDependency_isSome {caller : CodeflyDeploymentPlan} (h : caller ∈ callers plan deployment) :
    ∃ dependency, callerDependency deployment caller = some dependency := by
  have hany := (List.mem_filter.1 h).2
  obtain ⟨dependency, hmem, htarget⟩ := List.any_eq_true.1 hany
  refine Option.isSome_iff_exists.1 (List.find?_isSome.2 ⟨dependency, hmem, htarget⟩)

theorem publicPolicies_ok (h : publicPolicies plan deployment = .ok policies) :
    (publicEndpoints deployment = [] ∧ policies = []) ∨
      ∃ ingressNamespace, truthy plan.environment.ingressNamespace = some ingressNamespace ∧
        policies = (publicEndpoints deployment).map (publicPolicy deployment ingressNamespace) := by
  unfold publicPolicies at h
  split_ifs at h with hpublic
  · split at h
    · cases h
    · rename_i ingressNamespace hingress
      exact Or.inr ⟨ingressNamespace, hingress, (Except.ok.inj h).symm⟩
  · refine Or.inl ⟨?_, (Except.ok.inj h).symm⟩
    unfold publicEndpoints
    rw [if_neg hpublic]

/-- A policy of a deployment is one of these. -/
inductive PolicyOf (plan : CodeflyPaasPlan) (deployment : CodeflyDeploymentPlan) : NetworkPolicy → Prop
  | deny : PolicyOf plan deployment (defaultDeny deployment)
  | dns : PolicyOf plan deployment (allowDns deployment)
  | egress {dependency : CodeflyDependencyPlan} (hdependency : dependency ∈ deployment.dependencies)
      (htarget : dependency.deploymentId ∈ plan.deployments.map (·.deploymentId)) :
      PolicyOf plan deployment (egressPolicy deployment dependency.deploymentId dependency)
  | caller {caller : CodeflyDeploymentPlan} {dependency : CodeflyDependencyPlan} (hcaller : caller ∈ plan.deployments)
      (hfirst : callerDependency deployment caller = some dependency) :
      PolicyOf plan deployment (ingressPolicy deployment caller.deploymentId dependency)
  | ingress {ingressNamespace : String} {exposed : CodeflyModuleInterfaceExtension}
      (hnamespace : truthy plan.environment.ingressNamespace = some ingressNamespace)
      (hexposed : exposed ∈ publicEndpoints deployment) :
      PolicyOf plan deployment (publicPolicy deployment ingressNamespace exposed)

theorem mem_egressPolicies : policy ∈ egressPolicies plan deployment ↔
    ∃ dependency ∈ deployment.dependencies, dependency.deploymentId ∈ plan.deployments.map (·.deploymentId) ∧
      policy = egressPolicy deployment dependency.deploymentId dependency := by
  unfold egressPolicies
  rw [List.mem_filterMap]
  constructor
  · rintro ⟨dependency, hdependency, hfound⟩
    obtain ⟨target, htarget, rfl⟩ := Option.map_eq_some_iff.1 hfound
    have hid : target.deploymentId = dependency.deploymentId := by simpa using List.find?_some htarget
    refine ⟨dependency, hdependency, List.mem_map.2 ⟨target, List.mem_of_find?_eq_some htarget, hid⟩, ?_⟩
    rw [hid]
  · rintro ⟨dependency, hdependency, htarget, rfl⟩
    obtain ⟨target, hmem, hid⟩ := List.mem_map.1 htarget
    have hsome : (plan.deployments.find? fun candidate => candidate.deploymentId = dependency.deploymentId).isSome := by
      rw [List.find?_isSome]
      exact ⟨target, hmem, decide_eq_true hid⟩
    obtain ⟨found, hfound⟩ := Option.isSome_iff_exists.1 hsome
    have hid : found.deploymentId = dependency.deploymentId := by simpa using List.find?_some hfound
    refine ⟨dependency, hdependency, Option.map_eq_some_iff.2 ⟨found, hfound, ?_⟩⟩
    rw [hid]

/-- **What is rendered for a deployment.** -/
theorem mem_rendered (h : renderNetworkPolicies plan deployment = .ok policies) :
    policy ∈ policies ↔ PolicyOf plan deployment policy := by
  obtain ⟨fromCallers, hcallers, h⟩ := bind_ok.1 h
  obtain ⟨fromIngress, hingress, h⟩ := bind_ok.1 h
  rw [← Except.ok.inj h]
  simp only [List.mem_append, mem_egressPolicies, List.mem_cons, List.not_mem_nil, or_false]
  constructor
  · rintro ((((rfl | rfl) | ⟨dependency, hdependency, htarget, rfl⟩) | hmem) | hmem)
    · exact .deny
    · exact .dns
    · exact .egress hdependency htarget
    · obtain ⟨caller, hcaller, hone⟩ := mapM_source hcallers hmem
      obtain ⟨dependency, hfirst, rfl⟩ := callerPolicy_ok hone
      exact .caller (List.mem_filter.1 hcaller).1 hfirst
    · rcases publicPolicies_ok hingress with ⟨-, rfl⟩ | ⟨ingressNamespace, hnamespace, rfl⟩
      · cases hmem
      · obtain ⟨exposed, hexposed, rfl⟩ := List.mem_map.1 hmem
        exact .ingress hnamespace hexposed
  · intro hof
    cases hof with
    | deny => exact Or.inl (Or.inl (Or.inl (Or.inl rfl)))
    | dns => exact Or.inl (Or.inl (Or.inl (Or.inr rfl)))
    | @egress dependency hdependency htarget =>
      exact Or.inl (Or.inl (Or.inr ⟨dependency, hdependency, htarget, rfl⟩))
    | @caller caller dependency hcaller hfirst =>
      have hdeclared : caller ∈ callers plan deployment := by
        obtain ⟨hmem, hid⟩ := callerDependency_some hfirst
        exact List.mem_filter.2 ⟨hcaller, List.any_eq_true.2 ⟨dependency, hmem, decide_eq_true hid⟩⟩
      obtain ⟨found, hfound, hone⟩ := mapM_ok hcallers caller hdeclared
      obtain ⟨dependency', hfirst', rfl⟩ := callerPolicy_ok hone
      obtain rfl : dependency = dependency' := Option.some.inj (hfirst.symm.trans hfirst')
      exact Or.inl (Or.inr hfound)
    | @ingress ingressNamespace exposed hnamespace hexposed =>
      rcases publicPolicies_ok hingress with ⟨hnone, -⟩ | ⟨other, hother, rfl⟩
      · rw [hnone] at hexposed
        cases hexposed
      · obtain rfl : ingressNamespace = other := Option.some.inj (hnamespace.symm.trans hother)
        exact Or.inr (List.mem_map.2 ⟨exposed, hexposed, rfl⟩)

theorem PolicyOf.namespaceName (h : PolicyOf plan deployment policy) : policy.namespaceName = deployment.namespaceName := by
  cases h <;> rfl

/-- Every deployment is rendered. -/
theorem rendered (hpublic : deployment.ingress = .publicIngress → (truthy plan.environment.ingressNamespace).isSome = true) :
    ∃ policies, renderNetworkPolicies plan deployment = .ok policies := by
  obtain ⟨fromCallers, hcallers⟩ : ∃ found, (callers plan deployment).mapM (callerPolicy deployment) = .ok found := by
    refine mapM_succeeds fun caller hcaller => ?_
    obtain ⟨dependency, hfirst⟩ := callerDependency_isSome hcaller
    refine ⟨ingressPolicy deployment caller.deploymentId dependency, ?_⟩
    unfold callerPolicy
    rw [hfirst]
  obtain ⟨fromIngress, hingress⟩ : ∃ found, publicPolicies plan deployment = .ok found := by
    unfold publicPolicies
    split_ifs with hp
    · obtain ⟨ingressNamespace, hnamespace⟩ := Option.isSome_iff_exists.1 (hpublic hp)
      rw [hnamespace]
      exact ⟨_, rfl⟩
    · exact ⟨[], rfl⟩
  exact ⟨_, bind_ok.2 ⟨fromCallers, hcallers, bind_ok.2 ⟨fromIngress, hingress, rfl⟩⟩⟩

end

/-! ## The names of the policies -/

theorem egressName_ne_ingressName (a b : String) : egressName a ≠ ingressName b :=
  append_ne (by decide) (by decide) a b

theorem egressName_ne_publicName (a : String) (exposed : CodeflyModuleInterfaceExtension) :
    egressName a ≠ publicName exposed :=
  append_ne (by decide) (by decide) a exposed.text

theorem ingressName_ne_publicName (a : String) (exposed : CodeflyModuleInterfaceExtension) :
    ingressName a ≠ publicName exposed :=
  append_ne (by decide) (by decide) a exposed.text

/-- The names that every namespace has are those of no other policies. -/
theorem fixedNames_fresh {name : String} (h : name ∈ ["default-deny", "allow-dns"]) :
    (∀ a, name ≠ egressName a) ∧ (∀ a, name ≠ ingressName a) ∧ ∀ exposed, name ≠ publicName exposed := by
  have hempty : name = name ++ "" := (String.append_empty).symm
  simp only [List.mem_cons, List.not_mem_nil, or_false] at h
  rw [hempty]
  rcases h with rfl | rfl
  · exact ⟨append_ne (by decide) (by decide) _, append_ne (by decide) (by decide) _,
      fun exposed => append_ne (by decide) (by decide) _ exposed.text⟩
  · exact ⟨append_ne (by decide) (by decide) _, append_ne (by decide) (by decide) _,
      fun exposed => append_ne (by decide) (by decide) _ exposed.text⟩

section
variable {blueprint : PlatformBlueprint} {extensions : CodeflyProviderExtensions} {plan : CodeflyPaasPlan}
  {deployment : CodeflyDeploymentPlan} {policies : List NetworkPolicy}

theorem egressPolicies_names (h : ∀ dependency ∈ deployment.dependencies,
    dependency.deploymentId ∈ plan.deployments.map (·.deploymentId)) :
    (egressPolicies plan deployment).map (·.name) = (deployment.dependencies.map (·.deploymentId)).map egressName := by
  have hall : egressPolicies plan deployment = deployment.dependencies.map fun dependency =>
      egressPolicy deployment dependency.deploymentId dependency := by
    unfold egressPolicies
    rw [← List.filterMap_eq_map]
    refine List.filterMap_congr fun dependency hdependency => ?_
    obtain ⟨target, hmem, hid⟩ := List.mem_map.1 (h dependency hdependency)
    have hsome : (plan.deployments.find? fun candidate => candidate.deploymentId = dependency.deploymentId).isSome := by
      rw [List.find?_isSome]
      exact ⟨target, hmem, decide_eq_true hid⟩
    obtain ⟨found, hfound⟩ := Option.isSome_iff_exists.1 hsome
    have hfoundId : found.deploymentId = dependency.deploymentId := by simpa using List.find?_some hfound
    rw [hfound, Option.map_some, hfoundId]
    rfl
  rw [hall, List.map_map, List.map_map]
  rfl

/-- The names of the policies of a deployment. -/
theorem rendered_names (htargets : ∀ dependency ∈ deployment.dependencies,
    dependency.deploymentId ∈ plan.deployments.map (·.deploymentId))
    (h : renderNetworkPolicies plan deployment = .ok policies) :
    policies.map (·.name) = ["default-deny", "allow-dns"] ++
      (deployment.dependencies.map (·.deploymentId)).map egressName ++
        ((callers plan deployment).map (·.deploymentId)).map ingressName ++
          (publicEndpoints deployment).map publicName := by
  obtain ⟨fromCallers, hcallers, h⟩ := bind_ok.1 h
  obtain ⟨fromIngress, hingress, h⟩ := bind_ok.1 h
  have hnames : fromCallers.map (·.name) = (callers plan deployment).map fun caller => ingressName caller.deploymentId := by
    refine mapM_map (fun caller policy hone => ?_) hcallers
    obtain ⟨dependency, -, rfl⟩ := callerPolicy_ok hone
    rfl
  have hpublic : fromIngress.map (·.name) = (publicEndpoints deployment).map publicName := by
    rcases publicPolicies_ok hingress with ⟨hnone, rfl⟩ | ⟨ingressNamespace, -, rfl⟩
    · rw [hnone]
      rfl
    · rw [List.map_map]
      rfl
  rw [← Except.ok.inj h, List.map_append, List.map_append, List.map_append, egressPolicies_names htargets, hnames, hpublic,
    List.map_map (g := ingressName)]
  rfl

/-- **When the policies of a deployment have different names.** -/
theorem rendered_nodup (hplan : CompiledPlan blueprint extensions plan) (hmem : deployment ∈ plan.deployments)
    (h : renderNetworkPolicies plan deployment = .ok policies) :
    (policies.map (·.name)).Nodup ↔ (deployment.dependencies.map (·.deploymentId)).Nodup ∧
      ((publicEndpoints deployment).map CodeflyModuleInterfaceExtension.text).Nodup := by
  have hcallers : (((callers plan deployment).map (·.deploymentId)).map ingressName).Nodup :=
    (List.nodup_map_iff (append_injective _)).2 (hplan.ids.sublist (List.filter_sublist.map _))
  have hpublic : ((publicEndpoints deployment).map publicName).Nodup ↔
      ((publicEndpoints deployment).map CodeflyModuleInterfaceExtension.text).Nodup := by
    have hmap : (publicEndpoints deployment).map publicName =
        ((publicEndpoints deployment).map CodeflyModuleInterfaceExtension.text).map ("allow-public-" ++ ·) := by
      rw [List.map_map]
      rfl
    rw [hmap]
    exact List.nodup_map_iff (append_injective _)
  have hegress : ((deployment.dependencies.map (·.deploymentId)).map egressName).Nodup ↔
      (deployment.dependencies.map (·.deploymentId)).Nodup := List.nodup_map_iff (append_injective _)
  rw [rendered_names (hplan.targets deployment hmem) h, List.nodup_append', List.nodup_append', List.nodup_append',
    hegress, hpublic]
  constructor
  · rintro ⟨⟨⟨-, htargets, -⟩, -, -⟩, hnames, -⟩
    exact ⟨htargets, hnames⟩
  · rintro ⟨htargets, hnames⟩
    refine ⟨⟨⟨by decide, htargets, ?_⟩, hcallers, ?_⟩, hnames, ?_⟩
    · intro name hfixed hegress
      obtain ⟨id, -, rfl⟩ := List.mem_map.1 hegress
      exact (fixedNames_fresh hfixed).1 id rfl
    · intro name hbefore hingress
      obtain ⟨id, -, rfl⟩ := List.mem_map.1 hingress
      rcases List.mem_append.1 hbefore with hfixed | hegress
      · exact (fixedNames_fresh hfixed).2.1 id rfl
      · obtain ⟨other, -, heq⟩ := List.mem_map.1 hegress
        exact egressName_ne_ingressName other id heq
    · intro name hbefore hexposed
      obtain ⟨exposed, -, rfl⟩ := List.mem_map.1 hexposed
      rcases List.mem_append.1 hbefore with hbefore | hingress
      · rcases List.mem_append.1 hbefore with hfixed | hegress
        · exact (fixedNames_fresh hfixed).2.2 exposed rfl
        · obtain ⟨other, -, heq⟩ := List.mem_map.1 hegress
          exact egressName_ne_publicName other exposed heq
      · obtain ⟨other, -, heq⟩ := List.mem_map.1 hingress
        exact ingressName_ne_publicName other exposed heq

end

/-! ## The policies of a plan -/

section
variable {blueprint : PlatformBlueprint} {extensions : CodeflyProviderExtensions} {plan : CodeflyPaasPlan}
  {policies : List NetworkPolicy} {policy : NetworkPolicy}

theorem namespace_eq (hplan : CompiledPlan blueprint extensions plan) {deployment other : CodeflyDeploymentPlan}
    (hmem : deployment ∈ plan.deployments) (hother : other ∈ plan.deployments)
    (h : deployment.namespaceName = other.namespaceName) : deployment = other :=
  List.inj_on_of_nodup_map hplan.namespaces hmem hother h

/-- Deployments in different namespaces have different modules. -/
theorem modules_nodup (hplan : CompiledPlan blueprint extensions plan) : (plan.deployments.map (·.moduleName)).Nodup := by
  refine List.Nodup.map_on ?_ (List.Nodup.of_map _ hplan.ids)
  intro deployment hmem other hother heq
  obtain ⟨_, -, extension, hfrom⟩ := hplan.source deployment hmem
  obtain ⟨_, -, otherExtension, hotherFrom⟩ := hplan.source other hother
  have hsame : (Except.ok deployment.namespaceName : Except String String) = .ok other.namespaceName := by
    rw [← hfrom.namespaceName, ← hotherFrom.namespaceName]
    unfold deploymentNamespace
    rw [← hfrom.moduleName, ← hotherFrom.moduleName, heq]
  exact namespace_eq hplan hmem hother (Except.ok.inj hsame)

theorem renderDeployments_collect : ∀ {moduleNames : List String} {deployments : List CodeflyDeploymentPlan}
    {policies : List NetworkPolicy}, renderDeployments plan moduleNames deployments = .ok policies →
      collect (renderNetworkPolicies plan) deployments = .ok policies := by
  intro moduleNames deployments
  induction deployments generalizing moduleNames with
  | nil => exact fun h => h
  | cons deployment rest ih =>
    intro policies h
    obtain ⟨_, -, h⟩ := bind_ok.1 h
    obtain ⟨found, hfound, h⟩ := bind_ok.1 h
    obtain ⟨others, hothers, h⟩ := bind_ok.1 h
    exact collect_cons_ok.2 ⟨found, others, hfound, ih hothers, Except.ok.inj h⟩

theorem renderDeployments_succeeds : ∀ {moduleNames : List String} {deployments : List CodeflyDeploymentPlan},
    (deployments.map (·.moduleName)).Nodup → (∀ deployment ∈ deployments, deployment.moduleName ∉ moduleNames) →
      (∀ deployment ∈ deployments, ∃ found, renderNetworkPolicies plan deployment = .ok found) →
        ∃ policies, renderDeployments plan moduleNames deployments = .ok policies := by
  intro moduleNames deployments
  induction deployments generalizing moduleNames with
  | nil => exact fun _ _ _ => ⟨[], rfl⟩
  | cons deployment rest ih =>
    intro hnodup hfresh hrendered
    obtain ⟨hfirst, hrest⟩ := List.nodup_cons.1 (List.map_cons ▸ hnodup)
    obtain ⟨found, hfound⟩ := hrendered deployment List.mem_cons_self
    obtain ⟨others, hothers⟩ : ∃ others, renderDeployments plan (deployment.moduleName :: moduleNames) rest = .ok others := by
      refine ih hrest ?_ fun other hother => hrendered other (List.mem_cons_of_mem _ hother)
      intro other hother hmem
      rcases List.mem_cons.1 hmem with heq | hmem
      · exact hfirst (List.mem_map.2 ⟨other, hother, heq⟩)
      · exact hfresh other (List.mem_cons_of_mem _ hother) hmem
    have hnew : (!moduleNames.contains deployment.moduleName) = true := by
      simpa using hfresh deployment List.mem_cons_self
    exact ⟨found ++ others, bind_ok.2 ⟨(), throwUnless_ok.2 hnew, bind_ok.2 ⟨found, hfound,
      bind_ok.2 ⟨others, hothers, rfl⟩⟩⟩⟩

/-- **A compiled plan is rendered.** -/
theorem renderCodeflyPolicies_succeeds (hplan : CompiledPlan blueprint extensions plan) :
    ∃ policies, renderCodeflyPolicies plan = .ok policies :=
  renderDeployments_succeeds (modules_nodup hplan) (fun _ _ => List.not_mem_nil)
    fun deployment hmem => rendered (hplan.ingress deployment hmem)

theorem mem_policies (h : renderCodeflyPolicies plan = .ok policies) :
    policy ∈ policies ↔ ∃ deployment ∈ plan.deployments, PolicyOf plan deployment policy := by
  rw [mem_collect (renderDeployments_collect h)]
  constructor
  · rintro ⟨deployment, hmem, found, hfound, hpolicy⟩
    exact ⟨deployment, hmem, (mem_rendered hfound).1 hpolicy⟩
  · rintro ⟨deployment, hmem, hof⟩
    obtain ⟨found, hfound, -⟩ := collect_round (renderDeployments_collect h) hmem
    exact ⟨deployment, hmem, found, hfound, (mem_rendered hfound).2 hof⟩

/-- **When the policies have different names in every namespace.** -/
theorem policies_nodup (hplan : CompiledPlan blueprint extensions plan) (h : renderCodeflyPolicies plan = .ok policies) :
    (policies.map NetworkPolicy.key).Nodup ↔ ∀ deployment ∈ plan.deployments,
      (deployment.dependencies.map (·.deploymentId)).Nodup ∧
        ((publicEndpoints deployment).map CodeflyModuleInterfaceExtension.text).Nodup := by
  have hcollect := renderDeployments_collect h
  have hkeys : ∀ deployment ∈ plan.deployments, ∀ found, renderNetworkPolicies plan deployment = .ok found →
      ((found.map NetworkPolicy.key).Nodup ↔ (deployment.dependencies.map (·.deploymentId)).Nodup ∧
        ((publicEndpoints deployment).map CodeflyModuleInterfaceExtension.text).Nodup) := by
    intro deployment hmem found hfound
    have hmap : found.map NetworkPolicy.key = (found.map (·.name)).map (Prod.mk deployment.namespaceName) := by
      rw [List.map_map]
      refine List.map_congr_left fun policy hpolicy => ?_
      show (policy.namespaceName, policy.name) = (deployment.namespaceName, policy.name)
      rw [((mem_rendered hfound).1 hpolicy).namespaceName]
    rw [hmap, List.nodup_map_iff (Prod.mk_right_injective _), rendered_nodup hplan hmem hfound]
  have howner : ∀ deployment ∈ plan.deployments, ∀ found, renderNetworkPolicies plan deployment = .ok found →
      ∀ policy ∈ found, (NetworkPolicy.key policy).1 = deployment.namespaceName :=
    fun deployment _ found hfound policy hpolicy => ((mem_rendered hfound).1 hpolicy).namespaceName
  rw [collect_nodup hcollect howner hplan.namespaces]
  constructor
  · intro hall deployment hmem
    obtain ⟨found, hfound, -⟩ := collect_round hcollect hmem
    exact (hkeys deployment hmem found hfound).1 (hall deployment hmem found hfound)
  · intro hall deployment hmem found hfound
    exact (hkeys deployment hmem found hfound).2 (hall deployment hmem)

/-! ## What the policies let through -/

theorem pods_application {deployment : CodeflyDeploymentPlan} {labels : Labels} {deploymentId : String} :
    selects (applicationSelector deploymentId) (deployment.pods labels).namespaceLabels = true ↔
      deployment.deploymentId = deploymentId := by
  rw [applicationSelector, selects_singleton]
  simp [CodeflyDeploymentPlan.pods, Namespace.pods, renderNamespace, List.lookup_cons]

theorem pods_name {deployment : CodeflyDeploymentPlan} {labels : Labels} {namespaceName : String} :
    selects (nameSelector namespaceName) (deployment.pods labels).namespaceLabels = true ↔
      deployment.namespaceName = namespaceName := by
  rw [nameSelector, selects_singleton]
  simp [CodeflyDeploymentPlan.pods, Namespace.pods, renderNamespace]

theorem governs_of_mem (hplan : CompiledPlan blueprint extensions plan) (h : renderCodeflyPolicies plan = .ok policies)
    {deployment : CodeflyDeploymentPlan} (hmem : deployment ∈ plan.deployments) {labels : Labels} {direction : Direction}
    (hpolicy : policy ∈ policies) (hgoverns : policy.governs direction (deployment.pods labels) = true) :
    PolicyOf plan deployment policy ∧ selects policy.podSelector labels = true ∧ direction ∈ policy.policyTypes := by
  unfold NetworkPolicy.governs at hgoverns
  simp only [Bool.and_eq_true, decide_eq_true_eq, List.contains_iff_mem] at hgoverns
  obtain ⟨⟨hns, hselects⟩, hdirection⟩ := hgoverns
  obtain ⟨owner, howner, hof⟩ := (mem_policies h).1 hpolicy
  obtain rfl : owner = deployment := namespace_eq hplan howner hmem (hof.namespaceName.symm.trans hns)
  exact ⟨hof, hselects, hdirection⟩

theorem governs_of_policy {deployment : CodeflyDeploymentPlan} {labels : Labels} {direction : Direction}
    (hof : PolicyOf plan deployment policy) (hselects : selects policy.podSelector labels = true)
    (hdirection : direction ∈ policy.policyTypes) : policy.governs direction (deployment.pods labels) = true := by
  unfold NetworkPolicy.governs
  simp only [Bool.and_eq_true, decide_eq_true_eq, List.contains_iff_mem]
  exact ⟨⟨hof.namespaceName, hselects⟩, hdirection⟩

/-- A deployment whose traffic is denied by default lets through what some policy of it admits. -/
theorem allows_deployment (hplan : CompiledPlan blueprint extensions plan) (h : renderCodeflyPolicies plan = .ok policies)
    {deployment : CodeflyDeploymentPlan} (hmem : deployment ∈ plan.deployments) {labels : Labels} {direction : Direction}
    {peer : Workload} {port : Port} :
    allows policies direction (deployment.pods labels) peer port = true ↔ ∃ policy, PolicyOf plan deployment policy ∧
      selects policy.podSelector labels = true ∧ direction ∈ policy.policyTypes ∧
        ∃ rule ∈ policy.rules direction, rule.admits deployment.namespaceName peer port = true := by
  have hdeny : defaultDeny deployment ∈ policies := (mem_policies h).2 ⟨deployment, hmem, .deny⟩
  have hboth : direction ∈ (defaultDeny deployment).policyTypes := by
    cases direction <;> simp [defaultDeny]
  rw [allows_iff hdeny (governs_of_policy (.deny : PolicyOf plan deployment _) rfl hboth)]
  constructor
  · rintro ⟨policy, hpolicy, hgoverns, rule, hrule, hadmits⟩
    obtain ⟨hof, hselects, hdirection⟩ := governs_of_mem hplan h hmem hpolicy hgoverns
    rw [hof.namespaceName] at hadmits
    exact ⟨policy, hof, hselects, hdirection, rule, hrule, hadmits⟩
  · rintro ⟨policy, hof, hselects, hdirection, rule, hrule, hadmits⟩
    rw [← hof.namespaceName] at hadmits
    exact ⟨policy, (mem_policies h).2 ⟨deployment, hmem, hof⟩, governs_of_policy hof hselects hdirection, rule, hrule,
      hadmits⟩

/-- Policies with different names all stay. -/
theorem allows_applied (hnames : (policies.map NetworkPolicy.key).Nodup) {direction : Direction} {workload peer : Workload}
    {port : Port} : allows (applied NetworkPolicy.key policies) direction workload peer port =
      allows policies direction workload peer port := by
  rw [applied_of_nodup hnames]

/-- **Egress is that of the dependencies.** -/
theorem egress_iff (hplan : CompiledPlan blueprint extensions plan) (h : renderCodeflyPolicies plan = .ok policies)
    {caller target : CodeflyDeploymentPlan} (hcaller : caller ∈ plan.deployments) {callerLabels targetLabels : Labels}
    {service endpoint : String} (hservice : targetLabels.lookup "app" = some service) :
    allows policies .egress (caller.pods callerLabels) (target.pods targetLabels) (endpointPort endpoint) = true ↔
      Declares caller target service endpoint := by
  rw [allows_deployment hplan h hcaller]
  constructor
  · rintro ⟨policy, hof, -, hegress, rule, hrule, hadmits⟩
    cases hof with
    | deny => cases hrule
    | dns =>
      -- the port of the name service is a number
      obtain rfl := List.mem_singleton.1 hrule
      simp [Rule.admits, endpointPort] at hadmits
    | @egress dependency hdependency _ =>
      obtain rfl := List.mem_singleton.1 hrule
      obtain ⟨hpeer, hport⟩ := Rule.admits_singleton.1 hadmits
      obtain ⟨hnamespace, hpods⟩ := Peer.covers_selected.1 hpeer
      have hname := selects_singleton.1 (hpods _ rfl)
      have hlabels : (target.pods targetLabels).labels = targetLabels := rfl
      rw [hlabels, hservice] at hname
      have hendpoint : endpoint = dependency.endpointName := by simpa [endpointPort] using hport
      exact ⟨dependency, hdependency, (pods_application.1 hnamespace).symm, (Option.some.inj hname).symm, hendpoint.symm⟩
    | caller => simp [ingressPolicy] at hegress
    | ingress => simp [publicPolicy] at hegress
  · rintro ⟨dependency, hdependency, hid, rfl, rfl⟩
    refine ⟨_, .egress hdependency (hplan.targets caller hcaller dependency hdependency), rfl, List.mem_cons_self, _,
      List.mem_cons_self, ?_⟩
    refine Rule.admits_singleton.2 ⟨Peer.covers_selected.2 ⟨pods_application.2 hid.symm, ?_⟩, rfl⟩
    intro labels hlabels
    obtain rfl := Option.mem_some_iff.1 hlabels
    exact selects_singleton.2 hservice

/-- **Ingress is that of the first dependency of each caller, and of the namespace of the ingress.** -/
theorem ingress_iff (hplan : CompiledPlan blueprint extensions plan) (h : renderCodeflyPolicies plan = .ok policies)
    {caller target : CodeflyDeploymentPlan} (hcaller : caller ∈ plan.deployments) (htarget : target ∈ plan.deployments)
    {callerLabels targetLabels : Labels} {service endpoint : String} (hservice : targetLabels.lookup "app" = some service) :
    allows policies .ingress (target.pods targetLabels) (caller.pods callerLabels) (endpointPort endpoint) = true ↔
      (∃ dependency, callerDependency target caller = some dependency ∧ dependency.serviceName = service ∧
          dependency.endpointName = endpoint) ∨
        ∃ exposed ∈ publicEndpoints target, truthy plan.environment.ingressNamespace = some caller.namespaceName ∧
          exposed.service = service ∧ exposed.endpoint = endpoint := by
  rw [allows_deployment hplan h htarget]
  constructor
  · rintro ⟨policy, hof, hselects, hingress, rule, hrule, hadmits⟩
    cases hof with
    | deny => cases hrule
    | dns => simp [allowDns] at hingress
    | egress => simp [egressPolicy] at hingress
    | @caller other dependency hother hfirst =>
      obtain rfl := List.mem_singleton.1 hrule
      obtain ⟨hpeer, hport⟩ := Rule.admits_singleton.1 hadmits
      have hid := pods_application.1 (Peer.covers_selected.1 hpeer).1
      obtain rfl : caller = other := List.inj_on_of_nodup_map hplan.ids hcaller hother hid
      have hname := (selects_singleton.1 hselects).symm.trans hservice
      have hendpoint : endpoint = dependency.endpointName := by simpa [endpointPort] using hport
      exact Or.inl ⟨dependency, hfirst, Option.some.inj hname, hendpoint.symm⟩
    | @ingress ingressNamespace exposed hnamespace hexposed =>
      obtain rfl := List.mem_singleton.1 hrule
      obtain ⟨hpeer, hport⟩ := Rule.admits_singleton.1 hadmits
      have hcallerNamespace := pods_name.1 (Peer.covers_selected.1 hpeer).1
      have hname := (selects_singleton.1 hselects).symm.trans hservice
      have hendpoint : endpoint = exposed.endpoint := by simpa [endpointPort] using hport
      rw [← hcallerNamespace] at hnamespace
      exact Or.inr ⟨exposed, hexposed, hnamespace, Option.some.inj hname, hendpoint.symm⟩
  · rintro (⟨dependency, hfirst, rfl, rfl⟩ | ⟨exposed, hexposed, hnamespace, rfl, rfl⟩)
    · refine ⟨_, .caller hcaller hfirst, selects_singleton.2 hservice, List.mem_cons_self, _, List.mem_cons_self, ?_⟩
      exact Rule.admits_singleton.2 ⟨Peer.covers_selected.2 ⟨pods_application.2 rfl, fun _ hnone => nomatch hnone⟩, rfl⟩
    · refine ⟨_, .ingress hnamespace hexposed, selects_singleton.2 hservice, List.mem_cons_self, _, List.mem_cons_self, ?_⟩
      exact Rule.admits_singleton.2 ⟨Peer.covers_selected.2 ⟨pods_name.2 rfl, fun _ hnone => nomatch hnone⟩, rfl⟩

/-! ## When the policies agree with the dependencies -/

/-- The condition `DependenciesSingle` on the deployments that a plan has. -/
structure PlanSingle (plan : CodeflyPaasPlan) : Prop where
  names : ∀ deployment ∈ plan.deployments, (deployment.dependencies.map (·.deploymentId)).Nodup ∧
    ((publicEndpoints deployment).map CodeflyModuleInterfaceExtension.text).Nodup
  ingress : ∀ target ∈ plan.deployments, ∀ exposed ∈ publicEndpoints target, ∀ caller ∈ plan.deployments,
    truthy plan.environment.ingressNamespace = some caller.namespaceName →
      Declares caller target exposed.service exposed.endpoint

/-- Where the dependencies of a deployment have different targets, the first one on a target is each. -/
theorem callerDependency_iff {caller target : CodeflyDeploymentPlan}
    (hnodup : (caller.dependencies.map (·.deploymentId)).Nodup) {dependency : CodeflyDependencyPlan} :
    callerDependency target caller = some dependency ↔
      dependency ∈ caller.dependencies ∧ dependency.deploymentId = target.deploymentId := by
  refine ⟨callerDependency_some, ?_⟩
  rintro ⟨hmem, hid⟩
  have hsome : (callerDependency target caller).isSome := by
    unfold callerDependency
    rw [List.find?_isSome]
    exact ⟨dependency, hmem, decide_eq_true hid⟩
  obtain ⟨first, hfirst⟩ := Option.isSome_iff_exists.1 hsome
  obtain ⟨hfirstMem, hfirstId⟩ := callerDependency_some hfirst
  rw [hfirst, List.inj_on_of_nodup_map hnodup hfirstMem hmem (hfirstId.trans hid.symm)]

theorem agree_iff_plan (hplan : CompiledPlan blueprint extensions plan) (h : renderCodeflyPolicies plan = .ok policies) :
    PoliciesAgree plan policies ↔ PlanSingle plan := by
  constructor
  · intro hagree
    refine ⟨(policies_nodup hplan h).1 hagree.names, ?_⟩
    intro target htarget exposed hexposed caller hcaller hnamespace
    have hservice : [("app", exposed.service)].lookup "app" = some exposed.service := List.lookup_cons_self
    obtain ⟨-, hingress⟩ := hagree.traffic caller hcaller target htarget [] [("app", exposed.service)] exposed.service
      exposed.endpoint hservice
    refine hingress.1 ?_
    rw [allows_applied hagree.names]
    refine (ingress_iff hplan h hcaller htarget hservice).2 (Or.inr ?_)
    exact ⟨exposed, hexposed, hnamespace, rfl, rfl⟩
  · intro hsingle
    have hnames := (policies_nodup hplan h).2 hsingle.names
    refine ⟨hnames, ?_⟩
    intro caller hcaller target htarget callerLabels targetLabels service endpoint hservice
    rw [allows_applied hnames, allows_applied hnames]
    refine ⟨egress_iff hplan h hcaller hservice, ?_⟩
    rw [ingress_iff hplan h hcaller htarget hservice]
    constructor
    · rintro (⟨dependency, hfirst, hname, hendpoint⟩ | ⟨exposed, hexposed, hnamespace, rfl, rfl⟩)
      · obtain ⟨hmem, hid⟩ := callerDependency_some hfirst
        exact ⟨dependency, hmem, hid, hname, hendpoint⟩
      · exact hsingle.ingress target htarget exposed hexposed caller hcaller hnamespace
    · rintro ⟨dependency, hmem, hid, hname, hendpoint⟩
      exact Or.inl ⟨dependency, (callerDependency_iff (hsingle.names caller hcaller).1).2 ⟨hmem, hid⟩, hname, hendpoint⟩

theorem publicEndpoints_perm {application : ApplicationDeployment} {extension : CodeflyDeploymentExtension}
    {deployment : CodeflyDeploymentPlan} (hfrom : CompiledFrom extensions application extension deployment)
    (hpublic : application.ingress = .publicIngress) :
    (publicEndpoints deployment).Perm (extension.interfaceEndpoints.filter CodeflyModuleInterfaceExtension.isPublic) := by
  unfold publicEndpoints
  rw [if_pos (hfrom.ingress.trans hpublic)]
  exact hfrom.interfaceEndpoints.filter _

theorem truthy_some {text : Option String} {value : String} (h : truthy text = some value) : text = some value := by
  exact (Option.filter_eq_some_iff.1 h).1

/-- The declared dependencies of the deployments are those of the applications. -/
theorem declares_iff {caller target : ApplicationDeployment} {callerExtension targetExtension : CodeflyDeploymentExtension}
    {callerDeployment targetDeployment : CodeflyDeploymentPlan} {service endpoint : String}
    (hcaller : CompiledFrom extensions caller callerExtension callerDeployment)
    (htarget : CompiledFrom extensions target targetExtension targetDeployment) :
    Declares callerDeployment targetDeployment service endpoint ↔
      ∃ dependency ∈ caller.dependencies, dependency.deploymentId = target.id ∧
        ∃ found, dependencyEndpoint targetExtension dependency.protocol = some found ∧ found.service = service ∧
          found.endpoint = endpoint := by
  constructor
  · rintro ⟨compiled, hcompiled, hid, hservice, hendpoint⟩
    obtain ⟨dependency, hdependency, hresolved⟩ := hcaller.resolved compiled hcompiled
    have htargetId : dependency.deploymentId = target.id := by
      rw [← hresolved.deploymentId, hid, htarget.deploymentId]
    obtain ⟨extension, found, hextension, hfound, hfoundService, hfoundEndpoint⟩ := hresolved.endpoint
    rw [htargetId, htarget.provided] at hextension
    obtain rfl := Option.some.inj hextension
    exact ⟨dependency, hdependency, htargetId, found, hfound, hfoundService.symm.trans hservice,
      hfoundEndpoint.symm.trans hendpoint⟩
  · rintro ⟨dependency, hdependency, hid, found, hfound, rfl, rfl⟩
    obtain ⟨compiled, hcompiled, hresolved⟩ := hcaller.resolves dependency hdependency
    obtain ⟨extension, other, hextension, hother, hservice, hendpoint⟩ := hresolved.endpoint
    rw [hid, htarget.provided] at hextension
    obtain rfl := Option.some.inj hextension
    obtain rfl : found = other := Option.some.inj (hfound.symm.trans hother)
    exact ⟨compiled, hcompiled, hresolved.deploymentId.trans (hid.trans htarget.deploymentId.symm), hservice, hendpoint⟩

theorem plan_iff_single (hplan : CompiledPlan blueprint extensions plan) :
    PlanSingle plan ↔ DependenciesSingle blueprint extensions := by
  constructor
  · intro hsingle
    constructor
    · intro application happlication
      obtain ⟨deployment, hmem, extension, hfrom⟩ := hplan.compiled application happlication
      exact hfrom.dependencyIds.nodup_iff.1 (hsingle.names deployment hmem).1
    · intro application happlication hpublic extension hextension
      obtain ⟨deployment, hmem, _, hfrom⟩ := hplan.compiled application happlication
      obtain rfl := Option.some.inj (hextension.symm.trans hfrom.provided)
      exact ((publicEndpoints_perm hfrom hpublic).map _).nodup_iff.1 (hsingle.names deployment hmem).2
    · intro target htarget hpublic extension hextension exposed hexposed hvisible caller hcaller callerExtension
        hcallerExtension namespaceName hnamespace hingress
      obtain ⟨deployment, hmem, _, hfrom⟩ := hplan.compiled target htarget
      obtain rfl := Option.some.inj (hextension.symm.trans hfrom.provided)
      obtain ⟨callerDeployment, hcallerMem, _, hcallerFrom⟩ := hplan.compiled caller hcaller
      obtain rfl := Option.some.inj (hcallerExtension.symm.trans hcallerFrom.provided)
      have hexposedPublic : exposed ∈ publicEndpoints deployment :=
        (publicEndpoints_perm hfrom hpublic).mem_iff.2 (List.mem_filter.2 ⟨hexposed, hvisible⟩)
      -- the ingress of a public deployment has a namespace, so it is this one
      obtain ⟨ingressNamespace, htruthy⟩ :=
        Option.isSome_iff_exists.1 (hplan.ingress deployment hmem (hfrom.ingress.trans hpublic))
      have hname : callerDeployment.namespaceName = namespaceName :=
        Except.ok.inj (hcallerFrom.namespaceName.symm.trans hnamespace)
      have hsame : ingressNamespace = callerDeployment.namespaceName := by
        have hsome := truthy_some htruthy
        rw [hplan.environment, hingress] at hsome
        rw [hname, Option.some.inj hsome]
      refine (declares_iff hcallerFrom hfrom).1 (hsingle.ingress deployment hmem exposed hexposedPublic callerDeployment
        hcallerMem ?_)
      rw [htruthy, hsame]
  · intro hsingle
    constructor
    · intro deployment hmem
      obtain ⟨application, happlication, extension, hfrom⟩ := hplan.source deployment hmem
      refine ⟨hfrom.dependencyIds.nodup_iff.2 (hsingle.targets application happlication), ?_⟩
      by_cases hpublic : application.ingress = .publicIngress
      · exact ((publicEndpoints_perm hfrom hpublic).map _).nodup_iff.2
          (hsingle.endpoints application happlication hpublic extension hfrom.provided)
      · unfold publicEndpoints
        rw [if_neg fun hingress => hpublic (hfrom.ingress.symm.trans hingress)]
        exact List.nodup_nil
    · intro target htarget exposed hexposed caller hcaller hnamespace
      obtain ⟨application, happlication, extension, hfrom⟩ := hplan.source target htarget
      obtain ⟨callerApplication, hcallerApplication, callerExtension, hcallerFrom⟩ := hplan.source caller hcaller
      have hpublic : application.ingress = .publicIngress := by
        by_contra hother
        unfold publicEndpoints at hexposed
        rw [if_neg fun hingress => hother (hfrom.ingress.symm.trans hingress)] at hexposed
        cases hexposed
      obtain ⟨hexposedMem, hvisible⟩ := List.mem_filter.1 ((publicEndpoints_perm hfrom hpublic).mem_iff.1 hexposed)
      have hingress := truthy_some hnamespace
      rw [hplan.environment] at hingress
      exact (declares_iff hcallerFrom hfrom).2 (hsingle.ingress application happlication hpublic extension hfrom.provided
        exposed hexposedMem hvisible callerApplication hcallerApplication callerExtension hcallerFrom.provided
        caller.namespaceName hcallerFrom.namespaceName hingress)

/-- **The policies agree with the declared dependencies exactly if** no application has two
dependencies on the same application, the policies of public endpoints have different names and
what is deployed to the namespace of the ingress depends on the public endpoints. -/
theorem policies_agree_iff {rt : Runtime} {dates : Dates}
    (h : compileCodeflyApplications rt dates blueprint extensions = .ok plan) :
    (∃ policies, renderCodeflyPolicies plan = .ok policies ∧ PoliciesAgree plan policies) ↔
      DependenciesSingle blueprint extensions := by
  have hplan := compile_ok h
  rw [← plan_iff_single hplan]
  constructor
  · rintro ⟨policies, hpolicies, hagree⟩
    exact (agree_iff_plan hplan hpolicies).1 hagree
  · intro hsingle
    obtain ⟨policies, hpolicies⟩ := renderCodeflyPolicies_succeeds hplan
    exact ⟨policies, hpolicies, (agree_iff_plan hplan hpolicies).2 hsingle⟩

end

/-! ## Two dependencies on one application -/

def plainRuntime : Runtime := .tabulated [] (fun _ => none) hex_nil

def sampleApplication (id : String) (dependencies : List ApplicationDependency) : ApplicationDeployment :=
  { id := id
    workloadPlaneId := "runtime"
    serviceIdentityId := id ++ "-identity"
    tenantScope := .dedicated "a"
    dataBoundaryIds := []
    ingress := .none
    components := [⟨"main", "runtime", id ++ "-main-identity", [], .none, ⟨2, 1⟩⟩]
    componentDependencies := []
    dependencies := dependencies
    availability := ⟨2, 1⟩
    release := ⟨true, true, true, true⟩ }

def onOrders (protocol : DependencyProtocol) : ApplicationDependency :=
  ⟨"orders", "main", "main", protocol, .workloadIdentity, "orders", ["read"]⟩

/-- A shop that depends on the orders with each of the protocols. -/
def shopBlueprint (protocols : List DependencyProtocol) : PlatformBlueprint :=
  { sampleBlueprint [] [] with
    posture := ⟨true, false, true, 30⟩
    requiredCapabilities := [.workloadIdentity, .privateControlPlane]
    workloadPlanes := [⟨"runtime", "app", .dedicated "a", .trusted, .managedKubernetes, .container, false, true,
      .workloadIdentity, none⟩]
    applications := [sampleApplication "shop" (protocols.map onOrders), sampleApplication "orders" []]
    identities := ["shop-identity", "shop-main-identity", "orders-identity", "orders-main-identity"].map fun id =>
      ⟨id, .workload, none, true⟩
    evidenceSinks := [⟨"audit", true, 30, .platform⟩]
    evidenceRequirements := [⟨"releases", ["shop", "orders"], "audit", ["deployment", "authorization"]⟩] }

def sampleAgent : CodeflyAgentExtension := ⟨"go", "1.0.0", "codefly"⟩

/-- A module with one service for each protocol. -/
def sampleExtension (moduleName : String) : CodeflyDeploymentExtension :=
  { moduleName := moduleName
    services := ["api", "events"]
    images := Record.fromEntries (["api", "events"].map fun service =>
      (service, "registry/" ++ service ++ "@sha256:" ++ zeroDigest))
    serviceDefinitions := Record.fromEntries [("api", ⟨sampleAgent, [⟨"web", .rest, .moduleEndpoint⟩], none⟩),
      ("events", ⟨sampleAgent, [⟨"stream", .grpc, .moduleEndpoint⟩], none⟩)]
    interfaceEndpoints := [⟨"api", "web", .moduleInterface⟩, ⟨"events", "stream", .moduleInterface⟩]
    dependencyConsumerService := "api"
    serviceAccountAnnotations := none }

def sampleExtensions : CodeflyProviderExtensions :=
  { environment := ⟨"prod", .eks, "registry", "acme", none⟩
    deployments := Record.fromEntries [("shop", sampleExtension "shop"), ("orders", sampleExtension "orders")] }

theorem shop_compiles (protocols : List DependencyProtocol) (h : protocols = [.https] ∨ protocols = [.https, .grpc]) :
    ∃ plan, compileCodeflyApplications plainRuntime sampleDates (shopBlueprint protocols) sampleExtensions = .ok plan := by
  apply exists_of_isOk
  rcases h with rfl | rfl <;> decide +kernel

/-- With one protocol the policies agree. -/
theorem policies_agree_sample : ∃ plan,
    compileCodeflyApplications plainRuntime sampleDates (shopBlueprint [.https]) sampleExtensions = .ok plan ∧
      ∃ policies, renderCodeflyPolicies plan = .ok policies ∧ PoliciesAgree plan policies := by
  obtain ⟨plan, hplan⟩ := shop_compiles [.https] (Or.inl rfl)
  refine ⟨plan, hplan, (policies_agree_iff hplan).2 ⟨by decide, ?_, ?_⟩⟩
  · intro application happlication hpublic
    have hnone : ∀ application ∈ (shopBlueprint [.https]).applications, application.ingress = .none := by decide
    rw [hnone application happlication] at hpublic
    cases hpublic
  · intro target htarget hpublic
    have hnone : ∀ application ∈ (shopBlueprint [.https]).applications, application.ingress = .none := by decide
    rw [hnone target htarget] at hpublic
    cases hpublic

/-- **The second dependency takes the place of the first one** in the caller's namespace, while the
target lets in the traffic of the first one. -/
theorem second_dependency_replaces :
    ¬ ∀ (rt : Runtime) (dates : Dates) (blueprint : PlatformBlueprint) (extensions : CodeflyProviderExtensions)
      (plan : CodeflyPaasPlan), compileCodeflyApplications rt dates blueprint extensions = .ok plan →
        ∃ policies, renderCodeflyPolicies plan = .ok policies ∧ PoliciesAgree plan policies := by
  intro h
  obtain ⟨plan, hcompiled⟩ := shop_compiles [.https, .grpc] (Or.inr rfl)
  obtain ⟨policies, hpolicies, hagree⟩ := h _ _ _ _ plan hcompiled
  have hplan := compile_ok hcompiled
  have hsingle := (plan_iff_single hplan).1 ((agree_iff_plan hplan hpolicies).1 hagree)
  have hnodup : (([.https, .grpc] : List DependencyProtocol).map fun protocol => (onOrders protocol).deploymentId).Nodup :=
    hsingle.targets (sampleApplication "shop" ([.https, .grpc].map onOrders)) List.mem_cons_self
  exact absurd hnodup (by decide)

end SecureSaas.Codefly.Applications
