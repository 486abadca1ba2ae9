import SecureSaas.Codefly.ControlPlane
import SecureSaas.Js.Collect
import Mathlib.Data.List.Pairwise

/-!
# Service accounts of different roles

The identifiers of the roles are different; their labels need not be. Every namespace of a plan
holds the accounts of the platform, of a builder, of an egress proxy, or of the deployer and the
runtime of one tenant, so these are the accounts that may share a name.

* `compile_ok`: what an intent that compiles has.
* `namespaces_apart`: the namespace of the platform is none of a tenant's.
* `accounts_apart_iff`: **when different roles in one namespace have different accounts.**
-/

namespace SecureSaas.Codefly

open Js Intent

variable {rt : Runtime} {intent : PaasSecurityIntent} {plan : CodeflyPaasControlPlanePlan}
  {tenant : PaasTenantQuota} {boundary : CodeflyPaasTenantBoundaryPlan} {value other label : String}

/-! ## Labels -/

theorem dnsLabel_ok (h : dnsLabel rt value = .ok label) : normalizedLabel value ≠ [] ∧
    label.toList = if (normalizedLabel value).length ≤ 63 then normalizedLabel value
      else labelStem value ++ '-' :: labelTag rt value := by
  unfold dnsLabel at h
  dsimp only at h
  split_ifs at h with hempty hshort
  · rw [← Except.ok.inj h, String.toList_ofList, if_pos hshort]
    exact ⟨hempty, rfl⟩
  · rw [← Except.ok.inj h, String.toList_ofList, if_neg hshort]
    exact ⟨hempty, rfl⟩

/-- The texts get different labels: short ones by what is left of them, long ones by the part that
is kept or by the digest, and a short and a long one unless the short one reads like the other. -/
def Apart (rt : Runtime) (value other : String) : Prop :=
  if (normalizedLabel value).length ≤ 63 then
    if (normalizedLabel other).length ≤ 63 then normalizedLabel value ≠ normalizedLabel other
    else normalizedLabel value ≠ labelStem other ++ '-' :: labelTag rt other
  else if (normalizedLabel other).length ≤ 63 then
    labelStem value ++ '-' :: labelTag rt value ≠ normalizedLabel other
  else labelStem value ≠ labelStem other ∨ labelTag rt value ≠ labelTag rt other

theorem apart_iff {otherLabel : String} (h : dnsLabel rt value = .ok label) (hother : dnsLabel rt other = .ok otherLabel) :
    label ≠ otherLabel ↔ Apart rt value other := by
  rw [Ne, ← String.toList_inj, (dnsLabel_ok h).2, (dnsLabel_ok hother).2]
  unfold Apart
  split_ifs
  · rfl
  · rfl
  · rfl
  · rw [← not_and_or, not_iff_not]
    constructor
    · exact tagged_inj
    · rintro ⟨hstem, htag⟩
      rw [hstem, htag]

/-- A label of a text that starts with a word that is a label itself starts with that word. -/
theorem dnsLabel_starts {word : List Char} {c : Char} {rest : String} (hc : c ≠ '-')
    (hvalue : lowerDashed value = word ++ c :: lowerDashed rest) (hhead : word.head? ≠ some '-') (hnil : word ≠ [])
    (hword : collapseDashes false (word ++ [c]) = word ++ [c]) (hlength : word.length < 54)
    (h : dnsLabel rt value = .ok label) : word ++ [c] <+: label.toList := by
  have hdrop : (word ++ c :: lowerDashed rest).dropWhile (· == '-') = word ++ c :: lowerDashed rest := by
    cases word with
    | nil => exact absurd rfl hnil
    | cons d word =>
      rw [List.cons_append, List.dropWhile_cons_of_neg]
      simpa using hhead
  have hnormalized : normalizedLabel value = word ++ c :: collapseDashes false (trimEndDashes (lowerDashed rest)) := by
    unfold normalizedLabel trimDashes
    rw [hvalue, hdrop, trimEndDashes_append hc, collapseDashes_append hc, hword, List.append_assoc]
    rfl
  rw [(dnsLabel_ok h).2]
  split_ifs
  · rw [hnormalized]
    exact ⟨_, by rw [List.append_assoc]; rfl⟩
  · obtain ⟨n, hn⟩ : ∃ n, 54 - word.length = n + 1 := ⟨53 - word.length, by omega⟩
    unfold labelStem
    rw [hnormalized, List.take_append, List.take_of_length_le hlength.le, hn, List.take_succ_cons, trimEndDashes_append hc]
    exact ⟨_, by simp only [List.append_assoc, List.cons_append, List.nil_append]; rfl⟩

/-! ## Compiled plans -/

/-- What the boundary of a tenant is made of. -/
structure CompiledTenant (rt : Runtime) (intent : PaasSecurityIntent) (tenant : PaasTenantQuota) (tenantLabel : String)
    (boundary : CodeflyPaasTenantBoundaryPlan) : Prop where
  label : dnsLabel rt tenant.tenantId = .ok tenantLabel
  builderNamespace : dnsLabel rt ("codefly-build-" ++ tenantLabel ++ "-" ++ intent.environment) = .ok boundary.namespaces.builder
  runtimeNamespace : dnsLabel rt ("codefly-runtime-" ++ tenantLabel ++ "-" ++ intent.environment) = .ok boundary.namespaces.runtime
  egressNamespace : dnsLabel rt ("codefly-egress-" ++ tenantLabel ++ "-" ++ intent.environment) = .ok boundary.namespaces.egress
  deployer : serviceAccount rt intent tenantLabel .deployer = .ok boundary.serviceAccounts.deployer
  runtime : serviceAccount rt intent tenantLabel .runtime = .ok boundary.serviceAccounts.runtime
  builder : serviceAccount rt intent tenantLabel .builder = .ok boundary.serviceAccounts.builder
  egress : serviceAccount rt intent tenantLabel .egress = .ok boundary.serviceAccounts.egress
  tenantId : boundary.tenantId = tenant.tenantId
  builderRuntimeClass : boundary.builderRuntimeClass = runtimeClassOf intent.builder

theorem compileTenant_ok (h : compileTenant rt intent tenant = .ok boundary) :
    ∃ tenantLabel, CompiledTenant rt intent tenant tenantLabel boundary := by
  simp only [compileTenant, bind_ok] at h
  obtain ⟨tenantLabel, hlabel, builderNamespace, hbuilder, runtimeNamespace, hruntime, egressNamespace, hegress,
    builder, hbuilderAccount, deployer, hdeployer, runtime, hruntimeAccount, egress, hegressAccount, h⟩ := h
  obtain rfl := Except.ok.inj h
  exact ⟨tenantLabel, hlabel, hbuilder, hruntime, hegress, hdeployer, hruntimeAccount, hbuilderAccount, hegressAccount,
    rfl, rfl⟩

/-- What an intent that compiles has. -/
structure Compiled (rt : Runtime) (intent : PaasSecurityIntent) (plan : CodeflyPaasControlPlanePlan) : Prop where
  accepted : assertPaasSecurityIntent intent = .ok ()
  tenants : (rt.sortByKey (fun tenant => tenant.tenantId) intent.tenants).mapM (compileTenant rt intent) = .ok plan.tenants
  namespaces : (plan.tenants.flatMap fun tenant => tenant.namespaces.values).Nodup
  systemNamespace : dnsLabel rt ("codefly-system-" ++ intent.environment) = .ok plan.systemNamespace
  controlPlane : globalIdentity rt intent .controlPlane = .ok plan.globalServiceAccounts.controlPlane
  registry : globalIdentity rt intent .registry = .ok plan.globalServiceAccounts.registry
  audit : globalIdentity rt intent .audit = .ok plan.globalServiceAccounts.audit

/-- What an intent that compiles has. -/
theorem compile_ok (h : compileCodeflyPaasControlPlane rt intent = .ok plan) : Compiled rt intent plan := by
  simp only [compileCodeflyPaasControlPlane, bind_ok] at h
  obtain ⟨u, haccepted, tenants, htenants, h⟩ := h
  split at h
  · obtain ⟨_, h, -⟩ := bind_ok.1 h
    cases h
  · next hnodup =>
    simp only [bind_ok] at h
    obtain ⟨systemNamespace, hsystem, controlPlane, hcontrolPlane, registry, hregistry, audit, haudit, h⟩ := h
    obtain rfl := Except.ok.inj h
    exact ⟨haccepted, htenants, not_not.1 hnodup, hsystem, hcontrolPlane, hregistry, haudit⟩

/-- The names of a plane start with its first letter after `codefly-`. -/
theorem plane_starts {plane rest : String} (tail : String) (c : Char) (hplane : lowerDashed plane = "codefly-".toList ++ c :: lowerDashed tail)
    (hc : c ≠ '-') (h : dnsLabel rt (plane ++ rest) = .ok label) : "codefly-".toList ++ [c] <+: label.toList := by
  have hvalue : lowerDashed (plane ++ rest) = "codefly-".toList ++ c :: lowerDashed (tail ++ rest) := by
    rw [lowerDashed_append, lowerDashed_append, hplane, List.append_assoc]
    rfl
  have hword : collapseDashes false ("codefly-".toList ++ [c]) = "codefly-".toList ++ [c] := by
    simp [collapseDashes, hc]
  exact dnsLabel_starts hc hvalue (by decide) (by decide) hword (by decide) h

theorem starts_ne {c d : Char} {text other : String} (h : "codefly-".toList ++ [c] <+: text.toList)
    (hother : "codefly-".toList ++ [d] <+: other.toList) (hcd : c ≠ d) : text ≠ other := by
  rintro rfl
  have heq := (List.prefix_of_prefix_length_le h hother (by simp)).eq_of_length (by simp)
  exact hcd (List.singleton_inj.1 (List.append_cancel_left heq))

/-- The namespace of the platform is none of a tenant's. -/
theorem namespaces_apart {tenantLabel system : String} (h : CompiledTenant rt intent tenant tenantLabel boundary)
    (hsystem : dnsLabel rt ("codefly-system-" ++ intent.environment) = .ok system) :
    system ∉ boundary.namespaces.values := by
  have hs := plane_starts "ystem-" 's' (by decide) (by decide) hsystem
  have hbuilder := h.builderNamespace
  have hruntime := h.runtimeNamespace
  have hegress := h.egressNamespace
  rw [String.append_assoc, String.append_assoc] at hbuilder hruntime hegress
  have hb := plane_starts "uild-" 'b' (by decide) (by decide) hbuilder
  have hr := plane_starts "untime-" 'r' (by decide) (by decide) hruntime
  have he := plane_starts "gress-" 'e' (by decide) (by decide) hegress
  unfold TenantNamespaces.values
  simp only [List.mem_cons, List.not_mem_nil, or_false, not_or]
  exact ⟨starts_ne hs hb (by decide), starts_ne hs hr (by decide), starts_ne hs he (by decide)⟩

/-! ## Accounts in one namespace -/

/-- Different roles in one namespace have different accounts. -/
def AccountsApart (plan : CodeflyPaasControlPlanePlan) : Prop :=
  ∀ a ∈ plan.rendered, ∀ b ∈ plan.rendered, a.namespaceName = b.namespaceName → a.role ≠ b.role → a.name ≠ b.name

def globalRoles : List PaasIdentityRole := [.controlPlane, .registry, .audit]

/-- The identifiers of the platform's roles get different labels. -/
def GlobalApart (rt : Runtime) (intent : PaasSecurityIntent) : Prop :=
  ∀ role ∈ globalRoles, ∀ other ∈ globalRoles, role ≠ other → ∀ id otherId, identityId intent role = .ok id →
    identityId intent other = .ok otherId → Apart rt id otherId

/-- The identifiers of the deployer and the runtime get different labels for every tenant. -/
def TenantApart (rt : Runtime) (intent : PaasSecurityIntent) : Prop :=
  ∀ tenant ∈ intent.tenants, ∀ tenantLabel, dnsLabel rt tenant.tenantId = .ok tenantLabel → ∀ deployer runtime,
    identityId intent .deployer = .ok deployer → identityId intent .runtime = .ok runtime →
      Apart rt (deployer ++ "-" ++ tenantLabel) (runtime ++ "-" ++ tenantLabel)

/-- The accounts of the platform, and those of the tenants. -/
theorem rendered_cases (h : Compiled rt intent plan) {a : RenderedServiceAccount} (ha : a ∈ plan.rendered) :
    (a.namespaceName = plan.systemNamespace ∧ a.role ∈ globalRoles ∧ globalIdentity rt intent a.role = .ok a.name) ∨
      ∃ boundary ∈ plan.tenants, a ∈ boundary.rendered := by
  unfold CodeflyPaasControlPlanePlan.rendered at ha
  rw [List.mem_append, List.mem_flatMap] at ha
  obtain hglobal | htenant := ha
  · left
    simp only [List.mem_cons, List.not_mem_nil, or_false] at hglobal
    obtain rfl | rfl | rfl := hglobal
    · exact ⟨rfl, by simp [globalRoles], h.controlPlane⟩
    · exact ⟨rfl, by simp [globalRoles], h.registry⟩
    · exact ⟨rfl, by simp [globalRoles], h.audit⟩
  · exact Or.inr htenant

theorem global_rendered (h : Compiled rt intent plan) {role : PaasIdentityRole} (hrole : role ∈ globalRoles) :
    ∃ name, globalIdentity rt intent role = .ok name ∧ ⟨plan.systemNamespace, name, role, none⟩ ∈ plan.rendered := by
  simp only [globalRoles, List.mem_cons, List.not_mem_nil, or_false] at hrole
  obtain rfl | rfl | rfl := hrole
  · exact ⟨_, h.controlPlane, by simp [CodeflyPaasControlPlanePlan.rendered]⟩
  · exact ⟨_, h.registry, by simp [CodeflyPaasControlPlanePlan.rendered]⟩
  · exact ⟨_, h.audit, by simp [CodeflyPaasControlPlanePlan.rendered]⟩

theorem globalIdentity_ok {role : PaasIdentityRole} (h : globalIdentity rt intent role = .ok label) :
    ∃ id, identityId intent role = .ok id ∧ dnsLabel rt id = .ok label := bind_ok.1 h

theorem serviceAccount_ok {role : PaasIdentityRole} {tenantLabel : String}
    (h : serviceAccount rt intent tenantLabel role = .ok label) :
    ∃ id, identityId intent role = .ok id ∧ dnsLabel rt (id ++ "-" ++ tenantLabel) = .ok label := bind_ok.1 h

/-- The boundary of every tenant of the plan is that of a tenant of the intent. -/
theorem tenant_compiled (h : Compiled rt intent plan) (hmem : boundary ∈ plan.tenants) :
    ∃ tenant ∈ intent.tenants, ∃ tenantLabel, CompiledTenant rt intent tenant tenantLabel boundary := by
  obtain ⟨tenant, htenant, hcompiled⟩ := mapM_source h.tenants hmem
  exact ⟨tenant, Runtime.mem_sortByKey.1 htenant, compileTenant_ok hcompiled⟩

theorem rendered_namespace {a : RenderedServiceAccount} (ha : a ∈ boundary.rendered) :
    a.namespaceName ∈ boundary.namespaces.values := by
  unfold CodeflyPaasTenantBoundaryPlan.rendered at ha
  unfold TenantNamespaces.values
  simp only [List.mem_cons, List.not_mem_nil, or_false] at ha ⊢
  obtain rfl | rfl | rfl | rfl := ha <;> simp

/-- Two roles of a tenant in one namespace are its deployer and its runtime. -/
theorem rendered_pair {a b : RenderedServiceAccount} (hnodup : boundary.namespaces.values.Nodup)
    (ha : a ∈ boundary.rendered) (hb : b ∈ boundary.rendered) (hns : a.namespaceName = b.namespaceName)
    (hrole : a.role ≠ b.role) :
    a.name = boundary.serviceAccounts.deployer ∧ b.name = boundary.serviceAccounts.runtime ∨
      a.name = boundary.serviceAccounts.runtime ∧ b.name = boundary.serviceAccounts.deployer := by
  simp only [TenantNamespaces.values, List.nodup_cons, List.mem_cons, List.not_mem_nil, or_false, not_or] at hnodup
  obtain ⟨⟨hbr, hbe⟩, hre, -⟩ := hnodup
  unfold CodeflyPaasTenantBoundaryPlan.rendered at ha hb
  simp only [List.mem_cons, List.not_mem_nil, or_false] at ha hb
  obtain rfl | rfl | rfl | rfl := ha <;> obtain rfl | rfl | rfl | rfl := hb <;> simp_all

/-- Accounts of tenants in one namespace are those of one tenant. -/
theorem boundary_unique (h : Compiled rt intent plan) {first second : CodeflyPaasTenantBoundaryPlan}
    (hfirst : first ∈ plan.tenants) (hsecond : second ∈ plan.tenants) {name : String}
    (hname : name ∈ first.namespaces.values) (hname' : name ∈ second.namespaces.values) : first = second := by
  obtain ⟨-, hpairwise⟩ := List.nodup_flatMap.1 h.namespaces
  have hsymm : Std.Symm (Function.onFun List.Disjoint fun boundary : CodeflyPaasTenantBoundaryPlan =>
      boundary.namespaces.values) := ⟨fun _ _ hdisjoint _ hleft hright => hdisjoint hright hleft⟩
  by_contra hne
  exact hpairwise.forall hfirst hsecond hne hname hname'

theorem ids_apart (h : Compiled rt intent plan) (hapart : AccountsApart plan) : GlobalApart rt intent := by
  intro role hrole other hother hne id otherId hid hotherId
  obtain ⟨name, hname, hmem⟩ := global_rendered h hrole
  obtain ⟨otherName, hotherName, hotherMem⟩ := global_rendered h hother
  obtain ⟨id', hid', hlabel⟩ := globalIdentity_ok hname
  obtain ⟨otherId', hotherId', hotherLabel⟩ := globalIdentity_ok hotherName
  obtain rfl := Except.ok.inj (hid.symm.trans hid')
  obtain rfl := Except.ok.inj (hotherId.symm.trans hotherId')
  exact (apart_iff hlabel hotherLabel).1 (hapart _ hmem _ hotherMem rfl hne)

/-- The accounts of a tenant's deployer and runtime differ when their identifiers are apart. -/
theorem tenant_accounts {tenantLabel deployer runtime : String} (h : CompiledTenant rt intent tenant tenantLabel boundary)
    (hdeployer : identityId intent .deployer = .ok deployer) (hruntime : identityId intent .runtime = .ok runtime) :
    boundary.serviceAccounts.deployer ≠ boundary.serviceAccounts.runtime ↔
      Apart rt (deployer ++ "-" ++ tenantLabel) (runtime ++ "-" ++ tenantLabel) := by
  obtain ⟨id, hid, hname⟩ := serviceAccount_ok h.deployer
  obtain ⟨otherId, hotherId, hotherName⟩ := serviceAccount_ok h.runtime
  obtain rfl := Except.ok.inj (hdeployer.symm.trans hid)
  obtain rfl := Except.ok.inj (hruntime.symm.trans hotherId)
  exact apart_iff hname hotherName

theorem tenants_apart (h : Compiled rt intent plan) (hapart : AccountsApart plan) : TenantApart rt intent := by
  intro tenant htenant tenantLabel hlabel deployer runtime hdeployer hruntime
  obtain ⟨boundary, hmem, hboundary⟩ := mapM_ok h.tenants tenant (Runtime.mem_sortByKey.2 htenant)
  obtain ⟨tenantLabel', hcompiled⟩ := compileTenant_ok hboundary
  obtain rfl := Except.ok.inj (hlabel.symm.trans hcompiled.label)
  have hrendered : ∀ account ∈ boundary.rendered, account ∈ plan.rendered := fun account haccount =>
    List.mem_append_right _ (List.mem_flatMap.2 ⟨boundary, hmem, haccount⟩)
  have hne := hapart ⟨boundary.namespaces.runtime, boundary.serviceAccounts.deployer, .deployer, some boundary.tenantId⟩
    (hrendered _ (by simp [CodeflyPaasTenantBoundaryPlan.rendered]))
    ⟨boundary.namespaces.runtime, boundary.serviceAccounts.runtime, .runtime, some boundary.tenantId⟩
    (hrendered _ (by simp [CodeflyPaasTenantBoundaryPlan.rendered])) rfl (by simp)
  exact (tenant_accounts hcompiled hdeployer hruntime).1 hne

/-- No account of the platform is in the namespace of one of a tenant. -/
theorem rendered_apart (h : Compiled rt intent plan) {a b : RenderedServiceAccount}
    (hglobal : a.namespaceName = plan.systemNamespace) (hmem : boundary ∈ plan.tenants) (hb : b ∈ boundary.rendered) :
    a.namespaceName ≠ b.namespaceName := by
  intro hns
  obtain ⟨tenant, -, tenantLabel, hcompiled⟩ := tenant_compiled h hmem
  refine namespaces_apart hcompiled h.systemNamespace ?_
  rw [← hglobal, hns]
  exact rendered_namespace hb

/-- Two roles in the namespace of a tenant have different accounts. -/
theorem tenant_pair_apart (h : Compiled rt intent plan) (htenant : TenantApart rt intent)
    {a b : RenderedServiceAccount} (hmem : boundary ∈ plan.tenants) (ha : a ∈ boundary.rendered)
    (hb : b ∈ boundary.rendered) (hns : a.namespaceName = b.namespaceName) (hrole : a.role ≠ b.role) :
    a.name ≠ b.name := by
  have hnodup := (List.nodup_flatMap.1 h.namespaces).1 boundary hmem
  obtain ⟨tenant, htenantMem, tenantLabel, hcompiled⟩ := tenant_compiled h hmem
  obtain ⟨deployer, hdeployerId, -⟩ := serviceAccount_ok hcompiled.deployer
  obtain ⟨runtime, hruntimeId, -⟩ := serviceAccount_ok hcompiled.runtime
  have hne := (tenant_accounts hcompiled hdeployerId hruntimeId).2
    (htenant tenant htenantMem tenantLabel hcompiled.label deployer runtime hdeployerId hruntimeId)
  obtain ⟨hdeployer, hruntime⟩ | ⟨hruntime, hdeployer⟩ := rendered_pair hnodup ha hb hns hrole
  · rwa [hdeployer, hruntime]
  · rw [hdeployer, hruntime]
    exact hne.symm

/-- **When different roles in one namespace have different accounts.** -/
theorem accounts_apart_iff (hcompile : compileCodeflyPaasControlPlane rt intent = .ok plan) :
    AccountsApart plan ↔ GlobalApart rt intent ∧ TenantApart rt intent := by
  have h := compile_ok hcompile
  refine ⟨fun hapart => ⟨ids_apart h hapart, tenants_apart h hapart⟩, ?_⟩
  rintro ⟨hglobal, htenant⟩ a ha b hb hns hrole
  obtain ⟨haSystem, haRole, haName⟩ | ⟨first, hfirst, haTenant⟩ := rendered_cases h ha
  · obtain ⟨-, hbRole, hbName⟩ | ⟨second, hsecond, hbTenant⟩ := rendered_cases h hb
    · obtain ⟨id, hid, hlabel⟩ := globalIdentity_ok haName
      obtain ⟨otherId, hotherId, hotherLabel⟩ := globalIdentity_ok hbName
      exact (apart_iff hlabel hotherLabel).2 (hglobal _ haRole _ hbRole hrole _ _ hid hotherId)
    · exact absurd hns (rendered_apart h haSystem hsecond hbTenant)
  · obtain ⟨hbSystem, -, -⟩ | ⟨second, hsecond, hbTenant⟩ := rendered_cases h hb
    · exact absurd hns.symm (rendered_apart h hbSystem hfirst haTenant)
    · have hshared : a.namespaceName ∈ second.namespaces.values := by
        rw [hns]
        exact rendered_namespace hbTenant
      obtain rfl := boundary_unique h hfirst hsecond (rendered_namespace haTenant) hshared
      exact tenant_pair_apart h htenant hfirst haTenant hbTenant hns hrole

/-! ## Two roles with one account -/

/-- The reference intent with the identifier of the audit role that the control plane's label is made of. -/
def sharedIntent : PaasSecurityIntent :=
  { createSecurePaasSecurityIntent ["acme"] with
    identities := requiredRoles.map fun role =>
      { id := if role = .audit then "codefly.control-plane" else s!"codefly-{role.text}"
        role
        shortLived := true
        tenantScoped := tenantScopedRoles.contains role } }

def sharedIntentText : String :=
  String.ofList (textWith (Runtime.tabulated [] (fun _ => none) hex_nil).sortedStyle (intentValue sharedIntent))

/-- A runtime with the SHA-256 digest of the intent. -/
def sharedRuntime : Runtime :=
  Runtime.tabulated [(sharedIntentText, "28ed7bbe1db161f232a9d3cb88053ec69995ca6c9fc963b22c03f77af4d32147")] (fun _ => none)
    (by decide +kernel)

theorem sharedIntent_compiles : ∃ plan, compileCodeflyPaasControlPlane sharedRuntime sharedIntent = .ok plan :=
  exists_of_isOk (by decide +kernel)

/-- The identifiers of the control plane and of the audit role get one label. -/
theorem sharedIntent_ids : ¬ GlobalApart sharedRuntime sharedIntent := by
  intro hglobal
  have hapart := hglobal .controlPlane (by decide) .audit (by decide) (by decide) "codefly-control-plane"
    "codefly.control-plane" rfl rfl
  have hshort : (normalizedLabel "codefly-control-plane").length ≤ 63 ∧ (normalizedLabel "codefly.control-plane").length ≤ 63 := by
    decide +kernel
  unfold Apart at hapart
  rw [if_pos hshort.1, if_pos hshort.2] at hapart
  exact hapart (by decide +kernel)

/-- The condition fails for that intent: it compiles and two of its roles share an account. -/
theorem accounts_apart_shared : ∃ plan, compileCodeflyPaasControlPlane sharedRuntime sharedIntent = .ok plan ∧
    ¬ AccountsApart plan := by
  obtain ⟨plan, hcompile⟩ := sharedIntent_compiles
  exact ⟨plan, hcompile, fun hapart => sharedIntent_ids ((accounts_apart_iff hcompile).1 hapart).1⟩

/-- The audit role gets the account of the control plane. -/
theorem audit_is_controlPlane : ¬ ∀ (rt : Runtime) (intent : PaasSecurityIntent) (plan : CodeflyPaasControlPlanePlan),
    compileCodeflyPaasControlPlane rt intent = .ok plan → AccountsApart plan := by
  intro hclaim
  obtain ⟨plan, hcompile⟩ := sharedIntent_compiles
  exact sharedIntent_ids (ids_apart (compile_ok hcompile) (hclaim _ _ plan hcompile))

end SecureSaas.Codefly
