import SecureSaas.Codefly.PaasManifests
import SecureSaas.Codefly.ServiceAccounts

/-!
# The artifacts of different tenants

The namespaces of the tenants are compared with each other when a plan is compiled, and two tenants
with one label would share them, so no two tenants have one directory. The names of objects are
labels; the name of a tenant's rule is put before its label and may be too long.

* `dnsLabel_rfc1123`: a label is one of RFC 1123.
* `labels_apart`: tenants of a compiled plan have different labels.
* `paths_nodup`: no file is written twice.
* `artifacts_sound_iff`: **when all names of the artifacts are labels**.
-/

namespace SecureSaas.Codefly.Paas

open Js Intent Cluster

variable {rt : Runtime} {intent : PaasSecurityIntent} {plan : CodeflyPaasControlPlanePlan}
  {tenant boundary : CodeflyPaasTenantBoundaryPlan} {value label : String}

/-! ## Labels of RFC 1123 -/

/-- `/^[a-z0-9](?:[a-z0-9-]*[a-z0-9])?$/` of at most 63 characters. -/
def isRfc1123Label (name : String) : Bool :=
  decide (name.toList.length ≤ 63) && name.toList.all isLabelChar && name.toList.head?.any isLowerAlnum &&
    name.toList.getLast?.any isLowerAlnum

theorem isLowerAlnum_of_label {c : Char} (h : isLabelChar c = true) (hdash : c ≠ '-') : isLowerAlnum c = true := by
  unfold isLabelChar at h
  rw [Bool.or_eq_true, beq_iff_eq] at h
  exact h.resolve_right hdash

theorem isRfc1123Label_iff {name : String} : isRfc1123Label name = true ↔ name.toList ≠ [] ∧ name.toList.length ≤ 63 ∧
    (∀ c ∈ name.toList, isLabelChar c = true) ∧ Undashed name.toList := by
  unfold isRfc1123Label Undashed
  simp only [Bool.and_eq_true, decide_eq_true_eq, List.all_eq_true, Option.any_eq_true]
  constructor
  · rintro ⟨⟨⟨hlength, hchars⟩, c, hc, hfirst⟩, d, hd, hlast⟩
    refine ⟨fun hnil => by simp [hnil] at hc, hlength, hchars, fun heq => ?_, fun heq => ?_⟩
    · obtain rfl := Option.some.inj (heq.symm.trans hc)
      exact absurd hfirst (by decide)
    · obtain rfl := Option.some.inj (heq.symm.trans hd)
      exact absurd hlast (by decide)
  · rintro ⟨hne, hlength, hchars, hfirst, hlast⟩
    refine ⟨⟨⟨hlength, hchars⟩, name.toList.head hne, List.head?_eq_some_head hne, ?_⟩, name.toList.getLast hne,
      List.getLast?_eq_some_getLast hne, ?_⟩
    · exact isLowerAlnum_of_label (hchars _ (List.head_mem hne)) fun heq =>
        hfirst (by rw [List.head?_eq_some_head hne, heq])
    · exact isLowerAlnum_of_label (hchars _ (List.getLast_mem hne)) fun heq =>
        hlast (by rw [List.getLast?_eq_some_getLast hne, heq])

theorem normalizedLabel_chars {c : Char} (h : c ∈ normalizedLabel value) : isLabelChar c = true :=
  lowerDashed_chars (((collapseDashes_sublist _ _).trans (trimDashes_sublist _)).mem h)

theorem normalizedLabel_undashed (value : String) : Undashed (normalizedLabel value) :=
  undashed_collapse (undashed_trimDashes _)

/-- What is kept of a label that is too long has at least 53 characters. -/
theorem labelStem_length (h : 63 < (normalizedLabel value).length) :
    53 ≤ (labelStem value).length ∧ (labelStem value).length ≤ 54 := by
  have hcollapsed : Collapsed ((normalizedLabel value).take 54) := (collapseDashes_collapsed false _).1.take 54
  have hkept := trimEndDashes_collapsed hcollapsed
  have hcut : (labelStem value).length ≤ ((normalizedLabel value).take 54).length :=
    (List.rdropWhile_prefix _ _).length_le
  rw [List.length_take] at hkept hcut
  unfold labelStem at hcut ⊢
  omega

/-- **A label is one of RFC 1123.** -/
theorem dnsLabel_rfc1123 (h : dnsLabel rt value = .ok label) : isRfc1123Label label = true := by
  obtain ⟨hne, hlabel⟩ := dnsLabel_ok h
  obtain ⟨hfirst, hlast⟩ := normalizedLabel_undashed value
  rw [isRfc1123Label_iff, hlabel]
  split_ifs with hshort
  · exact ⟨hne, hshort, fun c hc => normalizedLabel_chars hc, hfirst, hlast⟩
  · obtain ⟨hmin, hmax⟩ := labelStem_length (not_le.1 hshort)
    obtain ⟨htag, hhex⟩ : (labelTag rt value).length = 8 ∧ ∀ c ∈ labelTag rt value, isHex c = true := labelTag_spec
    have hstem : labelStem value <+: normalizedLabel value :=
      (List.rdropWhile_prefix _ _).trans (List.take_prefix 54 _)
    refine ⟨by simp, ?_, fun c hc => ?_, fun heq => ?_, fun heq => ?_⟩
    · rw [List.length_append, List.length_cons, htag]
      omega
    · rcases List.mem_append.1 hc with hc | hc
      · exact normalizedLabel_chars (hstem.subset hc)
      · rcases List.mem_cons.1 hc with rfl | hc
        · decide
        · exact Bool.or_eq_true_iff.2 (Or.inl (isHex_lowerAlnum (hhex c hc)))
    · -- the part that is kept is not empty and starts as the label does
      obtain ⟨rest, hrest⟩ := hstem
      cases hs : labelStem value with
      | nil =>
        rw [hs, List.length_nil] at hmin
        omega
      | cons c cs =>
        rw [hs] at heq hrest
        exact hfirst (by rw [← hrest, List.cons_append, List.head?_cons]; exact heq)
    · have hdigits : labelTag rt value ≠ [] := fun hnil => by
        rw [hnil, List.length_nil] at htag
        omega
      rw [List.getLast?_append_of_ne_nil _ (by simp), List.getLast?_cons_of_ne_nil hdigits] at heq
      exact absurd (hhex '-' (List.mem_of_getLast? heq)) (by decide)

theorem dnsLabel_returns (h : normalizedLabel value ≠ []) : ∃ label, dnsLabel rt value = .ok label := by
  unfold dnsLabel
  dsimp only
  rw [if_neg h]
  split_ifs
  · exact ⟨_, rfl⟩
  · exact ⟨_, rfl⟩

/-- A label has room before it when the text it is made of was short. -/
theorem dnsLabel_room (h : dnsLabel rt value = .ok label) :
    label.toList.length ≤ 55 ↔ (normalizedLabel value).length ≤ 55 := by
  rw [(dnsLabel_ok h).2]
  split_ifs with hshort
  · rfl
  · have hstem := labelStem_length (not_le.1 hshort)
    rw [List.length_append, List.length_cons, labelTag_spec.1]
    omega

/-- The name of a tenant's rule is a label if there is room for it. -/
theorem ruleName_iff (h : isRfc1123Label label = true) :
    isRfc1123Label ("builder-" ++ label) = true ↔ label.toList.length ≤ 55 := by
  obtain ⟨hne, -, hchars, -, hlast⟩ := isRfc1123Label_iff.1 h
  have hword : ∀ c ∈ "builder-".toList, isLabelChar c = true := forall_of_all (by decide)
  have hlength : "builder-".toList.length = 8 := rfl
  rw [isRfc1123Label_iff, String.toList_append, List.length_append, hlength]
  constructor
  · rintro ⟨-, hlabel, -⟩
    omega
  · intro hroom
    refine ⟨by simp, by omega, fun c hc => ?_, by simp, ?_⟩
    · exact (List.mem_append.1 hc).elim (hword c) (hchars c)
    · rwa [List.getLast?_append_of_ne_nil _ hne]

/-! ## Names of objects -/

/-- The names that a manifest gives or refers to. -/
def Manifest.names : Manifest → List String
  | .namespaceObject object _ => [object.name]
  | .serviceAccount namespaceName name _ => [namespaceName, name]
  | .resourceQuota namespaceName name _ => [namespaceName, name]
  | .networkPolicy policy => [policy.namespaceName, policy.name]
  | .runtimeClass name handler => [name, handler]
  | .clusterPolicy policy => policy.name :: policy.rules.flatMap fun rule =>
      [rule.name, rule.namespaceName, rule.serviceAccountName, rule.runtimeClassName]
  | .configMap namespaceName name _ => [namespaceName, name]

def Content.names : Content → List String
  | .manifests documents => documents.flatMap Manifest.names
  | .json _ => []
  | .kustomization _ => []

/-- All names are labels of RFC 1123. -/
def Labelled (names : List String) : Prop := ∀ name ∈ names, isRfc1123Label name = true

theorem labelled_nil : Labelled [] := by
  simp [Labelled]

theorem labelled_cons {name : String} {names : List String} :
    Labelled (name :: names) ↔ isRfc1123Label name = true ∧ Labelled names := List.forall_mem_cons

theorem labelled_append {names others : List String} : Labelled (names ++ others) ↔ Labelled names ∧ Labelled others :=
  List.forall_mem_append

theorem labelled_flatMap {α : Type} {items : List α} {names : α → List String} :
    Labelled (items.flatMap names) ↔ ∀ item ∈ items, Labelled (names item) := by
  unfold Labelled
  simp only [List.mem_flatMap]
  exact ⟨fun h item hitem name hname => h name ⟨item, hitem, hname⟩,
    fun h name ⟨item, hitem, hname⟩ => h item hitem name hname⟩

/-- The names that the objects of a tenant are made of. -/
structure BoundaryNames (rt : Runtime) (boundary : CodeflyPaasTenantBoundaryPlan) : Prop where
  label : ∃ label, dnsLabel rt boundary.tenantId = .ok label
  namespaces : Labelled boundary.namespaces.values
  accounts : Labelled (boundary.rendered.map (·.name))
  runtimeClass : isRfc1123Label boundary.builderRuntimeClass = true

theorem boundary_names (h : Compiled rt intent plan) (hmem : boundary ∈ plan.tenants) : BoundaryNames rt boundary := by
  obtain ⟨tenant, -, tenantLabel, hcompiled⟩ := tenant_compiled h hmem
  have haccount : ∀ {role : PaasIdentityRole} {name : String},
      Codefly.serviceAccount rt intent tenantLabel role = .ok name → isRfc1123Label name = true := by
    intro role name hname
    obtain ⟨id, -, hlabel⟩ := serviceAccount_ok hname
    exact dnsLabel_rfc1123 hlabel
  refine ⟨⟨tenantLabel, by rw [hcompiled.tenantId]; exact hcompiled.label⟩, ?_, ?_, ?_⟩
  · simp only [TenantNamespaces.values, labelled_cons]
    exact ⟨dnsLabel_rfc1123 hcompiled.builderNamespace, dnsLabel_rfc1123 hcompiled.runtimeNamespace,
      dnsLabel_rfc1123 hcompiled.egressNamespace, labelled_nil⟩
  · simp only [CodeflyPaasTenantBoundaryPlan.rendered, List.map_cons, List.map_nil, labelled_cons]
    exact ⟨haccount hcompiled.builder, haccount hcompiled.deployer, haccount hcompiled.runtime, haccount hcompiled.egress,
      labelled_nil⟩
  · rw [hcompiled.builderRuntimeClass]
    unfold runtimeClassOf
    split_ifs <;> decide

theorem namespaceManifest_ok {name tenantId plane intentDigest : String} {m : Manifest}
    (h : namespaceManifest rt name tenantId plane intentDigest = .ok m) : m.names = [name] := by
  obtain ⟨tenantLabel, -, h⟩ := bind_ok.1 h
  rw [← Except.ok.inj h]
  rfl

theorem accountManifests_ok {accounts : List RenderedServiceAccount} {ms : List Manifest}
    (h : accountManifests rt accounts = .ok ms) (hspaces : Labelled (accounts.map (·.namespaceName)))
    (hnames : Labelled (accounts.map (·.name))) : Labelled (ms.flatMap Manifest.names) := by
  rw [labelled_flatMap]
  intro m hm
  obtain ⟨account, haccount, hmanifest⟩ := mapM_source h hm
  obtain ⟨labels, -, hmanifest⟩ := bind_ok.1 hmanifest
  rw [← Except.ok.inj hmanifest]
  simp only [Manifest.names, labelled_cons]
  exact ⟨hspaces _ (List.mem_map_of_mem haccount), hnames _ (List.mem_map_of_mem haccount), labelled_nil⟩

theorem resourceQuotas_names (h : BoundaryNames rt boundary) :
    Labelled ((resourceQuotas boundary).flatMap Manifest.names) := by
  have hspaces := h.namespaces
  simp only [TenantNamespaces.values, labelled_cons] at hspaces
  obtain ⟨hbuilder, hruntime, hegress, -⟩ := hspaces
  rw [labelled_flatMap]
  intro m hm
  simp only [resourceQuotas, List.mem_cons, List.not_mem_nil, or_false] at hm
  rcases hm with rfl | rfl | rfl <;> simp only [quota, Manifest.names, labelled_cons]
  · exact ⟨hbuilder, by decide, labelled_nil⟩
  · exact ⟨hruntime, by decide, labelled_nil⟩
  · exact ⟨hegress, by decide, labelled_nil⟩

theorem defaultDeny_names {namespaceName : String} (h : isRfc1123Label namespaceName = true) :
    Labelled (defaultDenyNetworkPolicy namespaceName).names := by
  simp only [defaultDenyNetworkPolicy, Manifest.names, labelled_cons]
  exact ⟨h, by decide, labelled_nil⟩

theorem allowDns_names {namespaceName : String} (h : isRfc1123Label namespaceName = true) :
    Labelled (allowDnsNetworkPolicy namespaceName).names := by
  simp only [allowDnsNetworkPolicy, Manifest.names, labelled_cons]
  exact ⟨h, by decide, labelled_nil⟩

theorem tenantNetworkPolicies_ok {ms : List Manifest} (h : BoundaryNames rt boundary)
    (hms : tenantNetworkPolicies rt boundary = .ok ms) : Labelled (ms.flatMap Manifest.names) := by
  rw [labelled_flatMap]
  intro m hm
  obtain ⟨namespaceName, hmem, found, hfound, hin⟩ := collect_source hms hm
  have hspace := h.namespaces namespaceName hmem
  unfold namespacePolicies at hfound
  split_ifs at hfound
  · obtain ⟨brokered, hbrokered, hfound⟩ := bind_ok.1 hfound
    obtain ⟨tenantLabel, -, hbrokered⟩ := bind_ok.1 hbrokered
    obtain rfl := Except.ok.inj hbrokered
    obtain rfl := Except.ok.inj hfound
    simp only [List.mem_append, List.mem_cons, List.not_mem_nil, or_false] at hin
    rcases hin with (rfl | rfl) | rfl
    · exact defaultDeny_names hspace
    · exact allowDns_names hspace
    · simp only [Manifest.names, labelled_cons]
      exact ⟨hspace, by decide, labelled_nil⟩
  · obtain rfl := Except.ok.inj hfound
    simp only [List.mem_cons, List.not_mem_nil, or_false] at hin
    rcases hin with rfl | rfl
    · exact defaultDeny_names hspace
    · exact allowDns_names hspace

/-! ## The files of a tenant -/

theorem rendered_spaces (h : BoundaryNames rt boundary) : Labelled (boundary.rendered.map (·.namespaceName)) := by
  intro name hname
  obtain ⟨account, haccount, rfl⟩ := List.mem_map.1 hname
  exact h.namespaces _ (rendered_namespace haccount)

theorem accountManifests_returns {accounts : List RenderedServiceAccount}
    (h : ∀ account ∈ accounts, ∀ tenantId ∈ account.tenantId, ∃ label, dnsLabel rt tenantId = .ok label) :
    ∃ ms, accountManifests rt accounts = .ok ms := by
  refine mapM_succeeds fun account haccount => ?_
  obtain ⟨labels, hlabels⟩ : ∃ labels, (account.tenantId.toList.filter (· ≠ "")).mapM (fun tenantId =>
      (dnsLabel rt tenantId).map tenantIdLabel) = .ok labels := by
    refine mapM_succeeds fun tenantId htenant => ?_
    obtain ⟨label, hlabel⟩ := h account haccount tenantId (Option.mem_toList.1 (List.mem_filter.1 htenant).1)
    exact ⟨tenantIdLabel label, by rw [hlabel]; rfl⟩
  exact ⟨_, bind_ok.2 ⟨labels, hlabels, rfl⟩⟩

theorem tenantNetworkPolicies_returns (h : BoundaryNames rt boundary) :
    ∃ ms, tenantNetworkPolicies rt boundary = .ok ms := by
  obtain ⟨label, hlabel⟩ := h.label
  refine collect_ok fun namespaceName _ => ?_
  unfold namespacePolicies
  dsimp only
  split_ifs
  · exact ⟨_, bind_ok.2 ⟨_, bind_ok.2 ⟨label, hlabel, rfl⟩, rfl⟩⟩
  · exact ⟨_, rfl⟩

theorem namespaceManifest_returns {name tenantId plane intentDigest : String}
    (h : ∃ label, dnsLabel rt tenantId = .ok label) : ∃ m, namespaceManifest rt name tenantId plane intentDigest = .ok m := by
  obtain ⟨label, hlabel⟩ := h
  exact ⟨_, bind_ok.2 ⟨label, hlabel, rfl⟩⟩

theorem tenantFiles_returns (h : BoundaryNames rt boundary) : ∃ files, tenantFiles rt plan boundary = .ok files := by
  obtain ⟨label, hlabel⟩ := h.label
  obtain ⟨builder, hbuilder⟩ : ∃ m, namespaceManifest rt boundary.namespaces.builder boundary.tenantId "builder"
    plan.intentDigest = .ok m := namespaceManifest_returns h.label
  obtain ⟨runtime, hruntime⟩ : ∃ m, namespaceManifest rt boundary.namespaces.runtime boundary.tenantId "runtime"
    plan.intentDigest = .ok m := namespaceManifest_returns h.label
  obtain ⟨egress, hegress⟩ : ∃ m, namespaceManifest rt boundary.namespaces.egress boundary.tenantId "egress"
    plan.intentDigest = .ok m := namespaceManifest_returns h.label
  obtain ⟨accounts, haccounts⟩ : ∃ ms, accountManifests rt boundary.rendered = .ok ms := by
    refine accountManifests_returns fun account haccount tenantId htenant => ?_
    simp only [CodeflyPaasTenantBoundaryPlan.rendered, List.mem_cons, List.not_mem_nil, or_false] at haccount
    rcases haccount with rfl | rfl | rfl | rfl <;> obtain rfl := Option.some.inj htenant <;> exact h.label
  obtain ⟨policies, hpolicies⟩ := tenantNetworkPolicies_returns h
  exact ⟨_, bind_ok.2 ⟨label, hlabel, bind_ok.2 ⟨builder, hbuilder, bind_ok.2 ⟨runtime, hruntime,
    bind_ok.2 ⟨egress, hegress, bind_ok.2 ⟨accounts, haccounts, bind_ok.2 ⟨policies, hpolicies, rfl⟩⟩⟩⟩⟩⟩⟩

/-- The path of a tenant's file. -/
def tenantPath (tenantLabel name : String) : String := "paas/" ++ tenantRoot tenantLabel ++ name

/-- A tenant's files are in its directory, and their names are labels. -/
theorem tenantFiles_ok {files : List File} (h : BoundaryNames rt boundary)
    (hfiles : tenantFiles rt plan boundary = .ok files) : ∃ label, dnsLabel rt boundary.tenantId = .ok label ∧
      files.map Prod.fst = ["/namespaces.yaml", "/service-accounts.yaml", "/resource-quotas.yaml",
        "/network-policies.yaml", "/contract.yaml"].map (tenantPath label) ∧
      ∀ file ∈ files, Labelled file.2.names := by
  obtain ⟨label, hlabel, hfiles⟩ := bind_ok.1 hfiles
  obtain ⟨builder, hbuilder, hfiles⟩ := bind_ok.1 hfiles
  obtain ⟨runtime, hruntime, hfiles⟩ := bind_ok.1 hfiles
  obtain ⟨egress, hegress, hfiles⟩ := bind_ok.1 hfiles
  obtain ⟨accounts, haccounts, hfiles⟩ := bind_ok.1 hfiles
  obtain ⟨policies, hpolicies, hfiles⟩ := bind_ok.1 hfiles
  obtain rfl := Except.ok.inj hfiles
  have hspaces := h.namespaces
  simp only [TenantNamespaces.values, labelled_cons] at hspaces
  obtain ⟨hbuilderSpace, hruntimeSpace, hegressSpace, -⟩ := hspaces
  refine ⟨label, hlabel, rfl, fun file hfile => ?_⟩
  simp only [List.mem_cons, List.not_mem_nil, or_false] at hfile
  rcases hfile with rfl | rfl | rfl | rfl | rfl
  · simp only [Content.names, List.flatMap_cons, List.flatMap_nil, namespaceManifest_ok hbuilder,
      namespaceManifest_ok hruntime, namespaceManifest_ok hegress]
    exact h.namespaces
  · exact accountManifests_ok haccounts (rendered_spaces h) h.accounts
  · exact resourceQuotas_names h
  · exact tenantNetworkPolicies_ok h hpolicies
  · simp only [Content.names, List.flatMap_cons, List.flatMap_nil, tenantContract, Manifest.names, List.append_nil,
      labelled_cons]
    exact ⟨hruntimeSpace, by decide, labelled_nil⟩

/-- **The rules of the tenants have labels as names when the tenants' labels leave room.** -/
theorem builderPolicy_ok (h : Compiled rt intent plan) {m : Manifest} (hm : builderPolicy rt plan = .ok m) :
    Labelled m.names ↔ ∀ boundary ∈ plan.tenants, ∀ label, dnsLabel rt boundary.tenantId = .ok label →
      label.toList.length ≤ 55 := by
  obtain ⟨rules, hrules, hm⟩ := bind_ok.1 hm
  obtain rfl := Except.ok.inj hm
  simp only [Manifest.names, labelled_cons, labelled_flatMap]
  constructor
  · rintro ⟨-, hall⟩ boundary hboundary label hlabel
    obtain ⟨rule, hrule, hbuilt⟩ := mapM_ok hrules boundary hboundary
    obtain ⟨label', hlabel', hbuilt⟩ := bind_ok.1 hbuilt
    obtain rfl : label = label' := Except.ok.inj (hlabel.symm.trans hlabel')
    obtain rfl := Except.ok.inj hbuilt
    exact (ruleName_iff (dnsLabel_rfc1123 hlabel)).1 (hall _ hrule).1
  · intro hroom
    refine ⟨by decide, fun rule hrule => ?_⟩
    obtain ⟨boundary, hboundary, hbuilt⟩ := mapM_source hrules hrule
    obtain ⟨label, hlabel, hbuilt⟩ := bind_ok.1 hbuilt
    obtain rfl := Except.ok.inj hbuilt
    have hnames := boundary_names h hboundary
    exact ⟨(ruleName_iff (dnsLabel_rfc1123 hlabel)).2 (hroom boundary hboundary label hlabel),
      hnames.namespaces _ List.mem_cons_self, hnames.accounts _ List.mem_cons_self, hnames.runtimeClass, labelled_nil⟩

/-! ## Paths -/

/-- The label of a tenant, as the directory of its files has it. -/
def directoryOf (rt : Runtime) (boundary : CodeflyPaasTenantBoundaryPlan) : List Char :=
  match dnsLabel rt boundary.tenantId with
  | .ok label => label.toList
  | .error _ => []

theorem directoryOf_ok (h : dnsLabel rt boundary.tenantId = .ok label) : directoryOf rt boundary = label.toList := by
  unfold directoryOf
  rw [h]

/-- **Tenants of a compiled plan have different labels**, as one label would make one namespace. -/
theorem labels_apart (h : Compiled rt intent plan) : (plan.tenants.map (directoryOf rt)).Nodup := by
  obtain ⟨hvalues, hpairwise⟩ := List.nodup_flatMap.1 h.namespaces
  rw [List.Nodup, List.pairwise_map]
  refine hpairwise.imp_of_mem fun {first second} hfirst hsecond hdisjoint heq => ?_
  obtain ⟨tenant, -, label, hcompiled⟩ := tenant_compiled h hfirst
  obtain ⟨other, -, otherLabel, hother⟩ := tenant_compiled h hsecond
  rw [directoryOf_ok (hcompiled.tenantId ▸ hcompiled.label), directoryOf_ok (hother.tenantId ▸ hother.label),
    String.toList_inj] at heq
  subst heq
  have hsame : first.namespaces.builder = second.namespaces.builder :=
    Except.ok.inj (hcompiled.builderNamespace.symm.trans hother.builderNamespace)
  have hin : first.namespaces.builder ∈ second.namespaces.values := by
    rw [hsame]
    exact List.mem_cons_self
  exact hdisjoint List.mem_cons_self hin

/-- The directory in a path of a tenant's file. -/
def pathDirectory (path : String) : List Char := (path.toList.drop 13).takeWhile (· ≠ '/')

theorem pathDirectory_tenantPath {name : String} (h : dnsLabel rt value = .ok label) (hname : name.toList.head? = some '/') :
    pathDirectory (tenantPath label name) = label.toList := by
  obtain ⟨-, -, hchars, -⟩ := isRfc1123Label_iff.1 (dnsLabel_rfc1123 h)
  obtain ⟨rest, hrest⟩ : ∃ rest, name.toList = '/' :: rest := by
    cases hs : name.toList with
    | nil =>
      rw [hs] at hname
      cases hname
    | cons c rest =>
      rw [hs] at hname
      exact ⟨rest, by rw [Option.some.inj hname]⟩
  have hpath : (tenantPath label name).toList = "paas/tenants/".toList ++ (label.toList ++ '/' :: rest) := by
    simp [tenantPath, tenantRoot, hrest]
  have hslash : ∀ c ∈ label.toList, (decide (c ≠ '/')) = true := by
    intro c hc
    rw [decide_eq_true_eq]
    rintro rfl
    exact absurd (hchars '/' hc) (by decide)
  have hdrop : (tenantPath label name).toList.drop 13 = label.toList ++ '/' :: rest := by
    have hlength : "paas/tenants/".toList.length = 13 := by decide
    rw [hpath, ← hlength, List.drop_left]
  rw [pathDirectory, hdrop, List.takeWhile_append_of_pos hslash]
  simp

/-- The files of the platform. -/
def platformPaths : List String :=
  ["paas/control-plane/namespace.yaml", "paas/control-plane/service-accounts.yaml",
    "paas/control-plane/network-policy.yaml", "paas/control-plane/contract.yaml", "paas/policies/builder-sandbox.yaml",
    "paas/runtime-classes.yaml"]

def planPaths : List String := ["paas/paas-security-plan.json", "paas/kustomization.yaml"]

theorem tenantPath_starts (label name : String) : startsWith (tenantPath label name) "paas/tenants/" = true := by
  rw [startsWith_iff]
  exact ⟨label.toList ++ name.toList, by simp [tenantPath, tenantRoot]⟩

/-- No file is written twice. -/
theorem paths_nodup (h : Compiled rt intent plan) {tenants : List File}
    (htenants : collect (tenantFiles rt plan) plan.tenants = .ok tenants) :
    (platformPaths ++ tenants.map Prod.fst ++ planPaths).Nodup := by
  have hpath : ∀ path ∈ tenants.map Prod.fst, startsWith path "paas/tenants/" = true := by
    intro path hmem
    obtain ⟨file, hfile, rfl⟩ := List.mem_map.1 hmem
    obtain ⟨boundary, hboundary, found, hfound, hin⟩ := collect_source htenants hfile
    obtain ⟨label, -, hpaths, -⟩ := tenantFiles_ok (boundary_names h hboundary) hfound
    have hmem : file.1 ∈ found.map Prod.fst := List.mem_map_of_mem hin
    rw [hpaths] at hmem
    obtain ⟨name, -, heq⟩ := List.mem_map.1 hmem
    rw [← heq]
    exact tenantPath_starts label name
  have hfixed : ∀ path ∈ platformPaths ++ planPaths, startsWith path "paas/tenants/" = false := by decide +kernel
  have hpart : ∀ boundary ∈ plan.tenants, ∀ found, tenantFiles rt plan boundary = .ok found → ∀ file ∈ found,
      pathDirectory file.1 = directoryOf rt boundary := by
    intro boundary hboundary found hfound file hfile
    obtain ⟨label, hlabel, hpaths, -⟩ := tenantFiles_ok (boundary_names h hboundary) hfound
    have hmem : file.1 ∈ found.map Prod.fst := List.mem_map_of_mem hfile
    rw [hpaths] at hmem
    obtain ⟨name, hname, heq⟩ := List.mem_map.1 hmem
    rw [directoryOf_ok hlabel, ← heq]
    refine pathDirectory_tenantPath hlabel ?_
    simp only [List.mem_cons, List.not_mem_nil, or_false] at hname
    rcases hname with rfl | rfl | rfl | rfl | rfl <;> decide
  have hinner : (tenants.map Prod.fst).Nodup := by
    refine (collect_nodup htenants hpart (labels_apart h)).2 fun boundary hboundary found hfound => ?_
    obtain ⟨label, -, hpaths, -⟩ := tenantFiles_ok (boundary_names h hboundary) hfound
    rw [hpaths]
    refine List.Nodup.map (fun name other heq => ?_) (by decide)
    have htexts := congrArg String.toList heq
    simp only [tenantPath, String.toList_append] at htexts
    exact String.toList_inj.1 (List.append_cancel_left htexts)
  have houter : (platformPaths ++ planPaths).Nodup := by decide
  have hdisjoint : (platformPaths ++ planPaths).Disjoint (tenants.map Prod.fst) := by
    intro path hmem hin
    have hstarts := hpath path hin
    rw [hfixed path hmem] at hstarts
    cases hstarts
  have hperm : (platformPaths ++ tenants.map Prod.fst ++ planPaths).Perm
      (platformPaths ++ planPaths ++ tenants.map Prod.fst) := by
    rw [List.append_assoc, List.append_assoc]
    exact List.perm_append_comm.append_left _
  exact hperm.nodup_iff.2 (List.nodup_append'.2 ⟨houter, hinner, hdisjoint⟩)

/-! ## The artifacts -/

theorem globalAccounts_names (h : Compiled rt intent plan) : Labelled ((globalAccounts plan).map (·.namespaceName)) ∧
    Labelled ((globalAccounts plan).map (·.name)) := by
  have hsystem := dnsLabel_rfc1123 h.systemNamespace
  have hglobal : ∀ {role : PaasIdentityRole} {name : String}, globalIdentity rt intent role = .ok name →
      isRfc1123Label name = true := by
    intro role name hname
    obtain ⟨id, -, hlabel⟩ := globalIdentity_ok hname
    exact dnsLabel_rfc1123 hlabel
  simp only [globalAccounts, List.map_cons, List.map_nil, labelled_cons]
  exact ⟨⟨hsystem, hsystem, hsystem, labelled_nil⟩, hglobal h.controlPlane, hglobal h.registry, hglobal h.audit, labelled_nil⟩

/-- Every plan that is compiled is rendered. -/
theorem renderedFiles_returns (h : Compiled rt intent plan) : ∃ files, renderedFiles rt plan = .ok files := by
  have htenant : ∀ boundary ∈ plan.tenants, ∃ label, dnsLabel rt boundary.tenantId = .ok label :=
    fun boundary hboundary => (boundary_names h hboundary).label
  obtain ⟨platform, hplatform⟩ : ∃ m, namespaceManifest rt plan.systemNamespace "platform" "control-plane"
    plan.intentDigest = .ok m := namespaceManifest_returns (dnsLabel_returns (by decide))
  obtain ⟨accounts, haccounts⟩ : ∃ ms, accountManifests rt (globalAccounts plan) = .ok ms := by
    refine accountManifests_returns fun account haccount tenantId htenantId => ?_
    simp only [globalAccounts, List.mem_cons, List.not_mem_nil, or_false] at haccount
    rcases haccount with rfl | rfl | rfl <;> cases htenantId
  obtain ⟨rules, hrules⟩ : ∃ rules, plan.tenants.mapM (builderRule rt) = .ok rules := by
    refine mapM_succeeds fun boundary hboundary => ?_
    obtain ⟨label, hlabel⟩ := htenant boundary hboundary
    exact ⟨_, bind_ok.2 ⟨label, hlabel, rfl⟩⟩
  obtain ⟨tenants, htenants⟩ : ∃ files, collect (tenantFiles rt plan) plan.tenants = .ok files :=
    collect_ok fun boundary hboundary => tenantFiles_returns (boundary_names h hboundary)
  obtain ⟨roots, hroots⟩ : ∃ roots, (plan.tenants.mapM fun tenant => (dnsLabel rt tenant.tenantId).map tenantRoot) =
      .ok roots := by
    refine mapM_succeeds fun boundary hboundary => ?_
    obtain ⟨label, hlabel⟩ := htenant boundary hboundary
    exact ⟨tenantRoot label, by rw [hlabel]; rfl⟩
  exact ⟨_, bind_ok.2 ⟨platform, hplatform, bind_ok.2 ⟨accounts, haccounts, bind_ok.2 ⟨_, bind_ok.2 ⟨rules, hrules, rfl⟩,
    bind_ok.2 ⟨tenants, htenants, bind_ok.2 ⟨_, bind_ok.2 ⟨roots, hroots, rfl⟩, rfl⟩⟩⟩⟩⟩⟩

/-- **What the files of a compiled plan are called, and when their names are labels.** -/
theorem renderedFiles_ok (h : Compiled rt intent plan) {files : List File} (hfiles : renderedFiles rt plan = .ok files) :
    (files.map Prod.fst).Nodup ∧ ((∀ file ∈ files, Labelled file.2.names) ↔
      ∀ boundary ∈ plan.tenants, ∀ label, dnsLabel rt boundary.tenantId = .ok label → label.toList.length ≤ 55) := by
  obtain ⟨platform, hplatform, hfiles⟩ := bind_ok.1 hfiles
  obtain ⟨accounts, haccounts, hfiles⟩ := bind_ok.1 hfiles
  obtain ⟨sandbox, hsandbox, hfiles⟩ := bind_ok.1 hfiles
  obtain ⟨tenants, htenants, hfiles⟩ := bind_ok.1 hfiles
  obtain ⟨kustomization, hkustomization, hfiles⟩ := bind_ok.1 hfiles
  obtain rfl := Except.ok.inj hfiles
  have hsystem := dnsLabel_rfc1123 h.systemNamespace
  have hglobal := globalAccounts_names h
  obtain ⟨roots, -, hkustomization⟩ := bind_ok.1 hkustomization
  obtain rfl := Except.ok.inj hkustomization
  constructor
  · have hnodup := paths_nodup h htenants
    rw [List.map_append, List.map_append]
    exact hnodup
  · rw [← builderPolicy_ok h hsandbox]
    constructor
    · intro hall name hname
      refine hall ("paas/policies/builder-sandbox.yaml", .manifests [sandbox]) ?_ name ?_
      · exact List.mem_append_left _ (List.mem_append_left _ (by simp))
      · simpa [Content.names] using hname
    · intro hrules file hfile
      simp only [List.mem_append, List.mem_cons, List.not_mem_nil, or_false, or_assoc] at hfile
      rcases hfile with rfl | rfl | rfl | rfl | rfl | rfl | htenant | rfl | rfl
      · simp only [Content.names, List.flatMap_cons, List.flatMap_nil, namespaceManifest_ok hplatform, List.append_nil,
          labelled_cons]
        exact ⟨hsystem, labelled_nil⟩
      · exact accountManifests_ok haccounts hglobal.1 hglobal.2
      · simp only [Content.names, List.flatMap_cons, List.flatMap_nil, List.append_nil, labelled_append]
        exact ⟨defaultDeny_names hsystem, allowDns_names hsystem⟩
      · simp only [Content.names, List.flatMap_cons, List.flatMap_nil, List.append_nil, controlPlaneContract,
          Manifest.names, labelled_cons]
        exact ⟨hsystem, by decide, labelled_nil⟩
      · simpa only [Content.names, List.flatMap_cons, List.flatMap_nil, List.append_nil] using hrules
      · show Labelled ["deus-microvm", "deus-microvm", "deus-dedicated-vm", "deus-dedicated-vm"]
        unfold Labelled
        decide
      · obtain ⟨boundary, hboundary, found, hfound, hin⟩ := collect_source htenants htenant
        obtain ⟨-, -, -, hnames⟩ := tenantFiles_ok (boundary_names h hboundary) hfound
        exact hnames file hin
      · exact nofun
      · exact nofun

/-- The namespaces of the tenants and that of the platform are different, the names of the
artifacts are labels, and every file is in the artifacts as it was written. -/
structure ArtifactsSound (plan : CodeflyPaasControlPlanePlan) (files : List File) (artifacts : Record Content) : Prop where
  tenants : (plan.tenants.flatMap fun tenant => tenant.namespaces.values).Nodup
  platform : ∀ tenant ∈ plan.tenants, plan.systemNamespace ∉ tenant.namespaces.values
  names : ∀ file ∈ files, Labelled file.2.names
  paths : (files.map Prod.fst).Nodup
  kept : ∀ path content, artifacts.get? path = some content ↔ (path, content) ∈ files

/-- The labels of the tenants leave room when their identifiers do. -/
theorem room_iff (h : Compiled rt intent plan) :
    (∀ boundary ∈ plan.tenants, ∀ label, dnsLabel rt boundary.tenantId = .ok label → label.toList.length ≤ 55) ↔
      ∀ tenant ∈ intent.tenants, (normalizedLabel tenant.tenantId).length ≤ 55 := by
  constructor
  · intro hroom tenant htenant
    obtain ⟨boundary, hmem, hboundary⟩ := mapM_ok h.tenants tenant (Runtime.mem_sortByKey.2 htenant)
    obtain ⟨label, hcompiled⟩ := compileTenant_ok hboundary
    exact (dnsLabel_room hcompiled.label).1 (hroom boundary hmem label (hcompiled.tenantId ▸ hcompiled.label))
  · intro hroom boundary hmem label hlabel
    obtain ⟨tenant, htenant, tenantLabel, hcompiled⟩ := tenant_compiled h hmem
    have hids := hroom tenant htenant
    rw [← hcompiled.tenantId] at hids
    exact (dnsLabel_room hlabel).2 hids

theorem sound_iff (h : Compiled rt intent plan) {files : List File} {artifacts : Record Content}
    (hfiles : renderedFiles rt plan = .ok files)
    (hartifacts : renderCodeflyPaasControlPlaneArtifacts rt plan = .ok artifacts) :
    ArtifactsSound plan files artifacts ↔ ∀ tenant ∈ intent.tenants, (normalizedLabel tenant.tenantId).length ≤ 55 := by
  obtain ⟨hpaths, hnames⟩ := renderedFiles_ok h hfiles
  rw [← room_iff h, ← hnames]
  refine ⟨fun hsound => hsound.names, fun hall => ⟨h.namespaces, fun boundary hmem => ?_, hall, hpaths, ?_⟩⟩
  · obtain ⟨tenant, -, label, hcompiled⟩ := tenant_compiled h hmem
    exact namespaces_apart hcompiled h.systemNamespace
  · exact artifacts_ok hartifacts hfiles hpaths

/-- **The artifacts of a control plane.** An intent that is compiled is rendered, no tenant's files
take the place of another's, and all names are labels exactly when the identifiers of the tenants
leave room for the names of their rules. -/
theorem artifacts_sound_iff (rt : Runtime) (intent : PaasSecurityIntent) (plan : CodeflyPaasControlPlanePlan)
    (h : compileCodeflyPaasControlPlane rt intent = .ok plan) : ∃ files artifacts,
      renderedFiles rt plan = .ok files ∧ renderCodeflyPaasControlPlaneArtifacts rt plan = .ok artifacts ∧
        (ArtifactsSound plan files artifacts ↔
          ∀ tenant ∈ intent.tenants, (normalizedLabel tenant.tenantId).length ≤ 55) := by
  have hcompiled := compile_ok h
  obtain ⟨files, hfiles⟩ := renderedFiles_returns hcompiled
  have hartifacts : renderCodeflyPaasControlPlaneArtifacts rt plan = .ok _ := bind_ok.2 ⟨files, hfiles, rfl⟩
  exact ⟨files, _, hfiles, hartifacts, sound_iff hcompiled hfiles hartifacts⟩

/-! ## A rule with a long name -/

def divisionIntent : PaasSecurityIntent :=
  createSecurePaasSecurityIntent ["acme-manufacturing-north-america-shared-services-division"]

def divisionIntentText : String :=
  String.ofList (textWith (Runtime.tabulated [] (fun _ => none) hex_nil).sortedStyle (intentValue divisionIntent))

/-- A runtime with the SHA-256 digests of the labels that are cut and of the intent. -/
def divisionRuntime : Runtime := Runtime.tabulated
  [("\"codefly-build-acme-manufacturing-north-america-shared-services-division-production\"",
     "20a91c3d61802ae8fc756b78b75932731c17801fd3e15bc1ad686bceed972c57"),
   ("\"codefly-runtime-acme-manufacturing-north-america-shared-services-division-production\"",
     "5c2bad037e5a09787f6f7b403e9e2039ee64625af30b80a4c48ec93be3a3a3c1"),
   ("\"codefly-egress-acme-manufacturing-north-america-shared-services-division-production\"",
     "2fbf720c295c5b897dec421bb2238ffb2f25117ca966526592bd983f4e6205b3"),
   ("\"codefly-builder-acme-manufacturing-north-america-shared-services-division\"",
     "39c2a992583e9e2ebb528ce799b132980ebf9468a5bad041792e52aea804e8f7"),
   ("\"codefly-deployer-acme-manufacturing-north-america-shared-services-division\"",
     "46a0c474a87a6e12215b74c2e8c9c9195737ae8fff4eeeabeedaf7a6349c29e7"),
   ("\"codefly-runtime-acme-manufacturing-north-america-shared-services-division\"",
     "67b0340c88702ac2f1ecf9a59b94f2e7dcdad5de3f3d3e0e1e0b1e261f6dca3f"),
   ("\"codefly-egress-acme-manufacturing-north-america-shared-services-division\"",
     "eaa5426d7b1cfe81c1db3906d76d0f4abbc0f0e9f407dad3066f36039bd8e1b4"),
   (divisionIntentText, "74f96e314efccbbe96ec9e153fc58565e289a59aefefa424993600fbc018a275")] (fun _ => none)
  (by repeat' first | exact hex_nil | refine hex_cons (by decide +kernel) (by decide +kernel) ?_)

theorem division_compiles : ∃ plan, compileCodeflyPaasControlPlane divisionRuntime divisionIntent = .ok plan :=
  exists_of_isOk (by decide +kernel)

/-- The instance of the characterisation. -/
theorem shared_artifacts_sound_iff : ∃ plan files artifacts,
    compileCodeflyPaasControlPlane sharedRuntime sharedIntent = .ok plan ∧
      renderedFiles sharedRuntime plan = .ok files ∧
      renderCodeflyPaasControlPlaneArtifacts sharedRuntime plan = .ok artifacts ∧
      (ArtifactsSound plan files artifacts ↔ ∀ tenant ∈ sharedIntent.tenants,
        (normalizedLabel tenant.tenantId).length ≤ 55) := by
  obtain ⟨plan, hplan⟩ := sharedIntent_compiles
  obtain ⟨files, artifacts, hsound⟩ := artifacts_sound_iff sharedRuntime sharedIntent plan hplan
  exact ⟨plan, files, artifacts, hplan, hsound⟩

/-- The name of the tenant's rule has 65 characters. -/
theorem division_rule_long : ¬ ∀ (rt : Runtime) (intent : PaasSecurityIntent) (plan : CodeflyPaasControlPlanePlan)
    (files : List File) (artifacts : Record Content), compileCodeflyPaasControlPlane rt intent = .ok plan →
      renderedFiles rt plan = .ok files → renderCodeflyPaasControlPlaneArtifacts rt plan = .ok artifacts →
        ArtifactsSound plan files artifacts := by
  intro hclaim
  obtain ⟨plan, hplan⟩ := division_compiles
  have hcompiled := compile_ok hplan
  obtain ⟨files, hfiles⟩ := renderedFiles_returns hcompiled
  have hartifacts : renderCodeflyPaasControlPlaneArtifacts divisionRuntime plan = .ok _ :=
    bind_ok.2 ⟨files, hfiles, rfl⟩
  have hroom := (sound_iff hcompiled hfiles hartifacts).1 (hclaim _ _ plan files _ hplan hfiles hartifacts)
  have hlong : ¬ ∀ tenant ∈ divisionIntent.tenants, (normalizedLabel tenant.tenantId).length ≤ 55 := by decide +kernel
  exact hlong hroom

end SecureSaas.Codefly.Paas
