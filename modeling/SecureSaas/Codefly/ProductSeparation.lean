import SecureSaas.Codefly.ProductManifests
import Mathlib.Data.List.Pairwise

/-!
# Components with manifests of their own

Namespaces, principals and paths are made of the names of workspaces, components and services, which may
be any texts. Two components share a namespace if their names read alike after they were joined.

* `apart_iff`: when two texts have different labels.
* `renderedFiles_paths`: the paths of the files.
* `files_nodup_iff`: when no two files have one path.
* `separated_iff`: **when the manifests of different components are apart.**
* `apart_of_plain`: names without slashes give different paths if they give different namespaces.
-/

namespace SecureSaas.Codefly.Product

open Js Blueprint

/-! ## Labels -/

/-- The texts get different labels: short ones by what is left of them, long ones by the part that
is kept or by the digest, and a short and a long one unless the short one reads like the other. -/
def Apart (rt : Runtime) (value other : String) : Prop :=
  if (normalizedLabel value).length ≤ 63 then
    if (normalizedLabel other).length ≤ 63 then normalizedLabel value ≠ normalizedLabel other
    else normalizedLabel value ≠ labelStem other ++ '-' :: labelTag rt other
  else if (normalizedLabel other).length ≤ 63 then
    labelStem value ++ '-' :: labelTag rt value ≠ normalizedLabel other
  else labelStem value ≠ labelStem other ∨ labelTag rt value ≠ labelTag rt other

section
variable {rt : Runtime} {value other : String}

theorem dnsLabel_toList : (dnsLabel rt value).toList =
    if (normalizedLabel value).length ≤ 63 then normalizedLabel value
    else labelStem value ++ '-' :: labelTag rt value := by
  unfold dnsLabel
  split_ifs
  · exact String.toList_ofList
  · exact String.toList_ofList

/-- **When two texts have different labels.** -/
theorem apart_iff : dnsLabel rt value ≠ dnsLabel rt other ↔ Apart rt value other := by
  rw [Ne, ← String.toList_inj, dnsLabel_toList, dnsLabel_toList]
  unfold Apart
  split_ifs
  · rfl
  · rfl
  · rfl
  · rw [← not_and_or, not_iff_not]
    constructor
    · exact tagged_inj
    · rintro ⟨hstem, htag⟩
      rw [hstem, htag]

theorem normalizedLabel_sublist : (normalizedLabel value).Sublist (lowerDashed value) :=
  (trimDash_sublist _).trans (collapseDashes_sublist _ _)

theorem labelStem_sublist : (labelStem value).Sublist (normalizedLabel value) := by
  unfold labelStem
  dsimp only
  split_ifs
  · exact (List.dropLast_sublist _).trans (List.take_sublist _ _)
  · exact List.take_sublist _ _

/-- A label has no slash. -/
theorem dnsLabel_no_slash : '/' ∉ (dnsLabel rt value).toList := by
  have hnormalized : '/' ∉ normalizedLabel value := by
    intro hmem
    have hclass := lowerDashed_chars (normalizedLabel_sublist.subset hmem)
    revert hclass
    decide
  rw [dnsLabel_toList]
  split_ifs
  · exact hnormalized
  · intro hmem
    rcases List.mem_append.1 hmem with hstem | htag
    · exact hnormalized (labelStem_sublist.subset hstem)
    · rcases List.mem_cons.1 htag with hdash | htag
      · exact absurd hdash (by decide)
      · have hhex := labelTag_spec.2 _ htag
        revert hhex
        decide

end

/-! ## Names of files -/

/-- The files that every component has, but for the last one. -/
def fixedNames : List String :=
  ["namespace.yaml", "service-account.yaml", "network-policy.yaml", "authorization-policy.yaml",
    "pod-disruption-budget.yaml", "verify-images.yaml", "security-contract.yaml"]

/-- The files of a service, with or without an overlay. -/
def serviceNames (overlays : Bool) (service : String) : List String :=
  if overlays then
    ["patches/" ++ service ++ ".yaml", "services/" ++ service ++ "/workload-patch.yaml",
      "services/" ++ service ++ "/kustomization.yaml"]
  else ["patches/" ++ service ++ ".yaml"]

/-- The names of the files of a component's services, below its root. -/
def Member.serviceFileNames (member : Member) (overlays : Bool) : List String :=
  member.component.services.flatMap fun service => serviceNames overlays service.name

def Member.fileNames (member : Member) (overlays : Bool) : List String :=
  fixedNames ++ member.serviceFileNames overlays ++ ["kustomization.yaml"]

def Member.servicePaths (member : Member) (environmentName : String) (overlays : Bool) : List String :=
  (member.serviceFileNames overlays).map (member.path environmentName)

def Member.paths (member : Member) (environmentName : String) (overlays : Bool) : List String :=
  (member.fileNames overlays).map (member.path environmentName)

def CodeflyProductSecurityRenderOptions.overlays (options : CodeflyProductSecurityRenderOptions) : Bool :=
  options.serviceOverlayPaths.isSome

section
variable {rt : Runtime} {plan : CodeflyProductTopologyPlan} {options : CodeflyProductSecurityRenderOptions}
  {member : Member} {files : List File}

theorem serviceFiles_paths {namespaceName serviceAccount : String} {service : CodeflyProductService}
    (h : serviceFiles options member namespaceName serviceAccount service = .ok files) :
    files.map Prod.fst = (serviceNames options.overlays service.name).map (member.path options.environmentName) := by
  unfold serviceFiles at h
  dsimp only at h
  unfold CodeflyProductSecurityRenderOptions.overlays
  cases hoverlays : options.serviceOverlayPaths with
  | none =>
    rw [hoverlays] at h
    rw [← Except.ok.inj h]
    rfl
  | some serviceOverlayPaths =>
    rw [hoverlays] at h
    obtain ⟨kustomization, -, h⟩ := bind_ok.1 h
    rw [← Except.ok.inj h]
    rfl

theorem componentFiles_paths {planDigest : String} (h : componentFiles options member rt plan planDigest = .ok files) :
    files.map Prod.fst = member.paths options.environmentName options.overlays := by
  obtain ⟨networkPolicies, -, h⟩ := bind_ok.1 h
  obtain ⟨authorizationPolicy, -, h⟩ := bind_ok.1 h
  obtain ⟨securityContract, -, h⟩ := bind_ok.1 h
  obtain ⟨services, hservices, h⟩ := bind_ok.1 h
  have hpaths : services.map Prod.fst = member.servicePaths options.environmentName options.overlays := by
    unfold Member.servicePaths Member.serviceFileNames
    rw [List.map_flatMap]
    exact collect_map (fun _ _ hone => serviceFiles_paths hone) hservices
  rw [← Except.ok.inj h, List.map_append, List.map_append, hpaths, Member.paths, Member.fileNames, List.map_append,
    List.map_append]
  rfl

/-- **The paths of the files.** -/
theorem renderedFiles_paths (h : renderedFiles rt plan options = .ok files) :
    files.map Prod.fst =
      plan.members.flatMap (fun member => member.paths options.environmentName options.overlays) ++
        ["product-security-plan.yaml"] := by
  obtain ⟨_, -, h⟩ := bind_ok.1 h
  obtain ⟨written, hwritten, h⟩ := bind_ok.1 h
  rw [← Except.ok.inj h, List.map_append, collect_map (fun _ _ hone => componentFiles_paths hone) hwritten]
  rfl

end

/-! ## Different files -/

section
variable {overlays : Bool} {service other name : String}

theorem mem_serviceNames : name ∈ serviceNames overlays service ↔ name = "patches/" ++ service ++ ".yaml" ∨
    (overlays = true ∧ (name = "services/" ++ service ++ "/workload-patch.yaml" ∨
      name = "services/" ++ service ++ "/kustomization.yaml")) := by
  unfold serviceNames
  cases overlays <;> simp

/-- The names of a service's files start alike. -/
theorem serviceNames_starts (h : name ∈ serviceNames overlays service) :
    "patches/".toList <+: name.toList ∨ "services/".toList <+: name.toList := by
  rcases mem_serviceNames.1 h with rfl | ⟨-, rfl | rfl⟩
  · left
    rw [String.append_assoc, String.toList_append]
    exact List.prefix_append _ _
  · right
    rw [String.append_assoc, String.toList_append]
    exact List.prefix_append _ _
  · right
    rw [String.append_assoc, String.toList_append]
    exact List.prefix_append _ _

theorem patch_ne_service (a b : String) : "patches/" ++ a ≠ "services/" ++ b :=
  append_ne (by decide) (by decide) a b

theorem workload_ne_kustomization (a b : String) : a ++ "/workload-patch.yaml" ≠ b ++ "/kustomization.yaml" :=
  prepend_ne (by decide) (by decide) a b

/-- A file of two services is one of the same service. -/
theorem serviceNames_inj (h : name ∈ serviceNames overlays service) (h' : name ∈ serviceNames overlays other) :
    service = other := by
  have hcut : ∀ u v : String, u ++ service ++ v = u ++ other ++ v → service = other := fun u v heq =>
    (String.append_right_inj u).1 ((String.append_left_inj v).1 heq)
  rcases mem_serviceNames.1 h with rfl | ⟨-, rfl | rfl⟩ <;> rcases mem_serviceNames.1 h' with heq | ⟨-, heq | heq⟩
  · exact hcut _ _ heq
  · exact absurd heq (by rw [String.append_assoc, String.append_assoc]; exact patch_ne_service _ _)
  · exact absurd heq (by rw [String.append_assoc, String.append_assoc]; exact patch_ne_service _ _)
  · exact absurd heq.symm (by rw [String.append_assoc, String.append_assoc]; exact patch_ne_service _ _)
  · exact hcut _ _ heq
  · exact absurd heq (workload_ne_kustomization _ _)
  · exact absurd heq.symm (by rw [String.append_assoc, String.append_assoc]; exact patch_ne_service _ _)
  · exact absurd heq.symm (workload_ne_kustomization _ _)
  · exact hcut _ _ heq

end

section
variable {member : Member} {overlays : Bool} {environmentName : String}

theorem serviceFileNames_nodup (h : (member.component.services.map (·.name)).Nodup) :
    (member.serviceFileNames overlays).Nodup := by
  unfold Member.serviceFileNames
  rw [List.nodup_flatMap]
  constructor
  · intro service _
    have hpatch : ∀ v, "patches/" ++ service.name ++ ".yaml" ≠ "services/" ++ service.name ++ v := by
      intro v
      rw [String.append_assoc, String.append_assoc]
      exact patch_ne_service _ _
    have hworkload := workload_ne_kustomization ("services/" ++ service.name) ("services/" ++ service.name)
    unfold serviceNames
    cases overlays
    · exact List.nodup_singleton _
    · simp [hpatch, hworkload]
  · have hnames := List.pairwise_map.1 (List.nodup_iff_pairwise_ne.1 h)
    exact hnames.imp fun hne name hname hother => hne (serviceNames_inj hname hother)

/-- The files that every component has are none of a service's. -/
theorem fixedNames_fresh {name : String} (h : name ∈ fixedNames ++ ["kustomization.yaml"]) :
    name ∉ member.serviceFileNames overlays := by
  intro hmem
  obtain ⟨service, -, hservice⟩ := List.mem_flatMap.1 hmem
  have hall : ∀ name ∈ fixedNames ++ ["kustomization.yaml"],
      ¬ ("patches/".toList <+: name.toList ∨ "services/".toList <+: name.toList) := by decide
  exact hall name h (serviceNames_starts hservice)

/-- The files of one component have different paths. -/
theorem paths_nodup (h : (member.component.services.map (·.name)).Nodup) : (member.paths environmentName overlays).Nodup := by
  have hnames : (member.fileNames overlays).Nodup := by
    unfold Member.fileNames
    rw [List.append_assoc]
    have hservices : (member.serviceFileNames overlays).Nodup := serviceFileNames_nodup h
    have hfixed : (fixedNames ++ ["kustomization.yaml"]).Nodup := by decide
    obtain ⟨hleft, hright, hdisjoint⟩ := List.nodup_append'.1 hfixed
    refine List.nodup_append'.2 ⟨hleft, List.nodup_append'.2 ⟨hservices, hright, ?_⟩, ?_⟩
    · intro name hname hlast
      exact fixedNames_fresh (List.mem_append_right _ hlast) hname
    · intro name hname hother
      rcases List.mem_append.1 hother with hservice | hlast
      · exact fixedNames_fresh (List.mem_append_left _ hname) hservice
      · exact hdisjoint hname hlast
  exact hnames.map fun name other heq => (String.append_right_inj _).1 heq

theorem mem_paths {path : String} : path ∈ member.paths environmentName overlays ↔
    (∃ name ∈ fixedNames ++ ["kustomization.yaml"], path = member.path environmentName name) ∨
      path ∈ member.servicePaths environmentName overlays := by
  unfold Member.paths Member.fileNames Member.servicePaths
  simp only [List.map_append, List.mem_append, List.mem_map]
  constructor
  · rintro ((⟨name, hname, rfl⟩ | hservice) | ⟨name, hname, rfl⟩)
    · exact Or.inl ⟨name, Or.inl hname, rfl⟩
    · exact Or.inr hservice
    · exact Or.inl ⟨name, Or.inr hname, rfl⟩
  · rintro (⟨name, hname | hname, rfl⟩ | hservice)
    · exact Or.inl (Or.inl ⟨name, hname, rfl⟩)
    · exact Or.inr ⟨name, hname, rfl⟩
    · exact Or.inl (Or.inr hservice)

/-- Paths that end without a slash are below one root. -/
theorem path_root {other : Member} {name otherName : String} (hname : '/' ∉ name.toList) (hother : '/' ∉ otherName.toList)
    (h : member.path environmentName name = other.path environmentName otherName) :
    member.root environmentName = other.root environmentName := by
  have hlist := congrArg String.toList h
  simp only [Member.path, String.toList_append, List.append_assoc] at hlist
  exact String.toList_inj.1 (lastSeparator_inj hname hother hlist).1

/-- **When no file of one component has the path of one of another.** -/
theorem paths_disjoint_iff {other : Member} :
    (member.paths environmentName overlays).Disjoint (other.paths environmentName overlays) ↔
      member.root environmentName ≠ other.root environmentName ∧
        (∀ path ∈ member.servicePaths environmentName overlays, path ∉ other.paths environmentName overlays) ∧
          ∀ path ∈ other.servicePaths environmentName overlays, path ∉ member.paths environmentName overlays := by
  constructor
  · intro hdisjoint
    refine ⟨fun hroot => ?_, ?_, ?_⟩
    · have hkustomization : "kustomization.yaml" ∈ fixedNames ++ ["kustomization.yaml"] := by decide
      refine hdisjoint (mem_paths.2 (Or.inl ⟨_, hkustomization, rfl⟩)) (mem_paths.2 (Or.inl ⟨_, hkustomization, ?_⟩))
      rw [Member.path, Member.path, hroot]
    · exact fun path hpath hother => hdisjoint (mem_paths.2 (Or.inr hpath)) hother
    · exact fun path hpath hmember => hdisjoint hmember (mem_paths.2 (Or.inr hpath))
  · rintro ⟨hroot, hservices, hotherServices⟩ path hpath hother
    have hslash : ∀ name ∈ fixedNames ++ ["kustomization.yaml"], '/' ∉ name.toList := by decide
    rcases mem_paths.1 hpath with ⟨name, hname, rfl⟩ | hservice
    · rcases mem_paths.1 hother with ⟨otherName, hotherName, heq⟩ | hotherService
      · exact hroot (path_root (hslash name hname) (hslash otherName hotherName) heq)
      · exact hotherServices _ hotherService hpath
    · exact hservices path hservice hother

end

/-! ## Separation -/

section
variable (rt : Runtime) (plan : CodeflyProductTopologyPlan) (options : CodeflyProductSecurityRenderOptions)

/-- The principal of a component's workload. -/
def Member.principal (member : Member) : String :=
  Product.principal options (member.namespaceName rt options.environmentName) (member.serviceAccount rt)

/-- **Different components have different namespaces and principals, and no two files have one path.** -/
structure Separated (files : List File) : Prop where
  namespaces : ∀ member ∈ plan.members, ∀ other ∈ plan.members, member.target ≠ other.target →
    member.namespaceName rt options.environmentName ≠ other.namespaceName rt options.environmentName
  principals : ∀ member ∈ plan.members, ∀ other ∈ plan.members, member.target ≠ other.target →
    member.principal rt options ≠ other.principal rt options
  paths : (files.map Prod.fst).Nodup

/-- When the manifests are apart: the names that namespaces are made of have different labels, the
components have different roots, and no service has a name that makes its file one of another component. -/
structure NamesApart : Prop where
  labels : ∀ member ∈ plan.members, ∀ other ∈ plan.members, member.target ≠ other.target →
    Apart rt (member.namespaceText options.environmentName) (other.namespaceText options.environmentName)
  roots : ∀ member ∈ plan.members, ∀ other ∈ plan.members, member.target ≠ other.target →
    member.root options.environmentName ≠ other.root options.environmentName
  services : ∀ member ∈ plan.members, ∀ other ∈ plan.members, member.target ≠ other.target →
    ∀ path ∈ member.servicePaths options.environmentName options.overlays,
      path ∉ other.paths options.environmentName options.overlays

end

section
variable {rt : Runtime} {plan : CodeflyProductTopologyPlan} {options : CodeflyProductSecurityRenderOptions}
  {files : List File}

/-- Principals in different namespaces are different. -/
theorem principal_ne {member other : Member}
    (h : member.namespaceName rt options.environmentName ≠ other.namespaceName rt options.environmentName) :
    member.principal rt options ≠ other.principal rt options := by
  intro heq
  have hlist := congrArg String.toList heq
  simp only [Member.principal, Product.principal, toString, String.toList_append, List.append_assoc] at hlist
  have htail := List.append_cancel_left (List.append_cancel_left hlist)
  exact h (String.toList_inj.1 (separator_inj dnsLabel_no_slash dnsLabel_no_slash htail).1)

/-- **When no two files have one path.** -/
theorem files_nodup_iff (hplan : PlanValid plan) (h : renderedFiles rt plan options = .ok files) :
    (files.map Prod.fst).Nodup ↔ ∀ member ∈ plan.members, ∀ other ∈ plan.members, member.target ≠ other.target →
      (member.paths options.environmentName options.overlays).Disjoint
        (other.paths options.environmentName options.overlays) := by
  have hevidence : "product-security-plan.yaml" ∉
      plan.members.flatMap fun member => member.paths options.environmentName options.overlays := by
    intro hmem
    obtain ⟨member, -, hpath⟩ := List.mem_flatMap.1 hmem
    obtain ⟨name, -, heq⟩ := List.mem_map.1 hpath
    have hhead := congrArg (fun text : String => text.toList.head?) heq
    simp [Member.path, Member.root, toString] at hhead
  have hmembers : plan.members.Nodup := List.Nodup.of_map _ (members_nodup hplan)
  have hne : ∀ {member other : Member}, member ∈ plan.members → other ∈ plan.members →
      (member ≠ other ↔ member.target ≠ other.target) := fun hmember hother =>
    ⟨fun hne heq => hne (member_eq hplan hmember hother heq), fun hne heq => hne (congrArg Member.target heq)⟩
  rw [renderedFiles_paths h, List.nodup_append', List.nodup_flatMap]
  constructor
  · rintro ⟨⟨-, hpairwise⟩, -⟩ member hmember other hother htarget
    have hsymm : Std.Symm (Function.onFun List.Disjoint fun member : Member =>
        member.paths options.environmentName options.overlays) := ⟨fun _ _ hdisjoint _ hleft hright => hdisjoint hright hleft⟩
    exact hpairwise.forall hmember hother ((hne hmember hother).2 htarget)
  · intro hall
    refine ⟨⟨?_, ?_⟩, List.nodup_singleton _, ?_⟩
    · intro member hmember
      obtain ⟨hworkspace, hcomponent⟩ := mem_members.1 hmember
      exact paths_nodup ((hplan.workspaces _ hworkspace).services _ hcomponent)
    · exact hmembers.pairwise_of_forall_ne fun member hmember other hother hdifferent =>
        hall member hmember other hother ((hne hmember hother).1 hdifferent)
    · intro path hpath hlast
      rw [List.mem_singleton.1 hlast] at hpath
      exact hevidence hpath

/-- **When the manifests of different components are apart.** -/
theorem separated_plan_iff (hplan : PlanValid plan) (h : renderedFiles rt plan options = .ok files) :
    Separated rt plan options files ↔ NamesApart rt plan options := by
  constructor
  · intro hseparated
    have hdisjoint := (files_nodup_iff hplan h).1 hseparated.paths
    constructor
    · intro member hmember other hother hne
      exact apart_iff.1 (hseparated.namespaces member hmember other hother hne)
    · intro member hmember other hother hne
      exact (paths_disjoint_iff.1 (hdisjoint member hmember other hother hne)).1
    · intro member hmember other hother hne
      exact (paths_disjoint_iff.1 (hdisjoint member hmember other hother hne)).2.1
  · intro hapart
    have hnamespaces : ∀ member ∈ plan.members, ∀ other ∈ plan.members, member.target ≠ other.target →
        member.namespaceName rt options.environmentName ≠ other.namespaceName rt options.environmentName :=
      fun member hmember other hother hne => apart_iff.2 (hapart.labels member hmember other hother hne)
    refine ⟨hnamespaces, ?_, (files_nodup_iff hplan h).2 ?_⟩
    · intro member hmember other hother hne
      exact principal_ne (hnamespaces member hmember other hother hne)
    · intro member hmember other hother hne
      exact paths_disjoint_iff.2 ⟨hapart.roots member hmember other hother hne,
        hapart.services member hmember other hother hne, hapart.services other hother member hmember hne.symm⟩

/-- Labels are apart exactly if the namespaces are different. -/
theorem labels_iff_nodup (hplan : PlanValid plan) :
    (∀ member ∈ plan.members, ∀ other ∈ plan.members, member.target ≠ other.target →
      Apart rt (member.namespaceText options.environmentName) (other.namespaceText options.environmentName)) ↔
      (plan.members.map fun member => member.namespaceName rt options.environmentName).Nodup := by
  have hmembers : plan.members.Nodup := List.Nodup.of_map _ (members_nodup hplan)
  constructor
  · intro hlabels
    refine List.Nodup.map_on (fun member hmember other hother heq => ?_) hmembers
    by_contra hne
    refine apart_iff.2 (hlabels member hmember other hother fun htarget => ?_) heq
    exact hne (member_eq hplan hmember hother htarget)
  · intro hnodup member hmember other hother hne
    refine apart_iff.1 fun heq => hne ?_
    exact congrArg Member.target (List.inj_on_of_nodup_map hnodup hmember hother heq)

/-- Without slashes in the names of workspaces and components the labels decide. -/
theorem apart_of_plain
    (hplain : ∀ member ∈ plan.members, '/' ∉ member.workspace.workspaceName.toList ∧ '/' ∉ member.component.moduleName.toList) :
    NamesApart rt plan options ↔ ∀ member ∈ plan.members, ∀ other ∈ plan.members, member.target ≠ other.target →
      Apart rt (member.namespaceText options.environmentName) (other.namespaceText options.environmentName) := by
  refine ⟨NamesApart.labels, fun hlabels => ?_⟩
  -- a common path, or a common root, would give both components one workspace name and one module name
  have hroots : ∀ member ∈ plan.members, ∀ other ∈ plan.members, member.target ≠ other.target → ∀ u v : List Char,
      (member.root options.environmentName).toList ++ u ≠ (other.root options.environmentName).toList ++ v := by
    intro member hmember other hother hne u v heq
    simp only [Member.root, toString, String.toList_append, List.append_assoc] at heq
    have hname := separator_inj (hplain member hmember).1 (hplain other hother).1 (List.append_cancel_left heq)
    have hmodule := separator_inj (hplain member hmember).2 (hplain other hother).2 (List.append_cancel_left hname.2)
    refine apart_iff.2 (hlabels member hmember other hother hne) (congrArg (dnsLabel rt) ?_)
    unfold Member.namespaceText
    rw [String.toList_inj.1 hname.1, String.toList_inj.1 hmodule.1]
  have hpath : ∀ member : Member, ∀ name,
      (member.path options.environmentName name).toList =
        (member.root options.environmentName).toList ++ ("/" ++ name).toList := by
    intro member name
    rw [Member.path, String.append_assoc, String.toList_append]
  refine ⟨hlabels, ?_, ?_⟩
  · intro member hmember other hother hne heq
    exact hroots member hmember other hother hne [] [] (by rw [heq])
  · intro member hmember other hother hne path hservice hmem
    obtain ⟨name, -, rfl⟩ := List.mem_map.1 hservice
    obtain ⟨otherName, -, heq⟩ := List.mem_map.1 hmem
    refine hroots member hmember other hother hne ("/" ++ name).toList ("/" ++ otherName).toList ?_
    rw [← hpath member name, ← hpath other otherName, heq]

/-- **The manifests of different components are apart exactly if** the names that their namespaces are
made of have different labels, their roots are different, and no service's file is one of another component. -/
theorem separated_iff {dates : Dates} {blueprint : PlatformBlueprint} {contract : CodeflyProductContract}
    {artifacts : Record (List Manifest)} (hcompile : compileCodeflyProductTopology rt dates blueprint contract = .ok plan)
    (h : renderCodeflyProductSecurityArtifacts rt plan options = .ok artifacts) :
    (∃ files, renderedFiles rt plan options = .ok files ∧ Separated rt plan options files) ↔
      NamesApart rt plan options := by
  have hplan := compile_ok hcompile
  obtain ⟨written, hwritten, -⟩ := artifacts_ok h
  constructor
  · rintro ⟨files, hfiles, hseparated⟩
    exact (separated_plan_iff hplan hfiles).1 hseparated
  · exact fun hapart => ⟨written, hwritten, (separated_plan_iff hplan hwritten).2 hapart⟩

end

/-! ## Three products -/

def productApplication (id componentId : String) (dependencies : List ApplicationDependency) : ApplicationDeployment :=
  { id := id
    workloadPlaneId := "runtime"
    serviceIdentityId := id ++ "-identity"
    tenantScope := .dedicated "a"
    dataBoundaryIds := []
    ingress := .none
    components := [⟨componentId, "runtime", id ++ "-component", [], .none, ⟨2, 1⟩⟩]
    componentDependencies := []
    dependencies := dependencies
    availability := ⟨2, 1⟩
    release := ⟨true, true, true, true⟩ }

/-- A shop, and two products it may depend on. -/
def productBlueprint (dependencies : List ApplicationDependency) : PlatformBlueprint :=
  { sampleBlueprint [] [] with
    posture := ⟨true, false, true, 30⟩
    requiredCapabilities := [.workloadIdentity, .privateControlPlane]
    workloadPlanes := [⟨"runtime", "app", .dedicated "a", .trusted, .managedKubernetes, .container, false, true,
      .workloadIdentity, none⟩]
    applications := [productApplication "shop" "web" dependencies, productApplication "pay" "core-api" [],
      productApplication "pay-core" "api" []]
    identities := ["shop-identity", "shop-component", "pay-identity", "pay-component", "pay-core-identity",
      "pay-core-component"].map fun id => ⟨id, .workload, none, true⟩
    evidenceSinks := [⟨"audit", true, 30, .platform⟩]
    evidenceRequirements := [⟨"releases", ["shop", "pay", "pay-core"], "audit", ["deployment", "authorization"]⟩] }

/-- A product of one module with one service. -/
def sampleProduct (workspaceName moduleName : String) : CodeflyProduct :=
  { workspaceName := workspaceName
    modules := Record.fromEntries [(moduleName,
      ⟨Record.fromEntries [("server", ⟨"codefly", "go", "1.0.0", []⟩)], []⟩)]
    otherFields := [] }

/-- The names of the workspaces of both other products. -/
def sampleContract (payName coreName : String) : CodeflyProductContract :=
  { apiVersion := "contracts.security.deus.dev/codefly-products/v1"
    products := Record.fromEntries [("shop", sampleProduct "store" "web"), ("pay", sampleProduct payName "core-api"),
      ("pay-core", sampleProduct coreName "api")]
    otherFields := [] }

def sampleOptions : CodeflyProductSecurityRenderOptions :=
  { environmentName := "prod"
    images := Record.fromEntries (["shop/web/server", "pay/core-api/server", "pay-core/api/server"].map fun key =>
      (key, "registry/server@sha256:" ++ zeroDigest))
    serviceOverlayPaths := none
    ingress := none
    workloadIdentityAnnotations := none
    imageVerification := ⟨"https://issuer.example", "release", none⟩
    trustDomain := none }

/-- The products with the names of two workspaces and what the shop depends on. -/
def compileSample (rt : Runtime) (dependencies : List ApplicationDependency) (payName coreName : String) :
    Except String CodeflyProductTopologyPlan :=
  compileCodeflyProductTopology rt sampleDates (productBlueprint dependencies) (sampleContract payName coreName)

/-- A runtime with the digest of the plan. -/
def planRuntime (dependencies : List ApplicationDependency) (payName coreName digest : String)
    (h : isHexDigest digest = true) : Runtime :=
  let rt : Runtime := .tabulated [] (fun _ => none) hex_nil
  let plan := (compileSample rt dependencies payName coreName).toOption.getD ⟨[]⟩
  .tabulated [(String.ofList (textWith rt.sortedStyle (planValue plan)), digest)] (fun _ => none) (by simpa using h)

/-- Whether the plan is rendered, to different namespaces. -/
def rendersApart (rt : Runtime) (dependencies : List ApplicationDependency) (payName coreName : String) : Option Bool := do
  let plan ← (compileSample rt dependencies payName coreName).toOption
  let _ ← (renderCodeflyProductSecurityArtifacts rt plan sampleOptions).toOption
  some (decide (plan.members.map fun member => member.namespaceName rt sampleOptions.environmentName).Nodup)

theorem rendersApart_some {rt : Runtime} {dependencies : List ApplicationDependency} {payName coreName : String} {b : Bool}
    (h : rendersApart rt dependencies payName coreName = some b) : ∃ plan artifacts,
      compileSample rt dependencies payName coreName = .ok plan ∧
        renderCodeflyProductSecurityArtifacts rt plan sampleOptions = .ok artifacts ∧
          decide (plan.members.map fun member => member.namespaceName rt sampleOptions.environmentName).Nodup = b := by
  unfold rendersApart at h
  cases hcompile : compileSample rt dependencies payName coreName with
  | error message =>
    rw [hcompile] at h
    cases h
  | ok plan =>
    rw [hcompile] at h
    cases hrender : renderCodeflyProductSecurityArtifacts rt plan sampleOptions with
    | error message => simp [Except.toOption, hrender] at h
    | ok artifacts => exact ⟨plan, artifacts, rfl, hrender, by simpa [Except.toOption, hrender] using h⟩

def apartRuntime : Runtime :=
  planRuntime [] "payments" "billing" "de1e8b83872852ed62e82f6688e297f4ac91fda55927662be928fcbadc3b2ba5" (by decide +kernel)

/-- The workspaces `billing` and `billing-core`. -/
def sharedRuntime : Runtime :=
  planRuntime [] "billing" "billing-core" "eacbe88b06a943ef393e90d128becea047b27ab8d5278cc9fcb90c906d6d3b4d"
    (by decide +kernel)

theorem apart_renders : rendersApart apartRuntime [] "payments" "billing" = some true := by decide +kernel

theorem shared_renders : rendersApart sharedRuntime [] "billing" "billing-core" = some false := by decide +kernel

theorem sample_plain : ∀ plan, compileSample apartRuntime [] "payments" "billing" = .ok plan → ∀ member ∈ plan.members,
    '/' ∉ member.workspace.workspaceName.toList ∧ '/' ∉ member.component.moduleName.toList := by
  have hall : ((compileSample apartRuntime [] "payments" "billing").toOption.all fun plan => plan.members.all fun member =>
      decide ('/' ∉ member.workspace.workspaceName.toList ∧ '/' ∉ member.component.moduleName.toList)) = true := by
    decide +kernel
  intro plan hplan member hmember
  rw [hplan] at hall
  exact of_decide_eq_true (List.all_eq_true.1 hall member hmember)

theorem separated_sample : ∃ plan, compileSample apartRuntime [] "payments" "billing" = .ok plan ∧
    ∃ files, renderedFiles apartRuntime plan sampleOptions = .ok files ∧ Separated apartRuntime plan sampleOptions files := by
  obtain ⟨plan, artifacts, hcompile, hrender, hnodup⟩ := rendersApart_some apart_renders
  have hlabels := (labels_iff_nodup (compile_ok hcompile)).2 (of_decide_eq_true hnodup)
  exact ⟨plan, hcompile, (separated_iff hcompile hrender).2 ((apart_of_plain (sample_plain plan hcompile)).2 hlabels)⟩

/-- **Two products share a namespace**: `billing` with `core-api`, and `billing-core` with `api`. -/
theorem billing_shares_namespace :
    ¬ ∀ (rt : Runtime) (dates : Dates) (blueprint : PlatformBlueprint) (contract : CodeflyProductContract)
      (plan : CodeflyProductTopologyPlan) (options : CodeflyProductSecurityRenderOptions)
      (artifacts : Record (List Manifest)), compileCodeflyProductTopology rt dates blueprint contract = .ok plan →
        renderCodeflyProductSecurityArtifacts rt plan options = .ok artifacts →
          ∃ files, renderedFiles rt plan options = .ok files ∧ Separated rt plan options files := by
  intro hall
  obtain ⟨plan, artifacts, hcompile, hrender, hshared⟩ := rendersApart_some shared_renders
  obtain ⟨files, hfiles, hseparated⟩ := hall _ _ _ _ plan sampleOptions artifacts hcompile hrender
  have hplan := compile_ok hcompile
  have hlabels := ((separated_plan_iff hplan hfiles).1 hseparated).labels
  exact of_decide_eq_false hshared ((labels_iff_nodup hplan).1 hlabels)

end SecureSaas.Codefly.Product
