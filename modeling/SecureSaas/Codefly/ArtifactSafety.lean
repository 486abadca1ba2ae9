import SecureSaas.Codefly.ArtifactText

/-!
# Artifacts without injection

The values of a document are quoted, so they cannot be read as anything else. What is written as it is can: the names of
annotations and images as keys, the names of services and of the environment as items and parts of paths.

* `template_safe`: the lines with keys of the templates are read as they are meant.
* `injectionFree_iff`: **when all artifacts of a compiled plan are what they are meant to be.**
-/

namespace SecureSaas.Codefly.Artifacts

open Js Yaml Blueprint Applications

/-! ## Templates -/

/-- The keys that the templates write. -/
def templateKeys : List String :=
  ["name", "description", "kind", "kubeconfig", "context", "url", "auth", "repo-url", "path", "branch", "service",
    "endpoint", "visibility", "module", "version", "publisher", "api", "image", "service-account", "namespace",
    "security.deus.dev/application", "app", "port", "kubernetes.io/metadata.name", "maxUnavailable",
    "security.deus.dev/blueprint-digest", "workload-plane", "data-boundaries", "workload-identity-required",
    "signature-verification-required", "provenance-verification-required", "rollback-required", "value",
    "security.deus.dev/workload-plane", "id", "serviceAccount", "apiVersion", "blueprintDigest", "environment",
    "minimumCliVersion", "maximumCliVersionExclusive", "agentProtocolVersion"]

/-- A decoder, by the plain texts that it takes for strings and not for numbers, truth values and the like. The keys of
the templates are words. -/
structure Decoder where
  isString : String → Bool
  words : ∀ key ∈ templateKeys, isString key = true

/-- A line that writes nothing as it is but a key of the templates or a number. -/
def isTemplate : Line → Bool
  | .entry _ _ key _ => templateKeys.contains key
  | .number _ key _ => templateKeys.contains key
  | .quotedItem _ _ => true
  | .plainItem _ _ => false
  | .fixed text => (readLine text.toList).isSome && text.toList.all (!isBreak ·)

theorem templateKeys_plain : ∀ key ∈ templateKeys, isPlainKey key = true := by decide

/-- **A line of the templates is read as it is meant**, whatever its value is. -/
theorem template_safe (decoder : Decoder) {line : Line} (h : isTemplate line = true) : line.Safe decoder.isString := by
  cases line with
  | entry indent item key value =>
    have hkey : key ∈ templateKeys := List.contains_iff_mem.1 h
    exact entry_safe (templateKeys_plain key hkey) (decoder.words key hkey)
  | number indent key n =>
    have hkey : key ∈ templateKeys := List.contains_iff_mem.1 h
    exact number_safe (templateKeys_plain key hkey) (decoder.words key hkey)
  | quotedItem indent value => exact quotedItem_safe
  | plainItem indent text => cases h
  | fixed text =>
    obtain ⟨hread, hbreak⟩ := Bool.and_eq_true_iff.1 h
    exact fixed_safe hread hbreak

/-- All lines are lines of the templates. -/
def Template (lines : List Line) : Prop := lines.all isTemplate = true

theorem template_append {lines others : List Line} : Template (lines ++ others) ↔ Template lines ∧ Template others := by
  unfold Template
  rw [List.all_append, Bool.and_eq_true]

theorem template_flatMap {α : Type} {items : List α} {f : α → List Line} (h : ∀ item, Template (f item)) :
    Template (items.flatMap f) := by
  unfold Template
  rw [List.all_flatMap]
  exact List.all_eq_true.2 fun item _ => h item

theorem template_map {α : Type} {items : List α} {f : α → Line} (h : ∀ item, isTemplate (f item) = true) :
    Template (items.map f) := by
  unfold Template
  rw [List.all_map]
  exact List.all_eq_true.2 fun item _ => h item

theorem template_optionalEntry {indent : ℕ} {key : String} {value : Option String} (h : key ∈ templateKeys) :
    Template (optionalEntry indent key value) := by
  unfold optionalEntry
  split
  · rfl
  · exact List.all_eq_true.2 fun line hline => by
      rw [List.mem_singleton.1 hline]
      exact List.contains_iff_mem.2 h

/-! ## The documents that are templates -/

section
variable {details : PlanDetails} {plan : CodeflyPaasPlan} {deployment : CodeflyDeploymentPlan}
  {service : CodeflyServicePlan}

theorem gitops_template : Template (gitopsLines details) := by
  unfold gitopsLines
  split
  · rfl
  · exact template_append.2 ⟨template_append.2 ⟨rfl, template_optionalEntry (by decide)⟩, rfl⟩

theorem workspace_template : Template (renderWorkspace details plan) := by
  unfold renderWorkspace
  refine template_append.2 ⟨template_append.2 ⟨template_append.2 ⟨template_append.2 ⟨template_append.2
    ⟨template_append.2 ⟨template_append.2 ⟨rfl, ?_⟩, rfl⟩, ?_⟩, ?_⟩, rfl⟩, ?_⟩, gitops_template⟩
  · exact template_map fun _ => rfl
  · exact template_optionalEntry (by decide)
  · exact template_optionalEntry (by decide)
  · exact template_optionalEntry (by decide)

theorem module_template : Template (renderModule deployment) := by
  unfold renderModule
  refine template_append.2 ⟨template_append.2 ⟨template_append.2 ⟨rfl, ?_⟩, rfl⟩, ?_⟩
  · exact template_flatMap fun _ => rfl
  · exact template_map fun _ => rfl

theorem external_template (dependency : CodeflyExternalDependency) : Template (externalLines dependency) := by
  unfold externalLines
  rw [← List.singleton_append]
  refine template_append.2 ⟨template_append.2 ⟨rfl, template_optionalEntry (by decide)⟩, ?_⟩
  split
  · rfl
  · rfl

theorem dependency_template : Template (dependencyLines service) := by
  unfold dependencyLines
  split
  · rfl
  · rw [← List.singleton_append]
    exact template_append.2 ⟨template_append.2 ⟨rfl, template_flatMap fun _ => rfl⟩, template_flatMap external_template⟩

theorem service_template : Template (renderService deployment service) := by
  unfold renderService
  refine template_append.2 ⟨template_append.2 ⟨template_append.2 ⟨template_append.2 ⟨rfl, dependency_template⟩, rfl⟩,
    ?_⟩, rfl⟩
  exact template_flatMap fun _ => rfl

theorem namespace_template : Template (renderNamespaceLines deployment) := by
  exact rfl

theorem securityContract_template : Template (renderSecurityContract details deployment) := by
  exact rfl

theorem baseKustomization_template : Template renderBaseKustomization := by
  exact rfl

theorem disruptionBudget_template (name : String) : Template (disruptionBudgetLines deployment name) := by
  exact rfl

theorem patch_template : Template (patchLines deployment service) := by
  exact rfl

theorem policyHead_template {name : Line} (h : isTemplate name = true) : Template (policyHead deployment name) := by
  unfold Template policyHead
  rw [List.all_cons, List.all_cons, List.all_cons, List.all_cons, h]
  rfl

theorem separated_template : ∀ {documents : List (List Line)}, (∀ lines ∈ documents, Template lines) →
    Template (separated documents)
  | [], _ => rfl
  | [lines], h => h lines List.mem_cons_self
  | lines :: next :: rest, h => by
    have hrest := separated_template fun others hothers => h others (List.mem_cons_of_mem lines hothers)
    rw [separated, ← List.singleton_append]
    exact template_append.2 ⟨h lines List.mem_cons_self, template_append.2 ⟨rfl, hrest⟩⟩

/-- The last line ends with a value in quotes, or with a constant that does not end with white space. -/
def endsInText (lines : List Line) : Bool :=
  match lines.getLast? with
  | some (.entry _ _ _ _) => true
  | some (.fixed text) => text.toList.getLast?.any fun c => !isSpace c
  | _ => false

theorem endsInText_ok {lines : List Line} (h : endsInText lines = true) : EndsInText lines := by
  unfold endsInText at h
  split at h
  · rename_i indent item key value hlast
    obtain ⟨before, rfl⟩ := List.getLast?_eq_some_iff.1 hlast
    refine ⟨before, _, spaces indent ++ (mark item ++ (key.toList ++ ':' :: ' ' :: '"' :: value.toList.flatMap escapeChar)),
      '"', rfl, ?_, by decide⟩
    simp [Line.text, quoteChars]
  · rename_i text hlast
    obtain ⟨before, rfl⟩ := List.getLast?_eq_some_iff.1 hlast
    obtain ⟨c, hc, hspace⟩ := (Option.any_eq_true ..).1 h
    obtain ⟨start, hstart⟩ := List.getLast?_eq_some_iff.1 hc
    rw [Bool.not_eq_true'] at hspace
    exact ⟨before, _, start, c, rfl, hstart, hspace⟩
  · cases h

/-- A document of several is made of lines of the templates, and it ends in text. -/
def IsPart (lines : List Line) : Prop := Template lines ∧ EndsInText lines

theorem defaultDeny_part : IsPart (defaultDenyLines deployment) :=
  ⟨template_append.2 ⟨policyHead_template rfl, rfl⟩, endsInText_ok rfl⟩

theorem allowDns_part : IsPart (allowDnsLines deployment) :=
  ⟨template_append.2 ⟨policyHead_template rfl, rfl⟩, endsInText_ok rfl⟩

theorem egress_part {targetId : String} {dependency : CodeflyDependencyPlan} :
    IsPart (egressLines deployment targetId dependency) :=
  ⟨template_append.2 ⟨policyHead_template rfl, rfl⟩, endsInText_ok rfl⟩

theorem ingress_part {callerId : String} {dependency : CodeflyDependencyPlan} :
    IsPart (ingressLines deployment callerId dependency) :=
  ⟨template_append.2 ⟨policyHead_template rfl, rfl⟩, endsInText_ok rfl⟩

theorem public_part {ingressNamespace : String} {exposed : CodeflyModuleInterfaceExtension} :
    IsPart (publicLines deployment ingressNamespace exposed) :=
  ⟨template_append.2 ⟨policyHead_template rfl, rfl⟩, endsInText_ok rfl⟩

theorem disruptionBudget_part (name : String) : IsPart (disruptionBudgetLines deployment name) :=
  ⟨disruptionBudget_template name, endsInText_ok rfl⟩

/-- Every network policy of a deployment is such a document. -/
theorem networkPolicy_parts {documents : List (List Line)} (h : networkPolicyDocuments plan deployment = .ok documents) :
    documents ≠ [] ∧ ∀ lines ∈ documents, IsPart lines := by
  obtain ⟨fromCallers, hcallers, h⟩ := bind_ok.1 h
  obtain ⟨fromIngress, hingress, h⟩ := bind_ok.1 h
  obtain rfl := Except.ok.inj h
  refine ⟨by simp, fun lines hlines => ?_⟩
  simp only [List.mem_append, List.mem_cons, List.not_mem_nil, or_false] at hlines
  rcases hlines with (((rfl | rfl) | hegress) | hcaller) | hpublic
  · exact defaultDeny_part
  · exact allowDns_part
  · obtain ⟨dependency, -, hsome⟩ := List.mem_filterMap.1 hegress
    obtain ⟨target, -, rfl⟩ := Option.map_eq_some_iff.1 hsome
    exact egress_part
  · obtain ⟨caller, -, hone⟩ := mapM_source hcallers hcaller
    unfold callerDocument at hone
    split at hone
    · cases hone
    · obtain rfl := Except.ok.inj hone
      exact ingress_part
  · unfold publicDocuments at hingress
    split at hingress
    · split at hingress
      · cases hingress
      · obtain rfl := Except.ok.inj hingress
        obtain ⟨exposed, -, rfl⟩ := List.mem_map.1 hpublic
        exact public_part
    · obtain rfl := Except.ok.inj hingress
      cases hpublic

/-! ## The documents with names -/

/-- The name is read as itself where it is written as a key. -/
def PlainName (decoder : Decoder) (name : String) : Prop := isPlainKey name = true ∧ decoder.isString name = true

/-- The overlay of the service is read as itself where it is written as an item. -/
def PlainOverlay (decoder : Decoder) (environmentName service : String) : Prop :=
  isPlainItem (serviceOverlay environmentName service) = true ∧
    decoder.isString (serviceOverlay environmentName service) = true

/-- Every line is read as it is meant. -/
def Safe (decoder : Decoder) (lines : List Line) : Prop := ∀ line ∈ lines, line.Safe decoder.isString

variable {decoder : Decoder}

theorem safe_of_template {lines : List Line} (h : Template lines) : Safe decoder lines :=
  fun line hline => template_safe decoder (List.all_eq_true.1 h line hline)

theorem safe_append {lines others : List Line} : Safe decoder (lines ++ others) ↔ Safe decoder lines ∧ Safe decoder others :=
  List.forall_mem_append

/-- Lines between lines of the templates. -/
theorem safe_between {before lines after : List Line} (hbefore : Template before) (hafter : Template after) :
    Safe decoder (before ++ lines ++ after) ↔ Safe decoder lines := by
  rw [safe_append, safe_append]
  exact ⟨fun h => h.1.2, fun h => ⟨⟨safe_of_template hbefore, h⟩, safe_of_template hafter⟩⟩

theorem safe_entries {indent : ℕ} {entries : List (String × String)} :
    Safe decoder (entries.map fun entry => .entry indent false entry.1 entry.2) ↔
      ∀ entry ∈ entries, PlainName decoder entry.1 := by
  unfold Safe
  rw [List.forall_mem_map]
  exact forall₂_congr fun entry _ => entry_safe_iff

/-- **When the service account is read as it is meant.** -/
theorem serviceAccount_safe_iff : Safe decoder (renderServiceAccount deployment) ↔
    ∀ annotation ∈ deployment.serviceAccountAnnotations.entries, PlainName decoder annotation.1 := by
  unfold renderServiceAccount
  refine (safe_between ?_ ?_).trans ?_
  · exact rfl
  · exact rfl
  unfold annotationLines
  split
  · rename_i hnone
    rw [hnone]
    exact ⟨fun _ annotation hmem => (nomatch hmem), fun _ line hline => (nomatch hline)⟩
  · rw [← List.singleton_append, safe_append, safe_entries]
    exact ⟨fun h => h.2, fun h => ⟨safe_of_template rfl, h⟩⟩

theorem evidence_safe_iff : Safe decoder (evidenceLines deployment) ↔
    ∀ image ∈ deployment.images.entries, PlainName decoder image.1 := by
  unfold evidenceLines
  rw [safe_append, safe_entries]
  refine ⟨fun h => h.2, fun h => ⟨safe_of_template ?_, h⟩⟩
  exact template_append.2 ⟨template_append.2 ⟨rfl, template_map fun _ => rfl⟩, rfl⟩

/-- **When the evidence of the plan is read as it is meant.** -/
theorem planEvidence_safe_iff : Safe decoder (renderPlanEvidence details plan) ↔
    ∀ deployment ∈ plan.deployments, ∀ image ∈ deployment.images.entries, PlainName decoder image.1 := by
  unfold renderPlanEvidence
  rw [safe_append]
  have hdeployments : Safe decoder (plan.deployments.flatMap evidenceLines) ↔
      ∀ deployment ∈ plan.deployments, Safe decoder (evidenceLines deployment) := by
    constructor
    · exact fun h deployment hmem line hline => h line (List.mem_flatMap.2 ⟨deployment, hmem, hline⟩)
    · intro h line hline
      obtain ⟨deployment, hmem, hline⟩ := List.mem_flatMap.1 hline
      exact h deployment hmem line hline
  rw [hdeployments]
  constructor
  · exact fun h deployment hmem => evidence_safe_iff.1 (h.2 deployment hmem)
  · exact fun h => ⟨safe_of_template rfl, fun deployment hmem => evidence_safe_iff.2 (h deployment hmem)⟩

theorem serviceOverlay_head (environmentName service : String) :
    (serviceOverlay environmentName service).toList.head? = some '.' := by
  unfold serviceOverlay
  rw [String.toList_append, String.toList_append, String.toList_append]
  rfl

/-- **When the overlay of the environment is read as it is meant.** -/
theorem environmentOverlay_safe_iff {environmentName : String} :
    Safe decoder (renderEnvironmentOverlay deployment environmentName) ↔
      ∀ service ∈ deployment.services, PlainOverlay decoder environmentName service := by
  unfold renderEnvironmentOverlay
  rw [List.append_assoc, List.append_assoc]
  refine (safe_between ?_ ?_).trans ?_
  · exact rfl
  · exact template_append.2 ⟨rfl, template_append.2 ⟨template_flatMap fun _ => patch_template, rfl⟩⟩
  unfold Safe
  rw [List.forall_mem_map]
  exact forall₂_congr fun service _ => item_safe_iff (serviceOverlay_head environmentName service)

/-! ## Files -/

/-- The file is where it is meant to be, and it is decoded to the tree that it is meant to be. -/
def FileSafe (decoder : Decoder) (file : ArtifactFile) : Prop :=
  Posix.pathSegments file.path = file.segments ∧
    decode decoder.isString file.text = some (intended decoder.isString file.lines)

theorem documentFile_safe_iff {first : String} (hfirst : Posix.isSegment first = true) {names : List String}
    {lines : List Line} (hlines : lines ≠ []) : FileSafe decoder (documentFile (first :: names) lines) ↔
      (∀ name ∈ names, Posix.isSegment name = true) ∧ Safe decoder lines := by
  unfold FileSafe documentFile ArtifactFile.path
  simp only
  rw [Posix.pathSegments_join hfirst, document_chars hlines, decode_iff]
  rfl

theorem documentsFile_safe_iff {first : String} (hfirst : Posix.isSegment first = true) {names : List String}
    {documents : List (List Line)} (hdocuments : documents ≠ []) (hparts : ∀ lines ∈ documents, IsPart lines) :
    FileSafe decoder (documentsFile (first :: names) documents) ↔ ∀ name ∈ names, Posix.isSegment name = true := by
  unfold FileSafe documentsFile ArtifactFile.path
  simp only
  rw [Posix.pathSegments_join hfirst, joinDocuments_chars hdocuments fun lines hlines => (hparts lines hlines).2,
    decode_iff]
  have htemplate : Template (separated documents) := separated_template fun lines hlines => (hparts lines hlines).1
  exact ⟨fun h => h.1, fun h => ⟨h, safe_of_template htemplate⟩⟩

theorem templateFile_safe_iff {first : String} (hfirst : Posix.isSegment first = true) {names : List String}
    {lines : List Line} (hlines : lines ≠ []) (htemplate : Template lines) :
    FileSafe decoder (documentFile (first :: names) lines) ↔ ∀ name ∈ names, Posix.isSegment name = true := by
  rw [documentFile_safe_iff hfirst hlines]
  exact ⟨fun h => h.1, fun h => ⟨h, safe_of_template htemplate⟩⟩

/-! ## The files of a deployment -/

/-- The services of a compiled deployment. -/
structure Services (deployment : CodeflyDeploymentPlan) : Prop where
  nodup : deployment.services.Nodup
  nonempty : deployment.services ≠ []
  plans : deployment.servicePlans.map (·.name) = deployment.services

/-- A text is kept once, by induction on the number of texts. -/
theorem eraseDups_nodup (n : ℕ) : ∀ texts : List String, texts.length ≤ n → texts.eraseDups.Nodup := by
  induction n with
  | zero =>
    intro texts hn
    rw [List.eq_nil_of_length_eq_zero (Nat.le_zero.1 hn)]
    exact List.nodup_nil
  | succ n ih =>
    intro texts hn
    cases texts with
    | nil => exact List.nodup_nil
    | cons first rest =>
      rw [List.length_cons] at hn
      have hlength := List.length_filter_le (fun text => !text == first) rest
      rw [List.eraseDups_cons, List.nodup_cons]
      refine ⟨fun hmem => ?_, ih _ (by omega)⟩
      have hfirst := (List.mem_filter.1 (List.mem_eraseDups.1 hmem)).2
      rw [beq_self_eq_true] at hfirst
      cases hfirst

theorem services_ok {rt : Runtime} {extensions : CodeflyProviderExtensions} {application : ApplicationDeployment}
    (h : compileApplication rt extensions application = .ok deployment) : Services deployment := by
  unfold compileApplication at h
  split at h
  · cases h
  · rename_i extension hextension
    obtain ⟨_, hvalid, h⟩ := bind_ok.1 h
    obtain ⟨namespaceName, -, h⟩ := bind_ok.1 h
    obtain ⟨resolved, -, h⟩ := bind_ok.1 h
    obtain ⟨serviceAccountName, -, h⟩ := bind_ok.1 h
    obtain ⟨servicePlans, hplans, h⟩ := bind_ok.1 h
    obtain ⟨_, hsome, -⟩ := bind_ok.1 hvalid
    rw [← Except.ok.inj h]
    have hperm : (sorted extension.services.eraseDups).Perm extension.services.eraseDups := List.perm_insertionSort _ _
    refine ⟨?_, ?_, ?_⟩
    · exact hperm.nodup_iff.2 (eraseDups_nodup _ _ le_rfl)
    · intro hnil
      have hdups : extension.services.eraseDups = [] := List.perm_nil.1 (hnil ▸ hperm.symm)
      have hempty : extension.services = [] := by
        by_contra hne
        obtain ⟨name, hname⟩ := List.exists_mem_of_ne_nil _ hne
        have hmem := List.mem_eraseDups.2 hname
        rw [hdups] at hmem
        cases hmem
      rw [hempty] at hsome
      exact absurd (throwUnless_ok.1 hsome) (by decide)
    · have hname : ∀ service compiled, compileService rt extension (rt.sortByKey (·.deploymentId) resolved) service
          = .ok compiled → compiled.name = id service := by
        intro service compiled hone
        unfold compileService at hone
        split at hone
        · cases hone
        · rw [← Except.ok.inj hone]
          rfl
      rw [mapM_map hname hplans, List.map_id]

/-- The names of a deployment are parts of paths, keys and items as they are. -/
structure DeploymentPlain (decoder : Decoder) (environmentName : String) (deployment : CodeflyDeploymentPlan) : Prop where
  moduleName : Posix.isSegment deployment.moduleName = true
  environment : Posix.isSegment environmentName = true
  services : ∀ service ∈ deployment.services, Posix.isSegment service = true
  annotations : ∀ annotation ∈ deployment.serviceAccountAnnotations.entries, PlainName decoder annotation.1
  overlays : ∀ service ∈ deployment.services, PlainOverlay decoder environmentName service

/-- **When the files of a deployment are what they are meant to be.** -/
theorem deploymentFiles_safe_iff {files : List ArtifactFile} (h : deploymentFiles details plan deployment = .ok files)
    (hservices : Services deployment) : (∀ file ∈ files, FileSafe decoder file) ↔
      DeploymentPlain decoder plan.environment.name deployment := by
  obtain ⟨networkPolicies, hpolicies, h⟩ := bind_ok.1 h
  obtain ⟨hsome, hparts⟩ := networkPolicy_parts hpolicies
  obtain rfl := Except.ok.inj h
  have hmodules : Posix.isSegment "modules" = true := by decide
  have hbudgets : deployment.services.map (disruptionBudgetLines deployment) ≠ [] :=
    fun hnil => hservices.nonempty (List.map_eq_nil_iff.1 hnil)
  have hbudgetParts : ∀ lines ∈ deployment.services.map (disruptionBudgetLines deployment), IsPart lines := by
    intro lines hlines
    obtain ⟨service, -, rfl⟩ := List.mem_map.1 hlines
    exact disruptionBudget_part service
  have hplans : ∀ {P : String → Prop}, (∀ service ∈ deployment.servicePlans, P service.name) ↔
      ∀ service ∈ deployment.services, P service := by
    intro P
    rw [← hservices.plans, List.forall_mem_map]
  constructor
  · intro hsafe
    simp only [List.forall_mem_append, List.forall_mem_cons, List.forall_mem_map] at hsafe
    obtain ⟨⟨⟨hmodule, -⟩, hservice⟩, -, haccount, -, -, -, -, hoverlay, -⟩ := hsafe
    obtain ⟨hmodulePath, -⟩ := (documentFile_safe_iff hmodules (by simp [renderModule])).1 hmodule
    obtain ⟨hoverlayPath, hoverlayLines⟩ := (documentFile_safe_iff hmodules (by simp [renderEnvironmentOverlay])).1 hoverlay
    obtain ⟨-, haccountLines⟩ := (documentFile_safe_iff hmodules (by simp [renderServiceAccount])).1 haccount
    refine ⟨hmodulePath _ (by simp), hoverlayPath _ (by simp), ?_, serviceAccount_safe_iff.1 haccountLines,
      environmentOverlay_safe_iff.1 hoverlayLines⟩
    refine hplans.1 fun service hmem => ?_
    obtain ⟨hpath, -⟩ := (documentFile_safe_iff hmodules (by simp [renderService])).1 (hservice service hmem)
    exact hpath _ (by simp)
  · intro hplain
    have hnames : ∀ {rest : List String}, (∀ name ∈ rest, Posix.isSegment name = true) →
        ∀ name ∈ deployment.moduleName :: rest, Posix.isSegment name = true :=
      fun hrest => List.forall_mem_cons.2 ⟨hplain.moduleName, hrest⟩
    have hservice : ∀ service ∈ deployment.services,
        ∀ name ∈ ["services", service, "service.codefly.yaml"], Posix.isSegment name = true := fun service hmem =>
      List.forall_mem_cons.2 ⟨by decide, List.forall_mem_cons.2 ⟨hplain.services service hmem, by decide⟩⟩
    have hoverlay : ∀ name ∈ ["deployment", "kustomize", "overlays", plan.environment.name, "kustomization.yaml"],
        Posix.isSegment name = true :=
      List.forall_mem_cons.2 ⟨by decide, List.forall_mem_cons.2 ⟨by decide, List.forall_mem_cons.2 ⟨by decide,
        List.forall_mem_cons.2 ⟨hplain.environment, by decide⟩⟩⟩⟩
    simp only [List.forall_mem_append, List.forall_mem_cons, List.forall_mem_map]
    refine ⟨⟨⟨?_, fun _ hmem => (nomatch hmem)⟩, ?_⟩, ?_, ?_, ?_, ?_, ?_, ?_, ?_, fun _ hmem => (nomatch hmem)⟩
    · exact (templateFile_safe_iff hmodules (by simp [renderModule]) module_template).2 (hnames (by decide))
    · intro service hmem
      refine (templateFile_safe_iff hmodules (by simp [renderService]) service_template).2 (hnames ?_)
      exact hservice service.name (hservices.plans ▸ List.mem_map_of_mem hmem)
    · exact (templateFile_safe_iff hmodules (by simp [renderNamespaceLines]) namespace_template).2 (hnames (by decide))
    · exact (documentFile_safe_iff hmodules (by simp [renderServiceAccount])).2
        ⟨hnames (by decide), serviceAccount_safe_iff.2 hplain.annotations⟩
    · exact (documentsFile_safe_iff hmodules hsome hparts).2 (hnames (by decide))
    · exact (documentsFile_safe_iff hmodules hbudgets hbudgetParts).2 (hnames (by decide))
    · exact (templateFile_safe_iff hmodules (by simp [renderSecurityContract]) securityContract_template).2
        (hnames (by decide))
    · exact (templateFile_safe_iff hmodules (by simp [renderBaseKustomization]) baseKustomization_template).2
        (hnames (by decide))
    · exact (documentFile_safe_iff hmodules (by simp [renderEnvironmentOverlay])).2
        ⟨hnames hoverlay, environmentOverlay_safe_iff.2 hplain.overlays⟩

/-! ## The files of a plan -/

theorem moduleFiles_collect : ∀ {moduleNames : List String} {deployments : List CodeflyDeploymentPlan}
    {files : List ArtifactFile}, moduleFiles details plan moduleNames deployments = .ok files →
      collect (deploymentFiles details plan) deployments = .ok files := by
  intro moduleNames deployments
  induction deployments generalizing moduleNames with
  | nil => exact fun h => h
  | cons deployment rest ih =>
    intro files h
    obtain ⟨_, -, h⟩ := bind_ok.1 h
    obtain ⟨found, hfound, h⟩ := bind_ok.1 h
    obtain ⟨others, hothers, h⟩ := bind_ok.1 h
    exact collect_cons_ok.2 ⟨found, others, hfound, ih hothers, Except.ok.inj h⟩

theorem moduleFiles_succeeds : ∀ {moduleNames : List String} {deployments : List CodeflyDeploymentPlan},
    (deployments.map (·.moduleName)).Nodup → (∀ deployment ∈ deployments, deployment.moduleName ∉ moduleNames) →
      (∀ deployment ∈ deployments, ∃ found, deploymentFiles details plan deployment = .ok found) →
        ∃ files, moduleFiles details plan moduleNames deployments = .ok files := by
  intro moduleNames deployments
  induction deployments generalizing moduleNames with
  | nil => exact fun _ _ _ => ⟨[], rfl⟩
  | cons deployment rest ih =>
    intro hnodup hfresh hrendered
    obtain ⟨hfirst, hrest⟩ := List.nodup_cons.1 (List.map_cons ▸ hnodup)
    obtain ⟨found, hfound⟩ := hrendered deployment List.mem_cons_self
    obtain ⟨others, hothers⟩ : ∃ others, moduleFiles details plan (deployment.moduleName :: moduleNames) rest
        = .ok others := by
      refine ih hrest ?_ fun other hother => hrendered other (List.mem_cons_of_mem _ hother)
      intro other hother hmem
      rcases List.mem_cons.1 hmem with heq | hmem
      · exact hfirst (List.mem_map.2 ⟨other, hother, heq⟩)
      · exact hfresh other (List.mem_cons_of_mem _ hother) hmem
    have hnew : (!moduleNames.contains deployment.moduleName) = true := by
      simpa using hfresh deployment List.mem_cons_self
    exact ⟨found ++ others, bind_ok.2 ⟨(), throwUnless_ok.2 hnew, bind_ok.2 ⟨found, hfound,
      bind_ok.2 ⟨others, hothers, rfl⟩⟩⟩⟩

/-- The files of a deployment with an ingress for what is public are rendered. -/
theorem deploymentFiles_succeeds (hpublic : deployment.ingress = .publicIngress →
    (truthy plan.environment.ingressNamespace).isSome = true) :
    ∃ files, deploymentFiles details plan deployment = .ok files := by
  obtain ⟨fromCallers, hcallers⟩ : ∃ found, (callers plan deployment).mapM (callerDocument deployment) = .ok found := by
    refine mapM_succeeds fun caller hcaller => ?_
    obtain ⟨dependency, hdependency⟩ := callerDependency_isSome hcaller
    refine ⟨ingressLines deployment caller.deploymentId dependency, ?_⟩
    unfold callerDocument
    rw [hdependency]
  obtain ⟨fromIngress, hingress⟩ : ∃ found, publicDocuments plan deployment = .ok found := by
    unfold publicDocuments
    split
    · rename_i hingress
      obtain ⟨ingressNamespace, hsome⟩ := Option.isSome_iff_exists.1 (hpublic hingress)
      rw [hsome]
      exact ⟨_, rfl⟩
    · exact ⟨[], rfl⟩
  exact ⟨_, bind_ok.2 ⟨_, bind_ok.2 ⟨fromCallers, hcallers, bind_ok.2 ⟨fromIngress, hingress, rfl⟩⟩, rfl⟩⟩

/-- The paths of a deployment's files below the directory of its module. -/
def ownSegments (environmentName : String) (services : List String) : List (List String) :=
  ["module.codefly.yaml"] :: (services.map fun service => ["services", service, "service.codefly.yaml"]) ++
    ["namespace.yaml", "service-account.yaml", "network-policy.yaml", "pod-disruption-budget.yaml", "security-contract.yaml",
      "kustomization.yaml"].map (fun name => ["deployment", "kustomize", "base", name]) ++
    [["deployment", "kustomize", "overlays", environmentName, "kustomization.yaml"]]

theorem ownSegments_nodup {environmentName : String} {services : List String} (h : services.Nodup) :
    (ownSegments environmentName services).Nodup := by
  have hservices : (services.map fun service => ["services", service, "service.codefly.yaml"]).Nodup := by
    refine h.map fun service other heq => ?_
    simp only [List.cons.injEq, and_true, true_and] at heq
    exact heq
  have hbase : (["namespace.yaml", "service-account.yaml", "network-policy.yaml", "pod-disruption-budget.yaml",
      "security-contract.yaml", "kustomization.yaml"].map fun name => ["deployment", "kustomize", "base", name]).Nodup := by
    decide
  unfold ownSegments
  rw [List.nodup_append', List.cons_append, List.nodup_cons, List.nodup_append']
  refine ⟨⟨?_, hservices, hbase, ?_⟩, List.nodup_singleton _, ?_⟩
  · simp
  · intro segments hservice hconstant
    obtain ⟨service, -, rfl⟩ := List.mem_map.1 hservice
    obtain ⟨name, -, heq⟩ := List.mem_map.1 hconstant
    exact absurd (List.cons.inj heq).1 (by decide)
  · intro segments hmem hoverlay
    obtain rfl := List.mem_singleton.1 hoverlay
    simp at hmem

theorem deploymentFiles_segments {files : List ArtifactFile} (h : deploymentFiles details plan deployment = .ok files)
    (hservices : Services deployment) : files.map ArtifactFile.segments =
      (ownSegments plan.environment.name deployment.services).map (root deployment ++ ·) := by
  obtain ⟨networkPolicies, -, h⟩ := bind_ok.1 h
  obtain rfl := Except.ok.inj h
  unfold ownSegments
  rw [← hservices.plans]
  simp [documentFile, documentsFile, base]

/-- Every file of a deployment is below the directory of its module. -/
theorem deploymentFiles_root {files : List ArtifactFile} (h : deploymentFiles details plan deployment = .ok files)
    (hservices : Services deployment) : ∀ file ∈ files, root deployment <+: file.segments := by
  intro file hfile
  have hmem : file.segments ∈ files.map ArtifactFile.segments := List.mem_map_of_mem hfile
  rw [deploymentFiles_segments h hservices] at hmem
  obtain ⟨own, -, hown⟩ := List.mem_map.1 hmem
  exact ⟨own, hown⟩

/-- The files of a deployment have different paths. -/
theorem deploymentFiles_nodup {files : List ArtifactFile} (h : deploymentFiles details plan deployment = .ok files)
    (hservices : Services deployment) : (files.map ArtifactFile.segments).Nodup := by
  rw [deploymentFiles_segments h hservices]
  exact (ownSegments_nodup hservices.nodup).map (List.append_right_injective _)

/-- The names of a plan are parts of paths, keys and items as they are. -/
structure PlainNames (decoder : Decoder) (plan : CodeflyPaasPlan) : Prop where
  deployments : ∀ deployment ∈ plan.deployments, DeploymentPlain decoder plan.environment.name deployment
  images : ∀ deployment ∈ plan.deployments, ∀ image ∈ deployment.images.entries, PlainName decoder image.1

variable {files : List ArtifactFile}

/-- The files of a plan are those of the workspace and those of its deployments. -/
theorem renderedFiles_ok (h : renderedFiles details plan = .ok files) : ∃ own,
    collect (deploymentFiles details plan) plan.deployments = .ok own ∧
      files = documentFile ["workspace.codefly.yaml"] (renderWorkspace details plan) ::
        documentFile ["codefly-plan.yaml"] (renderPlanEvidence details plan) :: own := by
  obtain ⟨own, hown, h⟩ := bind_ok.1 h
  exact ⟨own, moduleFiles_collect hown, (Except.ok.inj h).symm⟩

/-- **When all files of a plan are what they are meant to be.** -/
theorem files_safe_iff (h : renderedFiles details plan = .ok files)
    (hservices : ∀ deployment ∈ plan.deployments, Services deployment) :
    (∀ file ∈ files, FileSafe decoder file) ↔ PlainNames decoder plan := by
  obtain ⟨own, hown, rfl⟩ := renderedFiles_ok h
  have hworkspace : FileSafe decoder (documentFile ["workspace.codefly.yaml"] (renderWorkspace details plan)) :=
    (templateFile_safe_iff (by decide) (by simp [renderWorkspace]) workspace_template).2 fun _ hmem => (nomatch hmem)
  have hevidence : FileSafe decoder (documentFile ["codefly-plan.yaml"] (renderPlanEvidence details plan)) ↔
      ∀ deployment ∈ plan.deployments, ∀ image ∈ deployment.images.entries, PlainName decoder image.1 := by
    rw [documentFile_safe_iff (by decide) (by simp [renderPlanEvidence]), planEvidence_safe_iff]
    exact ⟨fun h => h.2, fun h => ⟨fun _ hmem => (nomatch hmem), h⟩⟩
  have hdeployments : (∀ file ∈ own, FileSafe decoder file) ↔
      ∀ deployment ∈ plan.deployments, DeploymentPlain decoder plan.environment.name deployment := by
    constructor
    · intro hsafe deployment hmem
      obtain ⟨found, hfound, hall⟩ := collect_round hown hmem
      exact (deploymentFiles_safe_iff hfound (hservices deployment hmem)).1 fun file hfile => hsafe file (hall file hfile)
    · intro hplain file hfile
      obtain ⟨deployment, hmem, found, hfound, hfile⟩ := collect_source hown hfile
      exact (deploymentFiles_safe_iff hfound (hservices deployment hmem)).2 (hplain deployment hmem) file hfile
  rw [List.forall_mem_cons, List.forall_mem_cons, hevidence, hdeployments]
  exact ⟨fun h => ⟨h.2.2, h.2.1⟩, fun h => ⟨hworkspace, h.images, h.deployments⟩⟩

/-- The module that a path below one belongs to. -/
def moduleOf (segments : List String) : Option String := segments[1]?

/-- The files of a plan have different paths. -/
theorem files_nodup (h : renderedFiles details plan = .ok files)
    (hservices : ∀ deployment ∈ plan.deployments, Services deployment)
    (hmodules : (plan.deployments.map (·.moduleName)).Nodup) : (files.map ArtifactFile.segments).Nodup := by
  obtain ⟨own, hown, rfl⟩ := renderedFiles_ok h
  have hroot : ∀ file ∈ own, ∃ deployment ∈ plan.deployments, root deployment <+: file.segments := by
    intro file hfile
    obtain ⟨deployment, hmem, found, hfound, hfile⟩ := collect_source hown hfile
    exact ⟨deployment, hmem, deploymentFiles_root hfound (hservices deployment hmem) file hfile⟩
  have hfresh : ∀ name, [name] ∉ own.map ArtifactFile.segments := by
    intro name hmem
    obtain ⟨file, hfile, heq⟩ := List.mem_map.1 hmem
    obtain ⟨deployment, -, hprefix⟩ := hroot file hfile
    have hlength := hprefix.length_le
    rw [heq] at hlength
    exact absurd hlength (by simp [root])
  have hnodup : (own.map ArtifactFile.segments).Nodup := by
    have howner : (plan.deployments.map fun deployment => some deployment.moduleName).Nodup := by
      have hsome := hmodules.map (Option.some_injective _)
      rwa [List.map_map] at hsome
    have hpart : ∀ deployment ∈ plan.deployments, ∀ found, deploymentFiles details plan deployment = .ok found →
        ∀ file ∈ found, moduleOf file.segments = some deployment.moduleName := by
      intro deployment hmem found hfound file hfile
      obtain ⟨rest, hrest⟩ := deploymentFiles_root hfound (hservices deployment hmem) file hfile
      rw [← hrest]
      rfl
    exact (collect_nodup hown hpart howner).2 fun deployment hmem found hfound =>
      deploymentFiles_nodup hfound (hservices deployment hmem)
  rw [List.map_cons, List.map_cons, List.nodup_cons, List.nodup_cons]
  refine ⟨?_, hfresh _, hnodup⟩
  rw [List.mem_cons, not_or]
  have hne : ["workspace.codefly.yaml"] ≠ ["codefly-plan.yaml"] := by decide
  exact ⟨hne, hfresh _⟩

/-! ## Artifacts -/

/-- The artifacts are what they are meant to be. -/
structure InjectionFree (decoder : Decoder) (details : PlanDetails) (plan : CodeflyPaasPlan) (files : List ArtifactFile)
    (artifacts : Record String) : Prop where
  /-- Every file has a path of its own. -/
  apart : (files.map ArtifactFile.path).Nodup
  /-- Every file is there as it was written, and no other one is. -/
  contents : ∀ path text, artifacts.get? path = some text ↔
    ∃ file ∈ files, file.path = path ∧ String.ofList file.text = text
  /-- Every path leads where it is meant to. -/
  segments : ∀ file ∈ files, Posix.pathSegments file.path = file.segments
  /-- The paths of a deployment lead into the directory of its module. -/
  inside : ∀ deployment ∈ plan.deployments, ∀ own, deploymentFiles details plan deployment = .ok own →
    ∀ file ∈ own, root deployment <+: Posix.pathSegments file.path
  /-- Every file is decoded to the tree that it is meant to be. -/
  trees : ∀ file ∈ files, decode decoder.isString file.text = some (intended decoder.isString file.lines)

variable {rt : Runtime} {artifacts : Record String}

theorem artifacts_get (hfiles : renderedFiles details plan = .ok files)
    (h : renderCodeflyArtifacts details plan rt = .ok artifacts) (hapart : (files.map ArtifactFile.path).Nodup)
    {path text : String} : artifacts.get? path = some text ↔
      ∃ file ∈ files, file.path = path ∧ String.ofList file.text = text := by
  obtain ⟨written, hwritten, h⟩ := bind_ok.1 h
  obtain rfl : files = written := Except.ok.inj (hfiles.symm.trans hwritten)
  have hkeys : ((files.map fun file => (file.path, String.ofList file.text)).map Prod.fst).Nodup := by
    rw [List.map_map]
    exact hapart
  rw [← Except.ok.inj h, Record.fromEntries_perm (rt.sortByKey_perm _ _), Record.fromEntries_get? hkeys, List.mem_map]
  simp only [Prod.mk.injEq]

/-- The artifacts are what they are meant to be exactly if every file is. -/
theorem injectionFree_of_files (hfiles : renderedFiles details plan = .ok files)
    (h : renderCodeflyArtifacts details plan rt = .ok artifacts)
    (hservices : ∀ deployment ∈ plan.deployments, Services deployment)
    (hmodules : (plan.deployments.map (·.moduleName)).Nodup) :
    InjectionFree decoder details plan files artifacts ↔ ∀ file ∈ files, FileSafe decoder file := by
  constructor
  · exact fun hfree file hfile => ⟨hfree.segments file hfile, hfree.trees file hfile⟩
  · intro hsafe
    have hsegments : ∀ file ∈ files, Posix.pathSegments file.path = file.segments := fun file hfile => (hsafe file hfile).1
    have hapart : (files.map ArtifactFile.path).Nodup := by
      refine List.Nodup.of_map Posix.pathSegments ?_
      rw [List.map_map]
      have hmap : files.map (Posix.pathSegments ∘ ArtifactFile.path) = files.map ArtifactFile.segments :=
        List.map_congr_left hsegments
      rw [hmap]
      exact files_nodup hfiles hservices hmodules
    refine ⟨hapart, fun path text => artifacts_get hfiles h hapart, hsegments, ?_, fun file hfile => (hsafe file hfile).2⟩
    intro deployment hmem own hown file hfile
    obtain ⟨all, hall, rfl⟩ := renderedFiles_ok hfiles
    obtain ⟨found, hfound, hkept⟩ := collect_round hall hmem
    obtain rfl : own = found := Except.ok.inj (hown.symm.trans hfound)
    have hfile' := hsegments file (List.mem_cons_of_mem _ (List.mem_cons_of_mem _ (hkept file hfile)))
    rw [hfile']
    exact deploymentFiles_root hown (hservices deployment hmem) file hfile

variable {dates : Dates} {blueprint : PlatformBlueprint} {extensions : CodeflyProviderExtensions}

/-- The deployments of a compiled plan have services. -/
theorem compiled_services (h : compileCodeflyApplications rt dates blueprint extensions = .ok plan) :
    ∀ deployment ∈ plan.deployments, Services deployment := by
  obtain ⟨_, -, h⟩ := bind_ok.1 h
  obtain ⟨_, -, h⟩ := bind_ok.1 h
  obtain ⟨deployments, hdeployments, h⟩ := bind_ok.1 h
  obtain ⟨_, -, h⟩ := bind_ok.1 h
  obtain ⟨_, -, h⟩ := bind_ok.1 h
  obtain rfl : (⟨extensions.environment, deployments⟩ : CodeflyPaasPlan) = plan := Except.ok.inj h
  intro deployment hmem
  obtain ⟨application, -, hone⟩ := mapM_source hdeployments hmem
  exact services_ok hone

/-- A compiled plan is rendered. -/
theorem rendered_succeeds (h : compileCodeflyApplications rt dates blueprint extensions = .ok plan) :
    ∃ files artifacts, renderedFiles details plan = .ok files ∧ renderCodeflyArtifacts details plan rt = .ok artifacts := by
  have hplan := Applications.compile_ok h
  obtain ⟨own, hown⟩ : ∃ own, moduleFiles details plan [] plan.deployments = .ok own :=
    moduleFiles_succeeds (modules_nodup hplan) (fun _ _ => List.not_mem_nil)
      fun deployment hmem => deploymentFiles_succeeds (hplan.ingress deployment hmem)
  have hfiles : renderedFiles details plan = .ok _ := bind_ok.2 ⟨own, hown, rfl⟩
  exact ⟨_, _, hfiles, bind_ok.2 ⟨_, hfiles, rfl⟩⟩

/-- **When the artifacts of a compiled plan are what they are meant to be**: the names that are written as they are must
be read as themselves there. -/
theorem injectionFree_iff (h : compileCodeflyApplications rt dates blueprint extensions = .ok plan) (decoder : Decoder)
    (details : PlanDetails) : ∃ files artifacts, renderedFiles details plan = .ok files ∧
      renderCodeflyArtifacts details plan rt = .ok artifacts ∧
        (InjectionFree decoder details plan files artifacts ↔ PlainNames decoder plan) := by
  obtain ⟨files, artifacts, hfiles, hartifacts⟩ := @rendered_succeeds details plan rt dates blueprint extensions h
  have hservices := compiled_services h
  have hmodules := modules_nodup (Applications.compile_ok h)
  refine ⟨files, artifacts, hfiles, hartifacts, ?_⟩
  rw [injectionFree_of_files hfiles hartifacts hservices hmodules, files_safe_iff hfiles hservices]

end

/-! ## Two plans -/

instance (decoder : Decoder) (environmentName : String) (deployment : CodeflyDeploymentPlan) :
    Decidable (DeploymentPlain decoder environmentName deployment) :=
  decidable_of_iff (Posix.isSegment deployment.moduleName = true ∧ Posix.isSegment environmentName = true ∧
      (∀ service ∈ deployment.services, Posix.isSegment service = true) ∧
      (∀ annotation ∈ deployment.serviceAccountAnnotations.entries,
        isPlainKey annotation.1 = true ∧ decoder.isString annotation.1 = true) ∧
      ∀ service ∈ deployment.services, isPlainItem (serviceOverlay environmentName service) = true ∧
        decoder.isString (serviceOverlay environmentName service) = true)
    ⟨fun h => ⟨h.1, h.2.1, h.2.2.1, h.2.2.2.1, h.2.2.2.2⟩,
      fun h => ⟨h.moduleName, h.environment, h.services, h.annotations, h.overlays⟩⟩

instance (decoder : Decoder) (plan : CodeflyPaasPlan) : Decidable (PlainNames decoder plan) :=
  decidable_of_iff ((∀ deployment ∈ plan.deployments, DeploymentPlain decoder plan.environment.name deployment) ∧
      ∀ deployment ∈ plan.deployments, ∀ image ∈ deployment.images.entries,
        isPlainKey image.1 = true ∧ decoder.isString image.1 = true)
    ⟨fun h => ⟨h.1, h.2⟩, fun h => ⟨h.deployments, h.images⟩⟩

theorem exists_of_any {α : Type} {x : Except String α} {p : α → Bool} (h : x.toOption.any p = true) :
    ∃ a, x = .ok a ∧ p a = true := by
  cases x with
  | error e => cases h
  | ok a => exact ⟨a, rfl, h⟩

/-- A decoder that takes every plain text for a string. -/
def textDecoder : Decoder := ⟨fun _ => true, fun _ _ => rfl⟩

def sampleDetails : PlanDetails := ⟨zeroDigest, none, none, none, some "registry/gitops", none, none⟩

/-- The artifacts of a shop are what they are meant to be. -/
theorem shop_injectionFree : ∃ plan, compileCodeflyApplications plainRuntime sampleDates (shopBlueprint [.https])
    sampleExtensions = .ok plan ∧ ∃ files artifacts, renderedFiles sampleDetails plan = .ok files ∧
      renderCodeflyArtifacts sampleDetails plan plainRuntime = .ok artifacts ∧
        InjectionFree textDecoder sampleDetails plan files artifacts := by
  obtain ⟨plan, hplan, hnames⟩ : ∃ plan, compileCodeflyApplications plainRuntime sampleDates (shopBlueprint [.https])
      sampleExtensions = .ok plan ∧ decide (PlainNames textDecoder plan) = true := exists_of_any (by decide +kernel)
  obtain ⟨files, artifacts, hfiles, hartifacts, hfree⟩ := injectionFree_iff hplan textDecoder sampleDetails
  exact ⟨plan, hplan, files, artifacts, hfiles, hartifacts, hfree.2 (of_decide_eq_true hnames)⟩

/-- The key of an annotation that is two lines. -/
def brokenKey : String := "team: \"core\"\n    role"

def brokenExtensions : CodeflyProviderExtensions :=
  { sampleExtensions with
    deployments := Record.fromEntries [("shop", { sampleExtension "shop" with
      serviceAccountAnnotations := some (Record.fromEntries [(brokenKey, "reader")]) }), ("orders", sampleExtension "orders")] }

/-- **An annotation adds another one**: its key ends a line and starts the next one. -/
theorem annotation_injected : ¬ ∀ (rt : Runtime) (dates : Dates) (blueprint : PlatformBlueprint)
    (extensions : CodeflyProviderExtensions) (plan : CodeflyPaasPlan),
      compileCodeflyApplications rt dates blueprint extensions = .ok plan → ∀ (decoder : Decoder) (details : PlanDetails),
        ∃ files artifacts, renderedFiles details plan = .ok files ∧ renderCodeflyArtifacts details plan rt = .ok artifacts ∧
          InjectionFree decoder details plan files artifacts := by
  intro h
  obtain ⟨plan, hplan, hnames⟩ : ∃ plan, compileCodeflyApplications plainRuntime sampleDates (shopBlueprint [.https])
      brokenExtensions = .ok plan ∧ decide (¬ PlainNames textDecoder plan) = true := exists_of_any (by decide +kernel)
  obtain ⟨files, artifacts, hfiles, hartifacts, hfree⟩ := h _ _ _ _ plan hplan textDecoder sampleDetails
  have hservices := compiled_services hplan
  have hmodules := modules_nodup (Applications.compile_ok hplan)
  have hsafe := (injectionFree_of_files hfiles hartifacts hservices hmodules).1 hfree
  exact of_decide_eq_true hnames ((files_safe_iff hfiles hservices).1 hsafe)

end SecureSaas.Codefly.Artifacts
