import SecureSaas.Cloud.Checks

/-!
# The cloud-context catalog (`src/core/cloudContext.ts`)

A catalog declares contexts with their capabilities and pre-provisioned databases, and places
application components on them. Members that the source's types fix to one value are not
stored; `toValue` writes them.

* `assertCloudContextCatalog`: the checks across a catalog.
* `bindings_nodup`: in a catalog that passes, no placement names a binding twice.
-/

namespace SecureSaas.Cloud

open Js

/-! ## Data -/

inductive CloudContextEnvironment
  | development
  | staging
  | production
deriving DecidableEq

def CloudContextEnvironment.text : CloudContextEnvironment → String
  | .development => "development"
  | .staging => "staging"
  | .production => "production"

inductive CloudContextPhase
  | planned
  | ready
  | degraded
  | unavailable
deriving DecidableEq

def CloudContextPhase.text : CloudContextPhase → String
  | .planned => "planned"
  | .ready => "ready"
  | .degraded => "degraded"
  | .unavailable => "unavailable"

structure CloudContextStatus where
  phase : CloudContextPhase
  generation : ℤ
  observedGeneration : ℤ
  verifiedAt : Option String
  evidenceRef : Option String
deriving DecidableEq

inductive WorkloadOrchestrator
  | managedKubernetes
  | serverless
  | microvm
  | externalSandbox
deriving DecidableEq

def WorkloadOrchestrator.text : WorkloadOrchestrator → String
  | .managedKubernetes => "managed-kubernetes"
  | .serverless => "serverless"
  | .microvm => "microvm"
  | .externalSandbox => "external-sandbox"

inductive ExecutionTrust
  | trusted
  | semiTrusted
  | untrusted
deriving DecidableEq

def ExecutionTrust.text : ExecutionTrust → String
  | .trusted => "trusted"
  | .semiTrusted => "semi-trusted"
  | .untrusted => "untrusted"

inductive RuntimeIsolation
  | process
  | container
  | microvm
  | dedicatedVm
deriving DecidableEq

def RuntimeIsolation.text : RuntimeIsolation → String
  | .process => "process"
  | .container => "container"
  | .microvm => "microvm"
  | .dedicatedVm => "dedicated-vm"

inductive CredentialMode
  | workloadIdentity
  | brokered
deriving DecidableEq

def CredentialMode.text : CredentialMode → String
  | .workloadIdentity => "workload-identity"
  | .brokered => "brokered"

structure CloudRuntimeCapability where
  id : String
  workloadPlaneIds : List String
  orchestrator : WorkloadOrchestrator
  executionTrust : ExecutionTrust
  runtimeIsolation : RuntimeIsolation
  credentialMode : CredentialMode
  reference : String
deriving DecidableEq

structure CloudNetworkCapability where
  id : String
  networkDomainIds : List String
  reference : String
deriving DecidableEq

structure CloudRegistryCapability where
  id : String
  reference : String
deriving DecidableEq

inductive DnsVisibility
  | «private»
  | «public»
deriving DecidableEq

def DnsVisibility.text : DnsVisibility → String
  | .private => "private"
  | .public => "public"

structure CloudDnsCapability where
  id : String
  visibility : DnsVisibility
  reference : String
deriving DecidableEq

structure CloudIdentityCapability where
  id : String
  allowedIdentityIds : List String
  maxSessionMinutes : ℤ
  reference : String
deriving DecidableEq

structure CloudObservabilityCapability where
  id : String
  auditRetentionDays : ℤ
  auditRef : String
  logsRef : String
  metricsRef : String
  tracesRef : String
deriving DecidableEq

structure BindingNetwork where
  runtimeBoundaryId : String
  migrationBoundaryId : String
deriving DecidableEq

structure BindingIdentities where
  runtimeIdentityId : String
  migrationIdentityId : String
deriving DecidableEq

structure BindingOutputs where
  endpointRef : String
  databaseName : String
  caBundleRef : String
  runtimeIdentityRef : String
  migrationIdentityRef : String
deriving DecidableEq

structure CloudManagedPostgresBinding where
  id : String
  applicationId : String
  componentId : String
  serviceRef : String
  dataBoundaryId : String
  providerResourceRef : String
  network : BindingNetwork
  identities : BindingIdentities
  outputs : BindingOutputs
  status : CloudContextStatus
deriving DecidableEq

inductive CloudProviderKind
  | aws
  | gcp
  | azure
deriving DecidableEq

def CloudProviderKind.text : CloudProviderKind → String
  | .aws => "aws"
  | .gcp => "gcp"
  | .azure => "azure"

structure ContextProvider where
  kind : CloudProviderKind
  boundaryRef : String
  location : String
deriving DecidableEq

structure ContextCapabilities where
  runtimes : List CloudRuntimeCapability
  networks : List CloudNetworkCapability
  registries : List CloudRegistryCapability
  dns : List CloudDnsCapability
  identities : List CloudIdentityCapability
  observability : List CloudObservabilityCapability
deriving DecidableEq

structure CloudContext where
  id : String
  environment : CloudContextEnvironment
  provider : ContextProvider
  capabilities : ContextCapabilities
  resourceBindings : List CloudManagedPostgresBinding
  status : CloudContextStatus
deriving DecidableEq

structure DelegatedRuntime where
  contextId : String
  runtimeCapabilityId : String
deriving DecidableEq

structure CloudContextPlacement where
  applicationId : String
  componentId : String
  contextId : String
  runtimeCapabilityId : String
  networkCapabilityId : String
  registryCapabilityId : String
  identityCapabilityId : String
  observabilityCapabilityId : String
  dnsCapabilityIds : List String
  resourceBindingIds : List String
  delegatedRuntimes : List DelegatedRuntime
deriving DecidableEq

structure CloudContextCatalog where
  name : String
  environment : CloudContextEnvironment
  contexts : List CloudContext
  placements : List CloudContextPlacement
deriving DecidableEq

def cloudContextApiVersion : String := "security.deus.dev/cloud-context/v1alpha1"

/-! ## As values -/

def strings (items : List String) : Value := .array (items.map .string)

def integerOf (n : ℤ) : Value := .number (.int n)

def CloudRuntimeCapability.toValue (c : CloudRuntimeCapability) : Value := .object [
  ("id", .string c.id),
  ("workloadPlaneIds", strings c.workloadPlaneIds),
  ("orchestrator", .string c.orchestrator.text),
  ("executionTrust", .string c.executionTrust.text),
  ("runtimeIsolation", .string c.runtimeIsolation.text),
  ("credentialMode", .string c.credentialMode.text),
  ("privateControlPlane", .bool true),
  ("workloadIdentity", .bool true),
  ("directHostAccess", .bool false),
  ("reference", .string c.reference)]

def CloudNetworkCapability.toValue (c : CloudNetworkCapability) : Value := .object [
  ("id", .string c.id),
  ("networkDomainIds", strings c.networkDomainIds),
  ("private", .bool true),
  ("directInternetAccess", .bool false),
  ("inspectedEgress", .bool true),
  ("brokeredEgress", .bool true),
  ("reference", .string c.reference)]

def CloudRegistryCapability.toValue (c : CloudRegistryCapability) : Value := .object [
  ("id", .string c.id),
  ("immutableDigestsOnly", .bool true),
  ("signatureVerification", .bool true),
  ("provenanceVerification", .bool true),
  ("reference", .string c.reference)]

def CloudDnsCapability.toValue (c : CloudDnsCapability) : Value := .object [
  ("id", .string c.id),
  ("visibility", .string c.visibility.text),
  ("managedRecordsOnly", .bool true),
  ("reference", .string c.reference)]

def CloudIdentityCapability.toValue (c : CloudIdentityCapability) : Value := .object [
  ("id", .string c.id),
  ("mode", .string "workload-identity"),
  ("allowedIdentityIds", strings c.allowedIdentityIds),
  ("shortLived", .bool true),
  ("administrator", .bool false),
  ("maxSessionMinutes", integerOf c.maxSessionMinutes),
  ("reference", .string c.reference)]

def CloudObservabilityCapability.toValue (c : CloudObservabilityCapability) : Value := .object [
  ("id", .string c.id),
  ("immutableAudit", .bool true),
  ("auditRetentionDays", integerOf c.auditRetentionDays),
  ("auditRef", .string c.auditRef),
  ("logsRef", .string c.logsRef),
  ("metricsRef", .string c.metricsRef),
  ("tracesRef", .string c.tracesRef)]

/-- A binding without its status. -/
def CloudManagedPostgresBinding.desiredValue (b : CloudManagedPostgresBinding) : Value := .object [
  ("id", .string b.id),
  ("kind", .string "ManagedPostgres"),
  ("lifecycle", .string "pre-provisioned"),
  ("applicationId", .string b.applicationId),
  ("componentId", .string b.componentId),
  ("serviceRef", .string b.serviceRef),
  ("dataBoundaryId", .string b.dataBoundaryId),
  ("providerResourceRef", .string b.providerResourceRef),
  ("network", .object [
    ("runtimeBoundaryId", .string b.network.runtimeBoundaryId),
    ("migrationBoundaryId", .string b.network.migrationBoundaryId),
    ("separateBoundaries", .bool true),
    ("allowNetworkCidr", .bool false)]),
  ("identities", .object [
    ("runtimeIdentityId", .string b.identities.runtimeIdentityId),
    ("migrationIdentityId", .string b.identities.migrationIdentityId),
    ("separate", .bool true)]),
  ("outputs", .object [
    ("endpointRef", .string b.outputs.endpointRef),
    ("port", integerOf 5432),
    ("databaseName", .string b.outputs.databaseName),
    ("caBundleRef", .string b.outputs.caBundleRef),
    ("runtimeIdentityRef", .string b.outputs.runtimeIdentityRef),
    ("migrationIdentityRef", .string b.outputs.migrationIdentityRef),
    ("credentialValue", .null)])]

def ContextProvider.toValue (p : ContextProvider) : Value := .object [
  ("kind", .string p.kind.text),
  ("boundaryRef", .string p.boundaryRef),
  ("location", .string p.location)]

/-- The `provisioning` of every context. -/
def provisioningValue : Value := .object [
  ("mode", .string "pre-provisioned"),
  ("owner", .string "external-iac"),
  ("physicalMutationFromCodefly", .bool false)]

/-- The `posture` of every context. -/
def postureValue : Value := .object [
  ("privateNetworking", .bool true),
  ("inspectedEgress", .bool true),
  ("immutableAudit", .bool true),
  ("credentialDelivery", .string "reference-only"),
  ("directProviderCredentials", .bool false)]

def ContextCapabilities.toValue (c : ContextCapabilities) : Value := .object [
  ("runtimes", .array (c.runtimes.map (·.toValue))),
  ("networks", .array (c.networks.map (·.toValue))),
  ("registries", .array (c.registries.map (·.toValue))),
  ("dns", .array (c.dns.map (·.toValue))),
  ("identities", .array (c.identities.map (·.toValue))),
  ("observability", .array (c.observability.map (·.toValue)))]

/-- A context without the statuses in it. -/
def CloudContext.desiredValue (c : CloudContext) : Value := .object [
  ("id", .string c.id),
  ("environment", .string c.environment.text),
  ("provider", c.provider.toValue),
  ("provisioning", provisioningValue),
  ("posture", postureValue),
  ("capabilities", c.capabilities.toValue),
  ("resourceBindings", .array (c.resourceBindings.map (·.desiredValue)))]

def CloudContextPlacement.toValue (p : CloudContextPlacement) : Value := .object [
  ("applicationId", .string p.applicationId),
  ("componentId", .string p.componentId),
  ("contextId", .string p.contextId),
  ("runtimeCapabilityId", .string p.runtimeCapabilityId),
  ("networkCapabilityId", .string p.networkCapabilityId),
  ("registryCapabilityId", .string p.registryCapabilityId),
  ("identityCapabilityId", .string p.identityCapabilityId),
  ("observabilityCapabilityId", .string p.observabilityCapabilityId),
  ("dnsCapabilityIds", strings p.dnsCapabilityIds),
  ("resourceBindingIds", strings p.resourceBindingIds),
  ("delegatedRuntimes", .array (p.delegatedRuntimes.map fun d => .object [
    ("contextId", .string d.contextId),
    ("runtimeCapabilityId", .string d.runtimeCapabilityId),
    ("purpose", .string "customer-code-execution")]))]

/-- The desired state of a catalog: everything but its statuses. -/
def CloudContextCatalog.desiredValue (c : CloudContextCatalog) : Value := .object [
  ("apiVersion", .string cloudContextApiVersion),
  ("kind", .string "CloudContextCatalog"),
  ("name", .string c.name),
  ("environment", .string c.environment.text),
  ("contexts", .array (c.contexts.map (·.desiredValue))),
  ("placements", .array (c.placements.map (·.toValue)))]

/-! ## Checks of single members -/

/-- The characters `[-A-Za-z0-9._~:/]` after the scheme of a reference. -/
def isReferenceChar (c : Char) : Bool :=
  isAlnum c || c == '.' || c == '_' || c == '~' || c == ':' || c == '/' || c == '-'

/-- `/^[a-z][a-z0-9+.-]*:\/\/[-A-Za-z0-9._~:/]+$/`. -/
def isReferenceUri (s : String) : Bool :=
  open Pattern in
  fullMatch (seq (cls isLowerLetter) <| seq (many isSchemeChar) <| seq (lit "://") (many1 isReferenceChar)) s

def isReference (s : String) : Bool :=
  decide (stringLength s ≤ 512) && isReferenceUri s && !namesCredential s && !includes s "@" &&
    !includes s "?" && !includes s "#" && !includes s "*"

/-- A string that passes a test; the error is the path with a message. -/
def plainText (test : String → Bool) (message : String) : Check String String := fun value path =>
  (checkedText test (fun path => path ++ message) value path).map Subtype.val

@[simp] theorem plainText_ok {test : String → Bool} {message : String} {v : Value} {path s : String} :
    plainText test message v path = .ok s ↔ v = .string s ∧ test s = true := by
  unfold plainText
  rw [map_val_ok]
  simp only [checkedText_ok]
  exact ⟨fun ⟨h, hv⟩ => ⟨hv, h⟩, fun ⟨hv, h⟩ => ⟨h, hv⟩⟩

def referenceValue := plainText isReference " must be a credential-free exact reference URI."

def isoTimestamp :=
  plainText (fun s => isTimestampText s && (dateParse s).isSome) " must be an ISO-8601 UTC timestamp."

def assertStatus (status : CloudContextStatus) (label : String) : Result Unit := do
  ensure (decide (1 ≤ status.generation ∧ 0 ≤ status.observedGeneration ∧
    status.observedGeneration ≤ status.generation)) (label ++ " has an invalid observed generation.")
  if status.phase = .planned then
    ensure (decide (status.observedGeneration = 0 ∧ status.verifiedAt = none ∧ status.evidenceRef = none))
      (label ++ " planned status cannot claim verification.")
  else
    -- an absent or empty member is no evidence
    match status.verifiedAt, status.evidenceRef with
    | some verifiedAt, some evidenceRef => do
      ensure (decide (1 ≤ status.observedGeneration ∧ verifiedAt ≠ "" ∧ evidenceRef ≠ ""))
        (label ++ " observed status requires verification evidence.")
      let _ ← isoTimestamp (.string verifiedAt) (label ++ ".verifiedAt")
      let _ ← referenceValue (.string evidenceRef) (label ++ ".evidenceRef")
      pure ()
    | _, _ => .error (label ++ " observed status requires verification evidence.")

/-- `uniqueMap(values, label)`, on the ids of the values. -/
def uniqueMap (label : String) : List String → List String → Result Unit
  | _, [] => .ok ()
  | seen, id :: rest =>
    if seen.contains id then .error s!"{label} '{id}' is duplicated."
    else uniqueMap label (id :: seen) rest

theorem uniqueMap_ok {label : String} : ∀ {ids seen : List String}, uniqueMap label seen ids = .ok () →
    ids.Nodup ∧ ∀ id ∈ ids, id ∉ seen := by
  intro ids
  induction ids with
  | nil => exact fun _ => ⟨List.nodup_nil, fun _ h => absurd h List.not_mem_nil⟩
  | cons id rest ih =>
    intro seen h
    unfold uniqueMap at h
    split at h
    · cases h
    · rename_i hnew
      rw [List.contains_iff_mem] at hnew
      obtain ⟨hnodup, hfresh⟩ := ih h
      refine ⟨List.nodup_cons.2 ⟨fun hmem => hfresh id hmem List.mem_cons_self, hnodup⟩, ?_⟩
      rw [List.forall_mem_cons]
      exact ⟨hnew, fun x hx hseen => hfresh x hx (List.mem_cons_of_mem id hseen)⟩

/-! ## The checks across a catalog -/

/-- The bindings seen so far, each with the id of its context. -/
abbrev LocatedBindings := List (CloudManagedPostgresBinding × String)

def LocatedBindings.get (bindings : LocatedBindings) (id : String) : Option (CloudManagedPostgresBinding × String) :=
  bindings.find? fun entry => entry.1.id == id

def assertBinding (context : CloudContext) (bindings : LocatedBindings) (binding : CloudManagedPostgresBinding) :
    Result LocatedBindings := do
  ensure (bindings.get binding.id).isNone s!"Cloud context resource binding '{binding.id}' is duplicated."
  assertStatus binding.status s!"resource binding '{binding.id}'"
  ensure (binding.identities.runtimeIdentityId != binding.identities.migrationIdentityId)
    s!"Cloud context resource binding '{binding.id}' must separate runtime and migration identities."
  ensure (binding.network.runtimeBoundaryId != binding.network.migrationBoundaryId)
    s!"Cloud context resource binding '{binding.id}' must separate runtime and migration network boundaries."
  pure (bindings ++ [(binding, context.id)])

def assertRuntime (context : CloudContext) (runtime : CloudRuntimeCapability) : Result Unit := do
  ensure (!(runtime.executionTrust = .untrusted && runtime.credentialMode ≠ .brokered))
    s!"Cloud context runtime '{context.id}/{runtime.id}' must broker credentials for untrusted execution."
  ensure (!(runtime.executionTrust = .untrusted && runtime.runtimeIsolation ≠ .microvm &&
      runtime.runtimeIsolation ≠ .dedicatedVm))
    s!"Cloud context runtime '{context.id}/{runtime.id}' has weak isolation for untrusted execution."

/-- `Object.entries(capabilities)`: the kinds with the ids of their capabilities. -/
def ContextCapabilities.entries (c : ContextCapabilities) : List (String × List String) := [
  ("runtimes", c.runtimes.map (·.id)),
  ("networks", c.networks.map (·.id)),
  ("registries", c.registries.map (·.id)),
  ("dns", c.dns.map (·.id)),
  ("identities", c.identities.map (·.id)),
  ("observability", c.observability.map (·.id))]

def assertContext (environment : CloudContextEnvironment) (bindings : LocatedBindings) (context : CloudContext) :
    Result LocatedBindings := do
  ensure (context.environment = environment)
    s!"Cloud context '{context.id}' environment does not match the catalog."
  assertStatus context.status s!"cloud context '{context.id}'"
  context.capabilities.entries.forM fun entry =>
    ensure (!entry.2.isEmpty) s!"Cloud context '{context.id}' requires at least one {entry.1} capability."
  uniqueMap s!"runtime capability in '{context.id}'" [] (context.capabilities.runtimes.map (·.id))
  uniqueMap s!"network capability in '{context.id}'" [] (context.capabilities.networks.map (·.id))
  uniqueMap s!"registry capability in '{context.id}'" [] (context.capabilities.registries.map (·.id))
  uniqueMap s!"DNS capability in '{context.id}'" [] (context.capabilities.dns.map (·.id))
  uniqueMap s!"identity capability in '{context.id}'" [] (context.capabilities.identities.map (·.id))
  uniqueMap s!"observability capability in '{context.id}'" [] (context.capabilities.observability.map (·.id))
  context.capabilities.runtimes.forM (assertRuntime context)
  context.resourceBindings.foldlM (assertBinding context) bindings

/-- `requireCapability(capabilities, id, placement, kind)`. -/
def requireCapability {α : Type} (idOf : α → String) (capabilities : List α) (id placement kind : String) : Result α :=
  match capabilities.find? fun candidate => idOf candidate == id with
  | some capability => .ok capability
  | none => .error s!"Cloud context placement '{placement}' references unknown {kind} capability '{id}'."

/-- The check of one binding of a placement; the result is the ids used so far. -/
def assertPlacedBinding (bindings : LocatedBindings) (placement : CloudContextPlacement) (key : String)
    (used : List String) (bindingId : String) : Result (List String) :=
  match bindings.get bindingId with
  | none => .error s!"Cloud context placement '{key}' references unknown resource binding '{bindingId}'."
  | some (binding, contextId) => do
    ensure (binding.applicationId == placement.applicationId && binding.componentId == placement.componentId)
      s!"Cloud context placement '{key}' cannot consume resource binding '{bindingId}' owned by '{binding.applicationId}/{binding.componentId}'."
    ensure (contextId == placement.contextId)
      s!"CLOUD_BINDING_CONTEXT_MISMATCH: Cloud context placement '{key}' cannot consume resource binding '{bindingId}' from context '{contextId}'."
    ensure (!used.contains bindingId)
      s!"Cloud context resource binding '{bindingId}' is assigned more than once."
    pure (used ++ [bindingId])

def assertDelegatedRuntime (contexts : List CloudContext) (key : String) (delegated : DelegatedRuntime) :
    Result Unit :=
  match contexts.find? fun context => context.id == delegated.contextId with
  | none => .error s!"Cloud context placement '{key}' delegates to unknown context '{delegated.contextId}'."
  | some context => do
    let runtime ← requireCapability CloudRuntimeCapability.id context.capabilities.runtimes
      delegated.runtimeCapabilityId key "delegated runtime"
    ensure (runtime.executionTrust = .untrusted && runtime.credentialMode = .brokered &&
        (runtime.runtimeIsolation = .microvm || runtime.runtimeIsolation = .dedicatedVm))
      s!"Cloud context placement '{key}' delegates customer code to an unsafe runtime."

def CloudContextPlacement.key (placement : CloudContextPlacement) : String :=
  s!"{placement.applicationId}/{placement.componentId}"

/-- The check of one placement, with the keys and the binding ids used so far. -/
def assertPlacement (contexts : List CloudContext) (bindings : LocatedBindings)
    (seen : List String × List String) (placement : CloudContextPlacement) : Result (List String × List String) := do
  let key := placement.key
  ensure (!seen.1.contains key) s!"Cloud context placement '{key}' is duplicated."
  match contexts.find? fun context => context.id == placement.contextId with
  | none => .error s!"Cloud context placement '{key}' references unknown context '{placement.contextId}'."
  | some context => do
    let capabilities := context.capabilities
    let runtime ← requireCapability CloudRuntimeCapability.id capabilities.runtimes placement.runtimeCapabilityId
      key "runtime"
    let _ ← requireCapability CloudNetworkCapability.id capabilities.networks placement.networkCapabilityId
      key "network"
    let _ ← requireCapability CloudRegistryCapability.id capabilities.registries placement.registryCapabilityId
      key "registry"
    let _ ← requireCapability CloudIdentityCapability.id capabilities.identities placement.identityCapabilityId
      key "identity"
    let _ ← requireCapability CloudObservabilityCapability.id capabilities.observability
      placement.observabilityCapabilityId key "observability"
    placement.dnsCapabilityIds.forM fun dnsId => do
      let _ ← requireCapability CloudDnsCapability.id capabilities.dns dnsId key "DNS"
      pure ()
    let used ← placement.resourceBindingIds.foldlM (assertPlacedBinding bindings placement key) seen.2
    placement.delegatedRuntimes.forM (assertDelegatedRuntime contexts key)
    ensure (runtime.executionTrust ≠ .untrusted)
      s!"Cloud context placement '{key}' cannot run an application control service on an untrusted runtime."
    -- the type of an identity capability leaves out administrators
    pure (seen.1 ++ [key], used)

/-- Without the optional cross-checks against a blueprint and a Postgres intent. -/
def assertCloudContextCatalog (catalog : CloudContextCatalog) : Result Unit := do
  ensure (!catalog.contexts.isEmpty) "Cloud context catalog requires at least one context."
  uniqueMap "cloud context" [] (catalog.contexts.map (·.id))
  let bindings ← catalog.contexts.foldlM (assertContext catalog.environment) []
  let seen ← catalog.placements.foldlM (assertPlacement catalog.contexts bindings) ([], [])
  ensure (seen.2.length == bindings.length)
    ("Cloud context resource binding(s) are not placed: " ++ ", ".intercalate
      (((bindings.map (·.1.id)).filter fun id => !seen.2.contains id).insertionSort fun a b => a ≤ b) ++ ".")

end SecureSaas.Cloud
