import SecureSaas.Cloud.Catalog
import SecureSaas.Run

/-!
# Verified decisions (`src/core/cloudContextVerification.ts`, `src/core/postgresAccessObservation.ts`)

The two verifiers give out a decision for evidence that they accept and keep it in a set of the
process, so that a later stage knows the decisions of its own verifiers from other objects. Here
they are modelled from the members of the evidence that a decision repeats; every other check is
in `checks`, which only decides whether there is a decision.

* `Process.authentic`: **the decisions of the sets, after any run of the verifiers, name times of
  the years 0 to 9999**.
-/

namespace SecureSaas.Cloud

open Js

/-! ## Dependencies -/

inductive CloudDependencyKind
  | context | runtime | network | registry | identity | observability | dns | resourceBinding
deriving DecidableEq

def CloudDependencyKind.text : CloudDependencyKind → String
  | .context => "context"
  | .runtime => "runtime"
  | .network => "network"
  | .registry => "registry"
  | .identity => "identity"
  | .observability => "observability"
  | .dns => "dns"
  | .resourceBinding => "resource-binding"

inductive CloudReferencePurpose
  | providerBoundary | runtimeTarget | networkBoundary | registryTarget | identityBinding | dnsZone
  | auditSink | logsSink | metricsSink | tracesSink | providerResource | postgresEndpoint | postgresCaBundle
  | postgresRuntimeIdentity | postgresMigrationIdentity
deriving DecidableEq

def CloudReferencePurpose.text : CloudReferencePurpose → String
  | .providerBoundary => "provider-boundary"
  | .runtimeTarget => "runtime-target"
  | .networkBoundary => "network-boundary"
  | .registryTarget => "registry-target"
  | .identityBinding => "identity-binding"
  | .dnsZone => "dns-zone"
  | .auditSink => "audit-sink"
  | .logsSink => "logs-sink"
  | .metricsSink => "metrics-sink"
  | .tracesSink => "traces-sink"
  | .providerResource => "provider-resource"
  | .postgresEndpoint => "postgres-endpoint"
  | .postgresCaBundle => "postgres-ca-bundle"
  | .postgresRuntimeIdentity => "postgres-runtime-identity"
  | .postgresMigrationIdentity => "postgres-migration-identity"

inductive CloudReferenceConfidentiality
  | publicMetadata | confidentialReference
deriving DecidableEq

def CloudReferenceConfidentiality.text : CloudReferenceConfidentiality → String
  | .publicMetadata => "public-metadata"
  | .confidentialReference => "confidential-reference"

inductive CloudReferenceProjection
  | controlPlaneOnly | workloadReference
deriving DecidableEq

def CloudReferenceProjection.text : CloudReferenceProjection → String
  | .controlPlaneOnly => "control-plane-only"
  | .workloadReference => "workload-reference"

inductive CloudReferenceOutputType
  | providerBoundaryId | runtimeTargetReference | networkBoundaryId | registryReference
  | workloadIdentityReference | dnsZoneReference | auditSinkReference | telemetrySinkReference
  | providerResourceId | postgresEndpointReference | caBundleReference
deriving DecidableEq

def CloudReferenceOutputType.text : CloudReferenceOutputType → String
  | .providerBoundaryId => "provider-boundary-id"
  | .runtimeTargetReference => "runtime-target-reference"
  | .networkBoundaryId => "network-boundary-id"
  | .registryReference => "registry-reference"
  | .workloadIdentityReference => "workload-identity-reference"
  | .dnsZoneReference => "dns-zone-reference"
  | .auditSinkReference => "audit-sink-reference"
  | .telemetrySinkReference => "telemetry-sink-reference"
  | .providerResourceId => "provider-resource-id"
  | .postgresEndpointReference => "postgres-endpoint-reference"
  | .caBundleReference => "ca-bundle-reference"

/-- A reference of a dependency, with what it is resolved for. -/
structure CloudReferenceRequest where
  catalogDesiredStateDigest : String
  placementDigest : String
  organizationId : String
  platformTenantId : String
  environment : CloudContextEnvironment
  applicationId : String
  componentId : String
  admissionRequestDigest : String
  contextId : String
  dependencyKey : String
  dependencyKind : CloudDependencyKind
  dependencyId : String
  dependencySubjectDigest : String
  generation : ℤ
  uri : String
  scheme : String
  purpose : CloudReferencePurpose
  confidentiality : CloudReferenceConfidentiality
  projection : CloudReferenceProjection
  expectedOutputType : CloudReferenceOutputType
  requestDigest : String
deriving DecidableEq

structure CloudContextDependency where
  key : String
  kind : CloudDependencyKind
  contextId : String
  id : String
  generation : ℤ
  subjectDigest : String
  references : List CloudReferenceRequest
deriving DecidableEq

def CloudReferenceRequest.toValue (r : CloudReferenceRequest) : Value := .object [
  ("catalogDesiredStateDigest", .string r.catalogDesiredStateDigest),
  ("placementDigest", .string r.placementDigest),
  ("organizationId", .string r.organizationId),
  ("platformTenantId", .string r.platformTenantId),
  ("environment", .string r.environment.text),
  ("applicationId", .string r.applicationId),
  ("componentId", .string r.componentId),
  ("admissionRequestDigest", .string r.admissionRequestDigest),
  ("contextId", .string r.contextId),
  ("dependencyKey", .string r.dependencyKey),
  ("dependencyKind", .string r.dependencyKind.text),
  ("dependencyId", .string r.dependencyId),
  ("dependencySubjectDigest", .string r.dependencySubjectDigest),
  ("generation", integerOf r.generation),
  ("uri", .string r.uri),
  ("scheme", .string r.scheme),
  ("purpose", .string r.purpose.text),
  ("confidentiality", .string r.confidentiality.text),
  ("projection", .string r.projection.text),
  ("expectedOutputType", .string r.expectedOutputType.text),
  ("requestDigest", .string r.requestDigest)]

def CloudContextDependency.toValue (d : CloudContextDependency) : Value := .object [
  ("key", .string d.key),
  ("kind", .string d.kind.text),
  ("contextId", .string d.contextId),
  ("id", .string d.id),
  ("generation", integerOf d.generation),
  ("required", .bool true),
  ("subjectDigest", .string d.subjectDigest),
  ("references", .array (d.references.map (·.toValue)))]

/-! ## Decisions -/

structure VerifiedCloudContextPlacement where
  organizationId : String
  platformTenantId : String
  environment : CloudContextEnvironment
  applicationId : String
  componentId : String
  placement : CloudContextPlacement
  dependencies : List CloudContextDependency
  catalogDesiredStateDigest : String
  placementDigest : String
  dependencyClosureDigest : String
  evidenceDigest : String
  evidenceId : String
  requestDigest : String
  resolverRegistryDigest : String
  admissionPolicyDigest : String
  evaluatedAt : String
  expiresAt : String
  decisionDigest : String
deriving DecidableEq

/-- `const { decisionDigest, ...subject } = decision`. -/
def VerifiedCloudContextPlacement.subject (d : VerifiedCloudContextPlacement) : Value := .object [
  ("organizationId", .string d.organizationId),
  ("platformTenantId", .string d.platformTenantId),
  ("environment", .string d.environment.text),
  ("applicationId", .string d.applicationId),
  ("componentId", .string d.componentId),
  ("placement", d.placement.toValue),
  ("dependencies", .array (d.dependencies.map (·.toValue))),
  ("catalogDesiredStateDigest", .string d.catalogDesiredStateDigest),
  ("placementDigest", .string d.placementDigest),
  ("dependencyClosureDigest", .string d.dependencyClosureDigest),
  ("evidenceDigest", .string d.evidenceDigest),
  ("evidenceId", .string d.evidenceId),
  ("requestDigest", .string d.requestDigest),
  ("resolverRegistryDigest", .string d.resolverRegistryDigest),
  ("admissionPolicyDigest", .string d.admissionPolicyDigest),
  ("evaluatedAt", .string d.evaluatedAt),
  ("expiresAt", .string d.expiresAt)]

inductive PostgresAccessClass
  | runtime | migration
deriving DecidableEq

def PostgresAccessClass.text : PostgresAccessClass → String
  | .runtime => "runtime"
  | .migration => "migration"

/-- The literal members `state` and `ready` are in `subject`. -/
structure VerifiedPostgresAccessDecision where
  profileId : String
  bindingId : String
  accessClass : PostgresAccessClass
  profileSpecDigest : String
  handoffSpecDigest : String
  evidenceId : String
  evidenceDigest : String
  observedGeneration : ℤ
  evaluatedAt : String
  expiresAt : String
  decisionDigest : String
deriving DecidableEq

def VerifiedPostgresAccessDecision.subject (d : VerifiedPostgresAccessDecision) : Value := .object [
  ("state", .string "ready"),
  ("ready", .bool true),
  ("profileId", .string d.profileId),
  ("bindingId", .string d.bindingId),
  ("accessClass", .string d.accessClass.text),
  ("profileSpecDigest", .string d.profileSpecDigest),
  ("handoffSpecDigest", .string d.handoffSpecDigest),
  ("evidenceId", .string d.evidenceId),
  ("evidenceDigest", .string d.evidenceDigest),
  ("observedGeneration", integerOf d.observedGeneration),
  ("evaluatedAt", .string d.evaluatedAt),
  ("expiresAt", .string d.expiresAt)]

/-- `sha256(canonicalJson(value))`, `digest(value)`. -/
def digest (rt : Runtime) (value : Value) : String := rt.sha256 (String.ofList (textWith rt.sortedStyle value))

/-! ## The verifiers -/

variable (rt : Runtime)

/-- What `assertDeployableCloudContextPlacement` takes from the catalog and the selection. -/
structure SelectedPlacement where
  placement : CloudContextPlacement
  dependencies : List CloudContextDependency
  catalogDesiredStateDigest : String
  placementDigest : String
  dependencyClosureDigest : String

/-- `assertDeployableCloudContextPlacement`, as far as the decision is made of it. The lifetime, the signature, the
trust, the subject, the lineage, the resolutions and the replay are among the `checks`. -/
def assertDeployableCloudContextPlacement (selected : SelectedPlacement)
    (checks : List (String × Value) → Result Unit) (evidence : Value) (expectedEvidenceDigest now : String) :
    Result VerifiedCloudContextPlacement := do
  let now ← timestamp (.string now) "now"
  let evidenceDigest ← digestValue (.string expectedEvidenceDigest) "expectedEvidenceDigest"
  let input ← exactObject evidence "evidence" ["apiVersion", "kind", "evidenceId", "organizationId", "platformTenantId",
    "environment", "applicationId", "componentId", "requestDigest", "catalogDesiredStateDigest", "placementDigest",
    "dependencyClosureDigest", "resolverRegistryDigest", "admissionPolicyDigest", "issuedAt", "expiresAt", "nonce",
    "verifier", "observations", "signature"]
  let evidenceId ← identifier (Value.get input "evidenceId") "evidence.evidenceId"
  let organizationId ← identifier (Value.get input "organizationId") "evidence.organizationId"
  let platformTenantId ← identifier (Value.get input "platformTenantId") "evidence.platformTenantId"
  let environment ← enumValue CloudContextEnvironment.text [.development, .staging, .production]
    (Value.get input "environment") "evidence.environment"
  let applicationId ← identifier (Value.get input "applicationId") "evidence.applicationId"
  let componentId ← identifier (Value.get input "componentId") "evidence.componentId"
  let requestDigest ← digestValue (Value.get input "requestDigest") "evidence.requestDigest"
  let resolverRegistryDigest ← digestValue (Value.get input "resolverRegistryDigest") "evidence.resolverRegistryDigest"
  let admissionPolicyDigest ← digestValue (Value.get input "admissionPolicyDigest") "evidence.admissionPolicyDigest"
  let expiresAt ← timestamp (Value.get input "expiresAt") "evidence.expiresAt"
  checks input
  let verified : VerifiedCloudContextPlacement :=
    { organizationId, platformTenantId, environment, applicationId, componentId,
      placement := selected.placement
      dependencies := selected.dependencies
      catalogDesiredStateDigest := selected.catalogDesiredStateDigest
      placementDigest := selected.placementDigest
      dependencyClosureDigest := selected.dependencyClosureDigest
      evidenceDigest, evidenceId, requestDigest, resolverRegistryDigest, admissionPolicyDigest
      evaluatedAt := now
      expiresAt
      decisionDigest := "" }
  pure { verified with decisionDigest := digest rt verified.subject }

namespace PostgresAccess

/-- `bounded(value, path, maxLength)`. -/
def bounded (maxLength : ℕ) : Check String String :=
  text (fun s => decide (stringLength s ≠ 0 ∧ stringLength s ≤ maxLength)) "POSTGRES_OBSERVATION_STRING"
    " must be a non-empty bounded string"

/-- A bounded text that passes a test. -/
def boundedText (maxLength : ℕ) (test : String → Bool) (code message : String) : Check String String := fun value path => do
  let result ← bounded maxLength value path
  text test code message (.string result) path

/-- `/^[a-z][a-z0-9._:-]{0,127}$/`. -/
def isIdentifier (s : String) : Bool :=
  open Pattern in
  fullMatch (seq (cls isLowerLetter)
    (upTo (fun c => isLowerAlnum c || c == '.' || c == '_' || c == ':' || c == '-') 127)) s

def identifier := boundedText 128 isIdentifier "POSTGRES_OBSERVATION_IDENTIFIER" " is not an identifier"

def digestText := boundedText 64 isHexDigest "POSTGRES_OBSERVATION_DIGEST" " is not a SHA-256 digest"

def timestamp : Check String String := fun value path => do
  let result ← boundedText 32 (fun s => isTimestampText s && (dateParse s).isSome) "POSTGRES_OBSERVATION_TIMESTAMP"
    " is not a UTC timestamp" value path
  text isUtcTimestamp "POSTGRES_OBSERVATION_TIMESTAMP" " is not a canonical calendar timestamp" (.string result) path

def oneOf {α : Type} (name : α → String) (choices : List α) : Check String α := fun value path =>
  enumeration (fun _ => failure "POSTGRES_OBSERVATION_ENUM"
    (path ++ " must be one of " ++ ", ".intercalate (choices.map name))) name choices value path

def integer (value : Value) (path : String) (minimum maximum : ℤ) : Result ℤ :=
  let error := failure "POSTGRES_OBSERVATION_INTEGER" s!"{path} must be an integer from {minimum} through {maximum}"
  match value with
  | .number (.int n) => if minimum ≤ n ∧ n ≤ maximum then .ok n else .error error
  | _ => .error error

def exactObject (value : Value) (path : String) (keys : List String) : Result (List (String × Value)) :=
  match value with
  | .object record =>
    -- the sorted keys are the sorted fields
    if (record.map Prod.fst).Perm keys then .ok record
    else .error (failure "POSTGRES_OBSERVATION_FIELDS"
      (path ++ " must have exactly: " ++ ", ".intercalate (keys.insertionSort fun a b => a ≤ b)))
  | _ => .error (failure "POSTGRES_OBSERVATION_OBJECT" (path ++ " must be an object"))

/-- `verifyPostgresAccessObservationEvidence`, as far as the decision is made of it. The other members of the evidence,
the profile, the handoff, the trust, the lifetime, the signature and the replay are among the `checks`. -/
def verifyPostgresAccessObservationEvidence (checks : List (String × Value) → Result Unit) (evidence : Value)
    (expectedEvidenceDigest now : String) : Result VerifiedPostgresAccessDecision := do
  let input ← exactObject evidence "evidence" ["apiVersion", "kind", "evidenceId", "profile", "observedGeneration",
    "previousEvidenceDigest", "issuedAt", "expiresAt", "nonce", "verifier", "observations", "deploymentAuthority",
    "postgresBootstrap", "runtimeProbes", "signature"]
  let profile ← exactObject (Value.get input "profile") "evidence.profile" ["id", "bindingId", "accessClass",
    "profileSpecDigest", "bindingDigest", "workloadBundleDigest", "handoffSpecDigest"]
  let accessClass ← oneOf PostgresAccessClass.text [.runtime, .migration] (Value.get profile "accessClass")
    "evidence.profile.accessClass"
  let expiresAt ← timestamp (Value.get input "expiresAt") "evidence.expiresAt"
  let evidenceId ← identifier (Value.get input "evidenceId") "evidence.evidenceId"
  let profileId ← identifier (Value.get profile "id") "evidence.profile.id"
  let bindingId ← identifier (Value.get profile "bindingId") "evidence.profile.bindingId"
  let profileSpecDigest ← digestText (Value.get profile "profileSpecDigest") "evidence.profile.profileSpecDigest"
  let handoffSpecDigest ← digestText (Value.get profile "handoffSpecDigest") "evidence.profile.handoffSpecDigest"
  let observedGeneration ← integer (Value.get input "observedGeneration") "evidence.observedGeneration" 1 1000000
  let now ← timestamp (.string now) "now"
  let evidenceDigest ← digestText (.string expectedEvidenceDigest) "expectedEvidenceDigest"
  checks input
  let verified : VerifiedPostgresAccessDecision :=
    { profileId, bindingId, accessClass, profileSpecDigest, handoffSpecDigest, evidenceId, evidenceDigest,
      observedGeneration, evaluatedAt := now, expiresAt, decisionDigest := "" }
  pure { verified with decisionDigest := digest rt verified.subject }

theorem timestamp_ok {v : Value} {path s : String} (h : timestamp v path = .ok s) : isUtcTimestamp s = true := by
  unfold timestamp at h
  obtain ⟨result, -, h⟩ := bind_ok.1 h
  exact (text_ok.1 h).2

end PostgresAccess

/-! ## The sets of the process -/

/-- An object of the process, with what it holds. Nothing changes a decision once it is made. -/
structure Object (α : Type) where
  id : ℕ
  contents : α
deriving DecidableEq

/-- The sets `authenticCloudContextPlacements` and `authenticPostgresAccessDecisions`. -/
structure Process where
  cloudContexts : List (Object VerifiedCloudContextPlacement)
  postgres : List (Object VerifiedPostgresAccessDecision)

/-- A call of a verifier; `id` is the object that it makes. -/
inductive Verification
  | cloudContext (id : ℕ) (selected : SelectedPlacement) (checks : List (String × Value) → Result Unit)
      (evidence : Value) (expectedEvidenceDigest now : String)
  | postgres (id : ℕ) (checks : List (String × Value) → Result Unit) (evidence : Value)
      (expectedEvidenceDigest now : String)

/-- A verifier that gives out a decision adds it to its set. -/
def Process.step (p : Process) : Verification → Process
  | .cloudContext id selected checks evidence expectedEvidenceDigest now =>
    match assertDeployableCloudContextPlacement rt selected checks evidence expectedEvidenceDigest now with
    | .ok verified => { p with cloudContexts := ⟨id, verified⟩ :: p.cloudContexts }
    | .error _ => p
  | .postgres id checks evidence expectedEvidenceDigest now =>
    match PostgresAccess.verifyPostgresAccessObservationEvidence rt checks evidence expectedEvidenceDigest now with
    | .ok verified => { p with postgres := ⟨id, verified⟩ :: p.postgres }
    | .error _ => p

/-- The process after the calls `calls`, oldest first. -/
def Process.Reached (calls : List Verification) (p : Process) : Prop :=
  Run (fun (p : Process) call p' => p' = p.step rt call) ⟨[], []⟩ calls p

def assertAuthenticVerifiedCloudContextPlacement (p : Process) (decision : Object VerifiedCloudContextPlacement) :
    Result Unit :=
  ensure (decide (decision ∈ p.cloudContexts) && digest rt decision.contents.subject == decision.contents.decisionDigest)
    (failure "CLOUD_PLACEMENT_DECISION_UNTRUSTED"
      "cloud-context placement must be the unchanged in-process result of authenticated observation verification")

def assertAuthenticVerifiedPostgresAccessDecision (p : Process) (decision : Object VerifiedPostgresAccessDecision) :
    Result Unit :=
  ensure (decide (decision ∈ p.postgres) && digest rt decision.contents.subject == decision.contents.decisionDigest)
    (failure "POSTGRES_ACCESS_DECISION_UNTRUSTED"
      "PostgreSQL access decision must be the unchanged in-process result of authenticated observation verification")

variable {rt}

theorem cloudContext_times {selected : SelectedPlacement} {checks : List (String × Value) → Result Unit} {evidence : Value}
    {expectedEvidenceDigest now : String} {d : VerifiedCloudContextPlacement}
    (h : assertDeployableCloudContextPlacement rt selected checks evidence expectedEvidenceDigest now = .ok d) :
    isUtcTimestamp d.evaluatedAt = true ∧ isUtcTimestamp d.expiresAt = true := by
  unfold assertDeployableCloudContextPlacement at h
  simp only [bind_ok, pure_ok, timestamp_ok] at h
  obtain ⟨now, ⟨-, hnow⟩, _, -, _, -, _, -, _, -, _, -, _, -, _, -, _, -, _, -, _, -, _, -, expiresAt, ⟨-, hexpires⟩, _, -,
    rfl⟩ := h
  exact ⟨hnow, hexpires⟩

theorem postgres_times {checks : List (String × Value) → Result Unit} {evidence : Value}
    {expectedEvidenceDigest now : String} {d : VerifiedPostgresAccessDecision}
    (h : PostgresAccess.verifyPostgresAccessObservationEvidence rt checks evidence expectedEvidenceDigest now = .ok d) :
    isUtcTimestamp d.evaluatedAt = true ∧ isUtcTimestamp d.expiresAt = true := by
  unfold PostgresAccess.verifyPostgresAccessObservationEvidence at h
  simp only [bind_ok, pure_ok] at h
  obtain ⟨_, -, _, -, _, -, expiresAt, hexpires, _, -, _, -, _, -, _, -, _, -, _, -, now, hnow, _, -, _, -, rfl⟩ := h
  exact ⟨PostgresAccess.timestamp_ok hnow, PostgresAccess.timestamp_ok hexpires⟩

/-- The decisions of the sets name times of the years 0 to 9999. -/
structure Process.Authentic (p : Process) : Prop where
  cloudContexts : ∀ o ∈ p.cloudContexts,
    isUtcTimestamp o.contents.evaluatedAt = true ∧ isUtcTimestamp o.contents.expiresAt = true
  postgres : ∀ o ∈ p.postgres,
    isUtcTimestamp o.contents.evaluatedAt = true ∧ isUtcTimestamp o.contents.expiresAt = true

theorem Process.Authentic.step {p : Process} (h : p.Authentic) (call : Verification) : (p.step rt call).Authentic := by
  cases call with
  | cloudContext id selected checks evidence expectedEvidenceDigest now =>
    simp only [Process.step]
    cases hd : assertDeployableCloudContextPlacement rt selected checks evidence expectedEvidenceDigest now with
    | error => exact h
    | ok d =>
      refine ⟨fun o ho => ?_, h.postgres⟩
      rcases List.mem_cons.1 ho with rfl | ho
      · exact cloudContext_times hd
      · exact h.cloudContexts o ho
  | postgres id checks evidence expectedEvidenceDigest now =>
    simp only [Process.step]
    cases hd : PostgresAccess.verifyPostgresAccessObservationEvidence rt checks evidence expectedEvidenceDigest now with
    | error => exact h
    | ok d =>
      refine ⟨h.cloudContexts, fun o ho => ?_⟩
      rcases List.mem_cons.1 ho with rfl | ho
      · exact postgres_times hd
      · exact h.postgres o ho

/-- **After any run of the verifiers** the decisions of the sets name times of the years 0 to 9999. -/
theorem Process.authentic {calls : List Verification} {p : Process} (h : p.Reached rt calls) : p.Authentic := by
  have hstart : Process.Authentic ⟨[], []⟩ :=
    ⟨fun o ho => absurd ho List.not_mem_nil, fun o ho => absurd ho List.not_mem_nil⟩
  refine Run.invariant hstart ?_ h
  rintro m call _ hm rfl
  exact hm.step call

end SecureSaas.Cloud
