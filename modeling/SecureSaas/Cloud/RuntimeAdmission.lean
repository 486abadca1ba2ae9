import SecureSaas.Cloud.Decisions
import SecureSaas.Js.TextOrder

/-!
# Runtime admission (`src/core/runtimeDeploymentAdmission.ts`)

A component is admitted with one decision on its cloud context and one decision for each
database that its placement binds. The admission ends with the first of its decisions, found by
sorting their texts.

* `assertRuntimeDeploymentAdmission_ok`: what an admission is made of.
* `admission_sound`: **an admission has exactly the bindings of the placement, repeats the
  decisions it rests on and ends with the first of them, after the present**.
-/

namespace SecureSaas.Cloud

open Js

/-! ## The stage -/

structure AdmittedResource where
  bindingId : String
  profileId : String
  profileSpecDigest : String
  handoffSpecDigest : String
  evidenceDigest : String
  decisionDigest : String
deriving DecidableEq

structure VerifiedRuntimeDeploymentAdmission where
  organizationId : String
  platformTenantId : String
  environment : CloudContextEnvironment
  applicationId : String
  componentId : String
  requestDigest : String
  placementDigest : String
  cloudContextDecisionDigest : String
  resources : List AdmittedResource
  evaluatedAt : String
  expiresAt : String
  decisionDigest : String
deriving DecidableEq

def AdmittedResource.toValue (r : AdmittedResource) : Value := .object [
  ("kind", .string "ManagedPostgres"),
  ("bindingId", .string r.bindingId),
  ("accessClass", .string "runtime"),
  ("profileId", .string r.profileId),
  ("profileSpecDigest", .string r.profileSpecDigest),
  ("handoffSpecDigest", .string r.handoffSpecDigest),
  ("evidenceDigest", .string r.evidenceDigest),
  ("decisionDigest", .string r.decisionDigest)]

def VerifiedRuntimeDeploymentAdmission.subject (a : VerifiedRuntimeDeploymentAdmission) : Value := .object [
  ("state", .string "admitted"),
  ("admitted", .bool true),
  ("organizationId", .string a.organizationId),
  ("platformTenantId", .string a.platformTenantId),
  ("environment", .string a.environment.text),
  ("applicationId", .string a.applicationId),
  ("componentId", .string a.componentId),
  ("requestDigest", .string a.requestDigest),
  ("placementDigest", .string a.placementDigest),
  ("cloudContextDecisionDigest", .string a.cloudContextDecisionDigest),
  ("resources", .array (a.resources.map (·.toValue))),
  ("evaluatedAt", .string a.evaluatedAt),
  ("expiresAt", .string a.expiresAt)]

namespace RuntimeAdmission

/-- `Date.parse(value)` on the texts that `timestamp` accepts. -/
def timeValue (s : String) : Option ℤ := dateParse s <|> expandedTime s

def timestamp (s path : String) : Result String := do
  ensure (isCanonicalTimestamp s)
    (failure "DEPLOYMENT_ADMISSION_TIME" (path ++ " must be a canonical calendar timestamp"))
  pure s

def assertActiveDecision (evaluatedAtValue expiresAtValue nowValue label : String) : Result Unit := do
  let evaluatedAt ← timestamp evaluatedAtValue (label ++ ".evaluatedAt")
  let expiresAt ← timestamp expiresAtValue (label ++ ".expiresAt")
  let now := (timeValue nowValue).getD 0
  ensure (decide ((timeValue evaluatedAt).getD 0 ≤ now))
    (failure "DEPLOYMENT_ADMISSION_FUTURE_DECISION" (label ++ " readiness decision is future-dated"))
  ensure (decide (now < (timeValue expiresAt).getD 0))
    (failure "DEPLOYMENT_ADMISSION_EXPIRED_DECISION" (label ++ " readiness decision has expired"))

/-- `canonicalJson(actual) !== canonicalJson(expected)` on texts is equality of the lists. -/
def assertExactInventory (actual expected : List String) (code message : String) : Result Unit :=
  ensure (decide actual.Nodup && decide expected.Nodup && actual == expected) (failure code message)

/-- The loop over `args.postgres`; `seen` are the decisions of `postgresByBinding`, in the order of its keys. -/
def collectDecisions (rt : Runtime) (p : Process) (now : String) (seen : List VerifiedPostgresAccessDecision) :
    List (Object VerifiedPostgresAccessDecision) → Result (List VerifiedPostgresAccessDecision)
  | [] => .ok seen
  | object :: rest => do
    let decision := object.contents
    assertAuthenticVerifiedPostgresAccessDecision rt p object
    assertActiveDecision decision.evaluatedAt decision.expiresAt now s!"PostgreSQL binding '{decision.bindingId}'"
    ensure (decision.accessClass == .runtime) (failure "DEPLOYMENT_ADMISSION_ACCESS_CLASS_DENIED"
      s!"application runtime admission cannot consume '{decision.accessClass.text}' access for '{decision.bindingId}'")
    ensure (!seen.any fun other => other.bindingId == decision.bindingId)
      (failure "DEPLOYMENT_ADMISSION_DUPLICATE_RESOURCE"
        s!"PostgreSQL binding '{decision.bindingId}' has more than one runtime readiness decision")
    collectDecisions rt p now (seen ++ [decision]) rest

def resourceOf (decision : VerifiedPostgresAccessDecision) : AdmittedResource :=
  ⟨decision.bindingId, decision.profileId, decision.profileSpecDigest, decision.handoffSpecDigest,
    decision.evidenceDigest, decision.decisionDigest⟩

end RuntimeAdmission

open RuntimeAdmission

def assertRuntimeDeploymentAdmission (rt : Runtime) (p : Process) (cloudContext : Object VerifiedCloudContextPlacement)
    (postgres : List (Object VerifiedPostgresAccessDecision)) (now : String) :
    Result VerifiedRuntimeDeploymentAdmission := do
  let now ← RuntimeAdmission.timestamp now "now"
  assertAuthenticVerifiedCloudContextPlacement rt p cloudContext
  let cloud := cloudContext.contents
  assertActiveDecision cloud.evaluatedAt cloud.expiresAt now "cloud-context"
  let selectedBindings := sortTexts ((cloud.dependencies.filter fun d => d.kind == .resourceBinding).map (·.id))
  let placementBindings := sortTexts cloud.placement.resourceBindingIds
  assertExactInventory selectedBindings placementBindings "DEPLOYMENT_ADMISSION_CLOUD_BINDING_MISMATCH"
    "verified dependency closure does not exactly match placement resource bindings"
  let postgresByBinding ← collectDecisions rt p now [] postgres
  assertExactInventory (sortTexts (postgresByBinding.map (·.bindingId))) selectedBindings
    "DEPLOYMENT_ADMISSION_RESOURCE_SET_MISMATCH"
    "PostgreSQL runtime readiness decisions do not exactly cover the selected resource bindings"
  -- every selected binding has its decision here
  let resources := selectedBindings.filterMap fun bindingId =>
    (postgresByBinding.find? fun decision => decision.bindingId == bindingId).map resourceOf
  let expiries := cloud.expiresAt :: postgres.map fun decision => decision.contents.expiresAt
  let admission : VerifiedRuntimeDeploymentAdmission :=
    { organizationId := cloud.organizationId
      platformTenantId := cloud.platformTenantId
      environment := cloud.environment
      applicationId := cloud.applicationId
      componentId := cloud.componentId
      requestDigest := cloud.requestDigest
      placementDigest := cloud.placementDigest
      cloudContextDecisionDigest := cloud.decisionDigest
      resources
      evaluatedAt := now
      expiresAt := (sortTexts expiries).headD ""
      decisionDigest := "" }
  pure { admission with decisionDigest := digest rt admission.subject }

section
variable {rt : Runtime} {p : Process} {cloudContext : Object VerifiedCloudContextPlacement}
  {postgres : List (Object VerifiedPostgresAccessDecision)} {now : String} {admission : VerifiedRuntimeDeploymentAdmission}

namespace RuntimeAdmission

/-! ## Times -/

theorem timestamp_ok {s path r : String} :
    RuntimeAdmission.timestamp s path = .ok r ↔ isCanonicalTimestamp s = true ∧ s = r := by
  unfold RuntimeAdmission.timestamp
  simp only [bind_ok, ensure_ok, exists_unit, pure_ok]

/-- A canonical text that a verifier accepts is the text of its time, of the years 0 to 9999. -/
theorem canonical_time {s : String} (hutc : isUtcTimestamp s = true) (hcanonical : isCanonicalTimestamp s = true) :
    ∃ t, timeValue s = some t ∧ s = isoString t ∧ minIsoTime ≤ t ∧ t ≤ maxIsoTime := by
  obtain ⟨t, hparse, h1, h2, -⟩ := isUtcTimestamp_time hutc
  have hvalue : timeValue s = some t := by rw [timeValue, hparse]; rfl
  unfold isCanonicalTimestamp at hcanonical
  rw [← timeValue, hvalue] at hcanonical
  simp only [Bool.and_eq_true, beq_iff_eq] at hcanonical
  exact ⟨t, hvalue, hcanonical.2.symm, h1, h2⟩

/-- A decision that is active at a time ends after it. -/
structure Active (expiresAt now : String) : Prop where
  utc : isUtcTimestamp expiresAt = true
  canonical : isCanonicalTimestamp expiresAt = true
  after : (timeValue now).getD 0 < (timeValue expiresAt).getD 0

theorem active_of {evaluatedAt expiresAt label : String} {u : Unit} (hutc : isUtcTimestamp expiresAt = true)
    (h : assertActiveDecision evaluatedAt expiresAt now label = .ok u) : Active expiresAt now := by
  unfold assertActiveDecision at h
  simp only [bind_ok, timestamp_ok, ensure_ok, exists_unit, decide_eq_true_eq] at h
  obtain ⟨_, -, _, ⟨hcanonical, rfl⟩, -, hafter⟩ := h
  exact ⟨hutc, hcanonical, hafter⟩

/-- **The first of the sorted texts is the first time**, after the present. -/
theorem first_expiry {expiries : List String} (hnow : isCanonicalTimestamp now = true) (hne : expiries ≠ [])
    (h : ∀ e ∈ expiries, Active e now) :
    (sortTexts expiries).headD "" ∈ expiries ∧
    ∃ n t, timeValue now = some n ∧ timeValue ((sortTexts expiries).headD "") = some t ∧ n < t ∧
      ∀ e ∈ expiries, ∃ u, timeValue e = some u ∧ t ≤ u := by
  obtain ⟨n, hn⟩ : ∃ n, timeValue now = some n := by
    unfold isCanonicalTimestamp at hnow
    rw [← timeValue] at hnow
    cases hvalue : timeValue now with
    | none => rw [hvalue] at hnow; cases hnow
    | some n => exact ⟨n, rfl⟩
  cases hsorted : sortTexts expiries with
  | nil =>
    have hperm := sortTexts_perm expiries
    rw [hsorted] at hperm
    exact absurd hperm.nil_eq.symm hne
  | cons first rest =>
    obtain ⟨hmem, hleast⟩ := sortTexts_head_le hsorted
    obtain ⟨t, ht, rfl, htrange⟩ := canonical_time (h first hmem).utc (h first hmem).canonical
    have hafter := (h _ hmem).after
    rw [hn, ht] at hafter
    refine ⟨hmem, n, t, hn, ht, hafter, fun e he => ?_⟩
    obtain ⟨u, hu, rfl, hurange⟩ := canonical_time (h e he).utc (h e he).canonical
    exact ⟨u, hu, (isoString_le_iff htrange hurange).1 (hleast _ he)⟩

/-! ## The inventory -/

theorem assertExactInventory_ok {actual expected : List String} {code message : String} {u : Unit} :
    assertExactInventory actual expected code message = .ok u ↔ actual.Nodup ∧ actual = expected := by
  unfold assertExactInventory
  simp only [ensure_ok, Bool.and_eq_true, decide_eq_true_eq, beq_iff_eq]
  constructor
  · rintro ⟨⟨hactual, -⟩, heq⟩
    exact ⟨hactual, heq⟩
  · rintro ⟨hactual, rfl⟩
    exact ⟨⟨hactual, hactual⟩, rfl⟩

/-- **A loop that ends** has kept every decision, each of the runtime class and active, and no two of one binding. -/
theorem collectDecisions_ok (hp : p.Authentic) : ∀ {objects : List (Object VerifiedPostgresAccessDecision)}
    {seen decisions : List VerifiedPostgresAccessDecision}, collectDecisions rt p now seen objects = .ok decisions →
    (seen.map (·.bindingId)).Nodup → decisions = seen ++ objects.map (·.contents) ∧
      (decisions.map (·.bindingId)).Nodup ∧
      ∀ o ∈ objects, o.contents.accessClass = .runtime ∧ Active o.contents.expiresAt now
  | [], seen, decisions, h, hseen => by
    obtain rfl : seen = decisions := Except.ok.inj h
    exact ⟨(List.append_nil _).symm, hseen, nofun⟩
  | object :: rest, seen, decisions, h, hseen => by
    simp only [collectDecisions, bind_ok, ensure_ok, exists_unit, beq_iff_eq] at h
    obtain ⟨hauthentic, hactive, hclass, hnew, hrest⟩ := h
    have hmem : object ∈ p.postgres := by
      unfold assertAuthenticVerifiedPostgresAccessDecision at hauthentic
      rw [ensure_ok, Bool.and_eq_true, decide_eq_true_eq] at hauthentic
      exact hauthentic.1
    have hkey : object.contents.bindingId ∉ seen.map (·.bindingId) := by
      simpa [List.any_eq_false] using hnew
    have hseen' : ((seen ++ [object.contents]).map (·.bindingId)).Nodup := by
      rw [List.map_append, List.nodup_append]
      refine ⟨hseen, by simp, fun a ha b hb => ?_⟩
      obtain rfl := List.mem_singleton.1 hb
      rintro rfl
      exact hkey ha
    obtain ⟨rfl, hnodup, hall⟩ := collectDecisions_ok hp hrest hseen'
    refine ⟨by simp, hnodup, fun o ho => ?_⟩
    rcases List.mem_cons.1 ho with rfl | ho
    · exact ⟨hclass, active_of (hp.postgres _ hmem).2 hactive⟩
    · exact hall o ho

theorem find_binding {decisions : List VerifiedPostgresAccessDecision} (hnodup : (decisions.map (·.bindingId)).Nodup)
    {d : VerifiedPostgresAccessDecision} (hd : d ∈ decisions) :
    decisions.find? (fun decision => decision.bindingId == d.bindingId) = some d := by
  induction decisions with
  | nil => exact absurd hd List.not_mem_nil
  | cons c decisions ih =>
    obtain ⟨hnew, hrest⟩ := List.nodup_cons.1 hnodup
    rcases List.mem_cons.1 hd with rfl | hd
    · exact List.find?_cons_of_pos (beq_self_eq_true _)
    · have hne : c.bindingId ≠ d.bindingId := by
        intro heq
        exact hnew (List.mem_map.2 ⟨d, hd, heq.symm⟩)
      rw [List.find?_cons_of_neg (by simpa using hne), ih hrest hd]

/-- The bindings in any order give the resources of their decisions. -/
theorem resources_perm {decisions : List VerifiedPostgresAccessDecision} {ids : List String}
    (hnodup : (decisions.map (·.bindingId)).Nodup) (hids : ids.Perm (decisions.map (·.bindingId))) :
    (ids.filterMap fun id => (decisions.find? fun decision => decision.bindingId == id).map resourceOf).Perm
      (decisions.map resourceOf) := by
  refine (hids.filterMap _).trans (List.Perm.of_eq ?_)
  rw [List.filterMap_map]
  have hfind : ∀ d ∈ decisions,
      (decisions.find? fun decision => decision.bindingId == d.bindingId).map resourceOf = some (resourceOf d) := by
    intro d hd
    rw [find_binding hnodup hd]
    rfl
  rw [← List.filterMap_eq_map]
  exact List.filterMap_congr fun d hd => hfind d hd

end RuntimeAdmission

/-! ## The admission -/

/-- What an admission is made of. -/
structure VerifiedRuntimeDeploymentAdmission.Sound (cloud : VerifiedCloudContextPlacement)
    (decisions : List VerifiedPostgresAccessDecision) (now : String) (a : VerifiedRuntimeDeploymentAdmission) : Prop where
  /-- The resources are the bindings of the placement, each once. -/
  bindings : (a.resources.map (·.bindingId)).Perm cloud.placement.resourceBindingIds
  distinct : cloud.placement.resourceBindingIds.Nodup
  /-- The bindings of the placement are those of the verified dependencies. -/
  dependencies : cloud.placement.resourceBindingIds.Perm
    ((cloud.dependencies.filter fun d => d.kind == .resourceBinding).map (·.id))
  /-- Every decision is of the runtime class and has its resource. -/
  resources : a.resources.Perm (decisions.map resourceOf)
  runtime : ∀ d ∈ decisions, d.accessClass = .runtime
  /-- The subject and the digests are those of the cloud decision. -/
  subject : a.organizationId = cloud.organizationId ∧ a.platformTenantId = cloud.platformTenantId ∧
    a.environment = cloud.environment ∧ a.applicationId = cloud.applicationId ∧ a.componentId = cloud.componentId ∧
    a.requestDigest = cloud.requestDigest ∧ a.placementDigest = cloud.placementDigest ∧
    a.cloudContextDecisionDigest = cloud.decisionDigest
  evaluatedAt : a.evaluatedAt = now
  /-- The end is one of the ends of the decisions, the first of them in time, and after the present. -/
  expiry : a.expiresAt ∈ cloud.expiresAt :: decisions.map (·.expiresAt)
  earliest : ∃ n t, timeValue now = some n ∧ timeValue a.expiresAt = some t ∧ n < t ∧
    ∀ e ∈ cloud.expiresAt :: decisions.map (·.expiresAt), ∃ u, timeValue e = some u ∧ t ≤ u

end

/-- **Every admission** has exactly the database bindings of the placement, each with one runtime decision, repeats the
subject and the digests of the cloud decision, and ends with the first of its decisions, after the present. -/
theorem admission_sound (rt : Runtime) (calls : List Verification) (p : Process)
    (cloudContext : Object VerifiedCloudContextPlacement) (postgres : List (Object VerifiedPostgresAccessDecision))
    (now : String) (admission : VerifiedRuntimeDeploymentAdmission) (hreached : p.Reached rt calls)
    (h : assertRuntimeDeploymentAdmission rt p cloudContext postgres now = .ok admission) :
    admission.Sound cloudContext.contents (postgres.map (·.contents)) now := by
  have hp := Process.authentic hreached
  unfold assertRuntimeDeploymentAdmission at h
  simp only [bind_ok, pure_ok, RuntimeAdmission.timestamp_ok, exists_unit, assertExactInventory_ok] at h
  obtain ⟨_, ⟨hnow, rfl⟩, hauthentic, hactive, ⟨hselected, hplacement⟩, decisions, hdecisions, ⟨-, hinventory⟩, rfl⟩ := h
  have hmem : cloudContext ∈ p.cloudContexts := by
    unfold assertAuthenticVerifiedCloudContextPlacement at hauthentic
    rw [ensure_ok, Bool.and_eq_true, decide_eq_true_eq] at hauthentic
    exact hauthentic.1
  obtain ⟨heq, hnodup, hall⟩ := collectDecisions_ok hp hdecisions List.nodup_nil
  rw [List.nil_append] at heq
  subst heq
  have hcloud := active_of (hp.cloudContexts _ hmem).2 hactive
  have hpostgres : ∀ e ∈ postgres.map (fun decision => decision.contents.expiresAt), Active e now := by
    intro e he
    obtain ⟨o, ho, rfl⟩ := List.mem_map.1 he
    exact (hall o ho).2
  have hplaced := hplacement ▸ sortTexts_perm cloudContext.contents.placement.resourceBindingIds
  have hselectedPerm := sortTexts_perm
    ((cloudContext.contents.dependencies.filter fun d => d.kind == .resourceBinding).map (·.id))
  have hcovered := sortTexts_perm ((postgres.map fun o => o.contents).map fun d => d.bindingId)
  rw [hinventory] at hcovered
  have hresources := resources_perm hnodup hcovered
  obtain ⟨hfirst, hearliest⟩ := first_expiry hnow (List.cons_ne_nil _ _) (List.forall_mem_cons.2 ⟨hcloud, hpostgres⟩)
  have hends : (postgres.map fun o => o.contents).map (fun d => d.expiresAt) =
      postgres.map fun decision => decision.contents.expiresAt := by rw [List.map_map]; rfl
  exact {
    bindings := ((hresources.map _).trans (by rw [List.map_map]; exact hcovered.symm)).trans hplaced
    distinct := hplaced.nodup_iff.1 hselected
    dependencies := hplaced.symm.trans hselectedPerm
    resources := hresources
    runtime := fun d hd => by
      obtain ⟨o, ho, rfl⟩ := List.mem_map.1 hd
      exact (hall o ho).1
    subject := ⟨rfl, rfl, rfl, rfl, rfl, rfl, rfl, rfl⟩
    evaluatedAt := rfl
    expiry := by rw [hends]; exact hfirst
    earliest := by rw [hends]; exact hearliest }

/-! ## An admission -/

def plainRuntime : Runtime := .tabulated [] (fun _ => none) hex_nil

def ordersPlacement : SelectedPlacement where
  placement := ⟨"orders", "api", "production-eu", "runtime", "network", "registry", "identity", "telemetry", [], ["orders-db"], []⟩
  dependencies := [⟨"production-eu/resource-binding/orders-db", .resourceBinding, "production-eu", "orders-db", 1, zeroDigest, []⟩]
  catalogDesiredStateDigest := zeroDigest
  placementDigest := zeroDigest
  dependencyClosureDigest := zeroDigest

/-- Evidence on the context, up to the given time. -/
def contextEvidence (expiresAt : String) : Value := .object [
  ("apiVersion", .string "evidence.security.deus.dev/cloud-context-observation/v1alpha1"),
  ("kind", .string "CloudContextObservationEvidence"),
  ("evidenceId", .string "evidence-1"),
  ("organizationId", .string "acme"),
  ("platformTenantId", .string "tenant-a"),
  ("environment", .string "production"),
  ("applicationId", .string "orders"),
  ("componentId", .string "api"),
  ("requestDigest", .string zeroDigest),
  ("catalogDesiredStateDigest", .string zeroDigest),
  ("placementDigest", .string zeroDigest),
  ("dependencyClosureDigest", .string zeroDigest),
  ("resolverRegistryDigest", .string zeroDigest),
  ("admissionPolicyDigest", .string zeroDigest),
  ("issuedAt", .string "2026-07-18T12:00:00.000Z"),
  ("expiresAt", .string expiresAt),
  ("nonce", .string "nonce"),
  ("verifier", .object []),
  ("observations", .array []),
  ("signature", .object [])]

/-- Evidence on the database, up to the given time. -/
def databaseEvidence (expiresAt : String) : Value := .object [
  ("apiVersion", .string "evidence.security.deus.dev/postgres-access-observation/v1alpha1"),
  ("kind", .string "PostgresAccessObservationEvidence"),
  ("evidenceId", .string "evidence-2"),
  ("profile", .object [
    ("id", .string "orders-runtime"),
    ("bindingId", .string "orders-db"),
    ("accessClass", .string "runtime"),
    ("profileSpecDigest", .string zeroDigest),
    ("bindingDigest", .string zeroDigest),
    ("workloadBundleDigest", .string zeroDigest),
    ("handoffSpecDigest", .string zeroDigest)]),
  ("observedGeneration", .number (.int 1)),
  ("previousEvidenceDigest", .null),
  ("issuedAt", .string "2026-07-18T12:00:00.000Z"),
  ("expiresAt", .string expiresAt),
  ("nonce", .string "nonce"),
  ("verifier", .object []),
  ("observations", .object []),
  ("deploymentAuthority", .object []),
  ("postgresBootstrap", .object []),
  ("runtimeProbes", .object []),
  ("signature", .object [])]

/-- The calls of the two verifiers. -/
def ordersCalls : List Verification := [
  .cloudContext 1 ordersPlacement (fun _ => .ok ()) (contextEvidence "2026-07-18T12:06:00.000Z") zeroDigest
    "2026-07-18T12:01:00.000Z",
  .postgres 2 (fun _ => .ok ()) (databaseEvidence "2026-07-18T12:05:00.000Z") zeroDigest "2026-07-18T12:01:00.000Z"]

def ordersProcess : Process := ordersCalls.foldl (fun p call => p.step plainRuntime call) ⟨[], []⟩

/-- The admission with the decisions that the process has given out. -/
def ordersAdmission (now : String) : Option (Result VerifiedRuntimeDeploymentAdmission) :=
  ordersProcess.cloudContexts.head?.map fun cloudContext =>
    assertRuntimeDeploymentAdmission plainRuntime ordersProcess cloudContext ordersProcess.postgres now

/-- A component with one database is admitted until the decision on the database ends. -/
theorem orders_admitted : ∃ cloudContext postgres admission, ordersProcess.Reached plainRuntime ordersCalls ∧
    assertRuntimeDeploymentAdmission plainRuntime ordersProcess cloudContext postgres "2026-07-18T12:01:30.000Z" =
      .ok admission ∧
    admission.Sound cloudContext.contents (postgres.map (·.contents)) "2026-07-18T12:01:30.000Z" := by
  have hreached : ordersProcess.Reached plainRuntime ordersCalls := .snoc (.snoc .start rfl) rfl
  have hok : ((ordersAdmission "2026-07-18T12:01:30.000Z").map fun r => r.isOk) = some true := by decide +kernel
  unfold ordersAdmission at hok
  cases hcontext : ordersProcess.cloudContexts.head? with
  | none => rw [hcontext] at hok; cases hok
  | some cloudContext =>
    rw [hcontext, Option.map_some, Option.map_some, Option.some.injEq] at hok
    cases hadmission : assertRuntimeDeploymentAdmission plainRuntime ordersProcess cloudContext ordersProcess.postgres
        "2026-07-18T12:01:30.000Z" with
    | error => rw [hadmission] at hok; cases hok
    | ok admission =>
      exact ⟨cloudContext, _, admission, hreached, hadmission,
        admission_sound _ _ _ _ _ _ _ hreached hadmission⟩

end SecureSaas.Cloud
