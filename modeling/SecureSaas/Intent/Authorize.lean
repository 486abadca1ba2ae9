import SecureSaas.Intent.Model
import SecureSaas.Paas.State
import Mathlib.Data.Rat.Defs
import Mathlib.Algebra.Order.Ring.Unbundled.Rat

/-!
# The authorization of a platform request (`authorizePaasRequest`)

Every failed check adds its reason once; a request is allowed when no reason was added. Requests
to capability endpoints are checked against the capability they carry, requests to RBAC
endpoints against the grants of the state. Numbers are rational, since nothing but the check
itself makes a clock an integer.

* `allowed_iff`: **a request is allowed exactly when its endpoint admits it and it meets the
  checks of that endpoint's mode**.
* `redeemed_iff`: when a decision names a capability to redeem.
* `redemption_trusted_iff`: the capability named is trustworthy unless an RBAC endpoint allows a
  request with a one-use capability that was never looked at.
-/

namespace SecureSaas.Intent

open Js
open Paas (isSourceRevision validDigest boundedResource)

/-! ## Data -/

inductive PaasAuthenticationMethod
  | oidc | mtls
deriving DecidableEq

structure PaasRequestActor where
  id : String
  tenantId : String
  authenticationMethods : List PaasAuthenticationMethod

structure PaasCapability where
  id : String
  issuer : String
  subject : String
  tenantId : String
  audience : String
  operations : List PaasOperation
  resources : List String
  issuedAtEpochSeconds : ℚ
  notBeforeEpochSeconds : ℚ
  expiresAtEpochSeconds : ℚ
  cryptographicallyVerified : Bool
  oneUse : Bool

structure PaasRbacGrant where
  id : String
  subject : String
  tenantId : String
  endpointId : String
  operations : List PaasOperation
  resources : List String
  expiresAtEpochSeconds : Option ℚ

structure PaasAuthorizationRequest where
  apiVersion : String
  requestId : String
  endpointId : String
  actor : PaasRequestActor
  tenantId : String
  operation : PaasOperation
  resource : String
  executionTarget : PaasExecutionTarget
  idempotencyKey : Option String
  sourceRevision : Option String
  artifactDigest : Option String
  capability : Option PaasCapability

structure PaasAuthorizationState where
  nowEpochSeconds : ℚ
  redeemedCapabilityIds : List String
  rbacGrants : List PaasRbacGrant

inductive PaasAuthorizationReasonCode
  | requestInvalid | endpointUnknown | operationUndeclared | tenantUnknown | tenantMismatch
  | authenticationInsufficient | executionTargetInvalid | hostExecutionDenied
  | idempotencyKeyMissing | sourceRevisionMissing | artifactDigestMissing | capabilityMissing
  | capabilityInvalid | capabilityUnverified | capabilityIssuerUntrusted
  | capabilitySubjectMismatch | capabilityTenantMismatch | capabilityAudienceMismatch
  | capabilityOperationDenied | capabilityResourceDenied | capabilityTimeInvalid
  | capabilityTtlExceeded | capabilityReplayed | capabilityNotOneUse | rbacGrantMissing
  | authorizationModeUnsafe
deriving DecidableEq

inductive AuthorizationDecision
  | allow | deny
deriving DecidableEq

structure PaasAuthorizationAuditRecord where
  actor : String
  tenant : String
  requestId : String
  operation : PaasOperation
  endpoint : String
  resource : String
  executionTarget : PaasExecutionTarget
  sourceRevision : Option String
  artifactDigest : Option String
  authorizationDecision : AuthorizationDecision
  decisionEpochSeconds : ℚ
  reasonCodes : List PaasAuthorizationReasonCode
  capabilityId : Option String
  idempotencyKey : Option String

structure PaasAuthorizationDecision where
  allowed : Bool
  evaluatedAtEpochSeconds : ℚ
  reasonCodes : List PaasAuthorizationReasonCode
  capabilityToRedeem : Option String
  audit : PaasAuthorizationAuditRecord

def paasAuthorizationRequestApiVersion : String := "security.deus.dev/paas-authorization-request/v1alpha1"

/-! ## The checks -/

/-- `if (failed) deny(code)`. -/
def denyWhen (failed : Bool) (code : PaasAuthorizationReasonCode)
    (reasons : List PaasAuthorizationReasonCode) : List PaasAuthorizationReasonCode :=
  if failed && !reasons.contains code then reasons ++ [code] else reasons

@[simp] theorem denyWhen_eq_nil {failed : Bool} {code : PaasAuthorizationReasonCode}
    {reasons : List PaasAuthorizationReasonCode} :
    denyWhen failed code reasons = [] ↔ reasons = [] ∧ failed = false := by
  unfold denyWhen
  cases failed with
  | false => simp
  | true =>
    cases reasons with
    | nil => simp
    | cons a l => split <;> simp

/-- `Number.isInteger(value)`. -/
def isInteger (value : ℚ) : Bool := value.den = 1

def readOnlyOperations : List PaasOperation := [.readState, .readFile, .pullArtifact]

def sourceRevisionOperations : List PaasOperation := [.build]

def artifactDigestOperations : List PaasOperation := [.deploy, .rollback, .pushArtifact, .pullArtifact]

/-- The actor's methods include those the endpoint requires. -/
def authenticationSatisfies (required : PaasAuthentication) (actor : PaasRequestActor) : Bool :=
  match required with
  | .oidc => actor.authenticationMethods.contains .oidc
  | .mtls => actor.authenticationMethods.contains .mtls
  | .oidcAndMtls => actor.authenticationMethods.contains .oidc && actor.authenticationMethods.contains .mtls
  | .none => false

variable (intent : PaasSecurityIntent) (request : PaasAuthorizationRequest) (state : PaasAuthorizationState)

/-- `!readOnlyOperations.has(request.operation)`. -/
def PaasAuthorizationRequest.mutating : Bool := !readOnlyOperations.contains request.operation

def evaluateCapability (reasons : List PaasAuthorizationReasonCode) : List PaasAuthorizationReasonCode :=
  match request.capability with
  | none => reasons |> denyWhen true .capabilityMissing
  | some capability =>
    reasons
      |> denyWhen (!hasText capability.id || !hasText capability.issuer || !hasText capability.subject ||
          !hasText capability.tenantId || !hasText capability.audience || capability.operations.isEmpty ||
          capability.resources.isEmpty) .capabilityInvalid
      |> denyWhen (!capability.cryptographicallyVerified) .capabilityUnverified
      |> denyWhen (!intent.accessControl.trustedCapabilityIssuers.contains capability.issuer)
          .capabilityIssuerUntrusted
      |> denyWhen (capability.subject != request.actor.id) .capabilitySubjectMismatch
      |> denyWhen (capability.tenantId != request.tenantId) .capabilityTenantMismatch
      |> denyWhen (capability.audience != request.endpointId) .capabilityAudienceMismatch
      |> denyWhen (!capability.operations.contains request.operation) .capabilityOperationDenied
      |> denyWhen (!capability.resources.contains request.resource ||
          capability.resources.any fun resource => !boundedResource resource) .capabilityResourceDenied
      |> denyWhen (!isInteger capability.issuedAtEpochSeconds || !isInteger capability.notBeforeEpochSeconds ||
          !isInteger capability.expiresAtEpochSeconds || decide (capability.issuedAtEpochSeconds < 0) ||
          decide (capability.notBeforeEpochSeconds < capability.issuedAtEpochSeconds) ||
          decide (capability.expiresAtEpochSeconds ≤ capability.notBeforeEpochSeconds) ||
          decide (state.nowEpochSeconds < capability.notBeforeEpochSeconds) ||
          decide (capability.expiresAtEpochSeconds ≤ state.nowEpochSeconds)) .capabilityTimeInvalid
      |> denyWhen (decide (capability.expiresAtEpochSeconds - capability.issuedAtEpochSeconds >
          intent.accessControl.maxCapabilityTtlSeconds)) .capabilityTtlExceeded
      |> denyWhen (state.redeemedCapabilityIds.contains capability.id) .capabilityReplayed
      |> denyWhen (request.mutating && intent.accessControl.oneUseMutations && !capability.oneUse)
          .capabilityNotOneUse

def hasRbacGrant : Bool :=
  state.rbacGrants.any fun grant =>
    hasText grant.id && grant.subject == request.actor.id && grant.tenantId == request.tenantId &&
      grant.endpointId == request.endpointId && grant.operations.contains request.operation &&
      grant.resources.contains request.resource && grant.resources.all boundedResource &&
      match grant.expiresAtEpochSeconds with
      | none => true
      | some expiresAt => isInteger expiresAt && decide (state.nowEpochSeconds < expiresAt)

/-- The endpoint the request names: the first of that id. -/
def requestedEndpoint : Option PaasEndpoint :=
  intent.endpoints.find? fun candidate => candidate.id == request.endpointId

/-- `evaluateCapability`, `hasRbacGrant`, or no safe mode. -/
def evaluateMode (endpoint : PaasEndpoint) (reasons : List PaasAuthorizationReasonCode) :
    List PaasAuthorizationReasonCode :=
  match endpoint.authorization with
  | .capability => evaluateCapability intent request state reasons
  | .rbac => reasons |> denyWhen (!hasRbacGrant request state) .rbacGrantMissing
  | .none => reasons |> denyWhen true .authorizationModeUnsafe

def evaluateEndpoint (endpoint : Option PaasEndpoint) (reasons : List PaasAuthorizationReasonCode) :
    List PaasAuthorizationReasonCode :=
  match endpoint with
  | none => reasons |> denyWhen true .endpointUnknown
  | some endpoint =>
    reasons
      |> denyWhen (!endpoint.operations.contains request.operation) .operationUndeclared
      |> denyWhen (!authenticationSatisfies endpoint.authentication request.actor) .authenticationInsufficient
      |> denyWhen (request.executionTarget == .host) .hostExecutionDenied
      |> denyWhen (request.executionTarget != endpoint.executionTarget) .executionTargetInvalid

/-- The reasons against a request. -/
def denials : List PaasAuthorizationReasonCode :=
  let endpoint := requestedEndpoint intent request
  let reasons := []
    |> denyWhen (!hasText request.requestId || request.apiVersion != paasAuthorizationRequestApiVersion ||
        !hasText request.actor.id || !hasText request.actor.tenantId || !hasText request.tenantId ||
        !boundedResource request.resource || !isInteger state.nowEpochSeconds ||
        decide (state.nowEpochSeconds < 0)) .requestInvalid
    |> evaluateEndpoint request endpoint
    |> denyWhen (!intent.tenants.any fun tenant => tenant.tenantId == request.tenantId) .tenantUnknown
    |> denyWhen (request.actor.tenantId != request.tenantId ||
        ((endpoint.any fun endpoint => endpoint.tenantBindingRequired) && request.tenantId == "")) .tenantMismatch
    |> denyWhen (request.mutating && intent.accessControl.idempotencyKeys &&
        !request.idempotencyKey.any hasText) .idempotencyKeyMissing
    |> denyWhen (sourceRevisionOperations.contains request.operation &&
        !isSourceRevision (request.sourceRevision.getD "")) .sourceRevisionMissing
    |> denyWhen (artifactDigestOperations.contains request.operation &&
        !validDigest (some (request.artifactDigest.getD ""))) .artifactDigestMissing
  match endpoint with
  | none => reasons
  | some endpoint => evaluateMode intent request state endpoint reasons

def authorizePaasRequest : PaasAuthorizationDecision :=
  let reasons := denials intent request state
  let allowed := reasons.isEmpty
  { allowed
    evaluatedAtEpochSeconds := state.nowEpochSeconds
    reasonCodes := reasons
    capabilityToRedeem :=
      if allowed && request.capability.any fun capability => capability.oneUse then
        request.capability.map fun capability => capability.id
      else none
    audit := { actor := request.actor.id
               tenant := request.tenantId
               requestId := request.requestId
               operation := request.operation
               endpoint := request.endpointId
               resource := request.resource
               executionTarget := request.executionTarget
               sourceRevision := request.sourceRevision
               artifactDigest := request.artifactDigest
               authorizationDecision := if allowed then .allow else .deny
               decisionEpochSeconds := state.nowEpochSeconds
               reasonCodes := reasons
               capabilityId := request.capability.map fun capability => capability.id
               idempotencyKey := request.idempotencyKey } }

/-! ## What an allowed request meets -/

/-- What is checked of a request to an endpoint whatever its authorization mode. -/
structure Admitted (endpoint : PaasEndpoint) : Prop where
  named : requestedEndpoint intent request = some endpoint
  identified : hasText request.requestId = true ∧ hasText request.actor.id = true ∧
    hasText request.actor.tenantId = true ∧ hasText request.tenantId = true
  version : request.apiVersion = paasAuthorizationRequestApiVersion
  exact : boundedResource request.resource = true
  clock : isInteger state.nowEpochSeconds = true ∧ 0 ≤ state.nowEpochSeconds
  declared : request.operation ∈ endpoint.operations
  authenticated : authenticationSatisfies endpoint.authentication request.actor = true
  target : request.executionTarget ≠ .host ∧ request.executionTarget = endpoint.executionTarget
  tenant : ∃ tenant ∈ intent.tenants, tenant.tenantId = request.tenantId
  actorTenant : request.actor.tenantId = request.tenantId
  keyed : (request.mutating && intent.accessControl.idempotencyKeys) = true →
    ∃ key, request.idempotencyKey = some key ∧ hasText key = true
  revision : request.operation ∈ sourceRevisionOperations →
    isSourceRevision (request.sourceRevision.getD "") = true
  artifact : request.operation ∈ artifactDigestOperations →
    validDigest (some (request.artifactDigest.getD "")) = true

/-- A capability that may stand for the request: verified, of a trusted issuer, not redeemed,
in its validity window, and bound to actor, tenant, audience, operation and resource. -/
structure Trustworthy (capability : PaasCapability) : Prop where
  verified : capability.cryptographicallyVerified = true
  issuer : capability.issuer ∈ intent.accessControl.trustedCapabilityIssuers
  unredeemed : capability.id ∉ state.redeemedCapabilityIds
  started : capability.issuedAtEpochSeconds ≤ capability.notBeforeEpochSeconds ∧
    capability.notBeforeEpochSeconds ≤ state.nowEpochSeconds
  unexpired : state.nowEpochSeconds < capability.expiresAtEpochSeconds
  subject : capability.subject = request.actor.id
  tenant : capability.tenantId = request.tenantId
  audience : capability.audience = request.endpointId
  operation : request.operation ∈ capability.operations
  resource : request.resource ∈ capability.resources

variable {intent request state}

theorem evaluateCapability_nil {reasons : List PaasAuthorizationReasonCode}
    (h : evaluateCapability intent request state reasons = []) :
    reasons = [] ∧ ∃ capability, request.capability = some capability ∧
      Trustworthy intent request state capability := by
  unfold evaluateCapability at h
  cases hc : request.capability with
  | none => simp [hc] at h
  | some capability =>
    simp only [hc, denyWhen_eq_nil, Bool.not_eq_false', bne_eq_false_iff_eq, Bool.or_eq_false_iff,
      decide_eq_false_iff_not, not_lt, not_le, List.contains_iff_mem, and_assoc] at h
    obtain ⟨h0, -, -, -, -, -, -, -, hverified, hissuer, hsubject, htenant, haudience, hoperation, hresource,
      -, -, -, -, -, hissued, -, hstarted, hunexpired, -, hunredeemed, -⟩ := h
    have hnot : capability.id ∉ state.redeemedCapabilityIds := by
      rw [← List.contains_iff_mem, hunredeemed]
      exact Bool.false_ne_true
    exact ⟨h0, capability, rfl, hverified, hissuer, hnot, ⟨hissued, hstarted⟩, hunexpired, hsubject,
      htenant, haudience, hoperation, hresource⟩

theorem evaluateEndpoint_eq_nil {endpoint : PaasEndpoint} {reasons : List PaasAuthorizationReasonCode} :
    evaluateEndpoint request (some endpoint) reasons = [] ↔
      reasons = [] ∧ request.operation ∈ endpoint.operations ∧
        authenticationSatisfies endpoint.authentication request.actor = true ∧
        request.executionTarget ≠ .host ∧ request.executionTarget = endpoint.executionTarget := by
  simp only [evaluateEndpoint, denyWhen_eq_nil, Bool.not_eq_false', bne_eq_false_iff_eq, beq_eq_false_iff_ne,
    List.contains_iff_mem, and_assoc]

/-- The mode adds no reason to others, or those others are there already. -/
theorem evaluateMode_eq_nil {endpoint : PaasEndpoint} {reasons : List PaasAuthorizationReasonCode} :
    evaluateMode intent request state endpoint reasons = [] ↔
      reasons = [] ∧ evaluateMode intent request state endpoint [] = [] := by
  unfold evaluateMode
  cases endpoint.authorization with
  | none => simp
  | rbac => simp
  | capability =>
    unfold evaluateCapability
    cases request.capability <;> simp [and_assoc]

theorem idempotencyKey_ok : request.idempotencyKey.any hasText = true ↔
    ∃ key, request.idempotencyKey = some key ∧ hasText key = true := by
  cases request.idempotencyKey <;> simp

/-- **There is no reason against a request exactly when its endpoint admits it and the mode of the
endpoint adds none.** -/
theorem denials_eq_nil : denials intent request state = [] ↔
    ∃ endpoint, Admitted intent request state endpoint ∧
      evaluateMode intent request state endpoint [] = [] := by
  unfold denials
  cases hn : requestedEndpoint intent request with
  | none =>
    have hnone : ¬ ∃ endpoint, Admitted intent request state endpoint ∧
        evaluateMode intent request state endpoint [] = [] := by
      rintro ⟨endpoint, h, -⟩
      simpa [hn] using h.named
    simp [evaluateEndpoint, hnone]
  | some endpoint =>
    simp only []
    rw [evaluateMode_eq_nil]
    simp only [denyWhen_eq_nil, evaluateEndpoint_eq_nil, Option.any_some, Bool.or_eq_false_iff,
      Bool.not_eq_false', bne_eq_false_iff_eq, decide_eq_false_iff_not, not_lt, true_and, and_assoc,
      Bool.and_eq_false_imp, List.contains_iff_mem, List.any_eq_true, beq_iff_eq, idempotencyKey_ok]
    constructor
    · rintro ⟨h1, h2, h3, h4, h5, h6, h7, h8, h9, h10, h11, h12, h13, h14, -, h16, h17, h18, hmode⟩
      exact ⟨endpoint, ⟨hn, ⟨h1, h3, h4, h5⟩, h2, h6, ⟨h7, h8⟩, h9, h10, ⟨h11, h12⟩, h13, h14, h16, h17, h18⟩,
        hmode⟩
    · rintro ⟨endpoint', h, hmode⟩
      obtain rfl : endpoint = endpoint' := Option.some.inj (hn.symm.trans h.named)
      have hbound : endpoint.tenantBindingRequired = true → (request.tenantId == "") = false := fun _ => by
        refine beq_eq_false_iff_ne.2 fun he => ?_
        have := h.identified.2.2.2
        rw [he] at this
        exact absurd this (by decide)
      exact ⟨h.identified.1, h.version, h.identified.2.1, h.identified.2.2.1, h.identified.2.2.2, h.exact,
        h.clock.1, h.clock.2, h.declared, h.authenticated, h.target.1, h.target.2, h.tenant, h.actorTenant,
        hbound, h.keyed, h.revision, h.artifact, hmode⟩

/-- **A request is allowed exactly when its endpoint admits it and the endpoint's mode agrees.** -/
theorem allowed_iff : (authorizePaasRequest intent request state).allowed = true ↔
    ∃ endpoint, Admitted intent request state endpoint ∧
      evaluateMode intent request state endpoint [] = [] := by
  rw [← denials_eq_nil]
  exact List.isEmpty_iff

/-! ## The capability to redeem -/

theorem redeemed_iff {id : String} :
    (authorizePaasRequest intent request state).capabilityToRedeem = some id ↔
      (authorizePaasRequest intent request state).allowed = true ∧
        ∃ capability, request.capability = some capability ∧ capability.oneUse = true ∧ capability.id = id := by
  have heq : (authorizePaasRequest intent request state).capabilityToRedeem =
      if (authorizePaasRequest intent request state).allowed &&
          request.capability.any fun capability => capability.oneUse then
        request.capability.map fun capability => capability.id
      else none := rfl
  rw [heq]
  cases request.capability with
  | none => simp
  | some capability => simp [and_assoc]

/-- **No capability burning.** What a decision gives out to be redeemed comes from an allowed
request and names a trustworthy capability, exactly when no request that an RBAC endpoint admits
under a grant carries a one-use capability that is not trustworthy: the RBAC mode does not look
at the capability of the request. -/
theorem redemption_trusted_iff (intent : PaasSecurityIntent) (request : PaasAuthorizationRequest)
    (state : PaasAuthorizationState) :
    (∀ id, (authorizePaasRequest intent request state).capabilityToRedeem = some id →
      (authorizePaasRequest intent request state).allowed = true ∧
        ∃ capability, request.capability = some capability ∧ capability.id = id ∧
          Trustworthy intent request state capability) ↔
    ∀ endpoint capability, Admitted intent request state endpoint → endpoint.authorization = .rbac →
      hasRbacGrant request state = true → request.capability = some capability →
      capability.oneUse = true → Trustworthy intent request state capability := by
  constructor
  · intro h endpoint capability hadmitted hmode hgrant hcapability honeUse
    have hallowed : (authorizePaasRequest intent request state).allowed = true :=
      allowed_iff.2 ⟨endpoint, hadmitted, by simp [evaluateMode, hmode, hgrant]⟩
    obtain ⟨-, other, hother, -, htrusted⟩ :=
      h capability.id (redeemed_iff.2 ⟨hallowed, capability, hcapability, honeUse, rfl⟩)
    obtain rfl : capability = other := Option.some.inj (hcapability.symm.trans hother)
    exact htrusted
  · intro h id hredeemed
    obtain ⟨hallowed, capability, hcapability, honeUse, rfl⟩ := redeemed_iff.1 hredeemed
    refine ⟨hallowed, capability, hcapability, rfl, ?_⟩
    obtain ⟨endpoint, hadmitted, hmode⟩ := allowed_iff.1 hallowed
    unfold evaluateMode at hmode
    cases ha : endpoint.authorization with
    | none => simp [ha] at hmode
    | rbac =>
      have hgrant : hasRbacGrant request state = true := by simpa [ha] using hmode
      exact h endpoint capability hadmitted ha hgrant hcapability honeUse
    | capability =>
      -- the capability mode checks every part of the binding itself
      rw [ha] at hmode
      obtain ⟨-, checked, hchecked, htrusted⟩ := evaluateCapability_nil hmode
      obtain rfl : capability = checked := Option.some.inj (hcapability.symm.trans hchecked)
      exact htrusted

/-! ## An RBAC endpoint -/

/-- The reference intent with an RBAC endpoint for readers. -/
def rbacIntent : PaasSecurityIntent :=
  let intent := createSecurePaasSecurityIntent ["acme", "globex"]
  { intent with
    endpoints := intent.endpoints ++
      [⟨"codefly-state-api", .privateNetwork, .oidc, .rbac, true, false, .controlPlane, [.readState]⟩] }

example : evaluatePaasSecurityIntent rbacIntent = [] := by decide +kernel

/-- A capability for another tenant's deployment, as anyone can write it down. -/
def writtenCapability : PaasCapability where
  id := "globex-deploy-7"
  issuer := "codefly-control-plane"
  subject := "globex-deployer"
  tenantId := "globex"
  audience := "codefly-api"
  operations := [.deploy]
  resources := ["service/shop"]
  issuedAtEpochSeconds := 1800000000
  notBeforeEpochSeconds := 1800000000
  expiresAtEpochSeconds := 1800000300
  cryptographicallyVerified := false
  oneUse := true

/-- A reader's request that RBAC grants. -/
def stateRead (capability : Option PaasCapability) : PaasAuthorizationRequest where
  apiVersion := paasAuthorizationRequestApiVersion
  requestId := "request-1"
  endpointId := "codefly-state-api"
  actor := ⟨"alice", "acme", [.oidc]⟩
  tenantId := "acme"
  operation := .readState
  resource := "service/web"
  executionTarget := .controlPlane
  idempotencyKey := none
  sourceRevision := none
  artifactDigest := none
  capability := capability

def readerGranted : PaasAuthorizationState where
  nowEpochSeconds := 1800000100
  redeemedCapabilityIds := []
  rbacGrants := [⟨"acme-readers", "alice", "acme", "codefly-state-api", [.readState], ["service/web"], none⟩]

/-- The reader's request is allowed and has the other tenant's capability redeemed. -/
theorem rbac_burns_capability : ¬ ∀ (intent : PaasSecurityIntent) (request : PaasAuthorizationRequest)
    (state : PaasAuthorizationState) (id : String),
    (authorizePaasRequest intent request state).capabilityToRedeem = some id →
      (authorizePaasRequest intent request state).allowed = true ∧
        ∃ capability, request.capability = some capability ∧ capability.id = id ∧
          Trustworthy intent request state capability := by
  intro h
  have hredeemed : (authorizePaasRequest rbacIntent (stateRead (some writtenCapability))
      readerGranted).capabilityToRedeem = some "globex-deploy-7" := by decide +kernel
  obtain ⟨-, capability, hcapability, -, htrusted⟩ := h _ _ _ _ hredeemed
  obtain rfl : writtenCapability = capability := Option.some.inj hcapability
  exact Bool.false_ne_true htrusted.verified

end SecureSaas.Intent
