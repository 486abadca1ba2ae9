import SecureSaas.Broker.Claim

/-!
# Parsers of the resource broker

The parsers rebuild a value from untrusted input, field by field. On a typed value they
return that value or throw; `parseClaimState_toValue` and its relatives say exactly when,
in terms of a well-formedness predicate for each type.
-/

namespace SecureSaas.Broker

open Js

/-! ## The parsers -/

def parseResourceClaimRequest (value : Value) : Except String ResourceClaimRequest := do
  let input ← exactObject value "claim" ["apiVersion", "kind", "claimId", "tenantId", "generation",
    "resourceKind", "resourceApiVersion", "desiredStateDigest", "desiredStateRef",
    "requiredProviderCapabilities", "lifecycle"]
  let lifecycle ← exactObject (Value.get input "lifecycle") "claim.lifecycle" ["deletionProtection",
    "destructionApprovalRequired", "finalizationEvidenceRequired", "maxReconcileAttempts"]
  let apiVersion' ← literal (Value.get input "apiVersion") "claim.apiVersion" resourceClaimApiVersion
  let kind ← literal (Value.get input "kind") "claim.kind" "ResourceClaim"
  let claimId ← identifier (Value.get input "claimId") "claim.claimId"
  let tenantId ← identifier (Value.get input "tenantId") "claim.tenantId"
  let generation ← positiveInteger (Value.get input "generation") "claim.generation"
  let resourceKind' ← resourceKind (Value.get input "resourceKind") "claim.resourceKind"
  let resourceApiVersion ← apiVersion (Value.get input "resourceApiVersion") "claim.resourceApiVersion"
  let desiredStateDigest ← digest (Value.get input "desiredStateDigest") "claim.desiredStateDigest"
  let desiredStateRef ← reference (Value.get input "desiredStateRef") "claim.desiredStateRef" ["broker"]
  let requiredProviderCapabilities ← uniqueIdentifiers
    (Value.get input "requiredProviderCapabilities") "claim.requiredProviderCapabilities"
  let deletionProtection ← trueLiteral (Value.get lifecycle "deletionProtection")
    "claim.lifecycle.deletionProtection"
  let destructionApprovalRequired ← trueLiteral (Value.get lifecycle "destructionApprovalRequired")
    "claim.lifecycle.destructionApprovalRequired"
  let finalizationEvidenceRequired ← trueLiteral (Value.get lifecycle "finalizationEvidenceRequired")
    "claim.lifecycle.finalizationEvidenceRequired"
  let maxReconcileAttempts ← boundedInteger (Value.get lifecycle "maxReconcileAttempts")
    "claim.lifecycle.maxReconcileAttempts" 1 10
  throwUnless (!requiredProviderCapabilities.isEmpty) "claim.requiredProviderCapabilities cannot be empty."
  pure { apiVersion := apiVersion', kind, claimId, tenantId, generation, resourceKind := resourceKind',
         resourceApiVersion, desiredStateDigest, desiredStateRef, requiredProviderCapabilities,
         lifecycle := { deletionProtection, destructionApprovalRequired,
                        finalizationEvidenceRequired, maxReconcileAttempts } }

/-- `typeof value === "string" && /…/.test(value)`. -/
def Scalar.hasCredentials : Scalar → Bool
  | .string s => hasUrlCredentials s
  | _ => false

/-- The check of an output's value, once its name is accepted. -/
def validateOutputValue (name : String) (output : ResourceBrokerOutput) : Except String Unit :=
  match output.kind, output.value with
  | .reference, .string s =>
    (reference (.string s) ("output." ++ name) ["broker", "provider", "identity", "evidence"]).map
      fun _ => ()
  | .reference, _ => .error ("Resource provider reference '" ++ name ++ "' must be a string.")
  | .value, value => do
    let _ ← scalar value.toValue ("output." ++ name)
    throwUnless (!value.hasCredentials) ("Resource provider value '" ++ name ++ "' contains credentials.")

/-- The loop of `validateOutputs`, with the names seen so far. -/
def validateOutputsFrom (names : List String) : List ResourceBrokerOutput → Except String Unit
  | [] => .ok ()
  | output :: rest => do
    let name ← identifier (.string output.name) "output.name"
    throwUnless (!(["password", "secret", "token", "credential", "private-key"].contains name.toLower))
      ("Resource provider output '" ++ name ++ "' is forbidden.")
    throwUnless (!names.contains name) ("Resource provider output '" ++ name ++ "' is duplicated.")
    validateOutputValue name output
    validateOutputsFrom (names ++ [name]) rest

def validateOutputs (outputs : List ResourceBrokerOutput) : Except String Unit :=
  validateOutputsFrom [] outputs

def parseOutput (value : Value) (path : String) : Except String ResourceBrokerOutput := do
  let input ← exactObject value path ["name", "kind", "value"]
  let name ← identifier (Value.get input "name") (path ++ ".name")
  let kind ← enumValue OutputKind.text (Value.get input "kind") (path ++ ".kind") [.reference, .value]
  let value ← scalar (Value.get input "value") (path ++ ".value")
  validateOutputs [{ name, kind, value }]
  pure { name, kind, value }

/-- `Date.parse(a) <= Date.parse(b)`; false when one of them is `NaN`. -/
def timeLE : Option ℤ → Option ℤ → Bool
  | some a, some b => a ≤ b
  | _, _ => false

/-- `Date.parse(a) < Date.parse(b)`. -/
def timeLT : Option ℤ → Option ℤ → Bool
  | some a, some b => a < b
  | _, _ => false

def parseLease (value : Value) (path : String) : Except String ResourceProviderLease := do
  let input ← exactObject value path ["providerId", "generation", "fenceToken", "attempt",
    "acquiredAt", "expiresAt"]
  let providerId ← identifier (Value.get input "providerId") (path ++ ".providerId")
  let generation ← positiveInteger (Value.get input "generation") (path ++ ".generation")
  let fenceToken ← digest (Value.get input "fenceToken") (path ++ ".fenceToken")
  let attempt ← positiveInteger (Value.get input "attempt") (path ++ ".attempt")
  let acquiredAt ← timestamp (Value.get input "acquiredAt") (path ++ ".acquiredAt")
  let expiresAt ← timestamp (Value.get input "expiresAt") (path ++ ".expiresAt")
  throwUnless (!timeLE (dateParse expiresAt) (dateParse acquiredAt)) (path ++ ".expiresAt must follow acquiredAt.")
  pure { providerId, generation, fenceToken, attempt, acquiredAt, expiresAt }

def parseFailure (value : Value) (path : String) : Except String ResourceClaimFailure := do
  let input ← exactObject value path ["code", "message", "retryable", "attempt", "occurredAt"]
  let code ← reasonCode (Value.get input "code") (path ++ ".code")
  let message ← safeMessage (Value.get input "message") (path ++ ".message")
  let retryable ← boolean (Value.get input "retryable") (path ++ ".retryable")
  let attempt ← positiveInteger (Value.get input "attempt") (path ++ ".attempt")
  let occurredAt ← timestamp (Value.get input "occurredAt") (path ++ ".occurredAt")
  pure { code, message, retryable, attempt, occurredAt }

def parseDrift (value : Value) (path : String) : Except String ResourceClaimDrift := do
  let input ← exactObject value path ["observedStateDigest", "detectedAt"]
  let observedStateDigest ← digest (Value.get input "observedStateDigest") (path ++ ".observedStateDigest")
  let detectedAt ← timestamp (Value.get input "detectedAt") (path ++ ".detectedAt")
  pure { observedStateDigest, detectedAt }

def parseDeletion (value : Value) (path : String) : Except String ResourceClaimDeletion := do
  let input ← exactObject value path ["requestedAt", "requestedBy", "approvalEvidenceRef",
    "finalizationEvidenceRef"]
  let requestedAt ← timestamp (Value.get input "requestedAt") (path ++ ".requestedAt")
  let requestedBy ← identifier (Value.get input "requestedBy") (path ++ ".requestedBy")
  let approvalEvidenceRef ← reference (Value.get input "approvalEvidenceRef")
    (path ++ ".approvalEvidenceRef") ["evidence"]
  let finalizationEvidenceRef ← reference (Value.get input "finalizationEvidenceRef")
    (path ++ ".finalizationEvidenceRef") ["evidence", "snapshot"]
  pure { requestedAt, requestedBy, approvalEvidenceRef, finalizationEvidenceRef }

/-- `value === undefined ? undefined : parser(value, path)`. -/
def ifPresent {α : Type} (value : Value) (path : String) (parser : Value → String → Except String α) :
    Except String (Option α) :=
  match value with
  | .undefined => .ok none
  | v => (parser v path).map some

def parseCancellation (value : Value) (path : String) : Except String ResourceClaimCancellation := do
  let input ← exactObject value path ["requestedAt", "requestedBy", "cleanupEvidenceRef"]
  let requestedAt ← timestamp (Value.get input "requestedAt") (path ++ ".requestedAt")
  let requestedBy ← identifier (Value.get input "requestedBy") (path ++ ".requestedBy")
  let cleanupEvidenceRef ← ifPresent (Value.get input "cleanupEvidenceRef") (path ++ ".cleanupEvidenceRef")
    fun v p => reference v p ["evidence"]
  pure { requestedAt, requestedBy, cleanupEvidenceRef }

def claimRequestView (input : List (String × Value)) : Value :=
  .object (["apiVersion", "kind", "claimId", "tenantId", "generation", "resourceKind",
    "resourceApiVersion", "desiredStateDigest", "desiredStateRef", "requiredProviderCapabilities",
    "lifecycle"].map fun key => (key, Value.get input key))

def parseClaimState (value : Value) (path : String) : Except String ResourceClaimState := do
  let input ← exactObject value path ["apiVersion", "kind", "claimId", "tenantId", "generation",
    "resourceKind", "resourceApiVersion", "desiredStateDigest", "desiredStateRef",
    "requiredProviderCapabilities", "lifecycle", "phase", "observedGeneration", "providerResourceRef",
    "outputs", "lease", "failure", "drift", "deletion", "cancellation"]
  let claim ← parseResourceClaimRequest (claimRequestView input)
  let phase ← enumValue ResourceClaimPhase.text (Value.get input "phase") (path ++ ".phase")
    ResourceClaimPhase.all
  let observedGeneration ← nonNegativeInteger (Value.get input "observedGeneration")
    (path ++ ".observedGeneration")
  let providerResourceRef ← ifPresent (Value.get input "providerResourceRef")
    (path ++ ".providerResourceRef") fun v p => reference v p ["provider"]
  let outputs ← array (Value.get input "outputs") (path ++ ".outputs") parseOutput
  let lease ← ifPresent (Value.get input "lease") (path ++ ".lease") parseLease
  let failure ← ifPresent (Value.get input "failure") (path ++ ".failure") parseFailure
  let drift ← ifPresent (Value.get input "drift") (path ++ ".drift") parseDrift
  let deletion ← ifPresent (Value.get input "deletion") (path ++ ".deletion") parseDeletion
  let cancellation ← ifPresent (Value.get input "cancellation") (path ++ ".cancellation") parseCancellation
  pure { toResourceClaimRequest := claim, phase, observedGeneration, providerResourceRef, outputs,
         lease, failure, drift, deletion, cancellation }

def parseIdempotencyRecord (value : Value) (path : String) :
    Except String ResourceBrokerIdempotencyRecord := do
  let input ← exactObject value path ["tenantId", "operation", "claimId", "key", "payloadDigest",
    "capabilityId", "committedRevision"]
  let tenantId ← identifier (Value.get input "tenantId") (path ++ ".tenantId")
  let operation ← enumValue BrokerMutationOperation.text (Value.get input "operation")
    (path ++ ".operation") [.apply, .cancel, .delete]
  let claimId ← identifier (Value.get input "claimId") (path ++ ".claimId")
  let key ← identifier (Value.get input "key") (path ++ ".key")
  let payloadDigest ← digest (Value.get input "payloadDigest") (path ++ ".payloadDigest")
  let capabilityId ← identifier (Value.get input "capabilityId") (path ++ ".capabilityId")
  let committedRevision ← positiveInteger (Value.get input "committedRevision") (path ++ ".committedRevision")
  pure { tenantId, operation, claimId, key, payloadDigest, capabilityId, committedRevision }

/-! ## Field checks on typed values -/

@[simp] theorem matching_string {test : String → Bool} {message s s' path : String} :
    matching test message (.string s) path = .ok s' ↔ s' = s ∧ test s = true := by
  unfold matching
  by_cases h : test s = true
  · simp [h, eq_comm]
  · simp [h]

@[simp] theorem integerMatching_int {test : ℤ → Bool} {message path : String} {n n' : ℤ} :
    integerMatching test message (int n) path = .ok n' ↔ n' = n ∧ test n = true := by
  unfold integerMatching int
  by_cases h : test n = true
  · simp [h, eq_comm]
  · simp [h]

/-- What `reference` accepts. -/
def isReference (schemes : List String) (s : String) : Bool :=
  stringLength s ≤ 512 && hasScheme schemes s && !includes s "@"

@[simp] theorem reference_string {s s' path : String} {schemes : List String} :
    reference (.string s) path schemes = .ok s' ↔ s' = s ∧ isReference schemes s = true := by
  unfold reference isReference
  by_cases hl : 512 < stringLength s
  · simp [hl]
  · cases hs : hasScheme schemes s <;> cases ha : includes s "@" <;>
      simp [hl, hs, ha, Nat.not_lt.1 hl, @eq_comm _ s s']

/-- What `safeMessage` accepts. -/
def isSafeMessage (s : String) : Bool :=
  1 ≤ stringLength s && stringLength s ≤ 512 && !hasSecretMaterial s

@[simp] theorem safeMessage_string {s s' path : String} :
    safeMessage (.string s) path = .ok s' ↔ s' = s ∧ isSafeMessage s = true := by
  unfold safeMessage isSafeMessage
  by_cases hl : stringLength s < 1 ∨ stringLength s > 512
  · simp only [hl, if_true]
    simp
    omega
  · obtain ⟨h1, h2⟩ := not_or.1 hl
    have hlen : 1 ≤ stringLength s ∧ stringLength s ≤ 512 := by omega
    simp only [if_neg hl]
    cases hm : hasSecretMaterial s <;> simp [hlen, @eq_comm _ s s']

@[simp] theorem boolean_bool {b b' : Bool} {path : String} : boolean (.bool b) path = .ok b' ↔ b' = b := by
  simp [boolean, eq_comm]

@[simp] theorem trueLiteral_bool {b b' : Bool} {path : String} :
    trueLiteral (.bool b) path = .ok b' ↔ b' = b ∧ b = true := by
  cases b <;> simp [trueLiteral, eq_comm]

/-- An enumeration lists every member once, under different texts. -/
theorem enumValue_text {α : Type} {text : α → String} {a a' : α} {path : String} {values : List α}
    (hinj : ∀ b ∈ values, text b = text a → b = a) (ha : a ∈ values) :
    enumValue text (.string (text a)) path values = .ok a' ↔ a' = a := by
  unfold enumValue
  cases hf : values.find? (fun b => text b == text a) with
  | none => exact absurd (List.find?_eq_none.1 hf a ha) (by simp)
  | some b =>
    have hb : b = a := hinj b (List.mem_of_find?_eq_some hf) (by simpa using List.find?_some hf)
    simp only [hf, hb, Except.ok.injEq, @eq_comm _ a a']

@[simp] theorem enumValue_outputKind {k k' : OutputKind} {path : String} :
    enumValue OutputKind.text (.string k.text) path [.reference, .value] = .ok k' ↔ k' = k :=
  enumValue_text (by cases k <;> decide) (by cases k <;> decide)

@[simp] theorem enumValue_phase {k k' : ResourceClaimPhase} {path : String} :
    enumValue ResourceClaimPhase.text (.string k.text) path ResourceClaimPhase.all = .ok k' ↔ k' = k :=
  enumValue_text (by cases k <;> decide) (by cases k <;> decide)

@[simp] theorem enumValue_operation {k k' : BrokerMutationOperation} {path : String} :
    enumValue BrokerMutationOperation.text (.string k.text) path [.apply, .cancel, .delete] = .ok k' ↔
      k' = k :=
  enumValue_text (by cases k <;> decide) (by cases k <;> decide)

/-- Parsing the values of a list: each item must be accepted. -/
theorem parseItems_map {α : Type} {f : Value → String → Except String α} {g : α → Value} {P : α → Prop}
    (hf : ∀ a a' p, f (g a) p = .ok a' ↔ a' = a ∧ P a) {path : String} {l l' : List α} {index : ℕ} :
    parseItems f path index (l.map g) = .ok l' ↔ l' = l ∧ ∀ a ∈ l, P a := by
  induction l generalizing index l' with
  | nil => simp [parseItems, eq_comm]
  | cons a rest ih =>
    simp only [List.map_cons, parseItems, bind_ok, pure_ok, hf, ih, List.forall_mem_cons]
    constructor
    · rintro ⟨_, ⟨rfl, ha⟩, _, ⟨rfl, hr⟩, rfl⟩
      exact ⟨rfl, ha, hr⟩
    · rintro ⟨rfl, ha, hr⟩
      exact ⟨a, ⟨rfl, ha⟩, rest, ⟨rfl, hr⟩, rfl⟩

theorem array_map {α : Type} {f : Value → String → Except String α} {g : α → Value} {P : α → Prop}
    (hf : ∀ a a' p, f (g a) p = .ok a' ↔ a' = a ∧ P a) {path : String} {l l' : List α} :
    array (.array (l.map g)) path f = .ok l' ↔ l' = l ∧ ∀ a ∈ l, P a :=
  parseItems_map hf

@[simp] theorem uniqueIdentifiers_strings {l l' : List String} {path : String} :
    uniqueIdentifiers (strings l) path = .ok l' ↔
      l' = l ∧ (∀ s ∈ l, isIdentifier s = true) ∧ l.Nodup := by
  have hitem : ∀ (s s' p : String), identifier (.string s) p = .ok s' ↔ s' = s ∧ isIdentifier s = true :=
    fun s s' p => matching_string
  simp only [uniqueIdentifiers, strings, bind_ok, pure_ok, array_map hitem, throwUnless_ok,
    decide_eq_true_eq]
  constructor
  · rintro ⟨_, ⟨rfl, hi⟩, _, hn, rfl⟩
    exact ⟨rfl, hi, hn⟩
  · rintro ⟨rfl, hi, hn⟩
    exact ⟨l', ⟨rfl, hi⟩, (), hn, rfl⟩

/-- An object with exactly the allowed fields passes. -/
theorem exactObject_keys {properties : List (String × Value)} {path : String} {allowed : List String}
    (h : properties.map Prod.fst = allowed) : exactObject (.object properties) path allowed = .ok properties := by
  have hunknown : (ownOrder properties).find? (fun p => !allowed.contains p.1) = none := by
    refine List.find?_eq_none.2 fun p hp => ?_
    have hmem : p.1 ∈ allowed := h ▸ List.mem_map_of_mem (mem_ownOrder.1 hp)
    simpa using hmem
  have hmissing : allowed.find? (fun key => !Value.has properties key && !optionalStateField key) = none := by
    refine List.find?_eq_none.2 fun key hkey => ?_
    simp [Value.has, h, hkey]
  simp only [exactObject, hunknown, hmissing]

theorem ifPresent_optional {α : Type} {f : Value → String → Except String α} {g : α → Value} {P : α → Prop}
    (hg : ∀ a, g a ≠ .undefined) (hf : ∀ a a' p, f (g a) p = .ok a' ↔ a' = a ∧ P a)
    {path : String} {o o' : Option α} :
    ifPresent (optional g o) path f = .ok o' ↔ o' = o ∧ ∀ a, o = some a → P a := by
  cases o with
  | none => simp [ifPresent, optional, eq_comm]
  | some a =>
    have hif : ifPresent (g a) path f = (f (g a) path).map some := by
      have := hg a
      cases hv : g a <;> simp_all [ifPresent]
    simp only [optional, hif, Option.some.injEq, forall_eq']
    constructor
    · intro h
      cases hfa : f (g a) path with
      | error e => rw [hfa] at h; cases h
      | ok a' =>
        rw [hfa] at h
        obtain ⟨rfl, hP⟩ := (hf a a' path).1 hfa
        exact ⟨by cases h; rfl, hP⟩
    · rintro ⟨rfl, hP⟩
      rw [(hf a a path).2 ⟨rfl, hP⟩]
      rfl

/-! ## Well-formed values -/

structure ResourceClaimRequest.WellFormed (c : ResourceClaimRequest) : Prop where
  apiVersion : c.apiVersion = resourceClaimApiVersion
  kind : c.kind = "ResourceClaim"
  claimId : isIdentifier c.claimId = true
  tenantId : isIdentifier c.tenantId = true
  generation : 1 ≤ c.generation
  resourceKind : isResourceKind c.resourceKind = true
  resourceApiVersion : isApiVersion c.resourceApiVersion = true
  desiredStateDigest : isHexDigest c.desiredStateDigest = true
  desiredStateRef : isReference ["broker"] c.desiredStateRef = true
  capabilities : ∀ s ∈ c.requiredProviderCapabilities, isIdentifier s = true
  capabilities_nodup : c.requiredProviderCapabilities.Nodup
  capabilities_ne : c.requiredProviderCapabilities ≠ []
  deletionProtection : c.lifecycle.deletionProtection = true
  destructionApproval : c.lifecycle.destructionApprovalRequired = true
  finalizationEvidence : c.lifecycle.finalizationEvidenceRequired = true
  attempts_pos : 1 ≤ c.lifecycle.maxReconcileAttempts
  attempts_le : c.lifecycle.maxReconcileAttempts ≤ 10

/-- What `scalar` accepts. -/
def Scalar.isBounded : Scalar → Bool
  | .string s => stringLength s ≤ 512
  | .number n => n.isFinite
  | .bool _ => true

structure ResourceBrokerOutput.WellFormed (o : ResourceBrokerOutput) : Prop where
  name : isIdentifier o.name = true
  bounded : o.value.isBounded = true
  valid : validateOutputs [o] = .ok ()

structure ResourceProviderLease.WellFormed (l : ResourceProviderLease) : Prop where
  providerId : isIdentifier l.providerId = true
  generation : 1 ≤ l.generation
  fenceToken : isHexDigest l.fenceToken = true
  attempt : 1 ≤ l.attempt
  acquiredAt : isTimestamp l.acquiredAt = true
  expiresAt : isTimestamp l.expiresAt = true
  ordered : timeLE (dateParse l.expiresAt) (dateParse l.acquiredAt) = false

structure ResourceClaimFailure.WellFormed (f : ResourceClaimFailure) : Prop where
  code : isReasonCode f.code = true
  message : isSafeMessage f.message = true
  attempt : 1 ≤ f.attempt
  occurredAt : isTimestamp f.occurredAt = true

structure ResourceClaimDrift.WellFormed (d : ResourceClaimDrift) : Prop where
  observedStateDigest : isHexDigest d.observedStateDigest = true
  detectedAt : isTimestamp d.detectedAt = true

structure ResourceClaimDeletion.WellFormed (d : ResourceClaimDeletion) : Prop where
  requestedAt : isTimestamp d.requestedAt = true
  requestedBy : isIdentifier d.requestedBy = true
  approvalEvidenceRef : isReference ["evidence"] d.approvalEvidenceRef = true
  finalizationEvidenceRef : isReference ["evidence", "snapshot"] d.finalizationEvidenceRef = true

structure ResourceClaimCancellation.WellFormed (c : ResourceClaimCancellation) : Prop where
  requestedAt : isTimestamp c.requestedAt = true
  requestedBy : isIdentifier c.requestedBy = true
  cleanupEvidenceRef : ∀ r, c.cleanupEvidenceRef = some r → isReference ["evidence"] r = true

structure ResourceClaimState.WellFormed (c : ResourceClaimState) : Prop where
  request : c.toResourceClaimRequest.WellFormed
  observedGeneration : 0 ≤ c.observedGeneration
  providerResourceRef : ∀ r, c.providerResourceRef = some r → isReference ["provider"] r = true
  outputs : ∀ o ∈ c.outputs, o.WellFormed
  lease : ∀ l, c.lease = some l → l.WellFormed
  failure : ∀ f, c.failure = some f → f.WellFormed
  drift : ∀ d, c.drift = some d → d.WellFormed
  deletion : ∀ d, c.deletion = some d → d.WellFormed
  cancellation : ∀ k, c.cancellation = some k → k.WellFormed

structure ResourceBrokerIdempotencyRecord.WellFormed (r : ResourceBrokerIdempotencyRecord) : Prop where
  tenantId : isIdentifier r.tenantId = true
  claimId : isIdentifier r.claimId = true
  key : isIdentifier r.key = true
  payloadDigest : isHexDigest r.payloadDigest = true
  capabilityId : isIdentifier r.capabilityId = true
  committedRevision : 1 ≤ r.committedRevision

/-! ## The parsers on typed values -/

theorem parseResourceClaimRequest_toValue {c c' : ResourceClaimRequest} :
    parseResourceClaimRequest c.toValue = .ok c' ↔ c' = c ∧ c.WellFormed := by
  have hkeys : exactObject c.toValue "claim" ["apiVersion", "kind", "claimId", "tenantId", "generation",
      "resourceKind", "resourceApiVersion", "desiredStateDigest", "desiredStateRef",
      "requiredProviderCapabilities", "lifecycle"] = .ok c.members := exactObject_keys rfl
  have hlife : exactObject c.lifecycle.toValue "claim.lifecycle" ["deletionProtection",
      "destructionApprovalRequired", "finalizationEvidenceRequired", "maxReconcileAttempts"] =
      .ok [("deletionProtection", .bool c.lifecycle.deletionProtection),
        ("destructionApprovalRequired", .bool c.lifecycle.destructionApprovalRequired),
        ("finalizationEvidenceRequired", .bool c.lifecycle.finalizationEvidenceRequired),
        ("maxReconcileAttempts", int c.lifecycle.maxReconcileAttempts)] := exactObject_keys rfl
  unfold parseResourceClaimRequest
  simp only [hkeys, hlife, bind_ok, pure_ok, Except.ok.injEq, exists_eq_left', ResourceClaimRequest.members,
    Value.get_cons, String.reduceEq, if_true, if_false, literal, identifier, positiveInteger, resourceKind,
    apiVersion, digest, boundedInteger, matching_string, integerMatching_int, reference_string,
    uniqueIdentifiers_strings, trueLiteral_bool, throwUnless_ok, and_assoc, exists_eq_left,
    exists_and_left, exists_const, beq_iff_eq, decide_eq_true_eq, Bool.and_eq_true]
  constructor
  · rintro ⟨h1, h2, h3, h4, h5, h6, h7, h8, h9, h10, h11, h12, h13, h14, h15, h16, hne, rfl⟩
    exact ⟨rfl, h1, h2, h3, h4, h5, h6, h7, h8, h9, h10, h11, by simpa using hne, h12, h13, h14, h15, h16⟩
  · rintro ⟨rfl, hw⟩
    exact ⟨hw.apiVersion, hw.kind, hw.claimId, hw.tenantId, hw.generation, hw.resourceKind,
      hw.resourceApiVersion, hw.desiredStateDigest, hw.desiredStateRef, hw.capabilities,
      hw.capabilities_nodup, hw.deletionProtection, hw.destructionApproval, hw.finalizationEvidence,
      hw.attempts_pos, hw.attempts_le, by simpa using hw.capabilities_ne, rfl⟩

theorem scalar_toValue {x x' : Scalar} {path : String} :
    scalar x.toValue path = .ok x' ↔ x' = x ∧ x.isBounded = true := by
  cases x with
  | string s =>
    by_cases hl : 512 < stringLength s
    · simp [scalar, Scalar.toValue, Scalar.isBounded, hl]
    · simp [scalar, Scalar.toValue, Scalar.isBounded, hl, Nat.not_lt.1 hl, eq_comm]
  | number n =>
    cases hf : n.isFinite <;> simp [scalar, Scalar.toValue, Scalar.isBounded, hf, eq_comm]
  | bool b => simp [scalar, Scalar.toValue, Scalar.isBounded, eq_comm]

theorem parseOutput_toValue {o o' : ResourceBrokerOutput} {path : String} :
    parseOutput o.toValue path = .ok o' ↔ o' = o ∧ o.WellFormed := by
  have hkeys : exactObject o.toValue path ["name", "kind", "value"] =
      .ok [("name", .string o.name), ("kind", .string o.kind.text), ("value", o.value.toValue)] :=
    exactObject_keys rfl
  unfold parseOutput
  simp only [hkeys, bind_ok, pure_ok, Except.ok.injEq, exists_eq_left', Value.get_cons, String.reduceEq,
    if_true, if_false, identifier, matching_string, enumValue_outputKind, scalar_toValue, and_assoc,
    exists_eq_left]
  constructor
  · rintro ⟨h1, h2, _, h3, rfl⟩
    exact ⟨rfl, h1, h2, h3⟩
  · rintro ⟨rfl, hw⟩
    exact ⟨hw.name, hw.bounded, (), hw.valid, rfl⟩

theorem parseLease_toValue {l l' : ResourceProviderLease} {path : String} :
    parseLease l.toValue path = .ok l' ↔ l' = l ∧ l.WellFormed := by
  have hkeys : exactObject l.toValue path ["providerId", "generation", "fenceToken", "attempt",
      "acquiredAt", "expiresAt"] = .ok [("providerId", .string l.providerId),
        ("generation", int l.generation), ("fenceToken", .string l.fenceToken),
        ("attempt", int l.attempt), ("acquiredAt", .string l.acquiredAt),
        ("expiresAt", .string l.expiresAt)] := exactObject_keys rfl
  unfold parseLease
  simp only [hkeys, bind_ok, pure_ok, Except.ok.injEq, exists_eq_left', Value.get_cons, String.reduceEq,
    if_true, if_false, identifier, positiveInteger, digest, timestamp, matching_string,
    integerMatching_int, throwUnless_ok, and_assoc, exists_eq_left, exists_and_left, exists_const,
    decide_eq_true_eq, Bool.not_eq_true']
  constructor
  · rintro ⟨h1, h2, h3, h4, h5, h6, h7, rfl⟩
    exact ⟨rfl, h1, h2, h3, h4, h5, h6, h7⟩
  · rintro ⟨rfl, hw⟩
    exact ⟨hw.providerId, hw.generation, hw.fenceToken, hw.attempt, hw.acquiredAt, hw.expiresAt,
      hw.ordered, rfl⟩

theorem parseFailure_toValue {f f' : ResourceClaimFailure} {path : String} :
    parseFailure f.toValue path = .ok f' ↔ f' = f ∧ f.WellFormed := by
  have hkeys : exactObject f.toValue path ["code", "message", "retryable", "attempt", "occurredAt"] =
      .ok [("code", .string f.code), ("message", .string f.message), ("retryable", .bool f.retryable),
        ("attempt", int f.attempt), ("occurredAt", .string f.occurredAt)] := exactObject_keys rfl
  unfold parseFailure
  simp only [hkeys, bind_ok, pure_ok, Except.ok.injEq, exists_eq_left', Value.get_cons, String.reduceEq,
    if_true, if_false, reasonCode, positiveInteger, timestamp, matching_string, safeMessage_string,
    boolean_bool, integerMatching_int, and_assoc, exists_eq_left, decide_eq_true_eq]
  constructor
  · rintro ⟨h1, h2, h3, h4, rfl⟩
    exact ⟨rfl, h1, h2, h3, h4⟩
  · rintro ⟨rfl, hw⟩
    exact ⟨hw.code, hw.message, hw.attempt, hw.occurredAt, rfl⟩

theorem parseDrift_toValue {d d' : ResourceClaimDrift} {path : String} :
    parseDrift d.toValue path = .ok d' ↔ d' = d ∧ d.WellFormed := by
  have hkeys : exactObject d.toValue path ["observedStateDigest", "detectedAt"] =
      .ok [("observedStateDigest", .string d.observedStateDigest), ("detectedAt", .string d.detectedAt)] :=
    exactObject_keys rfl
  unfold parseDrift
  simp only [hkeys, bind_ok, pure_ok, Except.ok.injEq, exists_eq_left', Value.get_cons, String.reduceEq,
    if_true, if_false, digest, timestamp, matching_string, and_assoc, exists_eq_left]
  constructor
  · rintro ⟨h1, h2, rfl⟩
    exact ⟨rfl, h1, h2⟩
  · rintro ⟨rfl, hw⟩
    exact ⟨hw.observedStateDigest, hw.detectedAt, rfl⟩

theorem parseDeletion_toValue {d d' : ResourceClaimDeletion} {path : String} :
    parseDeletion d.toValue path = .ok d' ↔ d' = d ∧ d.WellFormed := by
  have hkeys : exactObject d.toValue path ["requestedAt", "requestedBy", "approvalEvidenceRef",
      "finalizationEvidenceRef"] = .ok [("requestedAt", .string d.requestedAt),
        ("requestedBy", .string d.requestedBy), ("approvalEvidenceRef", .string d.approvalEvidenceRef),
        ("finalizationEvidenceRef", .string d.finalizationEvidenceRef)] := exactObject_keys rfl
  unfold parseDeletion
  simp only [hkeys, bind_ok, pure_ok, Except.ok.injEq, exists_eq_left', Value.get_cons, String.reduceEq,
    if_true, if_false, identifier, timestamp, matching_string, reference_string, and_assoc,
    exists_eq_left]
  constructor
  · rintro ⟨h1, h2, h3, h4, rfl⟩
    exact ⟨rfl, h1, h2, h3, h4⟩
  · rintro ⟨rfl, hw⟩
    exact ⟨hw.requestedAt, hw.requestedBy, hw.approvalEvidenceRef, hw.finalizationEvidenceRef, rfl⟩

theorem ifPresent_reference {o o' : Option String} {path : String} {schemes : List String} :
    (ifPresent (optional .string o) path fun v p => reference v p schemes) = .ok o' ↔
      o' = o ∧ ∀ r, o = some r → isReference schemes r = true :=
  ifPresent_optional (by intro _ h; cases h) fun _ _ _ => reference_string

theorem parseCancellation_toValue {c c' : ResourceClaimCancellation} {path : String} :
    parseCancellation c.toValue path = .ok c' ↔ c' = c ∧ c.WellFormed := by
  have hkeys : exactObject c.toValue path ["requestedAt", "requestedBy", "cleanupEvidenceRef"] =
      .ok [("requestedAt", .string c.requestedAt), ("requestedBy", .string c.requestedBy),
        ("cleanupEvidenceRef", optional .string c.cleanupEvidenceRef)] := exactObject_keys rfl
  unfold parseCancellation
  simp only [hkeys, bind_ok, pure_ok, Except.ok.injEq, exists_eq_left', Value.get_cons, String.reduceEq,
    if_true, if_false, identifier, timestamp, matching_string, ifPresent_reference, and_assoc,
    exists_eq_left]
  constructor
  · rintro ⟨h1, h2, h3, rfl⟩
    exact ⟨rfl, h1, h2, h3⟩
  · rintro ⟨rfl, hw⟩
    exact ⟨hw.requestedAt, hw.requestedBy, hw.cleanupEvidenceRef, rfl⟩

theorem parseIdempotencyRecord_toValue {r r' : ResourceBrokerIdempotencyRecord} {path : String} :
    parseIdempotencyRecord r.toValue path = .ok r' ↔ r' = r ∧ r.WellFormed := by
  have hkeys : exactObject r.toValue path ["tenantId", "operation", "claimId", "key", "payloadDigest",
      "capabilityId", "committedRevision"] = .ok [("tenantId", .string r.tenantId),
        ("operation", .string r.operation.text), ("claimId", .string r.claimId), ("key", .string r.key),
        ("payloadDigest", .string r.payloadDigest), ("capabilityId", .string r.capabilityId),
        ("committedRevision", int r.committedRevision)] := exactObject_keys rfl
  unfold parseIdempotencyRecord
  simp only [hkeys, bind_ok, pure_ok, Except.ok.injEq, exists_eq_left', Value.get_cons, String.reduceEq,
    if_true, if_false, identifier, digest, positiveInteger, matching_string, integerMatching_int,
    enumValue_operation, and_assoc, exists_eq_left, decide_eq_true_eq]
  constructor
  · rintro ⟨h1, h2, h3, h4, h5, h6, rfl⟩
    exact ⟨rfl, h1, h2, h3, h4, h5, h6⟩
  · rintro ⟨rfl, hw⟩
    exact ⟨hw.tenantId, hw.claimId, hw.key, hw.payloadDigest, hw.capabilityId, hw.committedRevision, rfl⟩

/-- The view of a claim state's members is its request. -/
theorem claimRequestView_members (c : ResourceClaimRequest) (rest : List (String × Value)) :
    claimRequestView (c.members ++ rest) = c.toValue := rfl

theorem parseClaimState_toValue {c c' : ResourceClaimState} {path : String} :
    parseClaimState c.toValue path = .ok c' ↔ c' = c ∧ c.WellFormed := by
  have hkeys : exactObject c.toValue path ["apiVersion", "kind", "claimId", "tenantId", "generation",
      "resourceKind", "resourceApiVersion", "desiredStateDigest", "desiredStateRef",
      "requiredProviderCapabilities", "lifecycle", "phase", "observedGeneration", "providerResourceRef",
      "outputs", "lease", "failure", "drift", "deletion", "cancellation"] = .ok (c.members ++ [
        ("phase", .string c.phase.text),
        ("observedGeneration", int c.observedGeneration),
        ("providerResourceRef", optional .string c.providerResourceRef),
        ("outputs", .array (c.outputs.map ResourceBrokerOutput.toValue)),
        ("lease", optional ResourceProviderLease.toValue c.lease),
        ("failure", optional ResourceClaimFailure.toValue c.failure),
        ("drift", optional ResourceClaimDrift.toValue c.drift),
        ("deletion", optional ResourceClaimDeletion.toValue c.deletion),
        ("cancellation", optional ResourceClaimCancellation.toValue c.cancellation)]) :=
    exactObject_keys rfl
  have houtputs : ∀ {outputs path}, array (.array (c.outputs.map ResourceBrokerOutput.toValue)) path
      parseOutput = .ok outputs ↔ outputs = c.outputs ∧ ∀ o ∈ c.outputs, o.WellFormed :=
    array_map fun _ _ _ => parseOutput_toValue
  have hlease : ∀ {o path}, ifPresent (optional ResourceProviderLease.toValue c.lease) path parseLease =
      .ok o ↔ o = c.lease ∧ ∀ l, c.lease = some l → l.WellFormed :=
    ifPresent_optional (by intro _ h; cases h) fun _ _ _ => parseLease_toValue
  have hfailure : ∀ {o path}, ifPresent (optional ResourceClaimFailure.toValue c.failure) path parseFailure =
      .ok o ↔ o = c.failure ∧ ∀ f, c.failure = some f → f.WellFormed :=
    ifPresent_optional (by intro _ h; cases h) fun _ _ _ => parseFailure_toValue
  have hdrift : ∀ {o path}, ifPresent (optional ResourceClaimDrift.toValue c.drift) path parseDrift =
      .ok o ↔ o = c.drift ∧ ∀ d, c.drift = some d → d.WellFormed :=
    ifPresent_optional (by intro _ h; cases h) fun _ _ _ => parseDrift_toValue
  have hdeletion : ∀ {o path}, ifPresent (optional ResourceClaimDeletion.toValue c.deletion) path
      parseDeletion = .ok o ↔ o = c.deletion ∧ ∀ d, c.deletion = some d → d.WellFormed :=
    ifPresent_optional (by intro _ h; cases h) fun _ _ _ => parseDeletion_toValue
  have hcancellation : ∀ {o path}, ifPresent (optional ResourceClaimCancellation.toValue c.cancellation)
      path parseCancellation = .ok o ↔
        o = c.cancellation ∧ ∀ k, c.cancellation = some k → k.WellFormed :=
    ifPresent_optional (by intro _ h; cases h) fun _ _ _ => parseCancellation_toValue
  unfold parseClaimState
  -- the request first, while the members are still folded
  simp only [hkeys, bind_ok, pure_ok, Except.ok.injEq, exists_eq_left', claimRequestView_members,
    parseResourceClaimRequest_toValue]
  simp only [ResourceClaimRequest.members, List.cons_append, List.nil_append,
    Value.get_cons, String.reduceEq, if_true, if_false, enumValue_phase, nonNegativeInteger,
    integerMatching_int, ifPresent_reference, houtputs, hlease, hfailure, hdrift, hdeletion,
    hcancellation, and_assoc, exists_eq_left, decide_eq_true_eq]
  constructor
  · rintro ⟨h1, h2, h3, h4, h5, h6, h7, h8, h9, rfl⟩
    exact ⟨rfl, h1, h2, h3, h4, h5, h6, h7, h8, h9⟩
  · rintro ⟨rfl, hw⟩
    exact ⟨hw.request, hw.observedGeneration, hw.providerResourceRef, hw.outputs, hw.lease, hw.failure,
      hw.drift, hw.deletion, hw.cancellation, rfl⟩

end SecureSaas.Broker
