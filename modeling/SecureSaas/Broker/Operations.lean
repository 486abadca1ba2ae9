import SecureSaas.Broker.State

/-!
# The nine operations of the resource broker

Each operation checks the state and the revision it was sent against, then either throws or
returns the next state with a result and its events.
-/

namespace SecureSaas.Broker

open Js

/-! ## Arguments and results -/

structure BrokerMutationContext where
  actorId : String
  tenantId : String
  operation : BrokerMutationOperation
  resourceId : String
  capabilityId : String
  capabilityVerified : Bool
  idempotencyKey : String
  occurredAt : String
deriving DecidableEq

structure LeaseArgs where
  claimId : String
  providerId : String
  providerCapabilities : List String
  workloadIdentityVerified : Bool
  occurredAt : String
  leaseDurationSeconds : Number
deriving DecidableEq

/-- What a provider presents to finish work on a claim. -/
structure ProviderArgs where
  claimId : String
  providerId : String
  generation : ℤ
  fenceToken : String
  workloadIdentityVerified : Bool
  occurredAt : String
deriving DecidableEq

inductive ResourceBrokerEventType
  | claimApplied | providerLeased | claimAvailable | claimFailed | claimDrifted
  | cancellationRequested | claimCancelled | deletionRequested | claimDeleted
deriving DecidableEq

def ResourceBrokerEventType.text : ResourceBrokerEventType → String
  | .claimApplied => "claim-applied"
  | .providerLeased => "provider-leased"
  | .claimAvailable => "claim-available"
  | .claimFailed => "claim-failed"
  | .claimDrifted => "claim-drifted"
  | .cancellationRequested => "cancellation-requested"
  | .claimCancelled => "claim-cancelled"
  | .deletionRequested => "deletion-requested"
  | .claimDeleted => "claim-deleted"

/-- The fields an event has beside those of its claim. -/
structure ResourceBrokerEventExtra where
  actorId : Option String
  providerId : Option String
  fenceToken : Option String
deriving DecidableEq

def byActor (actorId : String) : ResourceBrokerEventExtra := ⟨some actorId, none, none⟩

def byProvider (providerId : String) (fenceToken : Option String) : ResourceBrokerEventExtra :=
  ⟨none, some providerId, fenceToken⟩

structure ResourceBrokerEvent extends ResourceBrokerEventExtra where
  apiVersion : String
  eventId : String
  type : ResourceBrokerEventType
  revision : ℤ
  claimId : String
  tenantId : String
  generation : ℤ
  desiredStateDigest : String
  occurredAt : String
deriving DecidableEq

structure ResourceBrokerTransition (T : Type) where
  state : ResourceBrokerState
  result : T
  events : List ResourceBrokerEvent
  replayed : Bool
deriving DecidableEq

variable (rt : Runtime)

def canonicalJson (value : Value) : String := String.ofList (textWith rt.sortedStyle value)

def sha256 (value : String) : String := rt.sha256 value

/-! ## Shared steps -/

def checkedState (state : ResourceBrokerState) (expectedRevision : ℤ) : Except String ResourceBrokerState := do
  assertResourceBrokerState state
  throwUnless (state.revision == expectedRevision)
    s!"Resource broker revision conflict: expected {expectedRevision}, current {state.revision}."
  pure state

def validateMutationContext (context : BrokerMutationContext) (operation : BrokerMutationOperation)
    (tenantId claimId : String) : Except String Unit := do
  throwUnless (context.operation == operation)
    ("Broker mutation context must authorize '" ++ operation.text ++ "'.")
  throwUnless context.capabilityVerified "Broker mutation capability is not verified."
  let _ ← identifier (.string context.actorId) "context.actorId"
  let _ ← identifier (.string context.capabilityId) "context.capabilityId"
  let _ ← identifier (.string context.idempotencyKey) "context.idempotencyKey"
  let _ ← timestamp (.string context.occurredAt) "context.occurredAt"
  throwUnless (context.tenantId == tenantId && context.resourceId == claimId)
    "Broker mutation context crosses its exact tenant or resource."

/-- The stored record of a mutation sent with this context and operation. -/
def existingRecord (state : ResourceBrokerState) (context : BrokerMutationContext)
    (operation : BrokerMutationOperation) : Option ResourceBrokerIdempotencyRecord :=
  state.idempotencyRecords.find? fun record => record.tenantId == context.tenantId &&
    record.operation == operation && record.claimId == context.resourceId &&
    record.key == context.idempotencyKey

def mutationReplay (state : ResourceBrokerState) (context : BrokerMutationContext)
    (operation : BrokerMutationOperation) (payloadDigest : String) :
    Except String (Option ResourceClaimState) :=
  match existingRecord state context operation with
  | none => .ok none
  | some existing => do
    throwUnless (existing.payloadDigest == payloadDigest && existing.capabilityId == context.capabilityId)
      "Broker idempotency key was reused with a different payload."
    let claim ← requireClaim state existing.claimId
    pure (some claim)

/-- The record `commitMutation` adds. -/
def mutationRecord (context : BrokerMutationContext) (payloadDigest : String) (revision : ℤ) :
    ResourceBrokerIdempotencyRecord where
  tenantId := context.tenantId
  operation := context.operation
  claimId := context.resourceId
  key := context.idempotencyKey
  payloadDigest := payloadDigest
  capabilityId := context.capabilityId
  committedRevision := revision

/-- The state `commitMutation` builds and checks. -/
def mutated (state : ResourceBrokerState) (context : BrokerMutationContext) (payloadDigest : String)
    (claims : List ResourceClaimState) : ResourceBrokerState :=
  { state with
    revision := state.revision + 1
    claims := claims
    idempotencyRecords := state.idempotencyRecords ++ [mutationRecord context payloadDigest (state.revision + 1)]
    redeemedCapabilityIds := state.redeemedCapabilityIds ++ [context.capabilityId] }

def commitMutation (state : ResourceBrokerState) (context : BrokerMutationContext) (payloadDigest : String)
    (claims : List ResourceClaimState) : Except String ResourceBrokerState := do
  throwUnless (!state.redeemedCapabilityIds.contains context.capabilityId)
    ("Broker capability '" ++ context.capabilityId ++ "' was already redeemed.")
  let next := mutated state context payloadDigest claims
  assertResourceBrokerState next
  pure next

/-- The state `commitState` builds and checks. -/
def advanced (state : ResourceBrokerState) (claims : List ResourceClaimState) : ResourceBrokerState :=
  { state with revision := state.revision + 1, claims := claims }

def commitState (state : ResourceBrokerState) (claims : List ResourceClaimState) :
    Except String ResourceBrokerState := do
  let next := advanced state claims
  assertResourceBrokerState next
  pure next

def providerIdentity (providerId : String) (verified : Bool) : Except String Unit := do
  let _ ← identifier (.string providerId) "providerId"
  throwUnless verified "Resource provider workload identity is not verified."

/-- The lease of the claim is the one the provider presents, for the claim's generation. -/
def holdsLease (claim : ResourceClaimState) (args : ProviderArgs) : Bool :=
  match claim.lease with
  | none => false
  | some lease => lease.providerId == args.providerId && lease.generation == args.generation &&
      claim.generation == args.generation && lease.fenceToken == args.fenceToken

def providerClaim (state : ResourceBrokerState) (args : ProviderArgs) (phase : ResourceClaimPhase) :
    Except String ResourceClaimState := do
  let claim ← requireClaim state args.claimId
  providerIdentity args.providerId args.workloadIdentityVerified
  let occurredAt ← timestamp (.string args.occurredAt) "occurredAt"
  throwUnless (claim.phase == phase && holdsLease claim args)
    ("Resource provider completion for '" ++ claim.claimId ++ "' has a stale generation or fence token.")
  throwUnless (!timeLT (claim.lease.bind fun lease => dateParse lease.expiresAt) (dateParse occurredAt))
    ("Resource provider lease for '" ++ claim.claimId ++ "' has expired.")
  pure claim

/-- `base` of `event`: the event before its id is added. -/
def eventBase (state : ResourceBrokerState) (claim : ResourceClaimState) (type : ResourceBrokerEventType)
    (occurredAt : String) (extra : ResourceBrokerEventExtra) : Value :=
  .object [("apiVersion", .string resourceBrokerStateApiVersion), ("type", .string type.text),
    ("revision", int state.revision), ("claimId", .string claim.claimId),
    ("tenantId", .string claim.tenantId), ("generation", int claim.generation),
    ("desiredStateDigest", .string claim.desiredStateDigest), ("occurredAt", .string occurredAt),
    ("actorId", optional .string extra.actorId), ("providerId", optional .string extra.providerId),
    ("fenceToken", optional .string extra.fenceToken)]

def event (state : ResourceBrokerState) (claim : ResourceClaimState) (type : ResourceBrokerEventType)
    (occurredAt : String) (extra : ResourceBrokerEventExtra) : Except String ResourceBrokerEvent := do
  let occurredAt ← timestamp (.string occurredAt) "occurredAt"
  pure { toResourceBrokerEventExtra := extra
         apiVersion := resourceBrokerStateApiVersion
         eventId := sha256 rt (canonicalJson rt (eventBase state claim type occurredAt extra))
         type
         revision := state.revision
         claimId := claim.claimId
         tenantId := claim.tenantId
         generation := claim.generation
         desiredStateDigest := claim.desiredStateDigest
         occurredAt }

def transition {T : Type} (state : ResourceBrokerState) (result : T) (event : ResourceBrokerEvent) :
    ResourceBrokerTransition T :=
  { state, result, events := [event], replayed := false }

def replayTransition (state : ResourceBrokerState) (claim : ResourceClaimState) :
    ResourceBrokerTransition ResourceClaimState :=
  { state, result := claim, events := [], replayed := true }

/-! ## Operations of a tenant's actor -/

/-- The claim an accepted request becomes; `existing` is its previous generation. -/
def nextClaim (claim : ResourceClaimRequest) (existing : Option ResourceClaimState) : ResourceClaimState where
  toResourceClaimRequest := claim
  phase := .pending
  observedGeneration := (existing.map fun c => c.observedGeneration).getD 0
  providerResourceRef := existing.bind fun c => c.providerResourceRef
  outputs := []
  lease := none
  failure := none
  drift := none
  deletion := none
  cancellation := none

/-- The guards of `applyResourceClaim` on the claim's previous generation. -/
def assertAdvance (claim : ResourceClaimRequest) : Option ResourceClaimState → Except String Unit
  | none => throwUnless (claim.generation == 1) "A new resource claim must begin at generation 1."
  | some existing => do
    throwUnless (existing.tenantId == claim.tenantId && existing.resourceKind == claim.resourceKind &&
        existing.resourceApiVersion == claim.resourceApiVersion)
      ("Resource claim '" ++ claim.claimId ++ "' cannot change tenant or resource type.")
    throwUnless (claim.generation == existing.generation + 1)
      ("Resource claim '" ++ claim.claimId ++ "' must advance exactly one generation.")
    throwUnless (!([ResourceClaimPhase.reconciling, .cancelling, .deleting].contains existing.phase))
      ("Resource claim '" ++ claim.claimId ++ "' cannot advance while work is active.")

def applyResourceClaim (state : ResourceBrokerState) (expectedRevision : ℤ) (context : BrokerMutationContext)
    (claim : Value) : Except String (ResourceBrokerTransition ResourceClaimState) := do
  let state ← checkedState state expectedRevision
  let claim ← parseResourceClaimRequest claim
  let payloadDigest := sha256 rt (canonicalJson rt claim.toValue)
  match ← mutationReplay state context .apply payloadDigest with
  | some replay => pure (replayTransition state replay)
  | none =>
    validateMutationContext context .apply claim.tenantId claim.claimId
    let existing := findClaim state claim.claimId
    assertAdvance claim existing
    let claim := nextClaim claim existing
    let next ← commitMutation state context payloadDigest (upsertClaim rt state.claims claim)
    let e ← event rt next claim .claimApplied context.occurredAt (byActor context.actorId)
    pure (transition next claim e)

def cancelPayload (claim : ResourceClaimState) : Value :=
  .object [("claimId", .string claim.claimId), ("generation", int claim.generation)]

/-- A claim that is being worked on is only asked to stop. -/
def cancelledClaim (claim : ResourceClaimState) (context : BrokerMutationContext) : ResourceClaimState :=
  let cancelling := claim.phase == .reconciling
  { claim with
    phase := if cancelling then .cancelling else .cancelled
    outputs := []
    lease := if cancelling then claim.lease else none
    cancellation := some { requestedAt := context.occurredAt, requestedBy := context.actorId
                           cleanupEvidenceRef := none } }

def cancelResourceClaim (state : ResourceBrokerState) (expectedRevision : ℤ)
    (context : BrokerMutationContext) : Except String (ResourceBrokerTransition ResourceClaimState) := do
  let state ← checkedState state expectedRevision
  let claim ← requireClaim state context.resourceId
  let payloadDigest := sha256 rt (canonicalJson rt (cancelPayload claim))
  match ← mutationReplay state context .cancel payloadDigest with
  | some replay => pure (replayTransition state replay)
  | none =>
    validateMutationContext context .cancel claim.tenantId claim.claimId
    throwUnless ([ResourceClaimPhase.pending, .reconciling, .failed, .drifted].contains claim.phase)
      ("Resource claim '" ++ claim.claimId ++ "' cannot be cancelled from phase '" ++ claim.phase.text ++ "'.")
    let cancelled := cancelledClaim claim context
    let next ← commitMutation state context payloadDigest (upsertClaim rt state.claims cancelled)
    let e ← event rt next cancelled
      (if claim.phase == .reconciling then .cancellationRequested else .claimCancelled)
      context.occurredAt (byActor context.actorId)
    pure (transition next cancelled e)

def deletePayload (claim : ResourceClaimState) (approvalEvidenceRef finalizationEvidenceRef : String) : Value :=
  .object [("claimId", .string claim.claimId), ("generation", int claim.generation),
    ("approvalEvidenceRef", .string approvalEvidenceRef),
    ("finalizationEvidenceRef", .string finalizationEvidenceRef)]

def deletingClaim (claim : ResourceClaimState) (context : BrokerMutationContext)
    (approvalEvidenceRef finalizationEvidenceRef : String) : ResourceClaimState :=
  { claim with
    phase := .deleting
    outputs := []
    deletion := some { requestedAt := context.occurredAt, requestedBy := context.actorId
                       approvalEvidenceRef, finalizationEvidenceRef } }

def requestResourceClaimDeletion (state : ResourceBrokerState) (expectedRevision : ℤ)
    (context : BrokerMutationContext) (approvalEvidenceRef finalizationEvidenceRef : String) :
    Except String (ResourceBrokerTransition ResourceClaimState) := do
  let state ← checkedState state expectedRevision
  let claim ← requireClaim state context.resourceId
  let approvalEvidenceRef ← reference (.string approvalEvidenceRef) "approvalEvidenceRef" ["evidence"]
  let finalizationEvidenceRef ← reference (.string finalizationEvidenceRef) "finalizationEvidenceRef"
    ["evidence", "snapshot"]
  let payloadDigest := sha256 rt (canonicalJson rt
    (deletePayload claim approvalEvidenceRef finalizationEvidenceRef))
  match ← mutationReplay state context .delete payloadDigest with
  | some replay => pure (replayTransition state replay)
  | none =>
    validateMutationContext context .delete claim.tenantId claim.claimId
    throwUnless (claim.phase == .available || claim.phase == .cancelled)
      ("Resource claim '" ++ claim.claimId ++ "' cannot be deleted from phase '" ++ claim.phase.text ++ "'.")
    let deleting := deletingClaim claim context approvalEvidenceRef finalizationEvidenceRef
    let next ← commitMutation state context payloadDigest (upsertClaim rt state.claims deleting)
    let e ← event rt next deleting .deletionRequested context.occurredAt (byActor context.actorId)
    pure (transition next deleting e)

/-! ## Operations of a provider -/

/-- What a fence token is the hash of. -/
def fencePayload (claim : ResourceClaimState) (providerId : String) (attempt revision : ℤ)
    (occurredAt : String) : Value :=
  .object [("claimId", .string claim.claimId), ("generation", int claim.generation),
    ("providerId", .string providerId), ("attempt", int attempt), ("revision", int revision),
    ("occurredAt", .string occurredAt)]

/-- `(claim.lease?.attempt ?? claim.failure?.attempt ?? 0) + 1`. -/
def nextAttempt (claim : ResourceClaimState) : ℤ :=
  ((claim.lease.map fun l => l.attempt).or (claim.failure.map fun f => f.attempt)).getD 0 + 1

/-- The claim may be leased from its phase. -/
def eligible (claim : ResourceClaimState) : Bool :=
  claim.phase == .pending || claim.phase == .drifted || claim.phase == .deleting ||
    (claim.phase == .failed && (claim.failure.map fun f => f.retryable) == some true) ||
    (claim.phase == .reconciling && claim.lease.isSome)

/-- `Number.isInteger(n) && n >= 1 && n <= 900`, as an integer. -/
def leaseSeconds : Number → Option ℤ
  | .int n => if 1 ≤ n ∧ n ≤ 900 then some n else none
  | _ => none

/-- The lease of the claim's next attempt, committed as `revision`. -/
def issuedLease (claim : ResourceClaimState) (args : LeaseArgs) (revision : ℤ) (expiresAt : String) :
    ResourceProviderLease where
  providerId := args.providerId
  generation := claim.generation
  fenceToken := sha256 rt (canonicalJson rt
    (fencePayload claim args.providerId (nextAttempt claim) revision args.occurredAt))
  attempt := nextAttempt claim
  acquiredAt := args.occurredAt
  expiresAt := expiresAt

def leasedClaim (claim : ResourceClaimState) (lease : ResourceProviderLease) : ResourceClaimState :=
  { claim with
    phase := if claim.phase = .deleting then .deleting else .reconciling
    lease := some lease
    failure := none }

def leaseResourceClaim (state : ResourceBrokerState) (expectedRevision : ℤ) (args : LeaseArgs) :
    Except String (ResourceBrokerTransition ResourceProviderLease) := do
  let state ← checkedState state expectedRevision
  let claim ← requireClaim state args.claimId
  providerIdentity args.providerId args.workloadIdentityVerified
  let _ ← timestamp (.string args.occurredAt) "occurredAt"
  match leaseSeconds args.leaseDurationSeconds with
  | none => throw "Resource provider lease must be between 1 and 900 seconds."
  | some duration =>
    let missing := claim.requiredProviderCapabilities.filter fun c => !args.providerCapabilities.contains c
    throwUnless missing.isEmpty ("Resource provider '" ++ args.providerId ++ "' lacks capability: " ++
      ", ".intercalate (missing.insertionSort fun a b => a ≤ b) ++ ".")
    let now := dateParse args.occurredAt
    throwUnless (!timeLT now (claim.lease.bind fun l => dateParse l.expiresAt))
      ("Resource claim '" ++ claim.claimId ++ "' already has an active lease.")
    throwUnless (eligible claim)
      ("Resource claim '" ++ claim.claimId ++ "' cannot be leased from phase '" ++ claim.phase.text ++ "'.")
    throwUnless (decide (nextAttempt claim ≤ claim.lifecycle.maxReconcileAttempts))
      ("Resource claim '" ++ claim.claimId ++ "' exhausted its reconcile attempts.")
    let expiresAt ← toISOString (now.map fun t => t + duration * 1000)
    let lease := issuedLease rt claim args (state.revision + 1) expiresAt
    let leased := leasedClaim claim lease
    let next ← commitState state (upsertClaim rt state.claims leased)
    let e ← event rt next leased .providerLeased args.occurredAt
      (byProvider args.providerId (some lease.fenceToken))
    pure (transition next lease e)

def availableClaim (claim : ResourceClaimState) (providerResourceRef : String)
    (outputs : List ResourceBrokerOutput) : ResourceClaimState :=
  { claim with
    phase := .available
    observedGeneration := claim.generation
    providerResourceRef := some providerResourceRef
    outputs
    lease := none
    failure := none
    drift := none }

def completeResourceClaim (state : ResourceBrokerState) (expectedRevision : ℤ) (args : ProviderArgs)
    (observedStateDigest providerResourceRef : String) (outputs : List ResourceBrokerOutput) :
    Except String (ResourceBrokerTransition ResourceClaimState) := do
  let state ← checkedState state expectedRevision
  let claim ← providerClaim state args .reconciling
  let observed ← digest (.string observedStateDigest) "observedStateDigest"
  throwUnless (observed == claim.desiredStateDigest)
    ("Resource claim '" ++ claim.claimId ++ "' provider observed the wrong desired state.")
  let providerResourceRef ← reference (.string providerResourceRef) "providerResourceRef" ["provider"]
  validateOutputs outputs
  throwUnless (!outputs.isEmpty) "An available resource claim requires outputs."
  let available := availableClaim claim providerResourceRef outputs
  let next ← commitState state (upsertClaim rt state.claims available)
  let e ← event rt next available .claimAvailable args.occurredAt
    (byProvider args.providerId (some args.fenceToken))
  pure (transition next available e)

/-- The failure counts the attempt of the lease (`claim.lease!`: a provider's claim has one). -/
def failedClaim (claim : ResourceClaimState) (code message : String) (retryable : Bool)
    (occurredAt : String) : ResourceClaimState :=
  { claim with
    phase := .failed
    lease := none
    failure := claim.lease.map fun lease =>
      { code, message, retryable, attempt := lease.attempt, occurredAt } }

def failResourceClaim (state : ResourceBrokerState) (expectedRevision : ℤ) (args : ProviderArgs)
    (code message : String) (retryable : Bool) :
    Except String (ResourceBrokerTransition ResourceClaimState) := do
  let state ← checkedState state expectedRevision
  let claim ← providerClaim state args .reconciling
  let code ← reasonCode (.string code) "code"
  let message ← safeMessage (.string message) "message"
  let retryable ← boolean (.bool retryable) "retryable"
  let occurredAt ← timestamp (.string args.occurredAt) "occurredAt"
  let failed := failedClaim claim code message retryable occurredAt
  let next ← commitState state (upsertClaim rt state.claims failed)
  let e ← event rt next failed .claimFailed args.occurredAt
    (byProvider args.providerId (some args.fenceToken))
  pure (transition next failed e)

def driftedClaim (claim : ResourceClaimState) (observedStateDigest detectedAt : String) : ResourceClaimState :=
  { claim with
    phase := .drifted
    outputs := []
    drift := some { observedStateDigest, detectedAt } }

def reportResourceClaimDrift (state : ResourceBrokerState) (expectedRevision : ℤ)
    (claimId providerId : String) (workloadIdentityVerified : Bool) (observedStateDigest occurredAt : String) :
    Except String (ResourceBrokerTransition ResourceClaimState) := do
  let state ← checkedState state expectedRevision
  let claim ← requireClaim state claimId
  providerIdentity providerId workloadIdentityVerified
  throwUnless (claim.phase == .available)
    ("Resource claim '" ++ claim.claimId ++ "' cannot record drift from phase '" ++ claim.phase.text ++ "'.")
  let observedStateDigest ← digest (.string observedStateDigest) "observedStateDigest"
  throwUnless (observedStateDigest != claim.desiredStateDigest)
    ("Resource claim '" ++ claim.claimId ++ "' has no drift.")
  let detectedAt ← timestamp (.string occurredAt) "occurredAt"
  let drifted := driftedClaim claim observedStateDigest detectedAt
  let next ← commitState state (upsertClaim rt state.claims drifted)
  let e ← event rt next drifted .claimDrifted occurredAt (byProvider providerId none)
  pure (transition next drifted e)

def cleanedClaim (claim : ResourceClaimState) (cancellation : ResourceClaimCancellation)
    (cleanupEvidenceRef : String) : ResourceClaimState :=
  { claim with
    phase := .cancelled
    lease := none
    outputs := []
    cancellation := some { cancellation with cleanupEvidenceRef := some cleanupEvidenceRef } }

def acknowledgeResourceClaimCancellation (state : ResourceBrokerState) (expectedRevision : ℤ)
    (args : ProviderArgs) (cleanupEvidenceRef : String) :
    Except String (ResourceBrokerTransition ResourceClaimState) := do
  let state ← checkedState state expectedRevision
  let claim ← providerClaim state args .cancelling
  let _ ← reference (.string cleanupEvidenceRef) "cleanupEvidenceRef" ["evidence"]
  match claim.cancellation with
  | none => throw "Cannot read properties of undefined (reading 'requestedAt')"
  | some cancellation =>
    let cancelled := cleanedClaim claim cancellation cleanupEvidenceRef
    let next ← commitState state (upsertClaim rt state.claims cancelled)
    let e ← event rt next cancelled .claimCancelled args.occurredAt
      (byProvider args.providerId (some args.fenceToken))
    pure (transition next cancelled e)

def deletedClaim (claim : ResourceClaimState) : ResourceClaimState :=
  { claim with
    phase := .deleted
    observedGeneration := claim.generation
    providerResourceRef := none
    outputs := []
    lease := none }

def completeResourceClaimDeletion (state : ResourceBrokerState) (expectedRevision : ℤ)
    (args : ProviderArgs) (finalizationEvidenceRef : String) :
    Except String (ResourceBrokerTransition ResourceClaimState) := do
  let state ← checkedState state expectedRevision
  let claim ← providerClaim state args .deleting
  let finalizationEvidenceRef ← reference (.string finalizationEvidenceRef) "finalizationEvidenceRef"
    ["evidence", "snapshot"]
  throwUnless (some finalizationEvidenceRef == claim.deletion.map fun d => d.finalizationEvidenceRef)
    ("Resource claim '" ++ claim.claimId ++ "' deletion evidence does not match approval.")
  let deleted := deletedClaim claim
  let next ← commitState state (upsertClaim rt state.claims deleted)
  let e ← event rt next deleted .claimDeleted args.occurredAt
    (byProvider args.providerId (some args.fenceToken))
  pure (transition next deleted e)

end SecureSaas.Broker
