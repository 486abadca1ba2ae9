import SecureSaas.Broker.Operations
import SecureSaas.Run

/-!
# Calls to the broker and what they do

The nine operations as one labelled step of the broker's state.

* `applyResourceClaim_ok` and its relatives: when exactly an operation succeeds, and with
  which transition.
* `exec_cases`: a successful call either repeats the answer of a committed mutation and
  leaves the state alone, or replaces one claim (`ClaimEffect`) and counts one revision.
-/

namespace SecureSaas.Broker

open Js

variable {rt : Runtime} {s : ResourceBrokerState} {rev : ℤ}

/-! ## The shared steps -/

theorem checkedState_ok {s' : ResourceBrokerState} :
    checkedState s rev = .ok s' ↔ s' = s ∧ StateOk s ∧ s.revision = rev := by
  unfold checkedState
  simp only [bind_ok, pure_ok, throwUnless_ok, exists_unit, assertResourceBrokerState_ok, beq_iff_eq,
    eq_comm (a := s) (b := s')]
  constructor
  · rintro ⟨h1, h2, h3⟩
    exact ⟨h3, h1, h2⟩
  · rintro ⟨h1, h2, h3⟩
    exact ⟨h2, h3, h1⟩

/-- The context authorizes this operation on this claim. -/
structure ContextOk (context : BrokerMutationContext) (operation : BrokerMutationOperation)
    (tenantId claimId : String) : Prop where
  operation : context.operation = operation
  verified : context.capabilityVerified = true
  actorId : isIdentifier context.actorId = true
  capabilityId : isIdentifier context.capabilityId = true
  idempotencyKey : isIdentifier context.idempotencyKey = true
  occurredAt : isTimestamp context.occurredAt = true
  tenantId : context.tenantId = tenantId
  resourceId : context.resourceId = claimId

theorem validateMutationContext_ok {context : BrokerMutationContext} {operation : BrokerMutationOperation}
    {tenantId claimId : String} : validateMutationContext context operation tenantId claimId = .ok () ↔
      ContextOk context operation tenantId claimId := by
  unfold validateMutationContext
  simp only [bind_ok, throwUnless_ok, exists_unit, identifier, timestamp, matching_string, and_assoc,
    exists_eq_left, beq_iff_eq, Bool.and_eq_true]
  constructor
  · rintro ⟨h1, h2, h3, h4, h5, h6, h7, h8⟩
    exact ⟨h1, h2, h3, h4, h5, h6, h7, h8⟩
  · intro h
    exact ⟨h.operation, h.verified, h.actorId, h.capabilityId, h.idempotencyKey, h.occurredAt, h.tenantId,
      h.resourceId⟩

/-- A stored record answers the call with this claim. -/
def Answers (s : ResourceBrokerState) (context : BrokerMutationContext) (operation : BrokerMutationOperation)
    (payloadDigest : String) (claim : ResourceClaimState) : Prop :=
  ∃ r, existingRecord s context operation = some r ∧ r.payloadDigest = payloadDigest ∧
    r.capabilityId = context.capabilityId ∧ findClaim s r.claimId = some claim

theorem mutationReplay_some {context : BrokerMutationContext} {operation : BrokerMutationOperation}
    {payloadDigest : String} {claim : ResourceClaimState} :
    mutationReplay s context operation payloadDigest = .ok (some claim) ↔
      Answers s context operation payloadDigest claim := by
  unfold mutationReplay Answers
  cases existingRecord s context operation with
  | none => simp
  | some r =>
    simp only [bind_ok, pure_ok, throwUnless_ok, exists_unit, requireClaim_ok, Option.some.injEq,
      exists_eq_left', exists_eq_right, Bool.and_eq_true, beq_iff_eq, and_assoc]

theorem mutationReplay_none {context : BrokerMutationContext} {operation : BrokerMutationOperation}
    {payloadDigest : String} :
    mutationReplay s context operation payloadDigest = .ok none ↔ existingRecord s context operation = none := by
  unfold mutationReplay
  cases existingRecord s context operation with
  | none => simp
  | some r => simp only [bind_ok, pure_ok, reduceCtorEq, and_false, exists_false]

/-- The call of a mutation answers from a record or goes on. -/
theorem replay_or_fresh {T : Type} {context : BrokerMutationContext} {operation : BrokerMutationOperation}
    {payloadDigest : String} {answer : ResourceClaimState → T} {fresh : Except String T} {t : T} :
    (∃ a, mutationReplay s context operation payloadDigest = .ok a ∧
      (match a with
        | some c => pure (answer c)
        | none => fresh) = .ok t) ↔
      (∃ c, Answers s context operation payloadDigest c ∧ t = answer c) ∨
        (existingRecord s context operation = none ∧ fresh = .ok t) := by
  constructor
  · rintro ⟨a, ha, ht⟩
    cases a with
    | some c => exact Or.inl ⟨c, mutationReplay_some.1 ha, (pure_ok.1 ht).symm⟩
    | none => exact Or.inr ⟨mutationReplay_none.1 ha, ht⟩
  · rintro (⟨c, hc, rfl⟩ | ⟨hn, ht⟩)
    · exact ⟨some c, mutationReplay_some.2 hc, pure_ok.2 rfl⟩
    · exact ⟨none, mutationReplay_none.2 hn, ht⟩

theorem commitMutation_ok {context : BrokerMutationContext} {payloadDigest : String}
    {claims : List ResourceClaimState} {next : ResourceBrokerState} :
    commitMutation s context payloadDigest claims = .ok next ↔
      context.capabilityId ∉ s.redeemedCapabilityIds ∧ StateOk (mutated s context payloadDigest claims) ∧
        mutated s context payloadDigest claims = next := by
  unfold commitMutation
  simp only [bind_ok, pure_ok, throwUnless_ok, exists_unit, assertResourceBrokerState_ok,
    Bool.not_eq_true', List.contains_eq_mem, decide_eq_false_iff_not]

theorem commitState_ok {claims : List ResourceClaimState} {next : ResourceBrokerState} :
    commitState s claims = .ok next ↔ StateOk (advanced s claims) ∧ advanced s claims = next := by
  unfold commitState
  simp only [bind_ok, pure_ok, exists_unit, assertResourceBrokerState_ok]

theorem event_ok {claim : ResourceClaimState} {type : ResourceBrokerEventType} {occurredAt : String}
    {extra : ResourceBrokerEventExtra} : (∃ e, event rt s claim type occurredAt extra = .ok e) ↔
      isTimestamp occurredAt = true := by
  unfold event
  simp only [bind_ok, pure_ok, timestamp, matching_string, and_assoc, exists_eq_left, exists_and_left,
    exists_eq', and_true]

/-- The provider presents the claim's lease, in this phase and before it expires. -/
structure Presents (s : ResourceBrokerState) (args : ProviderArgs) (phase : ResourceClaimPhase)
    (claim : ResourceClaimState) (lease : ResourceProviderLease) : Prop where
  found : findClaim s args.claimId = some claim
  identity : isIdentifier args.providerId = true
  verified : args.workloadIdentityVerified = true
  occurredAt : isTimestamp args.occurredAt = true
  phase : claim.phase = phase
  held : claim.lease = some lease
  providerId : lease.providerId = args.providerId
  leaseGeneration : lease.generation = args.generation
  generation : claim.generation = args.generation
  fenceToken : lease.fenceToken = args.fenceToken
  unexpired : timeLT (dateParse lease.expiresAt) (dateParse args.occurredAt) = false

theorem providerIdentity_ok {providerId : String} {verified : Bool} :
    providerIdentity providerId verified = .ok () ↔ isIdentifier providerId = true ∧ verified = true := by
  unfold providerIdentity
  simp only [bind_ok, throwUnless_ok, identifier, matching_string, and_assoc, exists_eq_left]

theorem providerClaim_ok {args : ProviderArgs} {phase : ResourceClaimPhase} {claim : ResourceClaimState} :
    providerClaim s args phase = .ok claim ↔ ∃ lease, Presents s args phase claim lease := by
  unfold providerClaim
  simp only [bind_ok, pure_ok, requireClaim_ok, throwUnless_ok, exists_unit, providerIdentity_ok,
    timestamp, matching_string, and_assoc, exists_eq_left, Bool.and_eq_true, Bool.not_eq_true', beq_iff_eq]
  constructor
  · rintro ⟨c, hf, hid, hv, ho, hp, hl, hx, rfl⟩
    unfold holdsLease at hl
    cases hlease : c.lease with
    | none => rw [hlease] at hl; simp at hl
    | some l =>
      rw [hlease] at hl hx
      simp only [Bool.and_eq_true, beq_iff_eq, and_assoc] at hl
      obtain ⟨h1, h2, h3, h4⟩ := hl
      exact ⟨l, hf, hid, hv, ho, hp, hlease, h1, h2, h3, h4, hx⟩
  · rintro ⟨l, h⟩
    refine ⟨claim, h.found, h.identity, h.verified, h.occurredAt, h.phase, ?_, ?_, rfl⟩
    · simp [holdsLease, h.held, h.providerId, h.leaseGeneration, h.generation, h.fenceToken]
    · rw [h.held]; exact h.unexpired

/-! ## When the operations succeed -/

/-- A mutation with no record yet commits this claim. -/
structure Commits (rt : Runtime) (s : ResourceBrokerState) (context : BrokerMutationContext)
    (operation : BrokerMutationOperation) (payloadDigest tenantId claimId : String)
    (claim : ResourceClaimState) (type : ResourceBrokerEventType)
    (t : ResourceBrokerTransition ResourceClaimState) : Prop where
  fresh : existingRecord s context operation = none
  authorized : ContextOk context operation tenantId claimId
  unredeemed : context.capabilityId ∉ s.redeemedCapabilityIds
  checked : StateOk (mutated s context payloadDigest (upsertClaim rt s.claims claim))
  answer : ∃ e, event rt (mutated s context payloadDigest (upsertClaim rt s.claims claim)) claim type
      context.occurredAt (byActor context.actorId) = .ok e ∧
    t = transition (mutated s context payloadDigest (upsertClaim rt s.claims claim)) claim e

/-- The part of a mutation after its replay check. -/
theorem commits_iff {context : BrokerMutationContext} {operation : BrokerMutationOperation}
    {payloadDigest tenantId claimId : String} {guard : Except String Unit} {claim : ResourceClaimState}
    {type : ResourceBrokerEventType} {t : ResourceBrokerTransition ResourceClaimState} :
    (existingRecord s context operation = none ∧ (do
      validateMutationContext context operation tenantId claimId
      guard
      let next ← commitMutation s context payloadDigest (upsertClaim rt s.claims claim)
      let e ← event rt next claim type context.occurredAt (byActor context.actorId)
      pure (transition next claim e)) = .ok t) ↔
      guard = .ok () ∧ Commits rt s context operation payloadDigest tenantId claimId claim type t := by
  simp only [bind_ok, pure_ok, exists_unit, validateMutationContext_ok, commitMutation_ok, and_assoc]
  constructor
  · rintro ⟨hr, hc, hg, _, hu, hs, rfl, e, he, rfl⟩
    exact ⟨hg, hr, hc, hu, hs, e, he, rfl⟩
  · rintro ⟨hg, hr, hc, hu, hs, e, he, rfl⟩
    exact ⟨hr, hc, hg, _, hu, hs, rfl, e, he, rfl⟩

/-- A call without a record commits this claim and returns `result`. -/
structure Advances {T : Type} (rt : Runtime) (s : ResourceBrokerState) (claim : ResourceClaimState)
    (result : T) (type : ResourceBrokerEventType) (occurredAt : String) (extra : ResourceBrokerEventExtra)
    (t : ResourceBrokerTransition T) : Prop where
  checked : StateOk (advanced s (upsertClaim rt s.claims claim))
  answer : ∃ e, event rt (advanced s (upsertClaim rt s.claims claim)) claim type occurredAt extra = .ok e ∧
    t = transition (advanced s (upsertClaim rt s.claims claim)) result e

theorem advances_iff {T : Type} {claim : ResourceClaimState} {result : T} {type : ResourceBrokerEventType}
    {occurredAt : String} {extra : ResourceBrokerEventExtra} {t : ResourceBrokerTransition T} :
    (∃ next, commitState s (upsertClaim rt s.claims claim) = .ok next ∧
      ∃ e, event rt next claim type occurredAt extra = .ok e ∧ transition next result e = t) ↔
      Advances rt s claim result type occurredAt extra t := by
  simp only [commitState_ok, and_assoc]
  constructor
  · rintro ⟨_, hs, rfl, e, he, rfl⟩
    exact ⟨hs, e, he, rfl⟩
  · rintro ⟨hs, e, he, rfl⟩
    exact ⟨_, hs, rfl, e, he, rfl⟩

def applyDigest (rt : Runtime) (claim : ResourceClaimRequest) : String := sha256 rt (canonicalJson rt claim.toValue)

def cancelDigest (rt : Runtime) (claim : ResourceClaimState) : String :=
  sha256 rt (canonicalJson rt (cancelPayload claim))

def deleteDigest (rt : Runtime) (claim : ResourceClaimState)
    (approvalEvidenceRef finalizationEvidenceRef : String) : String :=
  sha256 rt (canonicalJson rt (deletePayload claim approvalEvidenceRef finalizationEvidenceRef))

theorem applyResourceClaim_ok {context : BrokerMutationContext} {v : Value}
    {t : ResourceBrokerTransition ResourceClaimState} :
    applyResourceClaim rt s rev context v = .ok t ↔ StateOk s ∧ s.revision = rev ∧
      ∃ claim, parseResourceClaimRequest v = .ok claim ∧
        ((∃ c, Answers s context .apply (applyDigest rt claim) c ∧ t = replayTransition s c) ∨
          (assertAdvance claim (findClaim s claim.claimId) = .ok () ∧
            Commits rt s context .apply (applyDigest rt claim) claim.tenantId claim.claimId
              (nextClaim claim (findClaim s claim.claimId)) .claimApplied t)) := by
  unfold applyResourceClaim
  simp only [bind_ok, checkedState_ok, and_assoc, exists_eq_left]
  refine and_congr_right fun _ => and_congr_right fun _ => exists_congr fun claim =>
    and_congr_right fun _ => ?_
  exact replay_or_fresh.trans (or_congr Iff.rfl commits_iff)

theorem cancelResourceClaim_ok {context : BrokerMutationContext}
    {t : ResourceBrokerTransition ResourceClaimState} :
    cancelResourceClaim rt s rev context = .ok t ↔ StateOk s ∧ s.revision = rev ∧
      ∃ claim, findClaim s context.resourceId = some claim ∧
        ((∃ c, Answers s context .cancel (cancelDigest rt claim) c ∧ t = replayTransition s c) ∨
          ([ResourceClaimPhase.pending, .reconciling, .failed, .drifted].contains claim.phase = true ∧
            Commits rt s context .cancel (cancelDigest rt claim) claim.tenantId claim.claimId
              (cancelledClaim claim context)
              (if claim.phase == .reconciling then .cancellationRequested else .claimCancelled) t)) := by
  unfold cancelResourceClaim
  simp only [bind_ok, checkedState_ok, requireClaim_ok, and_assoc, exists_eq_left]
  refine and_congr_right fun _ => and_congr_right fun _ => exists_congr fun claim =>
    and_congr_right fun _ => ?_
  exact replay_or_fresh.trans (or_congr Iff.rfl (commits_iff.trans (and_congr throwUnless_ok Iff.rfl)))

theorem requestResourceClaimDeletion_ok {context : BrokerMutationContext} {approval finalization : String}
    {t : ResourceBrokerTransition ResourceClaimState} :
    requestResourceClaimDeletion rt s rev context approval finalization = .ok t ↔
      StateOk s ∧ s.revision = rev ∧ ∃ claim, findClaim s context.resourceId = some claim ∧
        isReference ["evidence"] approval = true ∧ isReference ["evidence", "snapshot"] finalization = true ∧
        ((∃ c, Answers s context .delete (deleteDigest rt claim approval finalization) c ∧
            t = replayTransition s c) ∨
          ((claim.phase == .available || claim.phase == .cancelled) = true ∧
            Commits rt s context .delete (deleteDigest rt claim approval finalization) claim.tenantId
              claim.claimId (deletingClaim claim context approval finalization) .deletionRequested t)) := by
  unfold requestResourceClaimDeletion
  simp only [bind_ok, checkedState_ok, requireClaim_ok, reference_string, and_assoc, exists_eq_left]
  refine and_congr_right fun _ => and_congr_right fun _ => exists_congr fun claim =>
    and_congr_right fun _ => and_congr_right fun _ => and_congr_right fun _ => ?_
  exact replay_or_fresh.trans (or_congr Iff.rfl (commits_iff.trans (and_congr throwUnless_ok Iff.rfl)))

/-- The guards of a lease, before its expiry is written. -/
structure LeaseGuard (s : ResourceBrokerState) (args : LeaseArgs) (claim : ResourceClaimState)
    (duration : ℤ) : Prop where
  found : findClaim s args.claimId = some claim
  identity : isIdentifier args.providerId = true
  verified : args.workloadIdentityVerified = true
  occurredAt : isTimestamp args.occurredAt = true
  duration : leaseSeconds args.leaseDurationSeconds = some duration
  capable : ∀ c ∈ claim.requiredProviderCapabilities, c ∈ args.providerCapabilities
  inactive : timeLT (dateParse args.occurredAt) (claim.lease.bind fun l => dateParse l.expiresAt) = false
  eligible : eligible claim = true
  attempts : nextAttempt claim ≤ claim.lifecycle.maxReconcileAttempts

theorem leaseResourceClaim_ok {args : LeaseArgs} {t : ResourceBrokerTransition ResourceProviderLease} :
    leaseResourceClaim rt s rev args = .ok t ↔ StateOk s ∧ s.revision = rev ∧
      ∃ claim duration expiresAt, LeaseGuard s args claim duration ∧
        toISOString ((dateParse args.occurredAt).map fun now => now + duration * 1000) = .ok expiresAt ∧
        Advances rt s (leasedClaim claim (issuedLease rt claim args (s.revision + 1) expiresAt))
          (issuedLease rt claim args (s.revision + 1) expiresAt) .providerLeased args.occurredAt
          (byProvider args.providerId
            (some (issuedLease rt claim args (s.revision + 1) expiresAt).fenceToken)) t := by
  unfold leaseResourceClaim
  simp only [bind_ok, checkedState_ok, requireClaim_ok, providerIdentity_ok, exists_unit, timestamp, matching_string,
    and_assoc, exists_eq_left]
  refine and_congr_right fun _ => and_congr_right fun _ => ?_
  constructor
  · rintro ⟨claim, hf, hid, hv, ho, ht⟩
    cases hd : leaseSeconds args.leaseDurationSeconds with
    | none => rw [hd] at ht; cases ht
    | some duration =>
      rw [hd] at ht
      simp only [bind_ok, pure_ok, throwUnless_ok, exists_unit, List.isEmpty_iff, List.filter_eq_nil_iff,
        Bool.not_eq_true', decide_eq_true_eq, advances_iff] at ht
      obtain ⟨hcap, hact, hel, hatt, expiresAt, hexp, hadv⟩ := ht
      refine ⟨claim, duration, expiresAt, ⟨hf, hid, hv, ho, hd, fun c hc => ?_, hact, hel, hatt⟩, hexp, hadv⟩
      simpa using hcap c hc
  · rintro ⟨claim, duration, expiresAt, hg, hexp, hadv⟩
    refine ⟨claim, hg.found, hg.identity, hg.verified, hg.occurredAt, ?_⟩
    rw [hg.duration]
    simp only [bind_ok, pure_ok, throwUnless_ok, exists_unit, List.isEmpty_iff, List.filter_eq_nil_iff,
      Bool.not_eq_true', decide_eq_true_eq, advances_iff]
    refine ⟨fun c hc => ?_, hg.inactive, hg.eligible, hg.attempts, expiresAt, hexp, hadv⟩
    simpa using hg.capable c hc

theorem completeResourceClaim_ok {args : ProviderArgs} {observed ref : String}
    {outputs : List ResourceBrokerOutput} {t : ResourceBrokerTransition ResourceClaimState} :
    completeResourceClaim rt s rev args observed ref outputs = .ok t ↔ StateOk s ∧ s.revision = rev ∧
      ∃ claim, (∃ lease, Presents s args .reconciling claim lease) ∧ isHexDigest observed = true ∧
        observed = claim.desiredStateDigest ∧ isReference ["provider"] ref = true ∧
        validateOutputs outputs = .ok () ∧ (!outputs.isEmpty) = true ∧
        Advances rt s (availableClaim claim ref outputs) (availableClaim claim ref outputs)
          .claimAvailable args.occurredAt (byProvider args.providerId (some args.fenceToken)) t := by
  unfold completeResourceClaim
  simp only [bind_ok, pure_ok, checkedState_ok, providerClaim_ok, digest, matching_string, reference_string,
    throwUnless_ok, exists_unit, and_assoc, exists_eq_left, beq_iff_eq, advances_iff]

theorem failResourceClaim_ok {args : ProviderArgs} {code message : String} {retryable : Bool}
    {t : ResourceBrokerTransition ResourceClaimState} :
    failResourceClaim rt s rev args code message retryable = .ok t ↔ StateOk s ∧ s.revision = rev ∧
      ∃ claim, (∃ lease, Presents s args .reconciling claim lease) ∧ isReasonCode code = true ∧
        isSafeMessage message = true ∧ isTimestamp args.occurredAt = true ∧
        Advances rt s (failedClaim claim code message retryable args.occurredAt)
          (failedClaim claim code message retryable args.occurredAt) .claimFailed args.occurredAt
          (byProvider args.providerId (some args.fenceToken)) t := by
  unfold failResourceClaim
  simp only [bind_ok, pure_ok, checkedState_ok, providerClaim_ok, reasonCode, timestamp, matching_string,
    safeMessage_string, boolean_bool, and_assoc, exists_eq_left, advances_iff]

theorem reportResourceClaimDrift_ok {claimId providerId : String} {verified : Bool}
    {observed occurredAt : String} {t : ResourceBrokerTransition ResourceClaimState} :
    reportResourceClaimDrift rt s rev claimId providerId verified observed occurredAt = .ok t ↔
      StateOk s ∧ s.revision = rev ∧ ∃ claim, findClaim s claimId = some claim ∧
        isIdentifier providerId = true ∧ verified = true ∧ claim.phase = .available ∧
        isHexDigest observed = true ∧ observed ≠ claim.desiredStateDigest ∧ isTimestamp occurredAt = true ∧
        Advances rt s (driftedClaim claim observed occurredAt) (driftedClaim claim observed occurredAt)
          .claimDrifted occurredAt (byProvider providerId none) t := by
  unfold reportResourceClaimDrift
  simp only [bind_ok, pure_ok, checkedState_ok, requireClaim_ok, providerIdentity_ok, digest, timestamp,
    matching_string, throwUnless_ok, exists_unit, and_assoc, exists_eq_left, beq_iff_eq, bne_iff_ne,
    advances_iff]

theorem acknowledgeResourceClaimCancellation_ok {args : ProviderArgs} {cleanup : String}
    {t : ResourceBrokerTransition ResourceClaimState} :
    acknowledgeResourceClaimCancellation rt s rev args cleanup = .ok t ↔ StateOk s ∧ s.revision = rev ∧
      ∃ claim, (∃ lease, Presents s args .cancelling claim lease) ∧ isReference ["evidence"] cleanup = true ∧
        ∃ cancellation, claim.cancellation = some cancellation ∧
        Advances rt s (cleanedClaim claim cancellation cleanup) (cleanedClaim claim cancellation cleanup)
          .claimCancelled args.occurredAt (byProvider args.providerId (some args.fenceToken)) t := by
  unfold acknowledgeResourceClaimCancellation
  simp only [bind_ok, checkedState_ok, providerClaim_ok, reference_string, and_assoc, exists_eq_left]
  refine and_congr_right fun _ => and_congr_right fun _ => exists_congr fun claim =>
    and_congr_right fun _ => and_congr_right fun _ => ?_
  cases claim.cancellation with
  | none => simp [throw, throwThe, MonadExceptOf.throw]
  | some cancellation =>
    simp only [bind_ok, pure_ok, advances_iff, Option.some.injEq, exists_eq_left']

theorem completeResourceClaimDeletion_ok {args : ProviderArgs} {finalization : String}
    {t : ResourceBrokerTransition ResourceClaimState} :
    completeResourceClaimDeletion rt s rev args finalization = .ok t ↔ StateOk s ∧ s.revision = rev ∧
      ∃ claim, (∃ lease, Presents s args .deleting claim lease) ∧
        isReference ["evidence", "snapshot"] finalization = true ∧
        some finalization = claim.deletion.map (fun d => d.finalizationEvidenceRef) ∧
        Advances rt s (deletedClaim claim) (deletedClaim claim) .claimDeleted args.occurredAt
          (byProvider args.providerId (some args.fenceToken)) t := by
  unfold completeResourceClaimDeletion
  simp only [bind_ok, pure_ok, checkedState_ok, providerClaim_ok, reference_string, throwUnless_ok,
    exists_unit, and_assoc, exists_eq_left, beq_iff_eq, advances_iff]

/-! ## Calls -/

inductive BrokerCall
  | apply (context : BrokerMutationContext) (claim : Value)
  | cancel (context : BrokerMutationContext)
  | delete (context : BrokerMutationContext) (approvalEvidenceRef finalizationEvidenceRef : String)
  | lease (args : LeaseArgs)
  | complete (args : ProviderArgs) (observedStateDigest providerResourceRef : String)
      (outputs : List ResourceBrokerOutput)
  | fail (args : ProviderArgs) (code message : String) (retryable : Bool)
  | drift (claimId providerId : String) (workloadIdentityVerified : Bool)
      (observedStateDigest occurredAt : String)
  | acknowledge (args : ProviderArgs) (cleanupEvidenceRef : String)
  | completeDeletion (args : ProviderArgs) (finalizationEvidenceRef : String)

inductive BrokerResult
  | claim (c : ResourceClaimState)
  | lease (l : ResourceProviderLease)

def ResourceBrokerTransition.mapResult {T U : Type} (f : T → U) (t : ResourceBrokerTransition T) :
    ResourceBrokerTransition U :=
  { state := t.state, result := f t.result, events := t.events, replayed := t.replayed }

def BrokerCall.exec (rt : Runtime) (state : ResourceBrokerState) (expectedRevision : ℤ) :
    BrokerCall → Except String (ResourceBrokerTransition BrokerResult)
  | .apply context claim =>
    (applyResourceClaim rt state expectedRevision context claim).map (·.mapResult .claim)
  | .cancel context => (cancelResourceClaim rt state expectedRevision context).map (·.mapResult .claim)
  | .delete context approval finalization =>
    (requestResourceClaimDeletion rt state expectedRevision context approval finalization).map
      (·.mapResult .claim)
  | .lease args => (leaseResourceClaim rt state expectedRevision args).map (·.mapResult .lease)
  | .complete args observed ref outputs =>
    (completeResourceClaim rt state expectedRevision args observed ref outputs).map (·.mapResult .claim)
  | .fail args code message retryable =>
    (failResourceClaim rt state expectedRevision args code message retryable).map (·.mapResult .claim)
  | .drift claimId providerId verified observed occurredAt =>
    (reportResourceClaimDrift rt state expectedRevision claimId providerId verified observed occurredAt).map
      (·.mapResult .claim)
  | .acknowledge args cleanup =>
    (acknowledgeResourceClaimCancellation rt state expectedRevision args cleanup).map (·.mapResult .claim)
  | .completeDeletion args finalization =>
    (completeResourceClaimDeletion rt state expectedRevision args finalization).map (·.mapResult .claim)

/-- The operation and the context of a mutation. -/
def BrokerCall.mutation : BrokerCall → Option (BrokerMutationOperation × BrokerMutationContext)
  | .apply context _ => some (.apply, context)
  | .cancel context => some (.cancel, context)
  | .delete context _ _ => some (.delete, context)
  | _ => none

/-- A call that succeeded, with the revision it was sent against and its answer. -/
structure BrokerLabel where
  expectedRevision : ℤ
  call : BrokerCall
  transition : ResourceBrokerTransition BrokerResult

/-- The broker's step: a call succeeds and its state replaces the stored one. -/
def BrokerStep (rt : Runtime) (s : ResourceBrokerState) (l : BrokerLabel) (s' : ResourceBrokerState) : Prop :=
  l.call.exec rt s l.expectedRevision = .ok l.transition ∧ s' = l.transition.state

/-! ## What a call does -/

/-- The claim a committed call leaves behind, and the guards it passed. -/
inductive ClaimEffect (rt : Runtime) (s : ResourceBrokerState) : BrokerCall → ResourceClaimState → Prop
  | applied {context : BrokerMutationContext} {v : Value} {claim : ResourceClaimRequest}
      (parsed : parseResourceClaimRequest v = .ok claim)
      (advance : assertAdvance claim (findClaim s claim.claimId) = .ok ())
      (authorized : ContextOk context .apply claim.tenantId claim.claimId) :
      ClaimEffect rt s (.apply context v) (nextClaim claim (findClaim s claim.claimId))
  | cancelled {context : BrokerMutationContext} {claim : ResourceClaimState}
      (found : findClaim s context.resourceId = some claim)
      (phase : [ResourceClaimPhase.pending, .reconciling, .failed, .drifted].contains claim.phase = true)
      (authorized : ContextOk context .cancel claim.tenantId claim.claimId) :
      ClaimEffect rt s (.cancel context) (cancelledClaim claim context)
  | deleting {context : BrokerMutationContext} {approval finalization : String} {claim : ResourceClaimState}
      (found : findClaim s context.resourceId = some claim)
      (phase : (claim.phase == .available || claim.phase == .cancelled) = true)
      (authorized : ContextOk context .delete claim.tenantId claim.claimId) :
      ClaimEffect rt s (.delete context approval finalization)
        (deletingClaim claim context approval finalization)
  | leased {args : LeaseArgs} {claim : ResourceClaimState} {duration : ℤ} {expiresAt : String}
      (guards : LeaseGuard s args claim duration)
      (expires : toISOString ((dateParse args.occurredAt).map fun now => now + duration * 1000) =
        .ok expiresAt) :
      ClaimEffect rt s (.lease args)
        (leasedClaim claim (issuedLease rt claim args (s.revision + 1) expiresAt))
  | completed {args : ProviderArgs} {observed ref : String} {outputs : List ResourceBrokerOutput}
      {claim : ResourceClaimState} {lease : ResourceProviderLease}
      (presents : Presents s args .reconciling claim lease) (outputs_ne : outputs ≠ []) :
      ClaimEffect rt s (.complete args observed ref outputs) (availableClaim claim ref outputs)
  | failed {args : ProviderArgs} {code message : String} {retryable : Bool}
      {claim : ResourceClaimState} {lease : ResourceProviderLease}
      (presents : Presents s args .reconciling claim lease) :
      ClaimEffect rt s (.fail args code message retryable)
        (failedClaim claim code message retryable args.occurredAt)
  | drifted {claimId providerId observed occurredAt : String} {verified : Bool} {claim : ResourceClaimState}
      (found : findClaim s claimId = some claim) (phase : claim.phase = .available) :
      ClaimEffect rt s (.drift claimId providerId verified observed occurredAt)
        (driftedClaim claim observed occurredAt)
  | acknowledged {args : ProviderArgs} {cleanup : String} {claim : ResourceClaimState}
      {lease : ResourceProviderLease} {cancellation : ResourceClaimCancellation}
      (presents : Presents s args .cancelling claim lease)
      (requested : claim.cancellation = some cancellation) :
      ClaimEffect rt s (.acknowledge args cleanup) (cleanedClaim claim cancellation cleanup)
  | deleted {args : ProviderArgs} {finalization : String} {claim : ResourceClaimState}
      {lease : ResourceProviderLease} (presents : Presents s args .deleting claim lease) :
      ClaimEffect rt s (.completeDeletion args finalization) (deletedClaim claim)

/-- The answer a committed call gives: the new lease, or the new claim. -/
def answerOf (call : BrokerCall) (claim : ResourceClaimState) : Option BrokerResult :=
  match call with
  | .lease _ => claim.lease.map .lease
  | _ => some (.claim claim)

/-- A call commits: one claim is replaced, the revision grows by one, and a mutation leaves
its record and redeems its capability. -/
structure Committed (rt : Runtime) (s : ResourceBrokerState) (call : BrokerCall)
    (t : ResourceBrokerTransition BrokerResult) (claim : ResourceClaimState) : Prop where
  effect : ClaimEffect rt s call claim
  claims : t.state.claims = upsertClaim rt s.claims claim
  revision : t.state.revision = s.revision + 1
  replayed : t.replayed = false
  answer : answerOf call claim = some t.result
  checked : StateOk t.state
  unmutated : call.mutation = none → t.state.idempotencyRecords = s.idempotencyRecords ∧
    t.state.redeemedCapabilityIds = s.redeemedCapabilityIds
  mutated : ∀ operation context, call.mutation = some (operation, context) →
    existingRecord s context operation = none ∧ context.operation = operation ∧
      context.capabilityId ∉ s.redeemedCapabilityIds ∧
      t.state.redeemedCapabilityIds = s.redeemedCapabilityIds ++ [context.capabilityId] ∧
      ∃ payloadDigest, t.state.idempotencyRecords =
        s.idempotencyRecords ++ [mutationRecord context payloadDigest t.state.revision]

/-- A call repeats the answer of a committed mutation. -/
structure Replayed (s : ResourceBrokerState) (call : BrokerCall)
    (t : ResourceBrokerTransition BrokerResult) : Prop where
  state : t.state = s
  replayed : t.replayed = true
  events : t.events = []
  answered : ∃ operation context payloadDigest claim, call.mutation = some (operation, context) ∧
    Answers s context operation payloadDigest claim ∧ t.result = .claim claim

theorem map_ok {α β : Type} {x : Except String α} {f : α → β} {b : β} :
    x.map f = .ok b ↔ ∃ a, x = .ok a ∧ f a = b := by
  cases x <;> simp [Except.map]

theorem Commits.committed {context : BrokerMutationContext} {operation : BrokerMutationOperation}
    {payloadDigest tenantId claimId : String} {claim : ResourceClaimState} {type : ResourceBrokerEventType}
    {t : ResourceBrokerTransition ResourceClaimState} {call : BrokerCall}
    (h : Commits rt s context operation payloadDigest tenantId claimId claim type t)
    (hm : call.mutation = some (operation, context)) (he : ClaimEffect rt s call claim) :
    Committed rt s call (t.mapResult .claim) claim := by
  obtain ⟨e, -, rfl⟩ := h.answer
  refine ⟨he, rfl, rfl, rfl, ?_, h.checked, fun hn => absurd (hn.symm.trans hm) nofun, ?_⟩
  · cases call <;> first | rfl | cases hm
  · intro operation' context' hm'
    obtain ⟨rfl, rfl⟩ := Prod.mk.inj (Option.some.inj (hm.symm.trans hm'))
    exact ⟨h.fresh, h.authorized.operation, h.unredeemed, rfl, payloadDigest, rfl⟩

theorem Advances.committed {T : Type} {claim : ResourceClaimState} {result : T}
    {type : ResourceBrokerEventType} {occurredAt : String} {extra : ResourceBrokerEventExtra}
    {t : ResourceBrokerTransition T} {call : BrokerCall} {f : T → BrokerResult}
    (h : Advances rt s claim result type occurredAt extra t) (hm : call.mutation = none)
    (he : ClaimEffect rt s call claim) (ha : answerOf call claim = some (f result)) :
    Committed rt s call (t.mapResult f) claim := by
  obtain ⟨e, -, rfl⟩ := h.answer
  exact ⟨he, rfl, rfl, rfl, ha, h.checked, fun _ => ⟨rfl, rfl⟩,
    fun _ _ hm' => absurd (hm.symm.trans hm') nofun⟩

theorem replayTransition_replayed {context : BrokerMutationContext} {operation : BrokerMutationOperation}
    {payloadDigest : String} {claim : ResourceClaimState} {call : BrokerCall}
    (h : Answers s context operation payloadDigest claim) (hm : call.mutation = some (operation, context)) :
    Replayed s call ((replayTransition s claim).mapResult .claim) :=
  ⟨rfl, rfl, rfl, operation, context, payloadDigest, claim, hm, h, rfl⟩

/-- **A successful call replays or commits**, on a state the check accepts. -/
theorem exec_cases {call : BrokerCall} {t : ResourceBrokerTransition BrokerResult}
    (h : call.exec rt s rev = .ok t) :
    StateOk s ∧ s.revision = rev ∧ (Replayed s call t ∨ ∃ claim, Committed rt s call t claim) := by
  cases call with
  | apply context v =>
    obtain ⟨t, ht, rfl⟩ := map_ok.1 h
    obtain ⟨hs, hr, claim, hp, ⟨c, ha, rfl⟩ | ⟨hadv, hc⟩⟩ := applyResourceClaim_ok.1 ht
    · exact ⟨hs, hr, Or.inl (replayTransition_replayed ha rfl)⟩
    · exact ⟨hs, hr, Or.inr ⟨_, hc.committed rfl (.applied hp hadv hc.authorized)⟩⟩
  | cancel context =>
    obtain ⟨t, ht, rfl⟩ := map_ok.1 h
    obtain ⟨hs, hr, claim, hf, ⟨c, ha, rfl⟩ | ⟨hph, hc⟩⟩ := cancelResourceClaim_ok.1 ht
    · exact ⟨hs, hr, Or.inl (replayTransition_replayed ha rfl)⟩
    · exact ⟨hs, hr, Or.inr ⟨_, hc.committed rfl (.cancelled hf hph hc.authorized)⟩⟩
  | delete context approval finalization =>
    obtain ⟨t, ht, rfl⟩ := map_ok.1 h
    obtain ⟨hs, hr, claim, hf, -, -, ⟨c, ha, rfl⟩ | ⟨hph, hc⟩⟩ := requestResourceClaimDeletion_ok.1 ht
    · exact ⟨hs, hr, Or.inl (replayTransition_replayed ha rfl)⟩
    · exact ⟨hs, hr, Or.inr ⟨_, hc.committed rfl (.deleting hf hph hc.authorized)⟩⟩
  | lease args =>
    obtain ⟨t, ht, rfl⟩ := map_ok.1 h
    obtain ⟨hs, hr, claim, duration, expiresAt, hg, hexp, hadv⟩ := leaseResourceClaim_ok.1 ht
    exact ⟨hs, hr, Or.inr ⟨_, hadv.committed rfl (.leased hg hexp) rfl⟩⟩
  | complete args observed ref outputs =>
    obtain ⟨t, ht, rfl⟩ := map_ok.1 h
    obtain ⟨hs, hr, claim, ⟨lease, hp⟩, -, -, -, -, hne, hadv⟩ := completeResourceClaim_ok.1 ht
    have hout : outputs ≠ [] := by simpa using hne
    exact ⟨hs, hr, Or.inr ⟨_, hadv.committed rfl (.completed hp hout) rfl⟩⟩
  | fail args code message retryable =>
    obtain ⟨t, ht, rfl⟩ := map_ok.1 h
    obtain ⟨hs, hr, claim, ⟨lease, hp⟩, -, -, -, hadv⟩ := failResourceClaim_ok.1 ht
    exact ⟨hs, hr, Or.inr ⟨_, hadv.committed rfl (.failed hp) rfl⟩⟩
  | drift claimId providerId verified observed occurredAt =>
    obtain ⟨t, ht, rfl⟩ := map_ok.1 h
    obtain ⟨hs, hr, claim, hf, -, -, hph, -, -, -, hadv⟩ := reportResourceClaimDrift_ok.1 ht
    exact ⟨hs, hr, Or.inr ⟨_, hadv.committed rfl (.drifted hf hph) rfl⟩⟩
  | acknowledge args cleanup =>
    obtain ⟨t, ht, rfl⟩ := map_ok.1 h
    obtain ⟨hs, hr, claim, ⟨lease, hp⟩, -, cancellation, hc, hadv⟩ :=
      acknowledgeResourceClaimCancellation_ok.1 ht
    exact ⟨hs, hr, Or.inr ⟨_, hadv.committed rfl (.acknowledged hp hc) rfl⟩⟩
  | completeDeletion args finalization =>
    obtain ⟨t, ht, rfl⟩ := map_ok.1 h
    obtain ⟨hs, hr, claim, ⟨lease, hp⟩, -, -, hadv⟩ := completeResourceClaimDeletion_ok.1 ht
    exact ⟨hs, hr, Or.inr ⟨_, hadv.committed rfl (.deleted hp) rfl⟩⟩

end SecureSaas.Broker
