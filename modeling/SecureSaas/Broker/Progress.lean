import SecureSaas.Broker.Lifecycle

/-!
# Which claims can still be worked on

A claim that is not deleted should always have some call that succeeds on it. For most phases
that is a cancellation or a deletion request; a claim that is being cancelled or deleted waits
for the provider that holds its lease.

* `recoverable_of`: each phase's way out.
* `recoverable_only`: a claim that is being cancelled is lost once its lease has expired, and
  one that is being deleted once its attempts are used up as well.
* `recovers_iff`: so those are exactly the stuck claims.
-/

namespace SecureSaas.Broker

open Js

variable {rt : Runtime} {s : ResourceBrokerState}

/-! ## Calls on a claim -/

/-- The claim a call works on; a drift report works on none. -/
def BrokerCall.worksOn : BrokerCall → Option String
  | .apply _ v => (parseResourceClaimRequest v).toOption.map fun c => c.claimId
  | .cancel context => some context.resourceId
  | .delete context _ _ => some context.resourceId
  | .lease args => some args.claimId
  | .complete args _ _ _ => some args.claimId
  | .fail args _ _ _ => some args.claimId
  | .drift _ _ _ _ _ => none
  | .acknowledge args _ => some args.claimId
  | .completeDeletion args _ => some args.claimId

def BrokerCall.occurredAt : BrokerCall → String
  | .apply context _ => context.occurredAt
  | .cancel context => context.occurredAt
  | .delete context _ _ => context.occurredAt
  | .lease args => args.occurredAt
  | .complete args _ _ _ => args.occurredAt
  | .fail args _ _ _ => args.occurredAt
  | .drift _ _ _ _ occurredAt => occurredAt
  | .acknowledge args _ => args.occurredAt
  | .completeDeletion args _ => args.occurredAt

/-- The call works on this claim at time `t` or later, with a fresh verified capability where
it needs one, and succeeds. -/
structure Recovers (rt : Runtime) (s : ResourceBrokerState) (claimId : String) (t : ℤ)
    (call : BrokerCall) : Prop where
  worksOn : call.worksOn = some claimId
  occurred : ∃ now, dateParse call.occurredAt = some now ∧ t ≤ now
  verified : ∀ operation context, call.mutation = some (operation, context) →
    context.capabilityVerified = true ∧ context.capabilityId ∉ s.redeemedCapabilityIds
  succeeds : ∃ transition, call.exec rt s s.revision = .ok transition

/-- What an actor and a provider need to make a new call. -/
structure Credentials where
  actorId : String
  capabilityId : String
  idempotencyKey : String
  providerId : String

structure Credentials.Fresh (who : Credentials) (s : ResourceBrokerState) : Prop where
  actorId : isIdentifier who.actorId = true
  capabilityId : isIdentifier who.capabilityId = true
  idempotencyKey : isIdentifier who.idempotencyKey = true
  providerId : isIdentifier who.providerId = true
  unredeemed : who.capabilityId ∉ s.redeemedCapabilityIds
  unused : ∀ r ∈ s.idempotencyRecords, r.key ≠ who.idempotencyKey

/-- The lease has not expired at time `t`. -/
def LeaseLive (c : ResourceClaimState) (t : ℤ) : Prop :=
  ∃ lease expires, c.lease = some lease ∧ dateParse lease.expiresAt = some expires ∧ t ≤ expires

/-- Some timestamp names a time that is not before `t`. -/
def Nameable (t : ℤ) : Prop := ∃ text now, isTimestamp text = true ∧ dateParse text = some now ∧ t ≤ now

/-- A claim that is being cancelled needs its lease; one that is being deleted needs its lease
or another attempt, with a second left for the new lease. -/
structure RecoverableAt (c : ResourceClaimState) (t : ℤ) : Prop where
  nameable : Nameable t
  cancelling : c.phase = .cancelling → LeaseLive c t
  deleting : c.phase = .deleting → LeaseLive c t ∨
    (nextAttempt c ≤ c.lifecycle.maxReconcileAttempts ∧ t + 1000 ≤ maxIsoTime)

/-! ## The ways out -/

/-- The first time a timestamp can name that is not before `t`. -/
def timeFrom (t : ℤ) : ℤ := max t minIsoTime

theorem timeFrom_range {t : ℤ} (ht : t ≤ maxIsoTime) : minIsoTime ≤ timeFrom t ∧ timeFrom t ≤ maxIsoTime := by
  unfold timeFrom minIsoTime maxIsoTime at *
  omega

theorem timeFrom_timestamp {t : ℤ} (ht : t ≤ maxIsoTime) : isTimestamp (isoString (timeFrom t)) = true ∧
    dateParse (isoString (timeFrom t)) = some (timeFrom t) := by
  obtain ⟨h1, h2⟩ := timeFrom_range ht
  have hparse := dateParse_isoString h1 h2
  exact ⟨by simp [isTimestamp, isTimestampText_isoString h1 h2, hparse], hparse⟩

/-- A fresh context for an operation on a claim. -/
def freshContext (who : Credentials) (operation : BrokerMutationOperation) (c : ResourceClaimState)
    (occurredAt : String) : BrokerMutationContext where
  actorId := who.actorId
  tenantId := c.tenantId
  operation := operation
  resourceId := c.claimId
  capabilityId := who.capabilityId
  capabilityVerified := true
  idempotencyKey := who.idempotencyKey
  occurredAt := occurredAt

theorem freshContext_ok {who : Credentials} (hw : who.Fresh s) (operation : BrokerMutationOperation)
    (c : ResourceClaimState) {occurredAt : String} (hat : isTimestamp occurredAt = true) :
    ContextOk (freshContext who operation c occurredAt) operation c.tenantId c.claimId ∧
      existingRecord s (freshContext who operation c occurredAt) operation = none := by
  refine ⟨⟨rfl, rfl, hw.actorId, hw.capabilityId, hw.idempotencyKey, hat, rfl, rfl⟩, ?_⟩
  rw [existingRecord_none]
  rintro r hr ⟨-, -, -, hkey⟩
  exact hw.unused r hr hkey

/-- What the holder of the claim's lease presents. -/
def holderArgs (c : ResourceClaimState) (lease : ResourceProviderLease) (occurredAt : String) :
    ProviderArgs where
  claimId := c.claimId
  providerId := lease.providerId
  generation := c.generation
  fenceToken := lease.fenceToken
  workloadIdentityVerified := true
  occurredAt := occurredAt

/-- The holder may present the lease up to the moment it expires. -/
theorem holderArgs_presents (hs : StateOk s) {c : ResourceClaimState} (hc : c ∈ s.claims)
    (hl : Lifecycle c) {lease : ResourceProviderLease} (hlease : c.lease = some lease) {expires : ℤ}
    (hexp : dateParse lease.expiresAt = some expires) :
    Presents s (holderArgs c lease lease.expiresAt) c.phase c lease := by
  have hwf := (hs.claims c hc).wellFormed.lease lease hlease
  refine ⟨hs.findClaim_iff.2 ⟨hc, rfl⟩, hwf.providerId, rfl, hwf.expiresAt, rfl, hlease, rfl,
    (hl.lease_current lease hlease).1, rfl, rfl, ?_⟩
  show timeLT (dateParse lease.expiresAt) (dateParse lease.expiresAt) = false
  rw [hexp]
  exact decide_eq_false (lt_irrefl _)

/-- A capable provider asks for the claim's lease, for one second. -/
def renewalArgs (c : ResourceClaimState) (who : Credentials) (t : ℤ) : LeaseArgs where
  claimId := c.claimId
  providerId := who.providerId
  providerCapabilities := c.requiredProviderCapabilities
  workloadIdentityVerified := true
  occurredAt := isoString (timeFrom t)
  leaseDurationSeconds := .int 1

/-- It may have it, when the claim is being deleted and the old lease has expired. -/
theorem renewal_guard (hs : StateOk s) {c : ResourceClaimState} (hc : c ∈ s.claims)
    (hphase : c.phase = .deleting) {who : Credentials} (hw : who.Fresh s) {t : ℤ} (ht : t ≤ maxIsoTime)
    (hdead : ¬ LeaseLive c t) (hattempt : nextAttempt c ≤ c.lifecycle.maxReconcileAttempts) :
    LeaseGuard s (renewalArgs c who t) c 1 := by
  obtain ⟨hat, hparse⟩ := timeFrom_timestamp ht
  refine ⟨hs.findClaim_iff.2 ⟨hc, rfl⟩, hw.providerId, rfl, hat, rfl, fun _ h => h, ?_, ?_, hattempt⟩
  · show timeLT (dateParse (isoString (timeFrom t))) _ = false
    rw [hparse]
    cases hlease : c.lease with
    | none => rfl
    | some lease =>
      simp only [Option.bind_some]
      cases hexp : dateParse lease.expiresAt with
      | none => rfl
      | some expires =>
        have : ¬ t ≤ expires := fun h => hdead ⟨lease, expires, hlease, hexp, h⟩
        refine decide_eq_false ?_
        unfold timeFrom
        omega
  · simp [eligible, hphase]

theorem nextAttempt_pos {c : ResourceClaimState} (hw : c.WellFormed) : 0 < nextAttempt c := by
  unfold nextAttempt
  cases hl : c.lease with
  | some lease =>
    have := (hw.lease lease hl).attempt
    simp
    omega
  | none =>
    cases hf : c.failure with
    | some failure =>
      have := (hw.failure failure hf).attempt
      simp
      omega
    | none => simp

/-- **Each phase has a way out**, under the condition on claims that are being cancelled or
deleted. -/
theorem recoverable_of (hs : StateOk s) (hrev : 0 ≤ s.revision) {c : ResourceClaimState} (hc : c ∈ s.claims)
    (hl : Lifecycle c) (hphase : c.phase ≠ .deleted) {t : ℤ} {who : Credentials} (hw : who.Fresh s)
    (hrec : RecoverableAt c t) : ∃ call, Recovers rt s c.claimId t call := by
  obtain ⟨text, now, hat, hnow, hle⟩ := hrec.nameable
  have hfind : findClaim s c.claimId = some c := hs.findClaim_iff.2 ⟨hc, rfl⟩
  by_cases hcancel : [ResourceClaimPhase.pending, .reconciling, .failed, .drifted].contains c.phase = true
  · -- work that has not finished is cancelled
    obtain ⟨hctx, hnew⟩ := freshContext_ok hw .cancel c hat
    obtain ⟨tr, htr, -⟩ := cancelResourceClaim_succeeds rt hs hrev hfind hcancel hctx hnew hw.unredeemed
    refine ⟨.cancel (freshContext who .cancel c _), rfl, ⟨now, hnow, hle⟩, ?_, _,
      map_ok.2 ⟨tr, htr, rfl⟩⟩
    rintro operation context ⟨⟩
    exact ⟨rfl, hw.unredeemed⟩
  by_cases hdelete : c.phase = .available ∨ c.phase = .cancelled
  · -- a settled claim is deleted
    have hdec : isReference ["evidence"] "evidence://approval" = true ∧
        isReference ["evidence", "snapshot"] "evidence://final" = true := by decide
    obtain ⟨happ, hfin⟩ := hdec
    obtain ⟨hctx, hnew⟩ := freshContext_ok hw .delete c hat
    obtain ⟨tr, htr, -⟩ := requestResourceClaimDeletion_succeeds rt hs hrev hfind hdelete happ hfin
      hctx hnew hw.unredeemed
    refine ⟨.delete (freshContext who .delete c _) _ _, rfl, ⟨now, hnow, hle⟩, ?_, _,
      map_ok.2 ⟨tr, htr, rfl⟩⟩
    rintro operation context ⟨⟩
    exact ⟨rfl, hw.unredeemed⟩
  by_cases hcancelling : c.phase = .cancelling
  · -- the holder of the lease acknowledges the cancellation
    obtain ⟨lease, expires, hlease, hexp, hle⟩ := hrec.cancelling hcancelling
    obtain ⟨cancellation, hk⟩ := Option.isSome_iff_exists.1 (hl.cancelling hcancelling)
    have hp := holderArgs_presents hs hc hl hlease hexp
    rw [hcancelling] at hp
    obtain ⟨tr, htr, -⟩ := acknowledgeResourceClaimCancellation_succeeds rt hs hp hk
      (show isReference ["evidence"] "evidence://cleanup" = true by decide)
    refine ⟨.acknowledge (holderArgs c lease lease.expiresAt) _, rfl, ⟨expires, hexp, hle⟩, ?_, _,
      map_ok.2 ⟨tr, htr, rfl⟩⟩
    rintro operation context ⟨⟩
  have hdeleting : c.phase = .deleting := by
    cases hp : c.phase <;> simp_all
  by_cases hlive : LeaseLive c t
  · -- the holder of the lease completes the deletion
    obtain ⟨lease, expires, hlease, hexp, hle⟩ := hlive
    obtain ⟨deletion, hd⟩ := Option.isSome_iff_exists.1 (hl.deletion (Or.inl hdeleting))
    have hp := holderArgs_presents hs hc hl hlease hexp
    rw [hdeleting] at hp
    obtain ⟨tr, htr, -⟩ := completeResourceClaimDeletion_succeeds rt hs hp hd
    refine ⟨.completeDeletion (holderArgs c lease lease.expiresAt) _, rfl, ⟨expires, hexp, hle⟩, ?_, _,
      map_ok.2 ⟨tr, htr, rfl⟩⟩
    rintro operation context ⟨⟩
  · -- another provider leases the claim
    obtain ⟨hattempt, hroom⟩ := (hrec.deleting hdeleting).resolve_left hlive
    have ht : t ≤ maxIsoTime := by omega
    obtain ⟨-, hparse⟩ := timeFrom_timestamp ht
    have hg := renewal_guard hs hc hdeleting hw ht hlive hattempt
    have hmax : timeFrom t + 1 * 1000 ≤ maxIsoTime := by
      unfold timeFrom minIsoTime maxIsoTime at *
      omega
    obtain ⟨tr, htr, -⟩ := leaseResourceClaim_succeeds rt hs hg (le_refl 1) hparse hmax
      (nextAttempt_pos (hs.claims c hc).wellFormed)
    refine ⟨.lease (renewalArgs c who t), rfl, ⟨timeFrom t, hparse, le_max_left _ _⟩, ?_, _,
      map_ok.2 ⟨tr, htr, rfl⟩⟩
    rintro operation context ⟨⟩

/-! ## No other way out -/

/-- A call with a fresh capability is not answered from a record. -/
theorem Recovers.committed (hs : StateOk s) {claimId : String} {t : ℤ} {call : BrokerCall}
    (h : Recovers rt s claimId t call) : ∃ tr claim, Committed rt s call tr claim := by
  obtain ⟨tr, htr⟩ := h.succeeds
  obtain ⟨-, -, hrep | ⟨claim, hcom⟩⟩ := exec_cases htr
  · obtain ⟨operation, context, payloadDigest, claim, hm, ⟨r, hr, -, hcap, -⟩, -⟩ := hrep.answered
    have hmem : r ∈ s.idempotencyRecords := List.mem_of_find?_eq_some hr
    exact absurd (hcap ▸ hs.redeemed r hmem) (h.verified operation context hm).2
  · exact ⟨tr, claim, hcom⟩

/-- A lease that was granted expires at a time a timestamp can name. -/
theorem Committed.lease_room {args : LeaseArgs} {tr : ResourceBrokerTransition BrokerResult}
    {c claim : ResourceClaimState} (hcom : Committed rt s (.lease args) tr claim)
    (hfind : findClaim s args.claimId = some c) {t now : ℤ} (hnow : dateParse args.occurredAt = some now)
    (hle : t ≤ now) : eligible c = true ∧ nextAttempt c ≤ c.lifecycle.maxReconcileAttempts ∧
      t + 1000 ≤ maxIsoTime := by
  have hok : ClaimOk claim := hcom.checked.claims claim (by rw [hcom.claims]; exact mem_upsertClaim.2 (Or.inl rfl))
  cases hcom.effect with
  | @leased _ d duration expiresAt hg hexp =>
    obtain rfl : c = d := Option.some.inj (hfind.symm.trans hg.found)
    refine ⟨hg.eligible, hg.attempts, ?_⟩
    have hdur : 1 ≤ duration := by
      have hd := hg.duration
      unfold leaseSeconds at hd
      split at hd
      · split at hd
        · rename_i hrange
          rw [← Option.some.inj hd]
          exact hrange.1
        · cases hd
      · cases hd
    rw [hnow] at hexp
    have hiso : isoString (now + duration * 1000) = expiresAt := by
      simp only [toISOString, Option.map_some] at hexp
      split at hexp
      · exact Except.ok.inj hexp
      · cases hexp
    -- the check of the new state reads the expiry back
    have hwf := (hok.wellFormed.lease _ rfl).expiresAt
    have htext : isTimestampText (isoString (now + duration * 1000)) = true := by
      rw [hiso]
      exact (Bool.and_eq_true_iff.1 hwf).1
    have := isoString_le htext
    omega

/-- The lease a provider presents has not expired when its call is made. -/
theorem Presents.live {args : ProviderArgs} {phase : ResourceClaimPhase} {c : ResourceClaimState}
    {lease : ResourceProviderLease} (hwf : c.WellFormed) (hp : Presents s args phase c lease) {t now : ℤ}
    (hnow : dateParse args.occurredAt = some now) (hle : t ≤ now) : LeaseLive c t := by
  have hts := (hwf.lease lease hp.held).expiresAt
  obtain ⟨expires, hexp⟩ := Option.isSome_iff_exists.1 (Bool.and_eq_true_iff.1 hts).2
  have hun := hp.unexpired
  rw [hexp, hnow] at hun
  have : ¬ expires < now := of_decide_eq_false hun
  exact ⟨lease, expires, hp.held, hexp, by omega⟩

/-- A call that works on a claim says when it occurs. -/
theorem ClaimEffect.timestamp {call : BrokerCall} {claim : ResourceClaimState} {claimId : String}
    (he : ClaimEffect rt s call claim) (hon : call.worksOn = some claimId) :
    isTimestamp call.occurredAt = true := by
  cases he with
  | applied _ _ hctx => exact hctx.occurredAt
  | cancelled _ _ hctx => exact hctx.occurredAt
  | deleting _ _ hctx => exact hctx.occurredAt
  | leased hg _ => exact hg.occurredAt
  | completed hp _ => exact hp.occurredAt
  | failed hp => exact hp.occurredAt
  | drifted => cases hon
  | acknowledged hp _ => exact hp.occurredAt
  | deleted hp => exact hp.occurredAt

/-- **Only those ways out**: a call that succeeds on a claim finds it recoverable. -/
theorem recoverable_only (hs : StateOk s) {c : ResourceClaimState} (hc : c ∈ s.claims) {t : ℤ}
    {call : BrokerCall} (h : Recovers rt s c.claimId t call) : RecoverableAt c t := by
  have hfind : findClaim s c.claimId = some c := hs.findClaim_iff.2 ⟨hc, rfl⟩
  have hwf := (hs.claims c hc).wellFormed
  have hsame : ∀ {id d}, findClaim s id = some d → id = c.claimId → d = c := fun hd hid =>
    Option.some.inj ((hid ▸ hd).symm.trans hfind)
  obtain ⟨tr, claim, hcom⟩ := h.committed hs
  obtain ⟨now, hnow, hle⟩ := h.occurred
  have hon := h.worksOn
  have hname : Nameable t := ⟨_, now, hcom.effect.timestamp hon, hnow, hle⟩
  cases hcom.effect with
  | @applied context v request hparse hadv _ =>
    -- a new generation waits until no work is active
    have hid : request.claimId = c.claimId := by
      simpa [BrokerCall.worksOn, hparse, Except.toOption] using hon
    rw [hid, hfind] at hadv
    simp only [assertAdvance, bind_ok, throwUnless_ok, exists_unit] at hadv
    obtain ⟨-, -, hactive⟩ := hadv
    refine ⟨hname, ?_, ?_⟩ <;> intro hp <;> simp [hp] at hactive
  | cancelled hf hphase _ =>
    obtain rfl := hsame hf (Option.some.inj hon)
    refine ⟨hname, ?_, ?_⟩ <;> intro hp <;> simp [hp] at hphase
  | deleting hf hphase _ =>
    obtain rfl := hsame hf (Option.some.inj hon)
    refine ⟨hname, ?_, ?_⟩ <;> intro hp <;> simp [hp] at hphase
  | leased hg _ =>
    obtain rfl := hsame hg.found (Option.some.inj hon)
    obtain ⟨heligible, hattempt, hroom⟩ := hcom.lease_room hg.found hnow hle
    refine ⟨hname, ?_, fun _ => Or.inr ⟨hattempt, hroom⟩⟩
    intro hp
    simp [eligible, hp] at heligible
  | completed hp _ =>
    obtain rfl := hsame hp.found (Option.some.inj hon)
    exact ⟨hname, fun _ => hp.live hwf hnow hle, fun _ => Or.inl (hp.live hwf hnow hle)⟩
  | failed hp =>
    obtain rfl := hsame hp.found (Option.some.inj hon)
    exact ⟨hname, fun _ => hp.live hwf hnow hle, fun _ => Or.inl (hp.live hwf hnow hle)⟩
  | drifted => cases hon
  | acknowledged hp _ =>
    obtain rfl := hsame hp.found (Option.some.inj hon)
    exact ⟨hname, fun _ => hp.live hwf hnow hle, fun _ => Or.inl (hp.live hwf hnow hle)⟩
  | deleted hp =>
    obtain rfl := hsame hp.found (Option.some.inj hon)
    exact ⟨hname, fun _ => hp.live hwf hnow hle, fun _ => Or.inl (hp.live hwf hnow hle)⟩

/-- **Exactly those claims are stuck**: in every reachable state and at every time, a claim that
is not deleted has a call that succeeds on it if and only if it is recoverable. -/
theorem recovers_iff (rt : Runtime) {s : ResourceBrokerState}
    (hr : Reaches (BrokerStep rt) createResourceBrokerState s) {c : ResourceClaimState} (hc : c ∈ s.claims)
    (hphase : c.phase ≠ .deleted) (t : ℤ) {who : Credentials} (hw : who.Fresh s) :
    (∃ call, Recovers rt s c.claimId t call) ↔ RecoverableAt c t := by
  obtain ⟨h, hr⟩ := hr
  obtain ⟨hs, hrev⟩ := run_checked hr
  constructor
  · rintro ⟨call, hcall⟩
    exact recoverable_only hs hc hcall
  · exact recoverable_of hs hrev hc (run_lifecycleOk hr c hc) hphase hw

/-! ## A claim that is stuck -/

def sampleWho : Credentials := ⟨"warden-deployer", "cap-2", "retry-2", "fake-provider"⟩

theorem sampleWho_fresh : sampleWho.Fresh (cancellingState rt) := by
  refine ⟨by decide, by decide, by decide, by decide, ?_, ?_⟩
  · show "cap-2" ∉ ["cap-apply-1", "cap-cancel-1"]
    decide
  · intro r hr
    have hkey : r.key ∈ ["apply-1", "cancel-1"] := List.mem_map_of_mem (f := fun r => r.key) hr
    intro h
    rw [h] at hkey
    revert hkey
    decide

/-- `recovers_iff` on the cancelled claim, a minute after it was cancelled. -/
theorem recovers_iff_cancelling :
    (∃ call, Recovers sampleRuntime (cancellingState sampleRuntime) "claim-a" 1784030580000 call) ↔
      RecoverableAt (sampleCancelling sampleRuntime) 1784030580000 :=
  recovers_iff sampleRuntime (sample_cancelling_run sampleRuntime) List.mem_cons_self (by decide)
    1784030580000 sampleWho_fresh

/-- The timestamps of a claim. -/
def timestamps (c : ResourceClaimState) : List String :=
  c.lease.toList.flatMap (fun l => [l.acquiredAt, l.expiresAt]) ++
    c.failure.toList.map (fun f => f.occurredAt) ++ c.drift.toList.map (fun d => d.detectedAt) ++
    c.deletion.toList.map (fun d => d.requestedAt) ++ c.cancellation.toList.map (fun k => k.requestedAt)

/-- No timestamp in the state is after `t`. -/
def Recorded (s : ResourceBrokerState) (t : ℤ) : Prop :=
  ∀ c ∈ s.claims, ∀ text ∈ timestamps c, ∀ now, dateParse text = some now → now ≤ t

/-- No claim is ever stuck. -/
def NoStuckClaim (rt : Runtime) : Prop :=
  ∀ s, Reaches (BrokerStep rt) createResourceBrokerState s → ∀ c ∈ s.claims, c.phase ≠ .deleted →
    ∀ t, Recorded s t → Nameable t → ∀ who : Credentials, who.Fresh s →
      ∃ call, Recovers rt s c.claimId t call

/-- **A claim can be stuck**: an hour after the sample claim was applied, its lease has expired. -/
theorem not_noStuckClaim : ¬ NoStuckClaim sampleRuntime := by
  intro hall
  have hrecorded : Recorded (cancellingState sampleRuntime) 1784034000000 := by
    intro c hc text htext now hnow
    obtain rfl : c = sampleCancelling sampleRuntime := List.mem_singleton.1 hc
    have hcases : text = "2026-07-14T12:01:00.000Z" ∨ text = "2026-07-14T12:06:00.000Z" ∨
        text = "2026-07-14T12:02:00.000Z" := by
      simpa [timestamps, sampleCancelling, sampleLeased, cancelledClaim, leasedClaim, samplePending, nextClaim,
        sampleLease, issuedLease, sampleLeaseArgs, sampleCancel, sampleContext] using htext
    rcases hcases with rfl | rfl | rfl
    · have h1 : dateParse "2026-07-14T12:01:00.000Z" = some 1784030460000 := by decide
      rw [h1] at hnow
      have := Option.some.inj hnow
      omega
    · have h2 : dateParse "2026-07-14T12:06:00.000Z" = some 1784030760000 := by decide
      rw [h2] at hnow
      have := Option.some.inj hnow
      omega
    · have h3 : dateParse "2026-07-14T12:02:00.000Z" = some 1784030520000 := by decide
      rw [h3] at hnow
      have := Option.some.inj hnow
      omega
  have hname : Nameable 1784034000000 :=
    ⟨"2026-07-14T13:00:00.000Z", 1784034000000, by decide, by decide, le_refl _⟩
  have hreach : Reaches (BrokerStep sampleRuntime) createResourceBrokerState
      (cancellingState sampleRuntime) := sample_cancelling_run sampleRuntime
  have hmem : sampleCancelling sampleRuntime ∈ (cancellingState sampleRuntime).claims := List.mem_cons_self
  obtain ⟨call, hcall⟩ := hall _ hreach _ hmem (by decide) _ hrecorded hname _ sampleWho_fresh
  obtain ⟨_, hrun⟩ := hreach
  have hrec := recoverable_only (run_checked hrun).1 hmem hcall
  obtain ⟨lease, expires, hlease, hexp, hle⟩ := hrec.cancelling rfl
  obtain rfl : sampleLease sampleRuntime = lease := Option.some.inj hlease
  have h2 : dateParse "2026-07-14T12:06:00.000Z" = some 1784030760000 := by decide
  have := Option.some.inj (h2.symm.trans hexp)
  omega

end SecureSaas.Broker
