import SecureSaas.Broker.Progress

/-!
# Who may act at the moment a lease expires

A provider that holds a lease may finish its work as long as the lease is not past its expiry; another
provider may take the lease over as soon as it is not before it. Both may at the expiry itself.

* `takeover_after`: a lease is taken over at its expiry or later.
* `finish_before`: its holder finishes at its expiry or earlier.
* `contested_iff`: **when both may act.**
* `expiry_contested`: a run in which both may.
-/

namespace SecureSaas.Broker

open Js

/-- Another provider than its holder may take the claim's lease over at the instant. -/
def CanTakeOver (rt : Runtime) (s : ResourceBrokerState) (claimId : String) (instant : ℤ) : Prop :=
  ∃ claim lease, findClaim s claimId = some claim ∧ claim.lease = some lease ∧
    ∃ args rev transition, args.claimId = claimId ∧ args.providerId ≠ lease.providerId ∧
      dateParse args.occurredAt = some instant ∧ leaseResourceClaim rt s rev args = .ok transition

/-- The holder of the claim's lease may complete the claim, report a failure or complete its
deletion at the instant. -/
def CanFinish (rt : Runtime) (s : ResourceBrokerState) (claimId : String) (instant : ℤ) : Prop :=
  ∃ args rev transition, args.claimId = claimId ∧ dateParse args.occurredAt = some instant ∧
    ((∃ observed ref outputs, completeResourceClaim rt s rev args observed ref outputs = .ok transition) ∨
      (∃ code message retryable, failResourceClaim rt s rev args code message retryable = .ok transition) ∨
      ∃ finalization, completeResourceClaimDeletion rt s rev args finalization = .ok transition)

/-- The claim has a lease for work other than a cancellation that expires at the instant, it may be
leased once more, and a lease from that instant on has an expiry that can be written down. -/
def ExpiresAt (s : ResourceBrokerState) (claimId : String) (instant : ℤ) : Prop :=
  ∃ claim lease, findClaim s claimId = some claim ∧ claim.lease = some lease ∧
    dateParse lease.expiresAt = some instant ∧ (claim.phase = .reconciling ∨ claim.phase = .deleting) ∧
      nextAttempt claim ≤ claim.lifecycle.maxReconcileAttempts ∧ instant + 1000 ≤ maxIsoTime

section
variable {rt : Runtime} {s : ResourceBrokerState} {claimId : String} {instant : ℤ} {claim : ResourceClaimState}
  {lease : ResourceProviderLease}

/-- A lease is taken over at its expiry or later. -/
theorem takeover_after (hfound : findClaim s claimId = some claim) (hheld : claim.lease = some lease) {expires : ℤ}
    (hexpires : dateParse lease.expiresAt = some expires) {args : LeaseArgs} {duration : ℤ}
    (hid : args.claimId = claimId) (hat : dateParse args.occurredAt = some instant) {c : ResourceClaimState}
    (hguard : LeaseGuard s args c duration) : c = claim ∧ expires ≤ instant := by
  have hc : c = claim := Option.some.inj ((hid ▸ hguard.found).symm.trans hfound)
  have hinactive := hguard.inactive
  rw [hc, hheld, hat, Option.bind_some, hexpires] at hinactive
  have hnot : ¬ instant < expires := of_decide_eq_false hinactive
  exact ⟨hc, by omega⟩

/-- The holder of a lease finishes at its expiry or earlier. -/
theorem finish_before (hfound : findClaim s claimId = some claim) (hheld : claim.lease = some lease) {expires : ℤ}
    (hexpires : dateParse lease.expiresAt = some expires) {args : ProviderArgs} {phase : ResourceClaimPhase}
    (hid : args.claimId = claimId) (hat : dateParse args.occurredAt = some instant) {c : ResourceClaimState}
    {l : ResourceProviderLease} (hp : Presents s args phase c l) : instant ≤ expires := by
  have hc : c = claim := Option.some.inj ((hid ▸ hp.found).symm.trans hfound)
  have hl : l = lease := Option.some.inj (hp.held.symm.trans (hc ▸ hheld))
  have hunexpired := hp.unexpired
  rw [hl, hexpires, hat] at hunexpired
  have hnot : ¬ expires < instant := of_decide_eq_false hunexpired
  omega

/-- A call that finishes presents a lease. -/
theorem CanFinish.presents (h : CanFinish rt s claimId instant) : ∃ args phase c l, args.claimId = claimId ∧
    dateParse args.occurredAt = some instant ∧ Presents s args phase c l := by
  obtain ⟨args, rev, transition, hid, hat, hcall⟩ := h
  rcases hcall with ⟨observed, ref, outputs, hok⟩ | ⟨code, message, retryable, hok⟩ | ⟨finalization, hok⟩
  · obtain ⟨-, -, c, ⟨l, hp⟩, -⟩ := completeResourceClaim_ok.1 hok
    exact ⟨args, _, c, l, hid, hat, hp⟩
  · obtain ⟨-, -, c, ⟨l, hp⟩, -⟩ := failResourceClaim_ok.1 hok
    exact ⟨args, _, c, l, hid, hat, hp⟩
  · obtain ⟨-, -, c, ⟨l, hp⟩, -⟩ := completeResourceClaimDeletion_ok.1 hok
    exact ⟨args, _, c, l, hid, hat, hp⟩

theorem lease_expires (hs : StateOk s) (hfound : findClaim s claimId = some claim) (hheld : claim.lease = some lease) :
    isTimestamp lease.expiresAt = true ∧ ∃ expires, dateParse lease.expiresAt = some expires := by
  have htext := ((hs.claims claim (findClaim_mem hfound).1).wellFormed.lease lease hheld).expiresAt
  exact ⟨htext, Option.isSome_iff_exists.1 (Bool.and_eq_true_iff.1 htext).2⟩

/-- When both may act, the lease expires. -/
theorem expires_of_both (hs : StateOk s) (htake : CanTakeOver rt s claimId instant)
    (hfinish : CanFinish rt s claimId instant) : ExpiresAt s claimId instant := by
  obtain ⟨claim, lease, hfound, hheld, args, rev, transition, hid, -, hat, hok⟩ := htake
  obtain ⟨pargs, phase, c, l, hpid, hpat, hp⟩ := hfinish.presents
  obtain ⟨-, expires, hexpires⟩ := lease_expires hs hfound hheld
  obtain ⟨-, -, c', duration, text, hguard, hiso, hadv⟩ := leaseResourceClaim_ok.1 hok
  obtain ⟨rfl, hafter⟩ := takeover_after hfound hheld hexpires hid hat hguard
  have hbefore := finish_before hfound hheld hexpires hpid hpat hp
  have heq : expires = instant := by omega
  refine ⟨c', lease, hfound, hheld, by rw [hexpires, heq], ?_, hguard.attempts, ?_⟩
  · -- of the phases that have a lease, a cancelling claim is not eligible
    have heligible := hguard.eligible
    rcases (hs.claims c' (findClaim_mem hfound).1).lease_phase (by rw [hheld]; rfl) with hphase | hphase | hphase
    · exact Or.inl hphase
    · rw [eligible, hphase] at heligible
      simp at heligible
    · exact Or.inr hphase
  · obtain ⟨tr, htr⟩ : ∃ tr, BrokerCall.exec rt s rev (.lease args) = .ok tr := ⟨_, map_ok.2 ⟨transition, hok, rfl⟩⟩
    obtain ⟨-, -, hrep | ⟨after, hcom⟩⟩ := exec_cases htr
    · obtain ⟨_, _, _, _, hm, -⟩ := hrep.answered
      cases hm
    · exact (hcom.lease_room (by rw [hid]; exact hfound) hat (le_refl instant)).2.2

/-! ## Both may act -/

theorem failedClaim_ok (hc : ClaimOk claim) {code message occurredAt : String} {retryable : Bool}
    (hheld : claim.lease = some lease) (hcode : isReasonCode code = true) (hmessage : isSafeMessage message = true)
    (hat : isTimestamp occurredAt = true) : ClaimOk (failedClaim claim code message retryable occurredAt) := by
  refine ⟨⟨hc.wellFormed.request, hc.wellFormed.observedGeneration, hc.wellFormed.providerResourceRef,
    hc.wellFormed.outputs, ?_, ?_, hc.wellFormed.drift, hc.wellFormed.deletion, hc.wellFormed.cancellation⟩,
    hc.observed_le, ?_, ?_, ?_, ?_, hc.outputs⟩
  · simp [failedClaim]
  · intro f hf
    rw [failedClaim, hheld, Option.map_some] at hf
    obtain rfl := Option.some.inj hf
    exact ⟨hcode, hmessage, (hc.wellFormed.lease lease hheld).attempt, hat⟩
  all_goals simp [failedClaim]

/-- An identifier that is not the one given. -/
def otherProvider (providerId : String) : String := if providerId = "a" then "b" else "a"

theorem otherProvider_ok (providerId : String) :
    isIdentifier (otherProvider providerId) = true ∧ otherProvider providerId ≠ providerId := by
  unfold otherProvider
  by_cases h : providerId = "a"
  · rw [if_pos h, h]
    exact ⟨by decide, by decide⟩
  · rw [if_neg h]
    exact ⟨by decide, fun heq => h heq.symm⟩

/-- A capable provider other than the holder asks for a lease of one second at the expiry. -/
def takeoverArgs (claim : ResourceClaimState) (lease : ResourceProviderLease) : LeaseArgs where
  claimId := claim.claimId
  providerId := otherProvider lease.providerId
  providerCapabilities := claim.requiredProviderCapabilities
  workloadIdentityVerified := true
  occurredAt := lease.expiresAt
  leaseDurationSeconds := .int 1

theorem canTakeOver_of (hs : StateOk s) (h : ExpiresAt s claimId instant) : CanTakeOver rt s claimId instant := by
  obtain ⟨claim, lease, hfound, hheld, hexpires, hphase, hattempts, hmax⟩ := h
  obtain ⟨hmem, hid⟩ := findClaim_mem hfound
  obtain ⟨hother, hne⟩ := otherProvider_ok lease.providerId
  have heligible : eligible claim = true := by
    rcases hphase with hphase | hphase <;> simp [eligible, hphase, hheld]
  have hguard : LeaseGuard s (takeoverArgs claim lease) claim 1 := by
    refine ⟨hs.findClaim_iff.2 ⟨hmem, rfl⟩, hother, rfl, (lease_expires hs hfound hheld).1, rfl, fun _ h => h, ?_,
      heligible, hattempts⟩
    show timeLT (dateParse lease.expiresAt) (claim.lease.bind fun l => dateParse l.expiresAt) = false
    rw [hheld, Option.bind_some, hexpires]
    exact decide_eq_false (lt_irrefl _)
  obtain ⟨transition, hok, -⟩ := leaseResourceClaim_succeeds rt hs hguard (le_refl 1) hexpires (by omega)
    (nextAttempt_pos (hs.claims claim hmem).wellFormed)
  exact ⟨claim, lease, hfound, hheld, takeoverArgs claim lease, s.revision, transition, hid, hne, hexpires, hok⟩

theorem failResourceClaim_succeeds (rt : Runtime) (hs : StateOk s) {args : ProviderArgs} (hp : Presents s args .reconciling claim lease) :
    ∃ transition, failResourceClaim rt s s.revision args "TIMEOUT" "Timed out." true = .ok transition := by
  have hcode : isReasonCode "TIMEOUT" = true := by decide
  have hmessage : isSafeMessage "Timed out." = true := by decide
  have hc : ClaimOk (failedClaim claim "TIMEOUT" "Timed out." true args.occurredAt) :=
    failedClaim_ok (hs.claims claim (findClaim_mem hp.found).1) hp.held hcode hmessage hp.occurredAt
  obtain ⟨transition, hadv, -⟩ := Advances.of_ok rt .claimFailed hs hc
    (failedClaim claim "TIMEOUT" "Timed out." true args.occurredAt)
    (byProvider args.providerId (some args.fenceToken)) hp.occurredAt
  exact ⟨transition, failResourceClaim_ok.2 ⟨hs, rfl, claim, ⟨lease, hp⟩, hcode, hmessage, hp.occurredAt, hadv⟩⟩

theorem canFinish_of (hr : Reaches (BrokerStep rt) createResourceBrokerState s) (h : ExpiresAt s claimId instant) :
    CanFinish rt s claimId instant := by
  obtain ⟨history, hr⟩ := hr
  have hs := (run_checked hr).1
  obtain ⟨claim, lease, hfound, hheld, hexpires, hphase, -, -⟩ := h
  obtain ⟨hmem, hid⟩ := findClaim_mem hfound
  have hlife := run_lifecycleOk hr claim hmem
  have hp := holderArgs_presents hs hmem hlife hheld hexpires
  refine ⟨holderArgs claim lease lease.expiresAt, s.revision, ?_⟩
  rcases hphase with hphase | hphase
  · rw [hphase] at hp
    obtain ⟨transition, hok⟩ := failResourceClaim_succeeds rt hs hp
    exact ⟨transition, hid, hexpires, Or.inr (Or.inl ⟨_, _, _, hok⟩)⟩
  · rw [hphase] at hp
    obtain ⟨deletion, hdeletion⟩ := Option.isSome_iff_exists.1 (hlife.deletion (Or.inl hphase))
    obtain ⟨transition, hok, -⟩ := completeResourceClaimDeletion_succeeds rt hs hp hdeletion
    exact ⟨transition, hid, hexpires, Or.inr (Or.inr ⟨_, hok⟩)⟩

/-- **The instants at which a lease may be taken over and those at which its holder may still
finish have none in common, exactly if the lease does not expire with work left to try.** -/
theorem contested_iff (rt : Runtime) {s : ResourceBrokerState}
    (hr : Reaches (BrokerStep rt) createResourceBrokerState s) (claimId : String) (instant : ℤ) :
    ¬ (CanTakeOver rt s claimId instant ∧ CanFinish rt s claimId instant) ↔ ¬ ExpiresAt s claimId instant := by
  have hs : StateOk s := by
    obtain ⟨history, hrun⟩ := hr
    exact (run_checked hrun).1
  refine not_congr ⟨fun h => expires_of_both hs h.1 h.2, fun h => ?_⟩
  exact ⟨canTakeOver_of hs h, canFinish_of hr h⟩

end

/-! ## A lease that expires -/

theorem leased_run (rt : Runtime) : Reaches (BrokerStep rt) createResourceBrokerState (leasedState rt) :=
  ⟨_, (Run.single (sample_applied rt).choose_spec).snoc (sample_leased rt).choose_spec⟩

/-- The lease of the sample run expires five minutes after it was taken. -/
theorem leased_expires (rt : Runtime) : ExpiresAt (leasedState rt) "claim-a" 1784030760000 := by
  have hphase : (sampleLeased rt).phase = .reconciling := rfl
  have hexpires : dateParse (sampleLease rt).expiresAt = some 1784030760000 := by
    show dateParse "2026-07-14T12:06:00.000Z" = some 1784030760000
    decide
  have hattempt : nextAttempt (sampleLeased rt) ≤ (sampleLeased rt).lifecycle.maxReconcileAttempts := by
    show (1 : ℤ) + 1 ≤ 3
    decide
  exact ⟨sampleLeased rt, sampleLease rt, rfl, rfl, hexpires, Or.inl hphase, hattempt, by decide⟩

/-- One second before, its holder is alone. -/
theorem contested_iff_leased :
    ¬ (CanTakeOver sampleRuntime (leasedState sampleRuntime) "claim-a" 1784030759000 ∧
      CanFinish sampleRuntime (leasedState sampleRuntime) "claim-a" 1784030759000) := by
  refine (contested_iff sampleRuntime (leased_run sampleRuntime) "claim-a" 1784030759000).2 ?_
  rintro ⟨claim, lease, hfound, hheld, hexpires, -⟩
  obtain rfl := Option.some.inj hfound
  obtain rfl := Option.some.inj hheld
  have hother : dateParse "2026-07-14T12:06:00.000Z" = some 1784030759000 := hexpires
  revert hother
  decide

/-- **At the expiry both may act.** -/
theorem expiry_contested : ¬ ∀ (rt : Runtime) (s : ResourceBrokerState) (claimId : String) (instant : ℤ),
    Reaches (BrokerStep rt) createResourceBrokerState s →
      ¬ (CanTakeOver rt s claimId instant ∧ CanFinish rt s claimId instant) := by
  intro hclaim
  obtain ⟨history, hrun⟩ := leased_run sampleRuntime
  refine hclaim sampleRuntime (leasedState sampleRuntime) "claim-a" 1784030760000 ⟨history, hrun⟩ ?_
  exact ⟨canTakeOver_of (run_checked hrun).1 (leased_expires sampleRuntime),
    canFinish_of ⟨history, hrun⟩ (leased_expires sampleRuntime)⟩

end SecureSaas.Broker
