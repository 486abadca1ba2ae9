import SecureSaas.Broker.Commit

/-!
# The lifecycle of a claim

* `ClaimEffect.lifecycle`: whatever a call leaves behind keeps `Lifecycle`, the phase by
  phase account of a claim's fields.
* `run_lifecycleOk`: so every claim of every reachable state has it.
* `reachable_lifecycle`: the part of it the broker promises, `LifecycleOk`.
-/

namespace SecureSaas.Broker

open Js

/-- What the broker promises about the fields of a claim in each phase. -/
structure LifecycleOk (c : ResourceClaimState) : Prop where
  outputs_iff : c.outputs ≠ [] ↔ c.phase = .available
  available : c.phase = .available → c.observedGeneration = c.generation ∧
    c.providerResourceRef.isSome = true ∧ c.lease = none ∧ c.failure = none ∧ c.drift = none ∧
    c.cancellation = none ∧ c.deletion = none
  lease_held : c.phase = .reconciling ∨ c.phase = .cancelling → c.lease.isSome = true
  lease_absent : c.phase ≠ .reconciling → c.phase ≠ .cancelling → c.phase ≠ .deleting → c.lease = none
  lease_current : ∀ l, c.lease = some l → l.generation = c.generation ∧ 1 ≤ l.attempt ∧
    l.attempt ≤ c.lifecycle.maxReconcileAttempts
  cancelling : c.phase = .cancelling → c.cancellation.isSome = true
  deletion : c.phase = .deleting ∨ c.phase = .deleted → c.deletion.isSome = true
  deleted : c.phase = .deleted → c.providerResourceRef = none ∧ c.lease = none
  observed_le : c.observedGeneration ≤ c.generation

/-- Before a claim is cancelled or deleted it has no record of either; this carries the
promise about available claims through a reconciliation. -/
structure Lifecycle (c : ResourceClaimState) : Prop extends LifecycleOk c where
  working : c.phase ≠ .cancelling → c.phase ≠ .cancelled → c.phase ≠ .deleting → c.phase ≠ .deleted →
    c.cancellation = none ∧ c.deletion = none

variable {rt : Runtime} {s : ResourceBrokerState}

/-- The parts of the promise that the state check repeats on every commit. -/
theorem Lifecycle.of_checked {c : ResourceClaimState} (hc : ClaimOk c)
    (houtputs : c.phase ≠ .available → c.outputs = [])
    (havailable : c.phase = .available → c.failure = none ∧ c.drift = none)
    (hlease : ∀ l, c.lease = some l → l.generation = c.generation ∧
      l.attempt ≤ c.lifecycle.maxReconcileAttempts)
    (hcancelling : c.phase = .cancelling → c.cancellation.isSome = true)
    (hdeletion : c.phase = .deleting ∨ c.phase = .deleted → c.deletion.isSome = true)
    (hdeleted : c.phase = .deleted → c.providerResourceRef = none)
    (hworking : c.phase ≠ .cancelling → c.phase ≠ .cancelled → c.phase ≠ .deleting →
      c.phase ≠ .deleted → c.cancellation = none ∧ c.deletion = none) : Lifecycle c := by
  have habsent : c.phase ≠ .reconciling → c.phase ≠ .cancelling → c.phase ≠ .deleting →
      c.lease = none := by
    intro h1 h2 h3
    by_contra hne
    rcases hc.lease_phase (Option.isSome_iff_ne_none.2 hne) with h | h | h
    · exact h1 h
    · exact h2 h
    · exact h3 h
  refine ⟨⟨?_, ?_, hc.lease_held, habsent, ?_, hcancelling, hdeletion, ?_, hc.observed_le⟩, hworking⟩
  · constructor
    · intro hne
      by_contra hp
      exact hne (houtputs hp)
    · exact fun hp => (hc.available hp).2.2
  · intro hp
    obtain ⟨hobs, href, -⟩ := hc.available hp
    obtain ⟨hfail, hdrift⟩ := havailable hp
    have hsome : c.providerResourceRef.isSome = true := by
      cases hr : c.providerResourceRef with
      | none => rw [hr] at href; cases href
      | some _ => rfl
    have hl : c.lease = none := habsent (by simp [hp]) (by simp [hp]) (by simp [hp])
    have hw := hworking (by simp [hp]) (by simp [hp]) (by simp [hp]) (by simp [hp])
    exact ⟨hobs, hsome, hl, hfail, hdrift, hw⟩
  · intro l hl
    obtain ⟨hg, ha⟩ := hlease l hl
    exact ⟨hg, (hc.wellFormed.lease l hl).attempt, ha⟩
  · intro hp
    exact ⟨hdeleted hp, habsent (by simp [hp]) (by simp [hp]) (by simp [hp])⟩

theorem eligible_phase {c : ResourceClaimState} (h : eligible c = true) :
    c.phase = .pending ∨ c.phase = .drifted ∨ c.phase = .deleting ∨ c.phase = .failed ∨
      c.phase = .reconciling := by
  unfold eligible at h
  simp only [Bool.or_eq_true, Bool.and_eq_true, beq_iff_eq] at h
  tauto

/-- **A call keeps the lifecycle**: the claim it leaves behind has it when the claims of the
state had it. -/
theorem ClaimEffect.lifecycle {call : BrokerCall} {c : ResourceClaimState}
    (he : ClaimEffect rt s call c) (hinv : ∀ c ∈ s.claims, Lifecycle c) (hc : ClaimOk c) : Lifecycle c := by
  cases he with
  | applied =>
    refine Lifecycle.of_checked hc ?_ ?_ ?_ ?_ ?_ ?_ ?_ <;> simp [nextClaim]
  | @cancelled context claim hf _ _ =>
    have hl := hinv claim (findClaim_mem hf).1
    -- only a claim that is being worked on keeps its lease
    by_cases hp : claim.phase = .reconciling
    · refine Lifecycle.of_checked hc ?_ ?_ ?_ ?_ ?_ ?_ ?_ <;> simp [cancelledClaim, hp]
      exact fun l h => ⟨(hl.lease_current l h).1, (hl.lease_current l h).2.2⟩
    · refine Lifecycle.of_checked hc ?_ ?_ ?_ ?_ ?_ ?_ ?_ <;> simp [cancelledClaim, hp]
  | @deleting context approval finalization claim hf _ _ =>
    have hl := hinv claim (findClaim_mem hf).1
    refine Lifecycle.of_checked hc ?_ ?_ ?_ ?_ ?_ ?_ ?_ <;> simp [deletingClaim]
    exact fun l h => ⟨(hl.lease_current l h).1, (hl.lease_current l h).2.2⟩
  | @leased args claim duration expiresAt hg _ =>
    have hl := hinv claim (findClaim_mem hg.found).1
    have hphase := eligible_phase hg.eligible
    have houtputs : claim.outputs = [] := by
      by_contra hne
      have := hl.outputs_iff.1 hne
      simp [this] at hphase
    have hatt := hg.attempts
    by_cases hp : claim.phase = .deleting
    · refine Lifecycle.of_checked hc ?_ ?_ ?_ ?_ ?_ ?_ ?_ <;>
        simp [leasedClaim, issuedLease, hp, houtputs, hatt, hl.deletion]
    · have hw : claim.cancellation = none ∧ claim.deletion = none := by
        refine hl.working ?_ ?_ hp ?_ <;> intro h <;> simp [h] at hphase
      refine Lifecycle.of_checked hc ?_ ?_ ?_ ?_ ?_ ?_ ?_ <;>
        simp [leasedClaim, issuedLease, hp, houtputs, hatt, hw]
  | @completed args observed ref outputs claim lease hp _ =>
    have hl := hinv claim (findClaim_mem hp.found).1
    have hw : claim.cancellation = none ∧ claim.deletion = none := by
      refine hl.working ?_ ?_ ?_ ?_ <;> simp [hp.phase]
    refine Lifecycle.of_checked hc ?_ ?_ ?_ ?_ ?_ ?_ ?_ <;> simp [availableClaim, hw]
  | @failed args code message retryable claim lease hp =>
    have hl := hinv claim (findClaim_mem hp.found).1
    have houtputs : claim.outputs = [] := by
      by_contra hne
      have := hl.outputs_iff.1 hne
      simp [hp.phase] at this
    have hw : claim.cancellation = none ∧ claim.deletion = none := by
      refine hl.working ?_ ?_ ?_ ?_ <;> simp [hp.phase]
    refine Lifecycle.of_checked hc ?_ ?_ ?_ ?_ ?_ ?_ ?_ <;> simp [failedClaim, houtputs, hw]
  | @drifted claimId providerId observed occurredAt verified claim hf hp =>
    have hl := hinv claim (findClaim_mem hf).1
    obtain ⟨-, -, hlease, -, -, hw⟩ := hl.available hp
    refine Lifecycle.of_checked hc ?_ ?_ ?_ ?_ ?_ ?_ ?_ <;> simp [driftedClaim, hlease, hw]
  | acknowledged hp hk =>
    refine Lifecycle.of_checked hc ?_ ?_ ?_ ?_ ?_ ?_ ?_ <;> simp [cleanedClaim]
  | @deleted args finalization claim lease hp =>
    have hl := hinv claim (findClaim_mem hp.found).1
    have hdel := hl.deletion (Or.inl hp.phase)
    refine Lifecycle.of_checked hc ?_ ?_ ?_ ?_ ?_ ?_ ?_ <;> simp [deletedClaim, hdel]

/-- **Every step keeps the lifecycle of every claim.** -/
theorem BrokerStep.lifecycle {l : BrokerLabel} {s' : ResourceBrokerState} (hstep : BrokerStep rt s l s')
    (hinv : ∀ c ∈ s.claims, Lifecycle c) : ∀ c ∈ s'.claims, Lifecycle c := by
  obtain ⟨hexec, rfl⟩ := hstep
  obtain ⟨-, -, hrep | ⟨claim, hcom⟩⟩ := exec_cases hexec
  · rw [hrep.state]; exact hinv
  · intro c hc
    have hok := hcom.checked.claims c hc
    rw [hcom.claims] at hc
    rcases mem_upsertClaim.1 hc with rfl | ⟨hold, -⟩
    · exact hcom.effect.lifecycle hinv hok
    · exact hinv c hold

theorem run_lifecycleOk {h : List BrokerLabel} (hr : Run (BrokerStep rt) createResourceBrokerState h s) :
    ∀ c ∈ s.claims, Lifecycle c :=
  hr.invariant (I := fun s => ∀ c ∈ s.claims, Lifecycle c)
    (fun _ hc => absurd hc List.not_mem_nil) fun _ _ _ hI hs => hs.lifecycle hI

/-- **The broker lifecycle**: in every state any calls lead to, every claim has the fields
its phase promises. -/
theorem reachable_lifecycle (rt : Runtime) {s : ResourceBrokerState}
    (hr : Reaches (BrokerStep rt) createResourceBrokerState s) : ∀ c ∈ s.claims, LifecycleOk c := by
  obtain ⟨h, hr⟩ := hr
  exact fun c hc => (run_lifecycleOk hr c hc).toLifecycleOk

/-- `reachable_lifecycle` on the sample claim while it is being cancelled. -/
theorem reachable_lifecycle_cancelling : LifecycleOk (sampleCancelling sampleRuntime) :=
  reachable_lifecycle sampleRuntime (sample_cancelling_run sampleRuntime) _ List.mem_cons_self

end SecureSaas.Broker
