import SecureSaas.Paas.Clock
import SecureSaas.Paas.Moves

/-!
# The commands of a tenant

Enqueueing and cancelling: what an accepted command has passed, and what becomes of the state.

* `enqueue_accepted`, `cancel_accepted`: the guards of an accepted command and its next state.
* `Durable.enqueued`, `Durable.cancelled`: the next state is durable.
* `Durable.record`: both leave an idempotency record and, perhaps, a redeemed capability.
-/

namespace SecureSaas.Paas

open Js

variable {rt : Runtime} {intent : PaasSecurityIntent} {s : PaasControlState}

/-! ## Accepted answers -/

/-- An accepted answer comes from behind the guard. -/
theorem accepted_else {p : Prop} [Decidable p] {code : PaasControlTransitionCode} {t : PaasControlTransition}
    (h : (if p then rejected s code else t).accepted = true) :
    ¬ p ∧ (if p then rejected s code else t) = t := by
  by_cases hp : p
  · rw [if_pos hp] at h
    cases h
  · exact ⟨hp, if_neg hp⟩

theorem checked {error : Option String} (h : ¬ error.isSome = true) : error = none :=
  Option.not_isSome_iff_eq_none.1 h

/-- The clocks stay in order when the one job that changes keeps its own. -/
theorem ClockOk.set (h : ClockOk intent s) {s' : PaasControlState} {id0 : String} {job0 : PaasControlJob}
    (hjobs : s'.jobs = s.jobs.set id0 job0) (hjob : JobClock intent job0) : ClockOk intent s' := by
  intro id job hj
  rw [hjobs] at hj
  rcases Record.get?_set_some hj with ⟨-, rfl⟩ | ⟨-, hj⟩
  · exact hjob
  · exact h id job hj

theorem RecordsOk.key_eq (h : RecordsOk rt intent s) {id : String} {job : PaasControlJob}
    (hj : s.jobs.get? id = some job) : id = job.id := by
  have hf := h.fields id job hj
  simp only [durableFields, Bool.and_eq_true, beq_iff_eq] at hf
  tauto

/-! ## Records -/

/-- **A command leaves its records** on a job of its tenant. -/
theorem Durable.record (h : Durable rt intent s) {id tenantId : String} {job : PaasControlJob}
    (hj : s.jobs.get? id = some job) (htenant : job.tenantId = tenantId) (action : PaasIdempotencyAction)
    (idempotencyKey fingerprint : String) (capabilityId : Option String) (at_ : ℤ) :
    Durable rt intent (redeem rt { s with
      idempotency := s.idempotency.set (stateKey rt [tenantId, idempotencyKey])
        { action, tenantId, idempotencyKey, fingerprint, jobId := id } } capabilityId tenantId id at_) := by
  have hidempotency : ∀ key record, (s.idempotency.set (stateKey rt [tenantId, idempotencyKey])
      { action, tenantId, idempotencyKey, fingerprint, jobId := id }).get? key = some record →
      s.idempotency.get? key = some record ∨
        ((∃ job, s.jobs.get? record.jobId = some job ∧ record.tenantId = job.tenantId) ∧
          stateKey rt [record.tenantId, record.idempotencyKey] = key) := by
    intro key record hr
    rcases Record.get?_set_some hr with ⟨hkey, rfl⟩ | ⟨-, hr⟩
    · exact Or.inr ⟨⟨job, hj, htenant.symm⟩, hkey.symm⟩
    · exact Or.inl hr
  cases capabilityId with
  | none =>
    exact h.withRecords ⟨rfl, rfl, rfl, rfl, rfl⟩ h.records.revision hidempotency (fun _ _ hg => Or.inl hg)
      fun _ _ hg => Or.inl hg
  | some capabilityId =>
    refine h.withRecords ⟨rfl, rfl, rfl, rfl, rfl⟩ h.records.revision hidempotency ?_ fun _ _ hg => Or.inl hg
    intro key redemption hr
    change (s.redeemedCapabilities.set (stateKey rt [capabilityId]) _).get? key = some redemption at hr
    rcases Record.get?_set_some hr with ⟨hkey, rfl⟩ | ⟨-, hr⟩
    · exact Or.inr ⟨⟨job, hj, htenant.symm⟩, hkey.symm⟩
    · exact Or.inl hr

/-! ## Enqueueing -/

/-- The decision of an enqueue command allows it. -/
def PaasEnqueueJobCommand.binds (command : PaasEnqueueJobCommand) : Bool :=
  authorizationBinds command.authorization command.tenantId command.idempotencyKey
    command.requestedAtEpochSeconds command.operation.toOperation command.resource command.sourceRevision
    command.artifactDigest

/-- What an enqueue command passes before it changes the state. -/
structure EnqueueGuard (rt : Runtime) (s : PaasControlState) (command : PaasEnqueueJobCommand) : Prop where
  record : s.idempotency.get? (stateKey rt [command.tenantId, command.idempotencyKey]) = none
  revision : command.expectedRevision = s.revision
  new : s.jobs.get? command.jobId = none
  target : command.operation = .rollback → knownRollbackTarget rt s command = true
  unredeemed : isRedeemed rt s (truthy command.authorization.capabilityToRedeem) = false

/-- The answer to an enqueue command that changes the state. -/
def enqueuedAnswer (rt : Runtime) (s : PaasControlState) (command : PaasEnqueueJobCommand)
    (tenant : PaasTenantQuota) : PaasControlTransition :=
  let capabilityId := truthy command.authorization.capabilityToRedeem
  let revision := addNumber s.revision 1
  let job := enqueuedJob command tenant capabilityId
  accepted (finalize (withEnqueued rt s command job) revision)
    (event .jobEnqueued revision command.requestedAtEpochSeconds job ::
      redemptionEvents capabilityId revision command.requestedAtEpochSeconds job)
    (some command.jobId)

/-- **What an enqueue command has passed**: it repeats an earlier one, or enqueues a job. -/
theorem enqueue_accepted {command : PaasEnqueueJobCommand}
    (h : (enqueuePaasJob rt s intent command).accepted = true) :
    stateInvariantError rt s intent = none ∧ validEnqueueCommand command = true ∧
      ∃ tenant, intent.find command.tenantId = some tenant ∧ command.binds = true ∧
        ((∃ existing, s.idempotency.get? (stateKey rt [command.tenantId, command.idempotencyKey]) = some existing ∧
            existing.action = .enqueue ∧ existing.fingerprint = enqueueFingerprint rt command ∧
            enqueuePaasJob rt s intent command = deduplicated s existing.jobId) ∨
          (EnqueueGuard rt s command ∧ enqueuePaasJob rt s intent command = enqueuedAnswer rt s command tenant)) := by
  unfold enqueuePaasJob at h ⊢
  obtain ⟨hcheck, heq⟩ := accepted_else h
  rw [heq] at h ⊢
  obtain ⟨hvalid, heq⟩ := accepted_else h
  rw [heq] at h ⊢
  rw [Bool.not_eq_true', Bool.not_eq_false] at hvalid
  refine ⟨checked hcheck, hvalid, ?_⟩
  cases ht : intent.find command.tenantId with
  | none =>
    rw [ht] at h
    cases h
  | some tenant =>
    refine ⟨tenant, rfl, ?_⟩
    rw [ht] at h
    simp only at h ⊢
    obtain ⟨hbinds, heq⟩ := accepted_else h
    rw [heq] at h ⊢
    rw [Bool.not_eq_true', Bool.not_eq_false] at hbinds
    refine ⟨hbinds, ?_⟩
    cases hi : s.idempotency.get? (stateKey rt [command.tenantId, command.idempotencyKey]) with
    | some existing =>
      rw [hi] at h
      simp only at h ⊢
      by_cases hsame : existing.action = .enqueue ∧ existing.fingerprint = enqueueFingerprint rt command
      · exact Or.inl ⟨existing, rfl, hsame.1, hsame.2, if_pos hsame⟩
      · rw [if_neg hsame] at h
        cases h
    | none =>
      rw [hi] at h
      simp only at h ⊢
      obtain ⟨hrevision, heq⟩ := accepted_else h
      rw [heq] at h ⊢
      obtain ⟨htaken, heq⟩ := accepted_else h
      rw [heq] at h ⊢
      obtain ⟨htarget, heq⟩ := accepted_else h
      rw [heq] at h ⊢
      obtain ⟨hredeemed, heq⟩ := accepted_else h
      rw [heq]
      refine Or.inr ⟨⟨hi, not_not.1 hrevision, ?_, ?_, Bool.not_eq_true _ ▸ hredeemed⟩, rfl⟩
      · simp only [jobTaken, Bool.or_eq_true, not_or] at htaken
        exact Option.not_isSome_iff_eq_none.1 htaken.1
      · intro hrollback
        by_contra hunknown
        exact htarget (by simp [hrollback, hunknown])

/-- A valid command makes a job with valid fields. -/
theorem enqueued_fields {command : PaasEnqueueJobCommand} (h : validEnqueueCommand command = true)
    (tenant : PaasTenantQuota) (capabilityId : Option String) :
    durableFields command.jobId (enqueuedJob command tenant capabilityId) = true := by
  have hrevision : (truthy command.sourceRevision).getD "" = command.sourceRevision.getD "" := by
    cases hr : command.sourceRevision with
    | none => rfl
    | some text =>
      by_cases hempty : text = ""
      · rw [hempty]
        rfl
      · rw [truthy_some.2 ⟨rfl, hempty⟩]
  have hdigest : validDigest (truthy command.artifactDigest) = validDigest command.artifactDigest := by
    cases hr : command.artifactDigest with
    | none => rfl
    | some text =>
      by_cases hempty : text = ""
      · rw [hempty]
        decide
      · rw [truthy_some.2 ⟨rfl, hempty⟩]
  simp only [validEnqueueCommand, Bool.and_eq_true, decide_eq_true_eq] at h
  obtain ⟨⟨⟨⟨⟨⟨⟨hid, -⟩, hresource⟩, hkey⟩, -⟩, hmin⟩, hmax⟩, hop⟩ := h
  simp only [durableFields, enqueuedJob, Bool.and_eq_true, beq_iff_eq]
  refine ⟨⟨⟨⟨⟨⟨⟨trivial, hid⟩, hresource⟩, hkey⟩, decide_eq_true le_rfl⟩, decide_eq_true hmin⟩,
    decide_eq_true hmax⟩, ?_⟩
  by_cases hb : command.operation = .build
  · rw [if_pos hb] at hop ⊢
    simp only [hb, if_true, hrevision, hop, Bool.true_and]
    rfl
  · rw [if_neg hb] at hop ⊢
    simp only [hb, if_false, hdigest, hop, Bool.true_and]
    rfl

/-- **A new job joins its tenant's queue.** -/
theorem Durable.join (h : Durable rt intent s) {id : String} {job : PaasControlJob}
    (hnew : s.jobs.get? id = none) (hstatus : job.status = .queued) (htenant : job.tenantId ∈ intent.tenantIds)
    (hfields : durableFields id job = true) :
    Durable rt intent { pushJob s job.tenantId id with jobs := s.jobs.set id job } := by
  obtain ⟨queue, hqueue⟩ := (h.records.queues job.tenantId).2 htenant
  have hidle : isActive job = false := by
    unfold isActive
    rw [hstatus]
    rfl
  -- every other job is as it was
  have hother : ∀ id' job', (s.jobs.set id job).get? id' = some job' → isActive job' = true →
      s.jobs.get? id' = some job' := by
    intro id' job' hj' hactive
    rcases Record.get?_set_some hj' with ⟨-, rfl⟩ | ⟨-, hj'⟩
    · rw [hidle] at hactive
      cases hactive
    · exact hj'
  have hstay : ∀ id' job', s.jobs.get? id' = some job' → (s.jobs.set id job).get? id' = some job' := by
    intro id' job' hj'
    have hid : id' ≠ id := by
      rintro rfl
      rw [hnew] at hj'
      cases hj'
    rw [Record.get?_set_ne hid]
    exact hj'
  refine ⟨h.queues.push (fun id' => Record.get?_set ..) ?_ hstatus hqueue ?_, ⟨?_, ?_⟩,
    h.quotas.keep ?_, h.records.carry ?_ ?_ ?_⟩
  · intro job' hj'
    rw [hnew] at hj'
    cases hj'
  · show s.tenantQueues.set job.tenantId ((s.tenantQueues.get? job.tenantId).getD [] ++ [id]) = _
    rw [hqueue, Option.getD_some]
  · intro id' job' hj' hactive
    exact h.locks.held id' job' (hother id' job' hj' hactive) hactive
  · intro key id' hl
    obtain ⟨job', hj', hactive, hkey⟩ := h.locks.active key id' hl
    exact ⟨job', hstay id' job' hj', hactive, hkey⟩
  · intro id' job' hj' hactive
    exact ⟨job', hother id' job' hj' hactive, hactive, rfl, rfl⟩
  · refine ⟨rfl, rfl, rfl, rfl, rfl, ?_, Or.inl rfl⟩
    intro tenantId'
    show (∃ q, (s.tenantQueues.set job.tenantId _).get? tenantId' = some q) ↔ _
    rw [Record.get?_set]
    by_cases ht : tenantId' = job.tenantId
    · rw [if_pos ht, ht]
      exact iff_of_true ⟨_, rfl⟩ ⟨_, hqueue⟩
    · rw [if_neg ht]
  · intro id' job' hj'
    exact ⟨job', hstay id' job' hj', rfl, fun _ => rfl⟩
  · intro id' job' hj'
    change (s.jobs.set id job).get? id' = some job' at hj'
    rcases Record.get?_set_some hj' with ⟨hid, rfl⟩ | ⟨-, hj'⟩
    · rw [hid]
      exact ⟨htenant, hfields⟩
    · exact ⟨h.records.tenant id' job' hj', h.records.fields id' job' hj'⟩

/-- **An enqueued command leaves a durable state.** -/
theorem Durable.enqueued (h : Durable rt intent s) {command : PaasEnqueueJobCommand} {tenant : PaasTenantQuota}
    (hvalid : validEnqueueCommand command = true) (ht : intent.find command.tenantId = some tenant)
    (hnew : s.jobs.get? command.jobId = none) (capabilityId : Option String) :
    Durable rt intent (finalize (withEnqueued rt s command (enqueuedJob command tenant capabilityId))
      (addNumber s.revision 1)) := by
  have hrevision := addNumber_nonneg h.records.revision zero_le_one
  have hjoin : Durable rt intent { pushJob s command.tenantId command.jobId with
      jobs := s.jobs.set command.jobId (enqueuedJob command tenant capabilityId) } :=
    h.join hnew rfl (find_some.1 ⟨tenant, ht⟩) (enqueued_fields hvalid tenant capabilityId)
  refine Durable.finalized ?_ hrevision
  exact hjoin.record (Record.get?_set_self ..) rfl .enqueue command.idempotencyKey
    (enqueueFingerprint rt command) capabilityId command.requestedAtEpochSeconds

/-- What an enqueued command does to the jobs. -/
theorem withEnqueued_jobs (command : PaasEnqueueJobCommand) (job : PaasControlJob) (revision : ℤ) :
    (finalize (withEnqueued rt s command job) revision).jobs = s.jobs.set command.jobId job := by
  unfold withEnqueued redeem
  cases job.capabilityId <;> rfl

/-! ## Cancellation -/

/-- The queue of the job's tenant without the job. -/
def queueWithout (s : PaasControlState) (job : PaasControlJob) : List String :=
  ((s.tenantQueues.get? job.tenantId).getD []).filter fun queued => queued != job.id

/-- The decision of a cancellation allows it on the job. -/
def PaasCancelJobCommand.binds (command : PaasCancelJobCommand) (job : PaasControlJob) : Bool :=
  authorizationBinds command.authorization command.tenantId command.idempotencyKey
    command.requestedAtEpochSeconds .cancel job.resource none none

/-- What a cancellation passes before it changes the state. -/
structure CancelGuard (rt : Runtime) (s : PaasControlState) (command : PaasCancelJobCommand) : Prop where
  record : s.idempotency.get? (stateKey rt [command.tenantId, command.idempotencyKey]) = none
  revision : command.expectedRevision = s.revision
  unredeemed : isRedeemed rt s (truthy command.authorization.capabilityToRedeem) = false

/-- The answer to the cancellation of a queued job. -/
def cancelledAnswer (rt : Runtime) (s : PaasControlState) (command : PaasCancelJobCommand)
    (current : PaasControlJob) : PaasControlTransition :=
  let capabilityId := truthy command.authorization.capabilityToRedeem
  let revision := addNumber s.revision 1
  let now := command.requestedAtEpochSeconds
  let job := cancelledQueuedJob current now
  accepted (finalize { withCancellation rt s command current capabilityId with
      jobs := s.jobs.set current.id job
      tenantQueues := s.tenantQueues.set current.tenantId (queueWithout s current) } revision)
    (redemptionEvents capabilityId revision now current ++ [event .jobCancelled revision now job]) (some current.id)

/-- The answer to the cancellation of a running job. -/
def cancellingAnswer (rt : Runtime) (s : PaasControlState) (command : PaasCancelJobCommand)
    (current : PaasControlJob) : PaasControlTransition :=
  let capabilityId := truthy command.authorization.capabilityToRedeem
  let revision := addNumber s.revision 1
  let now := command.requestedAtEpochSeconds
  let job := cancellingJob current .user now
  accepted (finalize { withCancellation rt s command current capabilityId with jobs := s.jobs.set current.id job }
      revision)
    (redemptionEvents capabilityId revision now current ++ [event .jobCancellationRequested revision now job])
    (some current.id)

/-- **What a cancellation has passed**: it repeats an earlier one, or cancels a job that is queued
or running. -/
theorem cancel_accepted {command : PaasCancelJobCommand}
    (h : (cancelPaasJob rt s intent command).accepted = true) :
    stateInvariantError rt s intent = none ∧ ∃ current, s.jobs.get? command.jobId = some current ∧
      current.tenantId = command.tenantId ∧ validEpoch command.requestedAtEpochSeconds = true ∧
      hasText command.idempotencyKey = true ∧ current.createdAtEpochSeconds ≤ command.requestedAtEpochSeconds ∧
      command.binds current = true ∧
      ((∃ existing, s.idempotency.get? (stateKey rt [command.tenantId, command.idempotencyKey]) = some existing ∧
          existing.action = .cancel ∧ existing.fingerprint = cancelFingerprint rt command current ∧
          cancelPaasJob rt s intent command = deduplicated s current.id) ∨
        (CancelGuard rt s command ∧
          ((current.status = .queued ∧ cancelPaasJob rt s intent command = cancelledAnswer rt s command current) ∨
            (current.status = .running ∧
              cancelPaasJob rt s intent command = cancellingAnswer rt s command current)))) := by
  unfold cancelPaasJob at h ⊢
  obtain ⟨hcheck, heq⟩ := accepted_else h
  rw [heq] at h ⊢
  refine ⟨checked hcheck, ?_⟩
  cases hj : (s.jobs.get? command.jobId).filter fun job => job.tenantId == command.tenantId with
  | none =>
    rw [hj] at h
    cases h
  | some current =>
    obtain ⟨hfound, htenant⟩ := Option.filter_eq_some_iff.1 hj
    rw [hj] at h
    simp only at h ⊢
    obtain ⟨hvalid, heq⟩ := accepted_else h
    rw [heq] at h ⊢
    simp only [Bool.or_eq_true, not_or, Bool.not_eq_true', Bool.not_eq_false, decide_eq_true_eq,
      not_lt] at hvalid
    obtain ⟨⟨hepoch, hkey⟩, hcreated⟩ := hvalid
    obtain ⟨hbinds, heq⟩ := accepted_else h
    rw [heq] at h ⊢
    rw [Bool.not_eq_true', Bool.not_eq_false] at hbinds
    refine ⟨current, hfound, beq_iff_eq.1 htenant, hepoch, hkey, hcreated, hbinds, ?_⟩
    cases hi : s.idempotency.get? (stateKey rt [command.tenantId, command.idempotencyKey]) with
    | some existing =>
      rw [hi] at h
      simp only at h ⊢
      by_cases hsame : existing.action = .cancel ∧ existing.fingerprint = cancelFingerprint rt command current
      · exact Or.inl ⟨existing, rfl, hsame.1, hsame.2, if_pos hsame⟩
      · rw [if_neg hsame] at h
        cases h
    | none =>
      rw [hi] at h
      simp only at h ⊢
      right
      obtain ⟨hrevision, heq⟩ := accepted_else h
      rw [heq] at h ⊢
      obtain ⟨hstatus, heq⟩ := accepted_else h
      rw [heq] at h ⊢
      obtain ⟨hredeemed, heq⟩ := accepted_else h
      rw [heq]
      refine ⟨⟨hi, not_not.1 hrevision, Bool.not_eq_true _ ▸ hredeemed⟩, ?_⟩
      by_cases hq : current.status = .queued
      · rw [if_pos hq]
        exact Or.inl ⟨hq, rfl⟩
      · rw [if_neg hq]
        have hrunning : current.status = .running := by
          by_contra hr
          exact hstatus ⟨hq, hr⟩
        exact Or.inr ⟨hrunning, rfl⟩

theorem updates_cancelledQueued {job : PaasControlJob} (hstatus : job.status = .queued) (now : ℤ) :
    Updates job (cancelledQueuedJob job now) :=
  ⟨rfl, rfl, rfl, fun _ h => h, fun hs => absurd (hstatus.symm.trans hs) nofun⟩

theorem updates_cancelling {job : PaasControlJob} (hstatus : job.status = .running)
    (reason : PaasCancellationReason) (now : ℤ) : Updates job (cancellingJob job reason now) :=
  ⟨rfl, rfl, rfl, fun _ h => h, fun hs => absurd (hstatus.symm.trans hs) nofun⟩

/-- **A queued job leaves its queue** without having started. -/
theorem Durable.leave (h : Durable rt intent s) {job job' : PaasControlJob} (hj : s.jobs.get? job.id = some job)
    (hstatus : job.status = .queued) (hu : Updates job job') (hidle : isActive job' = false)
    (hleft : job'.status ≠ .queued) :
    Durable rt intent { s with
      jobs := s.jobs.set job.id job'
      tenantQueues := s.tenantQueues.set job.tenantId (queueWithout s job) } := by
  obtain ⟨queue, hqueue, -⟩ := h.queues.queued job.id job hj hstatus
  have hwithout : queueWithout s job = queue.filter fun queued => queued != job.id := by
    unfold queueWithout
    rw [hqueue, Option.getD_some]
  have hm : Moved (replace job.id job') s { s with
      jobs := s.jobs.set job.id job'
      tenantQueues := s.tenantQueues.set job.tenantId (queueWithout s job) } := Moved.set hj hu rfl
  have hwas : isActive job = false := by
    unfold isActive
    rw [hstatus]
    rfl
  have hactive : ∀ id job0, s.jobs.get? id = some job0 → isActive (replace job.id job' id job0) = isActive job0 := by
    intro id job0 hj0
    by_cases hid : id = job.id
    · rw [hid, hj] at hj0
      rw [hid, replace_self, hidle, ← Option.some.inj hj0, hwas]
    · rw [replace_ne hid]
  refine ⟨h.queues.shrink hm ?_ ?_, h.locks.keep hm rfl hactive, h.quotas.move hm ?_, h.records.move hm ?_⟩
  · intro tenantId queue' hq
    change (s.tenantQueues.set job.tenantId (queueWithout s job)).get? tenantId = some queue' at hq
    rw [hwithout] at hq
    rcases Record.get?_set_some hq with ⟨ht, rfl⟩ | ⟨ht, hq⟩
    · rw [ht]
      refine ⟨queue, hqueue, List.filter_sublist, ?_⟩
      intro id hid job0 _
      exact replace_ne (bne_iff_ne.1 (List.mem_filter.1 hid).2) _ _
    · refine ⟨queue', hq, List.Sublist.refl _, ?_⟩
      intro id hid job0 _
      refine replace_ne ?_ _ _
      -- the job is in its own tenant's queue only
      rintro rfl
      obtain ⟨job1, hj1, htenant, -⟩ := h.queues.member tenantId queue' hq _ hid
      rw [hj] at hj1
      exact ht (htenant.symm.trans (congrArg PaasControlJob.tenantId (Option.some.inj hj1)).symm)
  · intro id job0 hj0 hqueued
    by_cases hid : id = job.id
    · rw [hid, replace_self] at hqueued
      exact absurd hqueued hleft
    · rw [replace_ne hid] at hqueued
      refine ⟨hqueued, ?_⟩
      intro queue0 hq0 hin
      show ∃ queue', (s.tenantQueues.set job.tenantId (queueWithout s job)).get? job0.tenantId = some queue' ∧
        id ∈ queue'
      rw [Record.get?_set]
      by_cases ht : job0.tenantId = job.tenantId
      · rw [ht, hqueue] at hq0
        rw [← Option.some.inj hq0] at hin
        rw [if_pos ht, hwithout]
        exact ⟨_, rfl, List.mem_filter.2 ⟨hin, bne_iff_ne.2 hid⟩⟩
      · rw [if_neg ht]
        exact ⟨queue0, hq0, hin⟩
  · intro id job0 hj0 ha
    rw [hactive id job0 hj0] at ha
    exact ha
  · refine ⟨rfl, rfl, rfl, rfl, rfl, ?_, Or.inl rfl⟩
    intro tenantId
    show (∃ q, (s.tenantQueues.set job.tenantId (queueWithout s job)).get? tenantId = some q) ↔ _
    rw [Record.get?_set]
    by_cases ht : tenantId = job.tenantId
    · rw [if_pos ht, ht]
      exact iff_of_true ⟨_, rfl⟩ ⟨_, hqueue⟩
    · rw [if_neg ht]

/-- **A running job is asked to stop**: it stays active and keeps its lock. -/
theorem Durable.stop (h : Durable rt intent s) {f : String → PaasControlJob → PaasControlJob}
    {jobs : Record PaasControlJob} (hm : Moved f s { s with jobs := jobs })
    (hf : ∀ id job, s.jobs.get? id = some job →
      f id job = job ∨ (job.status = .running ∧ (f id job).status = .cancelling)) :
    Durable rt intent { s with jobs := jobs } := by
  have hactive : ∀ id job, s.jobs.get? id = some job → isActive (f id job) = isActive job := by
    intro id job hj
    rcases hf id job hj with hsame | ⟨hrunning, hcancelling⟩
    · rw [hsame]
    · unfold isActive
      rw [hrunning, hcancelling]
      rfl
  refine ⟨h.queues.keep hm rfl ?_, h.locks.keep hm rfl hactive, h.quotas.move hm ?_,
    h.records.move hm ⟨rfl, rfl, rfl, rfl, rfl, fun _ => Iff.rfl, Or.inl rfl⟩⟩
  · intro id job hj
    rcases hf id job hj with hsame | ⟨hrunning, hcancelling⟩
    · exact Or.inl hsame
    · rw [hrunning, hcancelling]
      exact Or.inr ⟨nofun, nofun⟩
  · intro id job hj ha
    rw [hactive id job hj] at ha
    exact ha

/-- **An accepted cancellation leaves a durable state.** -/
theorem Durable.cancelled (h : Durable rt intent s) {command : PaasCancelJobCommand}
    (ha : (cancelPaasJob rt s intent command).accepted = true) :
    Durable rt intent (cancelPaasJob rt s intent command).state := by
  have hrevision := addNumber_nonneg h.records.revision zero_le_one
  obtain ⟨-, current, hj, htenant, -, -, -, -, hanswer⟩ := cancel_accepted ha
  have hid := h.records.key_eq hj
  rcases hanswer with ⟨-, -, -, -, hs⟩ | ⟨-, ⟨hstatus, hs⟩ | ⟨hstatus, hs⟩⟩
  · rw [hs]
    exact h
  · rw [hs]
    rw [hid] at hj
    have hleave := h.leave hj hstatus (updates_cancelledQueued hstatus command.requestedAtEpochSeconds) rfl nofun
    have hrecord := hleave.record (Record.get?_set_self ..) htenant .cancel command.idempotencyKey
      (cancelFingerprint rt command current) (truthy command.authorization.capabilityToRedeem)
      command.requestedAtEpochSeconds
    refine Durable.finalized ?_ hrevision
    unfold withCancellation
    cases htruthy : truthy command.authorization.capabilityToRedeem with
    | none => rw [htruthy] at hrecord; exact hrecord
    | some capabilityId => rw [htruthy] at hrecord; exact hrecord
  · rw [hs]
    rw [hid] at hj
    have hm : Moved (replace current.id (cancellingJob current .user command.requestedAtEpochSeconds)) s
        { s with jobs := s.jobs.set current.id (cancellingJob current .user command.requestedAtEpochSeconds) } :=
      Moved.set hj (updates_cancelling hstatus .user command.requestedAtEpochSeconds) rfl
    have hstop := h.stop hm ?_
    · have hrecord := hstop.record (Record.get?_set_self ..) htenant .cancel command.idempotencyKey
        (cancelFingerprint rt command current) (truthy command.authorization.capabilityToRedeem)
        command.requestedAtEpochSeconds
      refine Durable.finalized ?_ hrevision
      unfold withCancellation
      cases htruthy : truthy command.authorization.capabilityToRedeem with
      | none => rw [htruthy] at hrecord; exact hrecord
      | some capabilityId => rw [htruthy] at hrecord; exact hrecord
    · intro id job hj'
      by_cases heq : id = current.id
      · rw [heq, hj] at hj'
        rw [heq, replace_self, ← Option.some.inj hj']
        exact Or.inr ⟨hstatus, rfl⟩
      · exact Or.inl (replace_ne heq _ _)

theorem ClockOk.cancelled (h : ClockOk intent s) {command : PaasCancelJobCommand}
    (ha : (cancelPaasJob rt s intent command).accepted = true) :
    ClockOk intent (cancelPaasJob rt s intent command).state := by
  obtain ⟨-, current, hj, -, hnow, -, hcreated, -, hanswer⟩ := cancel_accepted ha
  have hclock := h command.jobId current hj
  rcases hanswer with ⟨-, -, -, -, hs⟩ | ⟨-, ⟨-, hs⟩ | ⟨hstatus, hs⟩⟩
  · rw [hs]
    exact h
  · rw [hs]
    exact h.set rfl (hclock.cancelledQueued hnow hcreated)
  · rw [hs]
    have hactive : isActive current = true := by
      unfold isActive
      rw [hstatus]
      rfl
    exact h.set rfl (hclock.cancelling hactive hnow hcreated .user)

end SecureSaas.Paas
