import SecureSaas.Paas.Commands
import SecureSaas.Paas.Expiry

/-!
# The reports of a worker, and the sweep

Completing a job, acknowledging its cancellation, and sweeping the jobs past their deadlines.

* `complete_accepted`, `acknowledge_accepted`, `sweep_accepted`: the guards and the next states.
* `Durable.release`, `Durable.requeue`: an active job ends, or goes back to its queue.
* `Durable.promote`: a succeeded deployment becomes the one that is deployed.
* `Durable.completed`, `Durable.acknowledged`, `Durable.swept`: the next states are durable.
* `ClockOk.completed`, `ClockOk.acknowledged`, `ClockOk.swept`: their clocks are in order.
-/

namespace SecureSaas.Paas

open Js

variable {rt : Runtime} {intent : PaasSecurityIntent} {s : PaasControlState} {now : ℤ}

/-! ## Jobs that stop being active -/

theorem active_running {job : PaasControlJob} (h : job.status = .running) : isActive job = true := by
  unfold isActive
  rw [h]
  rfl

theorem active_cancelling {job : PaasControlJob} (h : job.status = .cancelling) : isActive job = true := by
  unfold isActive
  rw [h]
  rfl

/-- An active job is neither queued nor ended. -/
theorem active_status {job : PaasControlJob} (h : isActive job = true) :
    job.status ≠ .queued ∧ job.status ≠ .succeeded := by
  unfold isActive at h
  constructor
  · intro hs
    rw [hs] at h
    exact absurd h (by decide)
  · intro hs
    rw [hs] at h
    exact absurd h (by decide)

theorem replace_idle {id0 : String} {job0' : PaasControlJob}
    (hidle : isActive job0' = false) : ∀ id job, s.jobs.get? id = some job →
      isActive (replace id0 job0' id job) = true → isActive job = true := by
  intro id job hj ha
  by_cases hid : id = id0
  · rw [hid, replace_self, hidle] at ha
    cases ha
  · rw [replace_ne hid] at ha
    exact ha

/-- **An active job ends** and its lock is dropped. -/
theorem Durable.release (h : Durable rt intent s) {job job' : PaasControlJob} (hj : s.jobs.get? job.id = some job)
    (hactive : isActive job = true) (hu : Updates job job') (hid : job'.id = job.id)
    (hidle : isActive job' = false) (hended : job'.status ≠ .queued) :
    Durable rt intent (released rt s job') := by
  have hm : Moved (replace job.id job') s (released rt s job') := by
    refine Moved.set hj hu ?_
    rw [← hid]
    rfl
  refine ⟨h.queues.keep hm rfl ?_, h.locks.release hj hactive hidle hm ?_, h.quotas.move hm (replace_idle hidle),
    h.records.move hm ⟨rfl, rfl, rfl, rfl, rfl, fun _ => Iff.rfl, Or.inl rfl⟩⟩
  · intro id job0 hj0
    by_cases heq : id = job.id
    · rw [heq, hj] at hj0
      rw [heq, replace_self, ← Option.some.inj hj0]
      exact Or.inr ⟨(active_status hactive).1, hended⟩
    · exact Or.inl (replace_ne heq _ _)
  · rw [← hu.tenantId, ← hu.resource]
    rfl

/-- **An active job goes back to its queue** and its lock is dropped. -/
theorem Durable.requeue (h : Durable rt intent s) {job job' : PaasControlJob} (hj : s.jobs.get? job.id = some job)
    (hactive : isActive job = true) (hu : Updates job job') (hid : job'.id = job.id)
    (hqueued : job'.status = .queued) :
    Durable rt intent (pushJob (released rt s job') job'.tenantId job'.id) := by
  have hidle : isActive job' = false := by
    unfold isActive
    rw [hqueued]
    rfl
  have hm : Moved (replace job.id job') s (pushJob (released rt s job') job'.tenantId job'.id) := by
    refine Moved.set hj hu ?_
    rw [← hid]
    rfl
  obtain ⟨queue, hqueue⟩ := (h.records.queues job'.tenantId).2 (hu.tenantId ▸ h.records.tenant job.id job hj)
  have hqueues : (pushJob (released rt s job') job'.tenantId job'.id).tenantQueues =
      s.tenantQueues.set job'.tenantId (queue ++ [job.id]) := by
    rw [← hid]
    show s.tenantQueues.set job'.tenantId ((s.tenantQueues.get? job'.tenantId).getD [] ++ [job'.id]) = _
    rw [hqueue, Option.getD_some]
  refine ⟨h.queues.push ?_ ?_ hqueued hqueue hqueues, h.locks.release hj hactive hidle hm ?_,
    h.quotas.move hm (replace_idle hidle), h.records.move hm ⟨rfl, rfl, rfl, rfl, rfl, ?_, Or.inl rfl⟩⟩
  · intro id
    rw [← hid]
    exact Record.get?_set ..
  · intro job0 hj0
    rw [hj] at hj0
    rw [← Option.some.inj hj0]
    exact (active_status hactive).1
  · rw [← hu.tenantId, ← hu.resource]
    rfl
  · intro tenantId
    rw [hqueues, Record.get?_set]
    by_cases ht : tenantId = job'.tenantId
    · rw [if_pos ht, ht]
      exact iff_of_true ⟨_, rfl⟩ ⟨_, hqueue⟩
    · rw [if_neg ht]

/-! ## Deployments -/

/-- The history of a deployment that is fit for its record. -/
theorem deploymentHistory_ok {current : Option PaasDeploymentRecord} {key : String} (artifact : String)
    (hcurrent : ∀ deployment, current = some deployment → DeploymentOk rt intent key deployment) :
    (∀ previous ∈ deploymentHistory current artifact, validDigest (some previous) = true) ∧
      (deploymentHistory current artifact).length ≤ 20 ∧ artifact ∉ deploymentHistory current artifact ∧
      (deploymentHistory current artifact).Nodup := by
  cases current with
  | none => exact ⟨nofun, Nat.zero_le 20, nofun, List.nodup_nil⟩
  | some deployment =>
    have hd := hcurrent deployment rfl
    unfold deploymentHistory
    by_cases ha : deployment.activeArtifactDigest = artifact
    · simp only [if_pos ha]
      refine ⟨?_, List.length_take_le _ _, ?_, hd.nodup.sublist (List.take_sublist _ _)⟩
      · intro previous hp
        exact hd.previous previous (List.mem_of_mem_take hp)
      · intro hin
        rw [← ha] at hin
        exact hd.fresh (List.mem_of_mem_take hin)
    · simp only [if_neg ha]
      refine ⟨?_, List.length_take_le _ _, ?_, List.Nodup.sublist (List.take_sublist _ _) ?_⟩
      · intro previous hp
        rcases List.mem_cons.1 (List.mem_of_mem_take hp) with hp | hp
        · rw [hp]
          exact hd.active
        · exact hd.previous previous (List.mem_filter.1 hp).1
      · intro hin
        rcases List.mem_cons.1 (List.mem_of_mem_take hin) with heq | hin
        · exact ha heq.symm
        · exact absurd rfl (bne_iff_ne.1 (List.mem_filter.1 hin).2)
      · refine List.nodup_cons.2 ⟨?_, hd.nodup.sublist List.filter_sublist⟩
        intro hin
        exact hd.fresh (List.mem_filter.1 hin).1

/-- **A succeeded deployment is promoted.** -/
theorem Durable.promote (h : Durable rt intent s) {job : PaasControlJob} (hj : s.jobs.get? job.id = some job)
    (hsucceeded : job.status = .succeeded) (hop : job.operation ≠ .build) (now : ℤ) :
    Durable rt intent (promoteDeployment rt s job now) := by
  have hfields := h.records.fields job.id job hj
  simp only [durableFields, if_neg hop, Bool.and_eq_true] at hfields
  obtain ⟨⟨⟨⟨⟨⟨-, hresource⟩, -⟩, -⟩, -⟩, -⟩, hdigest, -⟩ := hfields
  cases hartifact : job.artifactDigest with
  | none =>
    rw [hartifact] at hdigest
    cases hdigest
  | some artifact =>
    rw [hartifact] at hdigest
    refine h.withRecords ⟨rfl, rfl, rfl, rfl, rfl⟩ h.records.revision (fun _ _ hg => Or.inl hg)
      (fun _ _ hg => Or.inl hg) ?_
    intro key deployment hget
    simp only [promoteDeployment, hartifact, Option.getD_some] at hget
    rcases Record.get?_set_some hget with ⟨hkey, rfl⟩ | ⟨-, hget⟩
    · obtain ⟨hprevious, hlength, hfresh, hnodup⟩ := deploymentHistory_ok artifact
        fun deployment hd => (h.records.deployments (resourceKey rt job.tenantId job.resource) deployment hd).1
      refine Or.inr ⟨⟨h.records.tenant job.id job hj, hresource, hkey.symm, hdigest, hprevious, hlength, hfresh,
        hnodup, ?_⟩, job, hj, ?_⟩
      · cases hd : s.deployments.get? (resourceKey rt job.tenantId job.resource) with
        | none => exact addNumber_pos le_rfl Int.zero_lt_one
        | some current =>
          have hgeneration := (h.records.deployments _ current hd).1.generation
          exact addNumber_pos (Int.le_trans Int.one_nonneg hgeneration) Int.zero_lt_one
      · simp [isSource, hsucceeded, hartifact]
    · exact Or.inl hget

/-! ## Completion -/

/-- What a report of completion passes: the worker of the job reports in time. -/
structure ReportGuard (s : PaasControlState) (command : PaasCompleteJobCommand) (current : PaasControlJob) :
    Prop where
  found : s.jobs.get? command.jobId = some current
  revision : command.expectedRevision = s.revision
  epoch : validEpoch command.completedAtEpochSeconds = true
  tenantId : current.tenantId = command.tenantId
  running : current.status = .running
  workerRole : current.workerRole = command.workerRole
  deadline : command.completedAtEpochSeconds < current.deadlineAtEpochSeconds
  started : current.startedAtEpochSeconds.getD 0 ≤ command.completedAtEpochSeconds

/-- The job is sent back to its queue after this report. -/
def retries (command : PaasCompleteJobCommand) (current : PaasControlJob) : Prop :=
  command.retryable = some true ∧ current.attempt < current.maxAttempts ∧
    command.completedAtEpochSeconds < current.deadlineAtEpochSeconds

instance (command : PaasCompleteJobCommand) (current : PaasControlJob) : Decidable (retries command current) :=
  inferInstanceAs (Decidable (_ ∧ _ ∧ _))

/-- The answer to a report of failure. -/
def failedAnswer (rt : Runtime) (s : PaasControlState) (command : PaasCompleteJobCommand) (current : PaasControlJob) :
    PaasControlTransition :=
  let revision := addNumber s.revision 1
  let now := command.completedAtEpochSeconds
  if retries command current then
    let job := retriedJob current command.errorCode now
    accepted (finalize (pushJob (released rt s job) job.tenantId job.id) revision)
      [event .jobRetryQueued revision now job] (some job.id)
  else
    let job := failedJob current command.errorCode now
    accepted (finalize (released rt s job) revision) [event .jobFailed revision now job] (some job.id)

/-- The event of a promotion, for the operation of the job. -/
def promotionEvent (operation : PaasJobOperation) : PaasControlEventType :=
  if operation = .deploy then .deploymentPromoted else .deploymentRolledBack

/-- The answer to a report of success. -/
def succeededAnswer (rt : Runtime) (s : PaasControlState) (command : PaasCompleteJobCommand)
    (current : PaasControlJob) : PaasControlTransition :=
  let revision := addNumber s.revision 1
  let now := command.completedAtEpochSeconds
  let job := succeededJob current command.resultArtifactDigest now
  let succeeded := event .jobSucceeded revision now job
  if current.operation = .build then accepted (finalize (released rt s job) revision) [succeeded] (some job.id)
  else accepted (finalize (promoteDeployment rt (released rt s job) job now) revision)
    [succeeded, event (promotionEvent job.operation) revision now job] (some job.id)

/-- **What a report of completion has passed**, and its answer. -/
theorem complete_accepted {command : PaasCompleteJobCommand}
    (h : (completePaasJob rt s intent command).accepted = true) :
    stateInvariantError rt s intent = none ∧ ∃ current, ReportGuard s command current ∧
      ((command.outcome = .failed ∧ command.errorCode.any hasText = true ∧
          completePaasJob rt s intent command = failedAnswer rt s command current) ∨
        (command.outcome = .succeeded ∧
          (current.operation = .build → validDigest command.resultArtifactDigest = true) ∧
          completePaasJob rt s intent command = succeededAnswer rt s command current)) := by
  unfold completePaasJob at h ⊢
  obtain ⟨hcheck, heq⟩ := accepted_else h
  rw [heq] at h ⊢
  refine ⟨checked hcheck, ?_⟩
  obtain ⟨hrevision, heq⟩ := accepted_else h
  rw [heq] at h ⊢
  obtain ⟨hnow, heq⟩ := accepted_else h
  rw [heq] at h ⊢
  rw [Bool.not_eq_true', Bool.not_eq_false] at hnow
  cases hj : (s.jobs.get? command.jobId).filter fun job => job.tenantId == command.tenantId with
  | none =>
    rw [hj] at h
    cases h
  | some current =>
    obtain ⟨hfound, htenant⟩ := Option.filter_eq_some_iff.1 hj
    rw [hj] at h
    simp only at h ⊢
    obtain ⟨hrunning, heq⟩ := accepted_else h
    rw [heq] at h ⊢
    obtain ⟨hrole, heq⟩ := accepted_else h
    rw [heq] at h ⊢
    obtain ⟨htime, heq⟩ := accepted_else h
    rw [heq] at h ⊢
    obtain ⟨hdigest, heq⟩ := accepted_else h
    rw [heq] at h ⊢
    obtain ⟨herror, heq⟩ := accepted_else h
    rw [heq]
    have hg : ReportGuard s command current :=
      ⟨hfound, not_not.1 hrevision, hnow, beq_iff_eq.1 htenant, not_not.1 hrunning, not_not.1 hrole,
        by omega, by omega⟩
    refine ⟨current, hg, ?_⟩
    cases houtcome : command.outcome with
    | failed =>
      left
      refine ⟨rfl, ?_, rfl⟩
      by_contra htext
      exact herror (by simp [houtcome, htext])
    | succeeded =>
      right
      refine ⟨rfl, ?_, ?_⟩
      · intro hbuild
        by_contra hinvalid
        exact hdigest (by simp [houtcome, hbuild, hinvalid])
      · have hop : (succeededJob current command.resultArtifactDigest command.completedAtEpochSeconds).operation =
            current.operation := rfl
        simp only [succeededAnswer, promotionEvent, hop]
        cases current.operation with
        | build => rfl
        | deploy => rfl
        | rollback => rfl

/-- The four states a report may lead to. -/
theorem complete_state {command : PaasCompleteJobCommand}
    (h : (completePaasJob rt s intent command).accepted = true) :
    ∃ current, ReportGuard s command current ∧
      ((completePaasJob rt s intent command).state = finalize
          (pushJob (released rt s (retriedJob current command.errorCode command.completedAtEpochSeconds))
            current.tenantId current.id) (addNumber s.revision 1) ∨
        (completePaasJob rt s intent command).state = finalize
          (released rt s (failedJob current command.errorCode command.completedAtEpochSeconds)) (addNumber s.revision 1) ∨
        (completePaasJob rt s intent command).state = finalize
          (released rt s (succeededJob current command.resultArtifactDigest command.completedAtEpochSeconds))
          (addNumber s.revision 1) ∨
        (current.operation ≠ .build ∧ (completePaasJob rt s intent command).state = finalize
          (promoteDeployment rt
            (released rt s (succeededJob current command.resultArtifactDigest command.completedAtEpochSeconds))
            (succeededJob current command.resultArtifactDigest command.completedAtEpochSeconds)
            command.completedAtEpochSeconds) (addNumber s.revision 1))) := by
  obtain ⟨-, current, hg, ⟨-, -, hs⟩ | ⟨-, -, hs⟩⟩ := complete_accepted h
  · refine ⟨current, hg, ?_⟩
    rw [hs]
    unfold failedAnswer
    by_cases hretry : retries command current
    · rw [if_pos hretry]
      exact Or.inl rfl
    · rw [if_neg hretry]
      exact Or.inr (Or.inl rfl)
  · refine ⟨current, hg, ?_⟩
    rw [hs]
    unfold succeededAnswer
    right
    right
    by_cases hbuild : current.operation = .build
    · rw [if_pos hbuild]
      exact Or.inl rfl
    · rw [if_neg hbuild]
      exact Or.inr ⟨hbuild, rfl⟩

theorem updates_report {job job' : PaasControlJob} (hrunning : job.status = .running)
    (htenant : job'.tenantId = job.tenantId) (hresource : job'.resource = job.resource)
    (hop : job'.operation = job.operation) (hfields : ∀ id, durableFields id job' = durableFields id job) :
    Updates job job' := by
  refine ⟨htenant, hresource, hop, ?_, fun hs => absurd (hrunning.symm.trans hs) nofun⟩
  intro id hf
  rw [hfields]
  exact hf

/-- **An accepted completion leaves a durable state.** -/
theorem Durable.completed (h : Durable rt intent s) {command : PaasCompleteJobCommand}
    (ha : (completePaasJob rt s intent command).accepted = true) :
    Durable rt intent (completePaasJob rt s intent command).state := by
  have hrevision := addNumber_nonneg h.records.revision zero_le_one
  obtain ⟨current, hg, hstate⟩ := complete_state ha
  have hj := hg.found
  have hrunning := hg.running
  have hactive := active_running hrunning
  rw [h.records.key_eq hj] at hj
  have hsucceeded : Durable rt intent (released rt s
      (succeededJob current command.resultArtifactDigest command.completedAtEpochSeconds)) :=
    h.release hj hactive (updates_report hrunning rfl rfl rfl fun _ => rfl) rfl rfl nofun
  rcases hstate with hs | hs | hs | ⟨hop, hs⟩
  · rw [hs]
    have hretried : Durable rt intent
        (pushJob (released rt s (retriedJob current command.errorCode command.completedAtEpochSeconds))
          current.tenantId current.id) :=
      h.requeue hj hactive (updates_report hrunning rfl rfl rfl fun _ => rfl) rfl rfl
    exact hretried.finalized hrevision
  · rw [hs]
    have hfailed : Durable rt intent
        (released rt s (failedJob current command.errorCode command.completedAtEpochSeconds)) :=
      h.release hj hactive (updates_report hrunning rfl rfl rfl fun _ => rfl) rfl rfl nofun
    exact hfailed.finalized hrevision
  · rw [hs]
    exact hsucceeded.finalized hrevision
  · rw [hs]
    refine Durable.finalized ?_ hrevision
    exact hsucceeded.promote (Record.get?_set_self ..) rfl hop command.completedAtEpochSeconds

/-- A running job has been created before it is reported: it started in between. -/
theorem ClockOk.completed (h : ClockOk intent s) {command : PaasCompleteJobCommand}
    (ha : (completePaasJob rt s intent command).accepted = true) :
    ClockOk intent (completePaasJob rt s intent command).state := by
  obtain ⟨current, hg, hstate⟩ := complete_state ha
  have hrunning := hg.running
  have hnow := hg.epoch
  have hstart := hg.started
  have hclock := h command.jobId current hg.found
  have hcreated : current.createdAtEpochSeconds ≤ command.completedAtEpochSeconds := by
    obtain ⟨hknown, -, hstarted, -⟩ := lifecycleTimes_iff.1 hclock.lifecycle
    have hk := hknown (active_running hrunning)
    cases ht : current.startedAtEpochSeconds with
    | none =>
      rw [ht] at hk
      cases hk
    | some started =>
      have hle := hstarted started ht
      rw [ht, Option.getD_some] at hstart
      omega
  rcases hstate with hs | hs | hs | ⟨-, hs⟩
  · rw [hs]
    exact h.set rfl (hclock.retried hnow hcreated command.errorCode)
  · rw [hs]
    exact h.set rfl (hclock.failed hnow hcreated command.errorCode)
  · rw [hs]
    exact h.set rfl (hclock.succeeded hnow hcreated command.resultArtifactDigest)
  · rw [hs]
    exact h.set rfl (hclock.succeeded hnow hcreated command.resultArtifactDigest)

/-! ## Acknowledgement -/

/-- What an acknowledgement passes: the worker of a job that is being cancelled has cleaned up. -/
structure AcknowledgeGuard (s : PaasControlState) (command : PaasAcknowledgeCancellationCommand)
    (current : PaasControlJob) : Prop where
  found : s.jobs.get? command.jobId = some current
  revision : command.expectedRevision = s.revision
  tenantId : current.tenantId = command.tenantId
  cancelling : current.status = .cancelling
  workerRole : current.workerRole = command.workerRole
  epoch : validEpoch command.acknowledgedAtEpochSeconds = true
  cleanupEvidence : hasText command.cleanupEvidence = true
  updated : current.updatedAtEpochSeconds ≤ command.acknowledgedAtEpochSeconds

/-- The answer to an acknowledgement. -/
def acknowledgedAnswer (rt : Runtime) (s : PaasControlState) (command : PaasAcknowledgeCancellationCommand)
    (current : PaasControlJob) : PaasControlTransition :=
  let revision := addNumber s.revision 1
  let now := command.acknowledgedAtEpochSeconds
  let job := acknowledgedJob current command.cleanupEvidence now
  accepted (finalize (released rt s job) revision)
    [event (if job.status = .timedOut then .jobTimedOut else .jobCancelled) revision now job] (some job.id)

/-- **What an acknowledgement has passed**, and its answer. -/
theorem acknowledge_accepted {command : PaasAcknowledgeCancellationCommand}
    (h : (acknowledgePaasJobCancellation rt s intent command).accepted = true) :
    stateInvariantError rt s intent = none ∧ ∃ current, AcknowledgeGuard s command current ∧
      acknowledgePaasJobCancellation rt s intent command = acknowledgedAnswer rt s command current := by
  unfold acknowledgePaasJobCancellation at h ⊢
  obtain ⟨hcheck, heq⟩ := accepted_else h
  rw [heq] at h ⊢
  refine ⟨checked hcheck, ?_⟩
  obtain ⟨hrevision, heq⟩ := accepted_else h
  rw [heq] at h ⊢
  cases hj : (s.jobs.get? command.jobId).filter fun job => job.tenantId == command.tenantId with
  | none =>
    rw [hj] at h
    cases h
  | some current =>
    obtain ⟨hfound, htenant⟩ := Option.filter_eq_some_iff.1 hj
    rw [hj] at h
    simp only at h ⊢
    obtain ⟨hstatus, heq⟩ := accepted_else h
    rw [heq] at h ⊢
    obtain ⟨hrole, heq⟩ := accepted_else h
    rw [heq] at h ⊢
    obtain ⟨hvalid, heq⟩ := accepted_else h
    rw [heq]
    simp only [Bool.or_eq_true, not_or, Bool.not_eq_true', Bool.not_eq_false, decide_eq_true_eq,
      not_lt] at hvalid
    obtain ⟨⟨hepoch, hevidence⟩, hupdated⟩ := hvalid
    exact ⟨current, ⟨hfound, not_not.1 hrevision, beq_iff_eq.1 htenant, not_not.1 hstatus, not_not.1 hrole,
      hepoch, hevidence, hupdated⟩, rfl⟩

/-- An acknowledged job has ended, by the deadline or by its tenant. -/
theorem acknowledged_status (job : PaasControlJob) (cleanupEvidence : String) (now : ℤ) :
    isActive (acknowledgedJob job cleanupEvidence now) = false ∧
      (acknowledgedJob job cleanupEvidence now).status ≠ .queued := by
  unfold isActive acknowledgedJob
  by_cases hreason : job.cancellationReason = some .deadline
  · rw [if_pos hreason]
    exact ⟨rfl, nofun⟩
  · rw [if_neg hreason]
    exact ⟨rfl, nofun⟩

theorem Durable.acknowledged (h : Durable rt intent s) {command : PaasAcknowledgeCancellationCommand}
    (ha : (acknowledgePaasJobCancellation rt s intent command).accepted = true) :
    Durable rt intent (acknowledgePaasJobCancellation rt s intent command).state := by
  have hrevision := addNumber_nonneg h.records.revision zero_le_one
  obtain ⟨-, current, hg, hs⟩ := acknowledge_accepted ha
  have hj := hg.found
  have hstatus := hg.cancelling
  obtain ⟨hidle, hended⟩ := acknowledged_status current command.cleanupEvidence command.acknowledgedAtEpochSeconds
  rw [h.records.key_eq hj] at hj
  rw [hs]
  refine Durable.finalized ?_ hrevision
  exact h.release hj (active_cancelling hstatus)
    ⟨rfl, rfl, rfl, fun _ hf => hf, fun hsucceeded => absurd (hstatus.symm.trans hsucceeded) nofun⟩ rfl hidle hended

theorem ClockOk.acknowledged (h : ClockOk intent s) (hd : Durable rt intent s)
    {command : PaasAcknowledgeCancellationCommand}
    (ha : (acknowledgePaasJobCancellation rt s intent command).accepted = true) :
    ClockOk intent (acknowledgePaasJobCancellation rt s intent command).state := by
  obtain ⟨-, current, hg, hs⟩ := acknowledge_accepted ha
  have hupdated := hg.updated
  have hclock := h command.jobId current hg.found
  obtain ⟨-, hcreated⟩ := hclock.created (hd.records.tenant _ current hg.found)
  rw [hs]
  exact h.set rfl (hclock.acknowledged hg.epoch (by omega) command.cleanupEvidence)

/-! ## The sweep -/

/-- The jobs expired, then the running ones past their deadline asked to stop. -/
def swept (s : PaasControlState) (now : ℤ) : PaasControlState × List PaasControlEvent :=
  let revision := addNumber s.revision 1
  let (next, events) := expireQueuedJobs s now revision
  ({ next with jobs := next.jobs.mapValues (sweptJob now) },
    events ++ (next.jobs.values.filter (isOverdue now)).map fun job =>
      event .jobCancellationRequested revision now (sweptJob now job))

/-- **What a sweep has passed**, and its answer. -/
theorem sweep_accepted {command : PaasSweepCommand} (h : (sweepExpiredPaasJobs rt s intent command).accepted = true) :
    stateInvariantError rt s intent = none ∧ validEpoch command.nowEpochSeconds = true ∧
      (sweepExpiredPaasJobs rt s intent command = noChange s ∨
        sweepExpiredPaasJobs rt s intent command =
          accepted (finalize (swept s command.nowEpochSeconds).1 (addNumber s.revision 1))
            (swept s command.nowEpochSeconds).2 none) := by
  unfold sweepExpiredPaasJobs at h ⊢
  obtain ⟨hcheck, heq⟩ := accepted_else h
  rw [heq] at h ⊢
  obtain ⟨-, heq⟩ := accepted_else h
  rw [heq] at h ⊢
  obtain ⟨hnow, heq⟩ := accepted_else h
  rw [heq]
  rw [Bool.not_eq_true', Bool.not_eq_false] at hnow
  refine ⟨checked hcheck, hnow, ?_⟩
  unfold swept
  dsimp only
  generalize expireQueuedJobs s command.nowEpochSeconds (addNumber s.revision 1) = expired
  split
  · exact Or.inl rfl
  · exact Or.inr rfl

theorem sweptJob_cases (now : ℤ) (job : PaasControlJob) : sweptJob now job = job ∨
    (job.status = .running ∧ job.deadlineAtEpochSeconds ≤ now ∧ sweptJob now job = cancellingJob job .deadline now) := by
  unfold sweptJob
  by_cases hdue : isOverdue now job = true
  · rw [if_pos hdue]
    simp only [isOverdue, Bool.and_eq_true, beq_iff_eq, decide_eq_true_eq] at hdue
    exact Or.inr ⟨hdue.1, hdue.2, rfl⟩
  · rw [if_neg hdue]
    exact Or.inl rfl

/-- **An accepted sweep leaves a durable state.** -/
theorem Durable.swept (h : Durable rt intent s) {command : PaasSweepCommand}
    (ha : (sweepExpiredPaasJobs rt s intent command).accepted = true) :
    Durable rt intent (sweepExpiredPaasJobs rt s intent command).state := by
  have hrevision := addNumber_nonneg h.records.revision zero_le_one
  obtain ⟨-, -, hs | hs⟩ := sweep_accepted ha
  · rw [hs]
    exact h
  · rw [hs]
    refine Durable.finalized ?_ hrevision
    have hexpired := h.expire command.nowEpochSeconds (addNumber s.revision 1)
    refine hexpired.stop (f := fun _ => sweptJob command.nowEpochSeconds)
      ⟨fun id => Record.get?_mapValues .., ?_⟩ ?_
    · intro id job hj
      rcases sweptJob_cases command.nowEpochSeconds job with hsame | ⟨hrunning, -, hswept⟩
      · rw [hsame]
        exact Updates.refl job
      · rw [hswept]
        exact updates_cancelling hrunning .deadline command.nowEpochSeconds
    · intro id job hj
      rcases sweptJob_cases command.nowEpochSeconds job with hsame | ⟨hrunning, -, hswept⟩
      · exact Or.inl hsame
      · rw [hswept]
        exact Or.inr ⟨hrunning, rfl⟩

theorem ClockOk.swept (h : ClockOk intent s) (hd : Durable rt intent s) {command : PaasSweepCommand}
    (ha : (sweepExpiredPaasJobs rt s intent command).accepted = true) :
    ClockOk intent (sweepExpiredPaasJobs rt s intent command).state := by
  obtain ⟨-, hnow, hs | hs⟩ := sweep_accepted ha
  · rw [hs]
    exact h
  · rw [hs]
    have hexpired := hd.expire command.nowEpochSeconds (addNumber s.revision 1)
    have hclocks : ClockOk intent (expireQueuedJobs s command.nowEpochSeconds (addNumber s.revision 1)).1 :=
      h.expire hd hnow
    intro id job' hj'
    change ((expireQueuedJobs s command.nowEpochSeconds (addNumber s.revision 1)).1.jobs.mapValues
      (sweptJob command.nowEpochSeconds)).get? id = some job' at hj'
    rw [Record.get?_mapValues] at hj'
    obtain ⟨job, hj, rfl⟩ := Option.map_eq_some_iff.1 hj'
    rcases sweptJob_cases command.nowEpochSeconds job with hsame | ⟨hrunning, hdue, hswept⟩
    · rw [hsame]
      exact hclocks id job hj
    · -- a job past its deadline was created before
      obtain ⟨hdeadline, -⟩ := (hclocks id job hj).created (hexpired.records.tenant id job hj)
      rw [hswept]
      exact (hclocks id job hj).cancelling (active_running hrunning) hnow (by omega) .deadline

end SecureSaas.Paas
