import SecureSaas.Paas.Effects

/-!
# Starts, promotions and deployments

The events that tell what has happened to a job, and the records of what is deployed.

* `exec_starts`, `exec_promotions`: the events of a start and of a promotion.
* `exec_deployments`: what becomes of the deployments.
-/

namespace SecureSaas.Paas

open Js

variable {rt : Runtime} {intent : PaasSecurityIntent} {s s' : PaasControlState} {c : PaasCommand}

/-! ## Starts and promotions -/

/-- The event is neither a start nor a promotion. -/
def isQuiet (e : PaasControlEvent) : Prop := isStart e.type = false ∧ isPromotion e.type = false

theorem isQuiet_redemption {capabilityId : Option String} {revision now : ℤ} {job : PaasControlJob}
    {e : PaasControlEvent} (he : e ∈ redemptionEvents capabilityId revision now job) : isQuiet e := by
  unfold isQuiet
  rw [mem_redemptionEvents he]
  exact ⟨rfl, rfl⟩

theorem enqueue_quiet {command : PaasEnqueueJobCommand} (ha : (enqueuePaasJob rt s intent command).accepted = true) :
    ∀ e ∈ (enqueuePaasJob rt s intent command).events, isQuiet e := by
  obtain ⟨-, -, tenant, -, -, ⟨existing, -, -, -, hs⟩ | ⟨-, hs⟩⟩ := enqueue_accepted ha
  · rw [hs]
    exact nofun
  · rw [hs]
    intro e he
    rcases List.mem_cons.1 he with rfl | he
    · exact ⟨rfl, rfl⟩
    · exact isQuiet_redemption he

theorem cancel_quiet {command : PaasCancelJobCommand} (ha : (cancelPaasJob rt s intent command).accepted = true) :
    ∀ e ∈ (cancelPaasJob rt s intent command).events, isQuiet e := by
  obtain ⟨-, current, -, -, -, -, -, -, ⟨-, -, -, -, hs⟩ | ⟨-, ⟨-, hs⟩ | ⟨-, hs⟩⟩⟩ := cancel_accepted ha
  · rw [hs]
    exact nofun
  · rw [hs]
    intro e he
    rcases List.mem_append.1 he with he | he
    · exact isQuiet_redemption he
    · rw [List.mem_singleton.1 he]
      exact ⟨rfl, rfl⟩
  · rw [hs]
    intro e he
    rcases List.mem_append.1 he with he | he
    · exact isQuiet_redemption he
    · rw [List.mem_singleton.1 he]
      exact ⟨rfl, rfl⟩

theorem acknowledge_quiet {command : PaasAcknowledgeCancellationCommand}
    (ha : (acknowledgePaasJobCancellation rt s intent command).accepted = true) :
    ∀ e ∈ (acknowledgePaasJobCancellation rt s intent command).events, isQuiet e := by
  obtain ⟨-, current, -, hs⟩ := acknowledge_accepted ha
  rw [hs]
  intro e he
  rw [List.mem_singleton.1 he]
  unfold isQuiet event
  dsimp only
  split <;> exact ⟨rfl, rfl⟩

theorem sweep_quiet {command : PaasSweepCommand} (ha : (sweepExpiredPaasJobs rt s intent command).accepted = true) :
    ∀ e ∈ (sweepExpiredPaasJobs rt s intent command).events, isQuiet e := by
  obtain ⟨-, -, hs | hs⟩ := sweep_accepted ha
  · rw [hs]
    exact nofun
  · rw [hs]
    intro e he
    rcases List.mem_append.1 he with he | he
    · unfold isQuiet
      rw [expireQueuedJobs_events _ _ _ e he]
      exact ⟨rfl, rfl⟩
    · obtain ⟨job, -, rfl⟩ := List.mem_map.1 he
      exact ⟨rfl, rfl⟩

/-- A report has no start, and a promotion only when a deployment has succeeded. -/
theorem complete_counts {command : PaasCompleteJobCommand}
    (ha : (completePaasJob rt s intent command).accepted = true) (id : String) :
    countEvents isStart id (completePaasJob rt s intent command).events = 0 ∧
      (countEvents isPromotion id (completePaasJob rt s intent command).events = 0 ∨
        (countEvents isPromotion id (completePaasJob rt s intent command).events = 1 ∧
          ∃ current, id = current.id ∧ ReportGuard s command current ∧ command.outcome = .succeeded ∧
            current.operation ≠ .build ∧ (completePaasJob rt s intent command).state.jobs.get? id =
              some (succeededJob current command.resultArtifactDigest command.completedAtEpochSeconds))) := by
  obtain ⟨-, current, hg, ⟨-, -, hs⟩ | ⟨hsucceeded, -, hs⟩⟩ := complete_accepted ha
  · rw [hs]
    unfold failedAnswer
    by_cases hretry : retries command current
    · rw [if_pos hretry]
      exact ⟨rfl, Or.inl rfl⟩
    · rw [if_neg hretry]
      exact ⟨rfl, Or.inl rfl⟩
  · rw [hs]
    unfold succeededAnswer
    by_cases hbuild : current.operation = .build
    · rw [if_pos hbuild]
      exact ⟨rfl, Or.inl rfl⟩
    · rw [if_neg hbuild]
      unfold countEvents promotionEvent
      simp only [accepted, event, List.countP_cons, List.countP_nil]
      by_cases hid : id = current.id
      · constructor
        · split <;> simp [isStart]
        · right
          refine ⟨?_, current, hid, hg, hsucceeded, hbuild, ?_⟩
          · rw [hid]
            split <;> simp [isPromotion, succeededJob, releasedJob]
          · rw [hid]
            exact Record.get?_set_self ..
      · have hne : (current.id == id) = false := beq_eq_false_iff_ne.2 (Ne.symm hid)
        constructor
        · split <;> simp [isStart]
        · left
          simp [succeededJob, releasedJob, hne]

theorem schedule_counts {command : PaasScheduleCommand}
    (ha : (schedulePaasJobs rt s intent command).accepted = true) (id : String) :
    countEvents isPromotion id (schedulePaasJobs rt s intent command).events = 0 ∧
      (countEvents isStart id (schedulePaasJobs rt s intent command).events = 0 ∨
        (countEvents isStart id (schedulePaasJobs rt s intent command).events = 1 ∧
          ∃ job, s.jobs.get? id = some job ∧ job.status = .queued ∧
            (schedulePaasJobs rt s intent command).state.jobs.get? id =
              some (startedJob job command.nowEpochSeconds))) := by
  obtain ⟨hcheck, -, ⟨-, hs⟩ | hs⟩ := schedule_accepted ha
  · rw [hs]
    exact ⟨rfl, Or.inl rfl⟩
  · have hd := (stateInvariantError_none.1 hcheck).1
    have hexpiry := expireQueuedJobs_events s command.nowEpochSeconds (addNumber s.revision 1)
    rw [hs]
    constructor
    · refine countEvents_none ?_ id
      intro e he
      rcases startJobs_types _ _ _ _ _ _ e he with he | he
      · rw [hexpiry e he]
        rfl
      · rw [he]
        rfl
    · have hzero : countEvents isStart id (expireQueuedJobs s command.nowEpochSeconds (addNumber s.revision 1)).2 = 0 :=
        countEvents_none (fun e he => by rw [hexpiry e he]; rfl) id
      have hcount := startJobs_count (hd.expire command.nowEpochSeconds (addNumber s.revision 1))
        (scheduleTenants rt intent) command.nowEpochSeconds (addNumber s.revision 1) (maxStarts intent command)
        (expireQueuedJobs s command.nowEpochSeconds (addNumber s.revision 1)).2 id
      rw [hzero] at hcount
      rcases hcount with ⟨-, hevents⟩ | ⟨job, hj, hqueued, hstart, hevents⟩
      · exact Or.inl hevents
      · refine Or.inr ⟨hevents, job, ?_, hqueued, hstart⟩
        rcases hd.queues.expire_job command.nowEpochSeconds (addNumber s.revision 1) id with
          hsame | ⟨job', -, -, -, hexp⟩
        · exact hsame.symm.trans hj
        · rw [hexp] at hj
          rw [← Option.some.inj hj] at hqueued
          cases hqueued

/-- **A start** is an event of the scheduler about a queued job. -/
theorem exec_starts (ha : (c.exec rt s intent).accepted = true) (id : String) :
    countEvents isStart id (c.exec rt s intent).events = 0 ∨
      (countEvents isStart id (c.exec rt s intent).events = 1 ∧ ∃ command job, c = .schedule command ∧
        s.jobs.get? id = some job ∧ job.status = .queued ∧
        (c.exec rt s intent).state.jobs.get? id = some (startedJob job command.nowEpochSeconds)) := by
  cases c with
  | enqueue command => exact Or.inl (countEvents_none (fun e he => (enqueue_quiet ha e he).1) id)
  | schedule command =>
    rcases (schedule_counts ha id).2 with hzero | ⟨hone, job, hj, hqueued, hstart⟩
    · exact Or.inl hzero
    · exact Or.inr ⟨hone, command, job, rfl, hj, hqueued, hstart⟩
  | complete command => exact Or.inl (complete_counts ha id).1
  | cancel command => exact Or.inl (countEvents_none (fun e he => (cancel_quiet ha e he).1) id)
  | acknowledge command => exact Or.inl (countEvents_none (fun e he => (acknowledge_quiet ha e he).1) id)
  | sweep command => exact Or.inl (countEvents_none (fun e he => (sweep_quiet ha e he).1) id)

/-- **A promotion** is an event of a report that a deployment has succeeded. -/
theorem exec_promotions (ha : (c.exec rt s intent).accepted = true) (id : String) :
    countEvents isPromotion id (c.exec rt s intent).events = 0 ∨
      (countEvents isPromotion id (c.exec rt s intent).events = 1 ∧ ∃ command current, c = .complete command ∧
        id = current.id ∧ ReportGuard s command current ∧ command.outcome = .succeeded ∧ current.operation ≠ .build ∧
        (c.exec rt s intent).state.jobs.get? id =
          some (succeededJob current command.resultArtifactDigest command.completedAtEpochSeconds)) := by
  cases c with
  | enqueue command => exact Or.inl (countEvents_none (fun e he => (enqueue_quiet ha e he).2) id)
  | schedule command => exact Or.inl (schedule_counts ha id).1
  | complete command =>
    rcases (complete_counts ha id).2 with hzero | ⟨hone, current, hid, hg, hsucceeded, hop, hleft⟩
    · exact Or.inl hzero
    · exact Or.inr ⟨hone, command, current, rfl, hid, hg, hsucceeded, hop, hleft⟩
  | cancel command => exact Or.inl (countEvents_none (fun e he => (cancel_quiet ha e he).2) id)
  | acknowledge command => exact Or.inl (countEvents_none (fun e he => (acknowledge_quiet ha e he).2) id)
  | sweep command => exact Or.inl (countEvents_none (fun e he => (sweep_quiet ha e he).2) id)

/-! ## Deployments -/

/-- The record that a promotion writes. -/
def promotedRecord (rt : Runtime) (s : PaasControlState) (job : PaasControlJob) (now : ℤ) : PaasDeploymentRecord :=
  let artifact := job.artifactDigest.getD ""
  let current := s.deployments.get? (resourceKey rt job.tenantId job.resource)
  { tenantId := job.tenantId
    resource := job.resource
    activeArtifactDigest := artifact
    previousArtifactDigests := deploymentHistory current artifact
    generation := addNumber ((current.map fun d => d.generation).getD 0) 1
    updatedAtEpochSeconds := now
    sourceJobId := job.id }

/-- The loops of the scheduler and the sweep touch no record. -/
theorem startJobs_records (tenantIds : List String) (now revision : ℤ) (starts : ℕ) (s : PaasControlState)
    (events : List PaasControlEvent) :
    (startJobs rt intent tenantIds now revision starts s events).1.deployments = s.deployments ∧
      (startJobs rt intent tenantIds now revision starts s events).1.idempotency = s.idempotency ∧
      (startJobs rt intent tenantIds now revision starts s events).1.redeemedCapabilities =
        s.redeemedCapabilities := by
  induction starts generalizing s events with
  | zero => exact ⟨rfl, rfl, rfl⟩
  | succ starts ih =>
    rw [startJobs_succ]
    cases nextStart rt intent tenantIds s with
    | none => exact ⟨rfl, rfl, rfl⟩
    | some p => exact ih _ _

theorem expireQueuedJobs_records (s : PaasControlState) (now revision : ℤ) :
    (expireQueuedJobs s now revision).1.deployments = s.deployments ∧
      (expireQueuedJobs s now revision).1.idempotency = s.idempotency ∧
      (expireQueuedJobs s now revision).1.redeemedCapabilities = s.redeemedCapabilities := by
  obtain ⟨jobs, tenantQueues, events, heq, -⟩ := expireQueuedJobs_spec s now revision
  rw [heq]
  exact ⟨rfl, rfl, rfl⟩

theorem schedule_records {command : PaasScheduleCommand}
    (ha : (schedulePaasJobs rt s intent command).accepted = true) :
    (schedulePaasJobs rt s intent command).state.deployments = s.deployments ∧
      (schedulePaasJobs rt s intent command).state.idempotency = s.idempotency ∧
      (schedulePaasJobs rt s intent command).state.redeemedCapabilities = s.redeemedCapabilities := by
  obtain ⟨-, -, ⟨-, hs⟩ | hs⟩ := schedule_accepted ha
  · rw [hs]
    exact ⟨rfl, rfl, rfl⟩
  · rw [hs]
    obtain ⟨hd, hi, hr⟩ := expireQueuedJobs_records s command.nowEpochSeconds (addNumber s.revision 1)
    obtain ⟨hd', hi', hr'⟩ := @startJobs_records rt intent (scheduleTenants rt intent)
      command.nowEpochSeconds (addNumber s.revision 1) (maxStarts intent command)
      (expireQueuedJobs s command.nowEpochSeconds (addNumber s.revision 1)).1
      (expireQueuedJobs s command.nowEpochSeconds (addNumber s.revision 1)).2
    exact ⟨hd'.trans hd, hi'.trans hi, hr'.trans hr⟩

theorem sweep_records {command : PaasSweepCommand} (ha : (sweepExpiredPaasJobs rt s intent command).accepted = true) :
    (sweepExpiredPaasJobs rt s intent command).state.deployments = s.deployments ∧
      (sweepExpiredPaasJobs rt s intent command).state.idempotency = s.idempotency ∧
      (sweepExpiredPaasJobs rt s intent command).state.redeemedCapabilities = s.redeemedCapabilities := by
  obtain ⟨-, -, hs | hs⟩ := sweep_accepted ha
  · rw [hs]
    exact ⟨rfl, rfl, rfl⟩
  · rw [hs]
    exact expireQueuedJobs_records s command.nowEpochSeconds (addNumber s.revision 1)

theorem redeem_deployments (s : PaasControlState) (capabilityId : Option String) (tenantId jobId : String) (now : ℤ) :
    (redeem rt s capabilityId tenantId jobId now).deployments = s.deployments := by
  cases capabilityId <;> rfl

/-- The command reports that a deployment has succeeded, and promotes it. -/
structure Promotes (rt : Runtime) (intent : PaasSecurityIntent) (s : PaasControlState) (c : PaasCommand)
    (command : PaasCompleteJobCommand) (job : PaasControlJob) : Prop where
  call : c = .complete command
  guard : ReportGuard s command job
  succeeded : command.outcome = .succeeded
  operation : job.operation ≠ .build
  deployments : (c.exec rt s intent).state.deployments =
    s.deployments.set (resourceKey rt job.tenantId job.resource) (promotedRecord rt s job command.completedAtEpochSeconds)

/-- **What becomes of the deployments**: a promotion writes one record, and no other call any. -/
theorem exec_deployments (ha : (c.exec rt s intent).accepted = true) :
    (c.exec rt s intent).state.deployments = s.deployments ∨ ∃ command job, Promotes rt intent s c command job := by
  cases c with
  | enqueue command =>
    left
    obtain ⟨-, -, tenant, -, -, ⟨existing, -, -, -, hs⟩ | ⟨-, hs⟩⟩ := enqueue_accepted ha
    · exact congrArg (fun t => t.state.deployments) hs
    · exact (congrArg (fun t => t.state.deployments) hs).trans (redeem_deployments ..)
  | schedule command => exact Or.inl (schedule_records ha).1
  | complete command =>
    obtain ⟨-, current, hg, ⟨-, -, hs⟩ | ⟨hsucceeded, -, hs⟩⟩ := complete_accepted ha
    · left
      refine (congrArg (fun t => t.state.deployments) hs).trans ?_
      unfold failedAnswer
      dsimp only
      split <;> rfl
    · by_cases hbuild : current.operation = .build
      · left
        refine (congrArg (fun t => t.state.deployments) hs).trans ?_
        unfold succeededAnswer
        rw [if_pos hbuild]
        rfl
      · right
        refine ⟨command, current, rfl, hg, hsucceeded, hbuild, ?_⟩
        refine (congrArg (fun t => t.state.deployments) hs).trans ?_
        unfold succeededAnswer
        rw [if_neg hbuild]
        rfl
  | cancel command =>
    left
    obtain ⟨-, current, -, -, -, -, -, -, ⟨-, -, -, -, hs⟩ | ⟨-, ⟨-, hs⟩ | ⟨-, hs⟩⟩⟩ := cancel_accepted ha
    · exact congrArg (fun t => t.state.deployments) hs
    · exact (congrArg (fun t => t.state.deployments) hs).trans (redeem_deployments ..)
    · exact (congrArg (fun t => t.state.deployments) hs).trans (redeem_deployments ..)
  | acknowledge command =>
    left
    obtain ⟨-, current, -, hs⟩ := acknowledge_accepted ha
    exact congrArg (fun t => t.state.deployments) hs
  | sweep command => exact Or.inl (sweep_records ha).1

end SecureSaas.Paas
