import SecureSaas.Paas.Invariant
import SecureSaas.Paas.Transitions

/-!
# The clocks of a job

What each update of a job does to the order of its times, given the time of the command.

* `JobClock.update`: an update that keeps creation, deadline and tenant.
* `JobClock.started_iff`, `enqueued_clock_iff`: the two updates that can put a job's times out of
  order, and when they do.
-/

namespace SecureSaas.Paas

open Js

variable {intent : PaasSecurityIntent} {job job' : PaasControlJob} {now : ℤ}

/-- The times of a job's life, as a proposition. -/
theorem lifecycleTimes_iff : lifecycleTimes job = true ↔
    (isActive job = true → knownEpoch job.startedAtEpochSeconds = true) ∧
      (isTerminal job = true → knownEpoch job.completedAtEpochSeconds = true) ∧
      (∀ t, job.startedAtEpochSeconds = some t → job.createdAtEpochSeconds ≤ t) ∧
      ∀ t, job.completedAtEpochSeconds = some t → job.createdAtEpochSeconds ≤ t := by
  have himp : ∀ a b : Bool, (!a || b) = true ↔ (a = true → b = true) := by decide
  have hall : ∀ o : Option ℤ, (o.all fun t => decide (job.createdAtEpochSeconds ≤ t)) = true ↔
      ∀ t, o = some t → job.createdAtEpochSeconds ≤ t := by
    intro o
    cases o with
    | none => simp
    | some t => simp
  unfold lifecycleTimes
  rw [Bool.and_eq_true, Bool.and_eq_true, Bool.and_eq_true, himp, himp, hall, hall, and_assoc, and_assoc]

theorem durableTimes_iff {tenant : PaasTenantQuota} : durableTimes tenant job = true ↔
    (validEpoch job.createdAtEpochSeconds = true ∧ validEpoch job.deadlineAtEpochSeconds = true) ∧
      job.createdAtEpochSeconds < job.deadlineAtEpochSeconds ∧
      subNumber job.deadlineAtEpochSeconds job.createdAtEpochSeconds ≤ mulNumber tenant.maxExecutionMinutes 60 ∧
      validEpoch job.updatedAtEpochSeconds = true ∧ job.createdAtEpochSeconds ≤ job.updatedAtEpochSeconds := by
  simp only [durableTimes, Bool.and_eq_true, decide_eq_true_eq]
  tauto

/-- The facts of a clock that do not depend on the quota. -/
theorem JobClock.created (h : JobClock intent job) (htenant : job.tenantId ∈ intent.tenantIds) :
    job.createdAtEpochSeconds < job.deadlineAtEpochSeconds ∧
      job.createdAtEpochSeconds ≤ job.updatedAtEpochSeconds := by
  obtain ⟨tenant, ht⟩ := find_some.2 htenant
  obtain ⟨-, hdeadline, -, -, hupdated⟩ := durableTimes_iff.1 (h.durable tenant ht)
  exact ⟨hdeadline, hupdated⟩

/-- **An update of a job keeps its clock** when it keeps its creation and its deadline. -/
theorem JobClock.update (h : JobClock intent job) (htenant : job'.tenantId = job.tenantId)
    (hcreated : job'.createdAtEpochSeconds = job.createdAtEpochSeconds)
    (hdeadline : job'.deadlineAtEpochSeconds = job.deadlineAtEpochSeconds)
    (hvalid : validEpoch job'.updatedAtEpochSeconds = true)
    (hupdated : job.createdAtEpochSeconds ≤ job'.updatedAtEpochSeconds)
    (hlifecycle : lifecycleTimes job' = true) : JobClock intent job' := by
  refine ⟨?_, hlifecycle⟩
  intro tenant ht
  rw [htenant] at ht
  obtain ⟨h0, hlt, hquota, -⟩ := durableTimes_iff.1 (h.durable tenant ht)
  rw [durableTimes_iff, hcreated, hdeadline]
  exact ⟨h0, hlt, hquota, hvalid, hupdated⟩

/-- **A job that ends** at a time that is not before its creation keeps its clock. -/
theorem JobClock.ends (h : JobClock intent job) (hnow : validEpoch now = true) (hle : job.createdAtEpochSeconds ≤ now)
    (htenant : job'.tenantId = job.tenantId)
    (hcreated : job'.createdAtEpochSeconds = job.createdAtEpochSeconds)
    (hdeadline : job'.deadlineAtEpochSeconds = job.deadlineAtEpochSeconds)
    (hupdated : job'.updatedAtEpochSeconds = now) (hactive : isActive job' = false)
    (hstarted : job'.startedAtEpochSeconds = none ∨ job'.startedAtEpochSeconds = job.startedAtEpochSeconds)
    (hcompleted : job'.completedAtEpochSeconds = some now) : JobClock intent job' := by
  refine h.update htenant hcreated hdeadline (hupdated ▸ hnow) (hupdated ▸ hle) ?_
  obtain ⟨-, -, hstart, -⟩ := lifecycleTimes_iff.1 h.lifecycle
  rw [lifecycleTimes_iff, hactive, hcreated, hcompleted]
  refine ⟨nofun, fun _ => hnow, ?_, ?_⟩
  · intro t ht
    rcases hstarted with hs | hs
    · rw [hs] at ht
      cases ht
    · exact hstart t (hs ▸ ht)
  · intro t ht
    rw [← Option.some.inj ht]
    exact hle

theorem JobClock.timedOut (h : JobClock intent job) (hnow : validEpoch now = true) (hle : job.createdAtEpochSeconds ≤ now) :
    JobClock intent (timedOutJob job now) :=
  h.ends hnow hle rfl rfl rfl rfl rfl (Or.inr rfl) rfl

theorem JobClock.failed (h : JobClock intent job) (hnow : validEpoch now = true) (hle : job.createdAtEpochSeconds ≤ now)
    (errorCode : Option String) : JobClock intent (failedJob job errorCode now) :=
  h.ends hnow hle rfl rfl rfl rfl rfl (Or.inl rfl) rfl

theorem JobClock.succeeded (h : JobClock intent job) (hnow : validEpoch now = true) (hle : job.createdAtEpochSeconds ≤ now)
    (digest : Option String) : JobClock intent (succeededJob job digest now) :=
  h.ends hnow hle rfl rfl rfl rfl rfl (Or.inl rfl) rfl

theorem JobClock.cancelledQueued (h : JobClock intent job) (hnow : validEpoch now = true)
    (hle : job.createdAtEpochSeconds ≤ now) : JobClock intent (cancelledQueuedJob job now) :=
  h.ends hnow hle rfl rfl rfl rfl rfl (Or.inr rfl) rfl

theorem JobClock.acknowledged (h : JobClock intent job) (hnow : validEpoch now = true) (hle : job.createdAtEpochSeconds ≤ now)
    (cleanupEvidence : String) : JobClock intent (acknowledgedJob job cleanupEvidence now) := by
  refine h.ends hnow hle rfl rfl rfl rfl ?_ (Or.inl rfl) rfl
  unfold isActive acknowledgedJob
  by_cases hreason : job.cancellationReason = some .deadline
  · rw [if_pos hreason]
    rfl
  · rw [if_neg hreason]
    rfl

/-- A retried job is neither active nor ended, and its start is forgotten. -/
theorem JobClock.retried (h : JobClock intent job) (hnow : validEpoch now = true)
    (hle : job.createdAtEpochSeconds ≤ now)
    (errorCode : Option String) : JobClock intent (retriedJob job errorCode now) := by
  obtain ⟨-, -, -, hcompleted⟩ := lifecycleTimes_iff.1 h.lifecycle
  refine h.update rfl rfl rfl hnow hle ?_
  rw [lifecycleTimes_iff]
  exact ⟨nofun, nofun, nofun, hcompleted⟩

/-- A running job that is asked to stop keeps its start. -/
theorem JobClock.cancelling (h : JobClock intent job) (hactive : isActive job = true)
    (hnow : validEpoch now = true) (hle : job.createdAtEpochSeconds ≤ now) (reason : PaasCancellationReason) :
    JobClock intent (cancellingJob job reason now) := by
  obtain ⟨hknown, -, hstart, hcompleted⟩ := lifecycleTimes_iff.1 h.lifecycle
  refine h.update rfl rfl rfl hnow hle ?_
  rw [lifecycleTimes_iff]
  exact ⟨fun _ => hknown hactive, nofun, hstart, hcompleted⟩

/-- **A start keeps a job's clock exactly when the job was created before.** -/
theorem JobClock.started_iff (h : JobClock intent job) (htenant : job.tenantId ∈ intent.tenantIds)
    (hnow : validEpoch now = true) : JobClock intent (startedJob job now) ↔ job.createdAtEpochSeconds ≤ now := by
  constructor
  · intro hs
    exact (hs.created htenant).2
  · intro hle
    obtain ⟨-, -, -, hcompleted⟩ := lifecycleTimes_iff.1 h.lifecycle
    refine h.update rfl rfl rfl hnow hle ?_
    rw [lifecycleTimes_iff]
    refine ⟨fun _ => hnow, nofun, ?_, hcompleted⟩
    intro t ht
    rw [← Option.some.inj ht]
    exact hle

/-- The deadline of a new job is a time after its creation, and no later than its tenant's quota
allows. -/
def enqueueInOrder (tenant : PaasTenantQuota) (requestedAtEpochSeconds : ℤ) : Bool :=
  let allowed := mulNumber tenant.maxExecutionMinutes 60
  let deadline := addNumber requestedAtEpochSeconds allowed
  validEpoch deadline && decide (requestedAtEpochSeconds < deadline) &&
    decide (subNumber deadline requestedAtEpochSeconds ≤ allowed)

/-- Times that are held exactly are in order for every quota of a minute or more. -/
theorem enqueueInOrder_of_exact {tenant : PaasTenantQuota} {requestedAtEpochSeconds : ℤ}
    (hrequested : 0 ≤ requestedAtEpochSeconds) (hmin : 1 ≤ tenant.maxExecutionMinutes)
    (hexact : requestedAtEpochSeconds + tenant.maxExecutionMinutes * 60 < 2 ^ 53) :
    enqueueInOrder tenant requestedAtEpochSeconds = true := by
  have hinfinity := lt_infinity hexact
  have hallowed : mulNumber tenant.maxExecutionMinutes 60 = tenant.maxExecutionMinutes * 60 :=
    mulNumber_exact (by omega)
  have hdeadline : addNumber requestedAtEpochSeconds (tenant.maxExecutionMinutes * 60) =
      requestedAtEpochSeconds + tenant.maxExecutionMinutes * 60 := addNumber_exact (by omega)
  have hlasts : subNumber (requestedAtEpochSeconds + tenant.maxExecutionMinutes * 60) requestedAtEpochSeconds =
      requestedAtEpochSeconds + tenant.maxExecutionMinutes * 60 - requestedAtEpochSeconds :=
    subNumber_exact (by omega)
  simp only [enqueueInOrder, validEpoch, hallowed, hdeadline, hlasts, Bool.and_eq_true, decide_eq_true_eq]
  omega

/-- **A new job's clock is in order exactly when its deadline is.** -/
theorem enqueued_clock_iff {command : PaasEnqueueJobCommand} {tenant : PaasTenantQuota}
    (capabilityId : Option String) (ht : intent.find command.tenantId = some tenant)
    (hepoch : validEpoch command.requestedAtEpochSeconds = true) :
    JobClock intent (enqueuedJob command tenant capabilityId) ↔
      enqueueInOrder tenant command.requestedAtEpochSeconds = true := by
  have hlifecycle : lifecycleTimes (enqueuedJob command tenant capabilityId) = true :=
    lifecycleTimes_iff.2 ⟨nofun, nofun, nofun, nofun⟩
  have htimes : durableTimes tenant (enqueuedJob command tenant capabilityId) = true ↔
      enqueueInOrder tenant command.requestedAtEpochSeconds = true := by
    rw [durableTimes_iff]
    simp only [enqueuedJob, enqueueInOrder, hepoch, le_refl, Bool.and_eq_true, decide_eq_true_eq, true_and,
      and_true]
    rw [and_assoc]
  rw [← htimes]
  constructor
  · intro h
    exact h.durable tenant ht
  · intro h
    refine ⟨?_, hlifecycle⟩
    intro tenant' ht'
    obtain rfl := Option.some.inj (ht.symm.trans ht')
    exact h

end SecureSaas.Paas
