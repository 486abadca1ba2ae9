import SecureSaas.Paas.Control

/-!
# Closure of the state check

An accepted command should leave a state that the check accepts: a state it rejects answers every
later command with a violation. The transitions check the clocks of their commands, with two
exceptions: the scheduler starts a job whatever its creation, and enqueueing does not look at the
deadline it computes, which may be rounded or leave no time at all.

* `PaasCommand.inOrder`: the condition on a command and the state before it.
* `ClockOk.exec_iff`: an accepted command keeps the clocks in order exactly when it is in order.
* `wedged_iff`: a rejected state is one that answers every command with a violation.
* `closed_iff`: closure of one step, and of runs.
-/

namespace SecureSaas.Paas

open Js

variable {rt : Runtime} {intent : PaasSecurityIntent} {s : PaasControlState}

/-! ## Commands in order -/

/-- The command does not start a job before its creation, or enqueue one with a deadline out of order. -/
def PaasCommand.inOrder (rt : Runtime) (s : PaasControlState) (intent : PaasSecurityIntent) : PaasCommand → Bool
  | .enqueue command => (s.idempotency.get? (stateKey rt [command.tenantId, command.idempotencyKey])).isSome ||
      (intent.find command.tenantId).all fun tenant => enqueueInOrder tenant command.requestedAtEpochSeconds
  | .schedule command => scheduleInOrder rt intent s command
  | _ => true

theorem ClockOk.enqueued_iff (h : ClockOk intent s) {command : PaasEnqueueJobCommand}
    (ha : (enqueuePaasJob rt s intent command).accepted = true) :
    ClockOk intent (enqueuePaasJob rt s intent command).state ↔
      (PaasCommand.enqueue command).inOrder rt s intent = true := by
  obtain ⟨-, hvalid, tenant, ht, -, ⟨existing, hrecord, -, -, hs⟩ | ⟨hg, hs⟩⟩ := enqueue_accepted ha
  · simp only [PaasCommand.inOrder, hrecord, Option.isSome_some, Bool.true_or]
    rw [hs]
    exact iff_of_true h trivial
  · have hepoch : validEpoch command.requestedAtEpochSeconds = true := by
      simp only [validEnqueueCommand, Bool.and_eq_true] at hvalid
      tauto
    have hclock := enqueued_clock_iff (truthy command.authorization.capabilityToRedeem) ht hepoch
    simp only [PaasCommand.inOrder, hg.record, ht, Option.isSome_none, Bool.false_or, Option.all_some]
    rw [hs, ← hclock]
    constructor
    · intro hresult
      refine hresult command.jobId _ ?_
      show (finalize (withEnqueued rt s command _) _).jobs.get? command.jobId = _
      rw [withEnqueued_jobs, Record.get?_set_self]
    · intro hjob
      exact h.set (withEnqueued_jobs command _ _) hjob

/-- **An accepted command keeps the clocks in order exactly when it is in order.** -/
theorem ClockOk.exec_iff (h : ClockOk intent s) (hd : Durable rt intent s) {c : PaasCommand}
    (ha : (c.exec rt s intent).accepted = true) :
    ClockOk intent (c.exec rt s intent).state ↔ c.inOrder rt s intent = true := by
  cases c with
  | enqueue command => exact h.enqueued_iff ha
  | schedule command => exact h.scheduled_iff hd ha
  | complete command => exact iff_of_true (h.completed ha) rfl
  | cancel command => exact iff_of_true (h.cancelled ha) rfl
  | acknowledge command => exact iff_of_true (h.acknowledged hd ha) rfl
  | sweep command => exact iff_of_true (h.swept hd ha) rfl

/-! ## Wedged states -/

theorem assert_ok : assertPaasControlState rt s intent = .ok () ↔ Durable rt intent s ∧ ClockOk intent s := by
  rw [← stateInvariantError_none]
  unfold assertPaasControlState
  cases stateInvariantError rt s intent with
  | none => exact iff_of_true rfl rfl
  | some error => exact iff_of_false nofun nofun

/-- Every command answers with a violation. -/
def Wedged (rt : Runtime) (intent : PaasSecurityIntent) (s : PaasControlState) : Prop :=
  ∀ c : PaasCommand, (c.exec rt s intent).code = .stateInvariantViolation

/-- A state is wedged exactly when the check rejects it. -/
theorem wedged_iff : Wedged rt intent s ↔ assertPaasControlState rt s intent ≠ .ok () := by
  rw [ne_eq, assert_ok, ← stateInvariantError_none, ← ne_eq, Option.ne_none_iff_isSome]
  constructor
  · intro h
    by_contra hnone
    -- a stale sweep is refused for its revision
    have hsweep := h (.sweep ⟨s.revision + 1, 0⟩)
    simp only [PaasCommand.exec, sweepExpiredPaasJobs] at hsweep
    rw [if_neg hnone, if_pos (by omega)] at hsweep
    cases hsweep
  · intro h c
    cases c with
    | enqueue command => simp only [PaasCommand.exec, enqueuePaasJob, if_pos h]; rfl
    | schedule command => simp only [PaasCommand.exec, schedulePaasJobs, if_pos h]; rfl
    | complete command => simp only [PaasCommand.exec, completePaasJob, if_pos h]; rfl
    | cancel command => simp only [PaasCommand.exec, cancelPaasJob, if_pos h]; rfl
    | acknowledge command => simp only [PaasCommand.exec, acknowledgePaasJobCancellation, if_pos h]; rfl
    | sweep command => simp only [PaasCommand.exec, sweepExpiredPaasJobs, if_pos h]; rfl

/-! ## Closure -/

/-- A step whose command is in order. -/
def OrderedStep (rt : Runtime) (intent : PaasSecurityIntent) (s : PaasControlState) (c : PaasCommand)
    (s' : PaasControlState) : Prop :=
  ControlStep rt intent s c s' ∧ c.inOrder rt s intent = true

theorem create_clock : ClockOk intent (createPaasControlState intent) := fun _ _ hj => absurd hj create_jobs

/-- **A run of commands in order reaches accepted states only.** -/
theorem ordered_run (hn : intent.tenantIds.Nodup) {h : List PaasCommand}
    (hr : Run (OrderedStep rt intent) (createPaasControlState intent) h s) :
    assertPaasControlState rt s intent = .ok () := by
  refine hr.invariant (I := fun s => assertPaasControlState rt s intent = .ok ()) ?_ ?_
  · exact assert_ok.2 ⟨create_durable hn, create_clock⟩
  · intro m c t hm hs
    obtain ⟨⟨haccepted, rfl⟩, horder⟩ := hs
    obtain ⟨hd, hc⟩ := assert_ok.1 hm
    exact assert_ok.2 ⟨hd.exec haccepted, (hc.exec_iff hd haccepted).2 horder⟩

/-- **Closure of the control state**: an accepted command leaves an accepted state exactly when it
is in order, and a run of commands in order wedges nothing. -/
theorem closed_iff (rt : Runtime) (intent : PaasSecurityIntent) :
    (∀ s c, assertPaasControlState rt s intent = .ok () → (PaasCommand.exec rt s intent c).accepted = true →
      (assertPaasControlState rt (PaasCommand.exec rt s intent c).state intent = .ok () ↔
        c.inOrder rt s intent = true)) ∧
    (intent.tenantIds.Nodup → ∀ h s, Run (OrderedStep rt intent) (createPaasControlState intent) h s →
      ¬ Wedged rt intent s) := by
  constructor
  · intro s c hs ha
    obtain ⟨hd, hc⟩ := assert_ok.1 hs
    rw [← hc.exec_iff hd ha, assert_ok]
    exact and_iff_right (hd.exec ha)
  · intro hn h s hr hwedged
    exact wedged_iff.1 hwedged (ordered_run hn hr)

/-- `closed_iff` on the sample state and a schedule at the time of its job's creation. -/
theorem closed_iff_started : assertPaasControlState sampleRuntime (sampleStarted 1000) sampleIntent = .ok () := by
  have hqueued : assertPaasControlState sampleRuntime sampleQueued sampleIntent = .ok () := by decide +kernel
  have haccepted : ((PaasCommand.schedule (sampleSchedule 1000)).exec sampleRuntime sampleQueued
      sampleIntent).accepted = true := by decide +kernel
  exact ((closed_iff sampleRuntime sampleIntent).1 _ _ hqueued haccepted).2 (by decide +kernel)

/-- The control state is not closed: a job enqueued at 1000 and started at 500 wedges it. -/
theorem started_early_wedges : assertPaasControlState sampleRuntime sampleQueued sampleIntent = .ok () ∧
    ControlStep sampleRuntime sampleIntent sampleQueued (.schedule (sampleSchedule 500)) (sampleStarted 500) ∧
    assertPaasControlState sampleRuntime (sampleStarted 500) sampleIntent ≠ .ok () ∧
    (∃ h, Run (ControlStep sampleRuntime sampleIntent) (createPaasControlState sampleIntent) h
      (sampleStarted 500)) ∧ Wedged sampleRuntime sampleIntent (sampleStarted 500) := by
  have hstarted : ControlStep sampleRuntime sampleIntent sampleQueued (.schedule (sampleSchedule 500))
      (sampleStarted 500) := by
    refine ⟨?_, rfl⟩
    show (schedulePaasJobs sampleRuntime sampleQueued sampleIntent (sampleSchedule 500)).accepted = true
    decide +kernel
  have hrejected : assertPaasControlState sampleRuntime (sampleStarted 500) sampleIntent ≠ .ok () := by decide +kernel
  exact ⟨by decide +kernel, hstarted, hrejected, ⟨_, (Run.single sample_enqueued).snoc hstarted⟩, wedged_iff.2 hrejected⟩

end SecureSaas.Paas
