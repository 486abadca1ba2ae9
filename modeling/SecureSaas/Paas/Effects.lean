import SecureSaas.Paas.Control

/-!
# What a call does

A call is a command with the state it found. It is refused and changes nothing, or repeats an
earlier one, or has one of the effects below.

* `exec_refused`: a command is refused or accepted.
* `JobStep`: what a call may do to a job; `exec_jobs`: what it does to the jobs it finds.
* `exec_fresh`: where a new job comes from.
-/

namespace SecureSaas.Paas

open Js

variable {rt : Runtime} {intent : PaasSecurityIntent} {s s' : PaasControlState} {c : PaasCommand}

/-! ## Calls -/

/-- A command that is sent, and the state that it is sent to. -/
structure PaasCall where
  state : PaasControlState
  command : PaasCommand

def PaasCall.transition (rt : Runtime) (intent : PaasSecurityIntent) (call : PaasCall) : PaasControlTransition :=
  call.command.exec rt call.state intent

/-- The state after a call, whether it was accepted or refused. -/
def PaasCall.after (rt : Runtime) (intent : PaasSecurityIntent) (call : PaasCall) : PaasControlState :=
  (call.transition rt intent).state

def CallStep (rt : Runtime) (intent : PaasSecurityIntent) (s : PaasControlState) (call : PaasCall)
    (s' : PaasControlState) : Prop :=
  call.state = s ∧ call.after rt intent = s'

/-- The runs of calls from the initial state. -/
def CallRun (rt : Runtime) (intent : PaasSecurityIntent) (h : List PaasCall) (s : PaasControlState) : Prop :=
  Run (CallStep rt intent) (createPaasControlState intent) h s

/-- Any command may come next. -/
theorem CallRun.send {h : List PaasCall} (hr : CallRun rt intent h s) (c : PaasCommand) :
    CallRun rt intent (h ++ [⟨s, c⟩]) (c.exec rt s intent).state := Run.snoc hr ⟨rfl, rfl⟩

/-- The calls of a client that sends these commands, one after the other. -/
def callsFrom (rt : Runtime) (intent : PaasSecurityIntent) : PaasControlState → List PaasCommand → List PaasCall
  | _, [] => []
  | s, c :: commands => ⟨s, c⟩ :: callsFrom rt intent (c.exec rt s intent).state commands

def stateAfter (rt : Runtime) (intent : PaasSecurityIntent) (s : PaasControlState) (commands : List PaasCommand) :
    PaasControlState :=
  commands.foldl (fun s c => (c.exec rt s intent).state) s

/-- Any sequence of commands makes a run. -/
theorem callsFrom_run (rt : Runtime) (intent : PaasSecurityIntent) (s : PaasControlState)
    (commands : List PaasCommand) : Run (CallStep rt intent) s (callsFrom rt intent s commands) (stateAfter rt intent s commands) := by
  induction commands generalizing s with
  | nil => exact Run.start
  | cons c commands ih => exact (Run.single (a := ⟨s, c⟩) ⟨rfl, rfl⟩).trans (ih (c.exec rt s intent).state)

theorem callsFrom_commands (rt : Runtime) (intent : PaasSecurityIntent) (s : PaasControlState)
    (commands : List PaasCommand) : (callsFrom rt intent s commands).map PaasCall.command = commands := by
  induction commands generalizing s with
  | nil => rfl
  | cons c commands ih => exact congrArg (c :: ·) (ih _)

/-! ## Refusals -/

/-- The transition leaves the state as it was and has no events. -/
def Refused (s : PaasControlState) (t : PaasControlTransition) : Prop :=
  t.accepted = false ∧ t.state = s ∧ t.events = []

theorem rejected_refused (s : PaasControlState) (code : PaasControlTransitionCode) : Refused s (rejected s code) :=
  ⟨rfl, rfl, rfl⟩

/-- A guard refuses, or lets what is behind it answer. -/
theorem refused_ite {p : Prop} [Decidable p] {t t' : PaasControlTransition} (ht : Refused s t ∨ t.accepted = true)
    (ht' : Refused s t' ∨ t'.accepted = true) : Refused s (if p then t else t') ∨
      (if p then t else t').accepted = true := by
  by_cases hp : p
  · rw [if_pos hp]
    exact ht
  · rw [if_neg hp]
    exact ht'

theorem refused_guard {p : Prop} [Decidable p] {code : PaasControlTransitionCode} {t : PaasControlTransition}
    (ht : Refused s t ∨ t.accepted = true) : Refused s (if p then rejected s code else t) ∨
      (if p then rejected s code else t).accepted = true :=
  refused_ite (Or.inl (rejected_refused s code)) ht

theorem enqueue_refused (command : PaasEnqueueJobCommand) : Refused s (enqueuePaasJob rt s intent command) ∨
    (enqueuePaasJob rt s intent command).accepted = true := by
  unfold enqueuePaasJob
  refine refused_guard (refused_guard ?_)
  cases intent.find command.tenantId with
  | none => exact Or.inl (rejected_refused s _)
  | some tenant =>
    refine refused_guard ?_
    cases s.idempotency.get? (stateKey rt [command.tenantId, command.idempotencyKey]) with
    | some existing => exact refused_ite (Or.inr rfl) (Or.inl (rejected_refused s _))
    | none => exact refused_guard (refused_guard (refused_guard (refused_guard (Or.inr rfl))))

theorem schedule_refused (command : PaasScheduleCommand) : Refused s (schedulePaasJobs rt s intent command) ∨
    (schedulePaasJobs rt s intent command).accepted = true := by
  unfold schedulePaasJobs
  refine refused_guard (refused_guard (refused_guard (refused_guard ?_)))
  exact refused_ite (Or.inr rfl) (Or.inr rfl)

theorem complete_refused (command : PaasCompleteJobCommand) : Refused s (completePaasJob rt s intent command) ∨
    (completePaasJob rt s intent command).accepted = true := by
  unfold completePaasJob
  refine refused_guard (refused_guard (refused_guard ?_))
  cases (s.jobs.get? command.jobId).filter fun job => job.tenantId == command.tenantId with
  | none => exact Or.inl (rejected_refused s _)
  | some current =>
    refine refused_guard (refused_guard (refused_guard (refused_guard (refused_guard ?_))))
    cases command.outcome with
    | failed => exact refused_ite (Or.inr rfl) (Or.inr rfl)
    | succeeded =>
      right
      simp only
      split <;> rfl

theorem cancel_refused (command : PaasCancelJobCommand) : Refused s (cancelPaasJob rt s intent command) ∨
    (cancelPaasJob rt s intent command).accepted = true := by
  unfold cancelPaasJob
  refine refused_guard ?_
  cases (s.jobs.get? command.jobId).filter fun job => job.tenantId == command.tenantId with
  | none => exact Or.inl (rejected_refused s _)
  | some current =>
    refine refused_guard (refused_guard ?_)
    cases s.idempotency.get? (stateKey rt [command.tenantId, command.idempotencyKey]) with
    | some existing => exact refused_ite (Or.inr rfl) (Or.inl (rejected_refused s _))
    | none =>
      refine refused_guard (refused_guard (refused_guard ?_))
      exact refused_ite (Or.inr rfl) (Or.inr rfl)

theorem acknowledge_refused (command : PaasAcknowledgeCancellationCommand) :
    Refused s (acknowledgePaasJobCancellation rt s intent command) ∨
      (acknowledgePaasJobCancellation rt s intent command).accepted = true := by
  unfold acknowledgePaasJobCancellation
  refine refused_guard (refused_guard ?_)
  cases (s.jobs.get? command.jobId).filter fun job => job.tenantId == command.tenantId with
  | none => exact Or.inl (rejected_refused s _)
  | some current => exact refused_guard (refused_guard (refused_guard (Or.inr rfl)))

theorem sweep_refused (command : PaasSweepCommand) : Refused s (sweepExpiredPaasJobs rt s intent command) ∨
    (sweepExpiredPaasJobs rt s intent command).accepted = true := by
  unfold sweepExpiredPaasJobs
  refine refused_guard (refused_guard (refused_guard ?_))
  exact refused_ite (Or.inr rfl) (Or.inr rfl)

/-- **A command is refused or accepted**, and a refusal changes nothing. -/
theorem exec_refused (c : PaasCommand) : Refused s (c.exec rt s intent) ∨ (c.exec rt s intent).accepted = true := by
  cases c with
  | enqueue command => exact enqueue_refused command
  | schedule command => exact schedule_refused command
  | complete command => exact complete_refused command
  | cancel command => exact cancel_refused command
  | acknowledge command => exact acknowledge_refused command
  | sweep command => exact sweep_refused command

/-- A state that a run reaches is durable, or the initial one. -/
theorem run_durable {h : List PaasCall} (hr : CallRun rt intent h s) :
    Durable rt intent s ∨ s = createPaasControlState intent := by
  refine hr.invariant (I := fun s => Durable rt intent s ∨ s = createPaasControlState intent) (Or.inr rfl) ?_
  rintro m call t hm ⟨rfl, rfl⟩
  rcases @exec_refused rt intent call.state call.command with ⟨-, hs, -⟩ | ha
  · rw [show call.after rt intent = call.state from hs]
    exact hm
  · -- an accepted call has checked the state it found
    exact Or.inl ((stateInvariantError_none.1 (exec_checked ha)).1.exec ha)

/-! ## Events -/

/-- The number of events of the types `p` about a job. -/
def countEvents (p : PaasControlEventType → Bool) (id : String) (events : List PaasControlEvent) : ℕ :=
  events.countP fun e => p e.type && e.jobId == id

def isStart (type : PaasControlEventType) : Bool := type == .jobStarted

def isPromotion (type : PaasControlEventType) : Bool := type == .deploymentPromoted || type == .deploymentRolledBack

theorem countEvents_none {p : PaasControlEventType → Bool} {events : List PaasControlEvent}
    (h : ∀ e ∈ events, p e.type = false) (id : String) : countEvents p id events = 0 := by
  unfold countEvents
  rw [List.countP_eq_zero]
  intro e he
  rw [h e he, Bool.false_and]
  exact Bool.false_ne_true

theorem countEvents_append (p : PaasControlEventType → Bool) (id : String) (a b : List PaasControlEvent) :
    countEvents p id (a ++ b) = countEvents p id a + countEvents p id b := List.countP_append

theorem mem_redemptionEvents {capabilityId : Option String} {revision now : ℤ} {job : PaasControlJob}
    {e : PaasControlEvent} (he : e ∈ redemptionEvents capabilityId revision now job) : e.type = .capabilityRedeemed := by
  unfold redemptionEvents at he
  split at he
  · rw [List.mem_singleton.1 he]
    rfl
  · cases he

/-- Expiry has no other events than that jobs have timed out. -/
theorem expireQueue_events (now revision : ℤ) (queue : List String) (s : PaasControlState)
    (events : List PaasControlEvent) (retained : List String) (h : ∀ e ∈ events, e.type = .jobTimedOut) :
    ∀ e ∈ (expireQueue now revision queue s events retained).2.1, e.type = .jobTimedOut := by
  induction queue generalizing s events retained with
  | nil => exact h
  | cons jobId queue ih =>
    unfold expireQueue
    cases s.jobs.get? jobId with
    | none => exact ih s events _ h
    | some job =>
      simp only
      split
      · refine ih _ _ retained ?_
        intro e he
        rcases List.mem_append.1 he with he | he
        · exact h e he
        · rw [List.mem_singleton.1 he]
          rfl
      · exact ih s events _ h

theorem expireQueues_events (now revision : ℤ) (queues : List (String × List String)) (s : PaasControlState)
    (events : List PaasControlEvent) (h : ∀ e ∈ events, e.type = .jobTimedOut) :
    ∀ e ∈ (expireQueues now revision queues s events).2, e.type = .jobTimedOut := by
  induction queues generalizing s events with
  | nil => exact h
  | cons queue queues ih => exact ih _ _ (expireQueue_events now revision queue.2 s events [] h)

theorem expireQueuedJobs_events (s : PaasControlState) (now revision : ℤ) :
    ∀ e ∈ (expireQueuedJobs s now revision).2, e.type = .jobTimedOut :=
  expireQueues_events now revision _ s [] nofun

/-- The loop of starts adds one event for each job it starts. -/
theorem startJobs_count (h : Durable rt intent s) (tenantIds : List String) (now revision : ℤ) (starts : ℕ)
    (events : List PaasControlEvent) (id : String) :
    (startJobs rt intent tenantIds now revision starts s events).1.jobs.get? id = s.jobs.get? id ∧
        countEvents isStart id (startJobs rt intent tenantIds now revision starts s events).2 =
          countEvents isStart id events ∨
      ∃ job, s.jobs.get? id = some job ∧ job.status = .queued ∧
        (startJobs rt intent tenantIds now revision starts s events).1.jobs.get? id = some (startedJob job now) ∧
        countEvents isStart id (startJobs rt intent tenantIds now revision starts s events).2 =
          countEvents isStart id events + 1 := by
  induction starts generalizing s events with
  | zero => exact Or.inl ⟨rfl, rfl⟩
  | succ starts ih =>
    rw [startJobs_succ]
    cases hn : Paas.nextStart rt intent tenantIds s with
    | none => exact Or.inl ⟨rfl, rfl⟩
    | some p =>
      obtain ⟨tenantId, jobId, rest, job⟩ := p
      obtain ⟨hm, hglobal⟩ := h.nextStart hn
      have hnext := h.start hm hglobal now
      have hget : (withStarted rt s tenantId jobId rest (startedJob job now)).jobs.get? id =
          if id = jobId then some (startedJob job now) else s.jobs.get? id := Record.get?_set ..
      have hcount : countEvents isStart id (events ++ [event .jobStarted revision now (startedJob job now)]) =
          countEvents isStart id events + if id = jobId then 1 else 0 := by
        rw [countEvents_append, h.records.key_eq hm.found]
        unfold countEvents
        rw [List.countP_singleton]
        by_cases hid : id = job.id
        · simp [hid, event, startedJob, isStart]
        · simp [hid, event, startedJob, isStart, Ne.symm hid]
      have hrest := ih hnext (events ++ [event .jobStarted revision now (startedJob job now)])
      rw [hget, hcount] at hrest
      by_cases hid : id = jobId
      · simp only [if_pos hid] at hrest
        rcases hrest with ⟨hsame, hevents⟩ | ⟨job', hj', hqueued, -⟩
        · exact Or.inr ⟨job, hid ▸ hm.found, hm.queued, hsame, hevents⟩
        · -- it has started already
          rw [← Option.some.inj hj'] at hqueued
          cases hqueued
      · simp only [if_neg hid, Nat.add_zero] at hrest
        exact hrest

/-- Every event of the loop of starts is a start. -/
theorem startJobs_types (tenantIds : List String) (now revision : ℤ) (starts : ℕ) (s : PaasControlState)
    (events : List PaasControlEvent) : ∀ e ∈ (startJobs rt intent tenantIds now revision starts s events).2,
      e ∈ events ∨ e.type = .jobStarted := by
  obtain ⟨more, hmore, htypes⟩ := @startJobs_events rt intent tenantIds now revision starts s events
  intro e he
  rw [hmore] at he
  exact (List.mem_append.1 he).imp_right (htypes e)

/-! ## Jobs -/

/-- The time of the clock that expires queued jobs. -/
def PaasCommand.expiresAt : PaasCommand → Option ℤ
  | .schedule command => some command.nowEpochSeconds
  | .sweep command => some command.nowEpochSeconds
  | _ => none

/-- What an accepted command may do to the job `id` that it finds in `s`. -/
inductive JobStep (s : PaasControlState) : PaasCommand → String → PaasControlJob → PaasControlJob → Prop
  | kept (c : PaasCommand) (id : String) (job : PaasControlJob) : JobStep s c id job job
  | started {command : PaasScheduleCommand} {id : String} {job : PaasControlJob} (queued : job.status = .queued) :
      JobStep s (.schedule command) id job (startedJob job command.nowEpochSeconds)
  | expired {c : PaasCommand} {id : String} {job : PaasControlJob} {now : ℤ} (clock : c.expiresAt = some now)
      (queued : job.status = .queued) (due : job.deadlineAtEpochSeconds ≤ now) : JobStep s c id job (timedOutJob job now)
  | swept {command : PaasSweepCommand} {id : String} {job : PaasControlJob} (running : job.status = .running)
      (due : job.deadlineAtEpochSeconds ≤ command.nowEpochSeconds) :
      JobStep s (.sweep command) id job (cancellingJob job .deadline command.nowEpochSeconds)
  | retried {command : PaasCompleteJobCommand} {job : PaasControlJob} (guard : ReportGuard s command job)
      (failed : command.outcome = .failed) (error : command.errorCode.any hasText = true)
      (retries : retries command job) : JobStep s (.complete command) command.jobId job
        (retriedJob job command.errorCode command.completedAtEpochSeconds)
  | failed {command : PaasCompleteJobCommand} {job : PaasControlJob} (guard : ReportGuard s command job)
      (failed : command.outcome = .failed) (error : command.errorCode.any hasText = true) :
      JobStep s (.complete command) command.jobId job
        (failedJob job command.errorCode command.completedAtEpochSeconds)
  | succeeded {command : PaasCompleteJobCommand} {job : PaasControlJob} (guard : ReportGuard s command job)
      (succeeded : command.outcome = .succeeded)
      (digest : job.operation = .build → validDigest command.resultArtifactDigest = true) :
      JobStep s (.complete command) command.jobId job
        (succeededJob job command.resultArtifactDigest command.completedAtEpochSeconds)
  | cancelled {command : PaasCancelJobCommand} {job : PaasControlJob} (tenant : job.tenantId = command.tenantId)
      (queued : job.status = .queued) : JobStep s (.cancel command) command.jobId job
        (cancelledQueuedJob job command.requestedAtEpochSeconds)
  | cancelling {command : PaasCancelJobCommand} {job : PaasControlJob} (tenant : job.tenantId = command.tenantId)
      (running : job.status = .running) : JobStep s (.cancel command) command.jobId job
        (cancellingJob job .user command.requestedAtEpochSeconds)
  | acknowledged {command : PaasAcknowledgeCancellationCommand} {job : PaasControlJob}
      (guard : AcknowledgeGuard s command job) : JobStep s (.acknowledge command) command.jobId job
        (acknowledgedJob job command.cleanupEvidence command.acknowledgedAtEpochSeconds)

/-- One job is set; all others are kept. -/
theorem jobs_set {jobs : Record PaasControlJob} {id0 : String} {job0 job0' : PaasControlJob}
    (hj0 : s.jobs.get? id0 = some job0) (hjobs : jobs = s.jobs.set id0 job0') (hstep : JobStep s c id0 job0 job0')
    {id : String} {job : PaasControlJob} (hj : s.jobs.get? id = some job) :
    ∃ job', jobs.get? id = some job' ∧ JobStep s c id job job' := by
  rw [hjobs, Record.get?_set]
  by_cases hid : id = id0
  · rw [if_pos hid]
    rw [hid, hj0] at hj
    obtain rfl := Option.some.inj hj
    exact ⟨job0', rfl, hid ▸ hstep⟩
  · rw [if_neg hid]
    exact ⟨job, hj, .kept c id job⟩

/-- What expiry does to a job. -/
theorem QueuesOk.expire_job (h : QueuesOk s) (now revision : ℤ) (id : String) :
    (expireQueuedJobs s now revision).1.jobs.get? id = s.jobs.get? id ∨
      ∃ job, s.jobs.get? id = some job ∧ job.status = .queued ∧ job.deadlineAtEpochSeconds ≤ now ∧
        (expireQueuedJobs s now revision).1.jobs.get? id = some (timedOutJob job now) := by
  obtain ⟨jobs, tenantQueues, events, heq, hjobs, -⟩ := expireQueuedJobs_spec s now revision
  rw [heq]
  show jobs.get? id = _ ∨ ∃ job, _ ∧ _ ∧ _ ∧ jobs.get? id = _
  rw [hjobs]
  cases hj : s.jobs.get? id with
  | none => exact Or.inl rfl
  | some job =>
    rw [Option.map_some]
    unfold expireIf
    by_cases hexp : isListed s.tenantQueues.entries id = true ∧ job.deadlineAtEpochSeconds ≤ now
    · rw [if_pos hexp]
      exact Or.inr ⟨job, rfl, h.listed hexp.1 hj, hexp.2, rfl⟩
    · rw [if_neg hexp]
      exact Or.inl rfl

theorem scheduled_job (h : Durable rt intent s) (command : PaasScheduleCommand) (id : String) :
    (scheduled rt intent s command).1.jobs.get? id = s.jobs.get? id ∨
      ∃ job job', s.jobs.get? id = some job ∧ (scheduled rt intent s command).1.jobs.get? id = some job' ∧
        JobStep s (.schedule command) id job job' := by
  have hexpired := h.expire command.nowEpochSeconds (addNumber s.revision 1)
  have hstart : (scheduled rt intent s command).1.jobs.get? id =
        (expireQueuedJobs s command.nowEpochSeconds (addNumber s.revision 1)).1.jobs.get? id ∧ _ ∨
      ∃ job, _ ∧ _ ∧ (scheduled rt intent s command).1.jobs.get? id = _ ∧ _ :=
    startJobs_count hexpired (scheduleTenants rt intent) command.nowEpochSeconds (addNumber s.revision 1)
      (maxStarts intent command) (expireQueuedJobs s command.nowEpochSeconds (addNumber s.revision 1)).2 id
  rcases h.queues.expire_job command.nowEpochSeconds (addNumber s.revision 1) id with
    hexp | ⟨job, hj, hqueued, hdue, hexp⟩
  · rw [hexp] at hstart
    rcases hstart with ⟨hstart, -⟩ | ⟨job, hj, hqueued, hstart, -⟩
    · exact Or.inl hstart
    · exact Or.inr ⟨job, _, hj, hstart, .started hqueued⟩
  · rw [hexp] at hstart
    rcases hstart with ⟨hstart, -⟩ | ⟨job', hj', hqueued', -⟩
    · exact Or.inr ⟨job, _, hj, hstart, .expired rfl hqueued hdue⟩
    · -- a job that has timed out is not queued
      rw [← Option.some.inj hj'] at hqueued'
      cases hqueued'

theorem swept_job (h : Durable rt intent s) (command : PaasSweepCommand) (id : String) :
    (swept s command.nowEpochSeconds).1.jobs.get? id = s.jobs.get? id ∨
      ∃ job job', s.jobs.get? id = some job ∧ (swept s command.nowEpochSeconds).1.jobs.get? id = some job' ∧
        JobStep s (.sweep command) id job job' := by
  have hget : (swept s command.nowEpochSeconds).1.jobs.get? id =
      ((expireQueuedJobs s command.nowEpochSeconds (addNumber s.revision 1)).1.jobs.get? id).map
        (sweptJob command.nowEpochSeconds) := Record.get?_mapValues ..
  rcases h.queues.expire_job command.nowEpochSeconds (addNumber s.revision 1) id with
    hexp | ⟨job, hj, hqueued, hdue, hexp⟩
  · rw [hexp] at hget
    cases hj : s.jobs.get? id with
    | none =>
      rw [hj] at hget
      exact Or.inl hget
    | some job =>
      rw [hj, Option.map_some] at hget
      rcases sweptJob_cases command.nowEpochSeconds job with hsame | ⟨hrunning, hdue, hswept⟩
      · rw [hsame] at hget
        exact Or.inl hget
      · rw [hswept] at hget
        exact Or.inr ⟨job, _, rfl, hget, .swept hrunning hdue⟩
  · rw [hexp, Option.map_some] at hget
    have hsame : sweptJob command.nowEpochSeconds (timedOutJob job command.nowEpochSeconds) =
        timedOutJob job command.nowEpochSeconds := rfl
    rw [hsame] at hget
    exact Or.inr ⟨job, _, hj, hget, .expired rfl hqueued hdue⟩

/-- **What a call does to the jobs it finds.** -/
theorem exec_jobs (ha : (c.exec rt s intent).accepted = true) {id : String} {job : PaasControlJob}
    (hj : s.jobs.get? id = some job) :
    ∃ job', (c.exec rt s intent).state.jobs.get? id = some job' ∧ JobStep s c id job job' := by
  have hd := (stateInvariantError_none.1 (exec_checked ha)).1
  have hkept : (c.exec rt s intent).state = s →
      ∃ job', (c.exec rt s intent).state.jobs.get? id = some job' ∧ JobStep s c id job job' := by
    intro hs
    rw [hs]
    exact ⟨job, hj, .kept c id job⟩
  -- a call of one of the two loops
  have hloop : ∀ t : PaasControlState, (c.exec rt s intent).state.jobs = t.jobs →
      (t.jobs.get? id = s.jobs.get? id ∨ ∃ job job', s.jobs.get? id = some job ∧ t.jobs.get? id = some job' ∧
        JobStep s c id job job') →
      ∃ job', (c.exec rt s intent).state.jobs.get? id = some job' ∧ JobStep s c id job job' := by
    intro t hs ht
    rw [hs]
    rcases ht with hsame | ⟨job0, job', hj0, hget, hstep⟩
    · exact ⟨job, hsame.trans hj, .kept c id job⟩
    · obtain rfl := Option.some.inj (hj.symm.trans hj0)
      exact ⟨job', hget, hstep⟩
  cases c with
  | enqueue command =>
    obtain ⟨-, -, tenant, -, -, ⟨existing, -, -, -, hs⟩ | ⟨hg, hs⟩⟩ := enqueue_accepted ha
    · exact hkept (congrArg PaasControlTransition.state hs)
    · have hjobs : (enqueuePaasJob rt s intent command).state.jobs = s.jobs.set command.jobId
          (enqueuedJob command tenant (truthy command.authorization.capabilityToRedeem)) := by
        rw [hs]
        exact withEnqueued_jobs ..
      show ∃ job', (enqueuePaasJob rt s intent command).state.jobs.get? id = some job' ∧ _
      have hid : id ≠ command.jobId := by
        rintro rfl
        rw [hg.new] at hj
        cases hj
      rw [hjobs, Record.get?_set_ne hid]
      exact ⟨job, hj, .kept _ id job⟩
  | schedule command =>
    obtain ⟨-, -, ⟨-, hs⟩ | hs⟩ := schedule_accepted ha
    · exact hkept (congrArg PaasControlTransition.state hs)
    · refine hloop (scheduled rt intent s command).1 ?_ (scheduled_job hd command id)
      show (schedulePaasJobs rt s intent command).state.jobs = _
      rw [hs]
      rfl
  | complete command =>
    obtain ⟨-, current, hg, ⟨hfailed, herror, hs⟩ | ⟨hsucceeded, hdigest, hs⟩⟩ := complete_accepted ha
    · show ∃ job', (completePaasJob rt s intent command).state.jobs.get? id = some job' ∧ _
      rw [hs]
      unfold failedAnswer
      have hid := hd.records.key_eq hg.found
      by_cases hretry : retries command current
      · rw [if_pos hretry]
        exact jobs_set hg.found (by rw [hid]; rfl) (.retried hg hfailed herror hretry) hj
      · rw [if_neg hretry]
        exact jobs_set hg.found (by rw [hid]; rfl) (.failed hg hfailed herror) hj
    · show ∃ job', (completePaasJob rt s intent command).state.jobs.get? id = some job' ∧ _
      rw [hs]
      unfold succeededAnswer
      have hid := hd.records.key_eq hg.found
      by_cases hbuild : current.operation = .build
      · rw [if_pos hbuild]
        exact jobs_set hg.found (by rw [hid]; rfl) (.succeeded hg hsucceeded hdigest) hj
      · rw [if_neg hbuild]
        exact jobs_set hg.found (by rw [hid]; rfl) (.succeeded hg hsucceeded hdigest) hj
  | cancel command =>
    obtain ⟨-, current, hfound, htenant, -, -, -, -, ⟨-, -, -, -, hs⟩ | ⟨-, ⟨hstatus, hs⟩ | ⟨hstatus, hs⟩⟩⟩ :=
      cancel_accepted ha
    · exact hkept (congrArg PaasControlTransition.state hs)
    · show ∃ job', (cancelPaasJob rt s intent command).state.jobs.get? id = some job' ∧ _
      have hid := hd.records.key_eq hfound
      rw [hs]
      exact jobs_set hfound (by rw [hid]; rfl) (.cancelled htenant hstatus) hj
    · show ∃ job', (cancelPaasJob rt s intent command).state.jobs.get? id = some job' ∧ _
      have hid := hd.records.key_eq hfound
      rw [hs]
      exact jobs_set hfound (by rw [hid]; rfl) (.cancelling htenant hstatus) hj
  | acknowledge command =>
    obtain ⟨-, current, hg, hs⟩ := acknowledge_accepted ha
    show ∃ job', (acknowledgePaasJobCancellation rt s intent command).state.jobs.get? id = some job' ∧ _
    have hid := hd.records.key_eq hg.found
    rw [hs]
    exact jobs_set hg.found (by rw [hid]; rfl) (.acknowledged hg) hj
  | sweep command =>
    obtain ⟨-, -, hs | hs⟩ := sweep_accepted ha
    · exact hkept (congrArg PaasControlTransition.state hs)
    · refine hloop (swept s command.nowEpochSeconds).1 ?_ (swept_job hd command id)
      show (sweepExpiredPaasJobs rt s intent command).state.jobs = _
      rw [hs]
      rfl

/-- The command enqueues a new job of the tenant. -/
structure Enqueues (rt : Runtime) (intent : PaasSecurityIntent) (s : PaasControlState)
    (command : PaasEnqueueJobCommand) (tenant : PaasTenantQuota) : Prop where
  valid : validEnqueueCommand command = true
  found : intent.find command.tenantId = some tenant
  binds : command.binds = true
  guard : EnqueueGuard rt s command
  answer : enqueuePaasJob rt s intent command = enqueuedAnswer rt s command tenant

theorem Enqueues.jobs {command : PaasEnqueueJobCommand} {tenant : PaasTenantQuota}
    (h : Enqueues rt intent s command tenant) : (enqueuePaasJob rt s intent command).state.jobs =
      s.jobs.set command.jobId (enqueuedJob command tenant (truthy command.authorization.capabilityToRedeem)) := by
  rw [h.answer]
  exact withEnqueued_jobs ..

/-- **Where a new job comes from.** -/
theorem exec_fresh (ha : (c.exec rt s intent).accepted = true) {id : String} {job' : PaasControlJob}
    (hnone : s.jobs.get? id = none) (hj' : (c.exec rt s intent).state.jobs.get? id = some job') :
    ∃ command tenant, c = .enqueue command ∧ id = command.jobId ∧ Enqueues rt intent s command tenant ∧
      job' = enqueuedJob command tenant (truthy command.authorization.capabilityToRedeem) := by
  have hd := (stateInvariantError_none.1 (exec_checked ha)).1
  have hkept : ∀ t : PaasControlState, (c.exec rt s intent).state.jobs = t.jobs → t.jobs.get? id = none → False := by
    intro t hs ht
    rw [hs, ht] at hj'
    cases hj'
  have hset : ∀ id0 job0 job0', s.jobs.get? id0 = some job0 → (c.exec rt s intent).state.jobs = s.jobs.set id0 job0' →
      False := by
    intro id0 job0 job0' hj0 hs
    have hid : id ≠ id0 := by
      rintro rfl
      rw [hnone] at hj0
      cases hj0
    rw [hs, Record.get?_set_ne hid, hnone] at hj'
    cases hj'
  cases c with
  | enqueue command =>
    obtain ⟨-, hvalid, tenant, ht, hbinds, ⟨existing, -, -, -, hs⟩ | ⟨hg, hs⟩⟩ := enqueue_accepted ha
    · exact (hkept s (congrArg (fun t => t.state.jobs) hs) hnone).elim
    · have he : Enqueues rt intent s command tenant := ⟨hvalid, ht, hbinds, hg, hs⟩
      change (enqueuePaasJob rt s intent command).state.jobs.get? id = some job' at hj'
      rw [he.jobs] at hj'
      rcases Record.get?_set_some hj' with ⟨hid, heq⟩ | ⟨-, hj'⟩
      · exact ⟨command, tenant, rfl, hid, he, heq⟩
      · rw [hnone] at hj'
        cases hj'
  | schedule command =>
    obtain ⟨-, -, ⟨-, hs⟩ | hs⟩ := schedule_accepted ha
    · exact (hkept s (congrArg (fun t => t.state.jobs) hs) hnone).elim
    · refine (hkept (scheduled rt intent s command).1 (congrArg (fun t => t.state.jobs) hs) ?_).elim
      rcases scheduled_job hd command id with hsame | ⟨job, -, hj, -⟩
      · exact hsame.trans hnone
      · rw [hnone] at hj
        cases hj
  | complete command =>
    obtain ⟨current, hg, hs⟩ := complete_state ha
    have hid := hd.records.key_eq hg.found
    have hfound := hg.found
    rw [hid] at hfound
    rcases hs with hs | hs | hs | ⟨-, hs⟩ <;>
      exact (hset current.id current _ hfound (congrArg PaasControlState.jobs hs)).elim
  | cancel command =>
    obtain ⟨-, current, hfound, -, -, -, -, -, ⟨-, -, -, -, hs⟩ | ⟨-, ⟨-, hs⟩ | ⟨-, hs⟩⟩⟩ := cancel_accepted ha
    · exact (hkept s (congrArg (fun t => t.state.jobs) hs) hnone).elim
    · rw [hd.records.key_eq hfound] at hfound
      exact (hset current.id current _ hfound (congrArg (fun t => t.state.jobs) hs)).elim
    · rw [hd.records.key_eq hfound] at hfound
      exact (hset current.id current _ hfound (congrArg (fun t => t.state.jobs) hs)).elim
  | acknowledge command =>
    obtain ⟨-, current, hg, hs⟩ := acknowledge_accepted ha
    have hfound := hg.found
    rw [hd.records.key_eq hfound] at hfound
    exact (hset current.id current _ hfound (congrArg (fun t => t.state.jobs) hs)).elim
  | sweep command =>
    obtain ⟨-, -, hs | hs⟩ := sweep_accepted ha
    · exact (hkept s (congrArg (fun t => t.state.jobs) hs) hnone).elim
    · refine (hkept (swept s command.nowEpochSeconds).1 (congrArg (fun t => t.state.jobs) hs) ?_).elim
      rcases swept_job hd command id with hsame | ⟨job, -, hj, -⟩
      · exact hsame.trans hnone
      · rw [hnone] at hj
        cases hj

end SecureSaas.Paas
