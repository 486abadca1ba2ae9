import SecureSaas.Paas.Outcomes

/-!
# The life of a job

What any run of calls may do to one job, whatever the calls are and in which order they come.

* `run_job`: a relation that every `JobStep` keeps holds along a run.
* `run_counted`: starts are counted by the attempts of a job, and a promotion is its end.
* `run_lifecycle`: **the life of a job.**
-/

namespace SecureSaas.Paas

open Js

variable {rt : Runtime} {intent : PaasSecurityIntent} {s m : PaasControlState} {h h' : List PaasCall}
  {job job' : PaasControlJob} {c : PaasCommand} {id : String}

/-! ## Steps of a job -/

/-- The job waits or runs: no one has asked it to stop, and it has not ended. -/
def isLive (job : PaasControlJob) : Prop := job.status = .queued ∨ job.status = .running

/-- What every step keeps of a job. -/
structure Follows (job job' : PaasControlJob) : Prop where
  terminal : isTerminal job = true → job' = job
  deadline : job'.deadlineAtEpochSeconds = job.deadlineAtEpochSeconds
  maxAttempts : job'.maxAttempts = job.maxAttempts
  live : isLive job' → isLive job

theorem Follows.refl (job : PaasControlJob) : Follows job job := ⟨fun _ => rfl, rfl, rfl, id⟩

theorem Follows.trans {job1 job2 job3 : PaasControlJob} (h1 : Follows job1 job2) (h2 : Follows job2 job3) :
    Follows job1 job3 := by
  refine ⟨?_, h2.deadline.trans h1.deadline, h2.maxAttempts.trans h1.maxAttempts, fun hl => h1.live (h2.live hl)⟩
  intro ht
  obtain rfl := h1.terminal ht
  exact h2.terminal ht

/-- A job with this status has not ended. -/
theorem not_terminal {status : PaasJobStatus} (hs : job.status = status)
    (hne : [PaasJobStatus.succeeded, .failed, .cancelled, .timedOut].contains status = false) :
    ¬ isTerminal job = true := by
  unfold isTerminal
  rw [hs, hne]
  exact Bool.false_ne_true

theorem acknowledgedJob_ended (job : PaasControlJob) (cleanupEvidence : String) (now : ℤ) :
    (acknowledgedJob job cleanupEvidence now).status = .cancelled ∨
      (acknowledgedJob job cleanupEvidence now).status = .timedOut := by
  unfold acknowledgedJob
  dsimp only
  split
  · exact Or.inr rfl
  · exact Or.inl rfl

/-- **Every step of a job** keeps its deadline and its attempts, and leaves it alone once it has ended. -/
theorem JobStep.follows (hstep : JobStep s c id job job') : Follows job job' := by
  cases hstep with
  | kept => exact Follows.refl job
  | started queued => exact ⟨fun ht => absurd ht (not_terminal queued rfl), rfl, rfl, fun _ => Or.inl queued⟩
  | expired _ queued _ => exact ⟨fun ht => absurd ht (not_terminal queued rfl), rfl, rfl, fun _ => Or.inl queued⟩
  | swept running _ => exact ⟨fun ht => absurd ht (not_terminal running rfl), rfl, rfl, fun _ => Or.inr running⟩
  | retried guard => exact ⟨fun ht => absurd ht (not_terminal guard.running rfl), rfl, rfl, fun _ => Or.inr guard.running⟩
  | failed guard => exact ⟨fun ht => absurd ht (not_terminal guard.running rfl), rfl, rfl, fun _ => Or.inr guard.running⟩
  | succeeded guard => exact ⟨fun ht => absurd ht (not_terminal guard.running rfl), rfl, rfl, fun _ => Or.inr guard.running⟩
  | cancelled _ queued => exact ⟨fun ht => absurd ht (not_terminal queued rfl), rfl, rfl, fun _ => Or.inl queued⟩
  | cancelling _ running => exact ⟨fun ht => absurd ht (not_terminal running rfl), rfl, rfl, fun _ => Or.inr running⟩
  | acknowledged guard =>
    refine ⟨fun ht => absurd ht (not_terminal guard.cancelling rfl), rfl, rfl, ?_⟩
    intro hl
    -- an acknowledged job has ended
    rcases acknowledgedJob_ended job _ _ with hs | hs <;> rcases hl with hl | hl <;> rw [hs] at hl <;> cases hl

/-- A job that was asked to stop is not live. -/
def StoppedOk (job : PaasControlJob) : Prop := job.cancellationReason ≠ none → ¬ isLive job

theorem JobStep.stopped (hstep : JobStep s c id job job') (hs : StoppedOk job) : StoppedOk job' := by
  have hnot : ∀ {job : PaasControlJob} {status : PaasJobStatus}, job.status = status → status ≠ .queued →
      status ≠ .running → StoppedOk job := by
    rintro job status rfl hq hr - (hl | hl)
    · exact hq hl
    · exact hr hl
  -- a live job has no reason, and neither has what becomes of it
  have hlive : isLive job → job'.cancellationReason = job.cancellationReason → StoppedOk job' := by
    intro hl hreason hsome
    rw [hreason] at hsome
    exact absurd hl (hs hsome)
  cases hstep with
  | kept => exact hs
  | started queued => exact hlive (Or.inl queued) rfl
  | expired => exact hnot rfl nofun nofun
  | swept => exact hnot rfl nofun nofun
  | retried guard => exact hlive (Or.inr guard.running) rfl
  | failed => exact hnot rfl nofun nofun
  | succeeded => exact hnot rfl nofun nofun
  | cancelled => exact hnot rfl nofun nofun
  | cancelling => exact hnot rfl nofun nofun
  | acknowledged =>
    rcases acknowledgedJob_ended job _ _ with hended | hended
    · exact hnot hended nofun nofun
    · exact hnot hended nofun nofun

/-! ## Runs of a job -/

/-- One call, accepted or not, makes a step of every job. -/
theorem call_job (rt : Runtime) (intent : PaasSecurityIntent) (call : PaasCall) (hj : call.state.jobs.get? id = some job) :
    ∃ job', (call.after rt intent).jobs.get? id = some job' ∧ JobStep call.state call.command id job job' := by
  rcases @exec_refused rt intent call.state call.command with ⟨-, hs, -⟩ | ha
  · rw [show call.after rt intent = call.state from hs]
    exact ⟨job, hj, .kept _ id job⟩
  · exact exec_jobs ha hj

/-- **Along a run** every job follows what it was. -/
theorem run_job (hr : Run (CallStep rt intent) m h s) (hj : m.jobs.get? id = some job) :
    ∃ job', s.jobs.get? id = some job' ∧ Follows job job' := by
  refine hr.invariant (I := fun s => ∃ job', s.jobs.get? id = some job' ∧ Follows job job') ⟨job, hj, Follows.refl job⟩ ?_
  rintro m call t ⟨job1, hj1, hf⟩ ⟨rfl, rfl⟩
  obtain ⟨job2, hj2, hstep⟩ := call_job rt intent call hj1
  exact ⟨job2, hj2, hf.trans hstep.follows⟩

theorem run_stopped (hr : CallRun rt intent h s) (hj : s.jobs.get? id = some job) : StoppedOk job := by
  have hall : ∀ id job, s.jobs.get? id = some job → StoppedOk job := by
    refine hr.invariant (I := fun s => ∀ id job, s.jobs.get? id = some job → StoppedOk job)
      (fun _ _ hj => absurd hj create_jobs) ?_
    rintro m call t hm ⟨rfl, rfl⟩ id job' hj'
    cases hj : call.state.jobs.get? id with
    | some job =>
      obtain ⟨job1, hj1, hstep⟩ := call_job rt intent call hj
      obtain rfl := Option.some.inj (hj1.symm.trans hj')
      exact hstep.stopped (hm id job hj)
    | none =>
      rcases @exec_refused rt intent call.state call.command with ⟨-, hs, -⟩ | ha
      · rw [show call.after rt intent = call.state from hs, hj] at hj'
        cases hj'
      · obtain ⟨command, tenant, -, -, -, rfl⟩ := exec_fresh ha hj hj'
        exact fun hreason => absurd rfl hreason
  exact hall id job hj

/-! ## Starts and promotions -/

/-- The number of times the job was started. -/
def starts (rt : Runtime) (intent : PaasSecurityIntent) (id : String) (h : List PaasCall) : ℕ :=
  (h.map fun call => countEvents isStart id (call.transition rt intent).events).sum

/-- The number of promotions that the job caused. -/
def promotions (rt : Runtime) (intent : PaasSecurityIntent) (id : String) (h : List PaasCall) : ℕ :=
  (h.map fun call => countEvents isPromotion id (call.transition rt intent).events).sum

theorem starts_snoc (id : String) (h : List PaasCall) (call : PaasCall) : starts rt intent id (h ++ [call]) =
    starts rt intent id h + countEvents isStart id (call.transition rt intent).events := by
  unfold starts
  rw [List.map_append, List.sum_append, List.map_singleton, List.sum_singleton]

theorem promotions_snoc (id : String) (h : List PaasCall) (call : PaasCall) : promotions rt intent id (h ++ [call]) =
    promotions rt intent id h + countEvents isPromotion id (call.transition rt intent).events := by
  unfold promotions
  rw [List.map_append, List.sum_append, List.map_singleton, List.sum_singleton]

/-- What the counts of a job's events say of the job: its attempts count its starts, a queued job
has one left, and a promotion is the end of it. -/
structure Counted (starts promotions : ℕ) (job : PaasControlJob) : Prop where
  starts : (starts : ℤ) ≤ job.attempt
  attempt : job.attempt ≤ job.maxAttempts
  maxAttempts : job.maxAttempts ≤ 5
  left : job.status = .queued → job.attempt < job.maxAttempts
  promotions : promotions = 0 ∨ (promotions = 1 ∧ isTerminal job = true)

/-- A step that is no start keeps the attempts. -/
theorem JobStep.attempts (hstep : JobStep s c id job job') : job'.maxAttempts = job.maxAttempts ∧
    ((job'.attempt = job.attempt ∧ (job'.status = .queued → job.status = .queued ∨ job.attempt < job.maxAttempts)) ∨
      (job.status = .queued ∧ job'.status = .running ∧ job'.attempt = addNumber job.attempt 1)) := by
  refine ⟨hstep.follows.maxAttempts, ?_⟩
  cases hstep with
  | kept => exact Or.inl ⟨rfl, Or.inl⟩
  | started queued => exact Or.inr ⟨queued, rfl, rfl⟩
  | expired => exact Or.inl ⟨rfl, nofun⟩
  | swept => exact Or.inl ⟨rfl, nofun⟩
  | retried _ _ _ retries => exact Or.inl ⟨rfl, fun _ => Or.inr retries.2.1⟩
  | failed => exact Or.inl ⟨rfl, nofun⟩
  | succeeded => exact Or.inl ⟨rfl, nofun⟩
  | cancelled => exact Or.inl ⟨rfl, nofun⟩
  | cancelling => exact Or.inl ⟨rfl, nofun⟩
  | acknowledged =>
    refine Or.inl ⟨rfl, ?_⟩
    intro hq
    rcases acknowledgedJob_ended job _ _ with hended | hended <;> rw [hended] at hq <;> cases hq

/-- The counts of one call for a job that it finds. -/
theorem Counted.call {a b : ℕ} (hc : Counted a b job) (call : PaasCall) (hj : call.state.jobs.get? id = some job)
    (hj' : (call.after rt intent).jobs.get? id = some job') :
    Counted (a + countEvents isStart id (call.transition rt intent).events)
      (b + countEvents isPromotion id (call.transition rt intent).events) job' := by
  rcases @exec_refused rt intent call.state call.command with ⟨-, hs, hevents⟩ | ha
  · rw [show call.after rt intent = call.state from hs, hj] at hj'
    rw [← Option.some.inj hj', show (call.transition rt intent).events = [] from hevents]
    exact hc
  · have hd := (stateInvariantError_none.1 (exec_checked ha)).1
    obtain ⟨job1, hj1, hstep⟩ := exec_jobs ha hj
    obtain rfl := Option.some.inj (hj1.symm.trans hj')
    obtain ⟨hmax, hattempt⟩ := hstep.attempts
    have hpromotions : b + countEvents isPromotion id (call.transition rt intent).events = 0 ∨
        (b + countEvents isPromotion id (call.transition rt intent).events = 1 ∧ isTerminal job1 = true) := by
      rcases exec_promotions ha id with hzero | ⟨hone, command, current, -, hid, hg, -, -, hleft⟩
      · rw [show countEvents isPromotion id (call.transition rt intent).events = 0 from hzero, Nat.add_zero]
        rcases hc.promotions with hb | ⟨hb, hended⟩
        · exact Or.inl hb
        · exact Or.inr ⟨hb, by rw [hstep.follows.terminal hended]; exact hended⟩
      · -- the job was running, so it was not promoted before
        have hcurrent : call.state.jobs.get? id = some current := by
          rw [hid, ← hd.records.key_eq hg.found]
          exact hg.found
        obtain rfl := Option.some.inj (hj.symm.trans hcurrent)
        rw [show countEvents isPromotion id (call.transition rt intent).events = 1 from hone]
        rcases hc.promotions with hb | ⟨-, hended⟩
        · rw [hb]
          refine Or.inr ⟨rfl, ?_⟩
          rw [← Option.some.inj (hleft.symm.trans hj')]
          rfl
        · exact absurd hended (not_terminal hg.running rfl)
    rcases exec_starts ha id with hzero | ⟨hone, command, job0, -, hj0, hqueued, hstarted⟩
    · rw [show countEvents isStart id (call.transition rt intent).events = 0 from hzero, Nat.add_zero]
      rcases hattempt with ⟨hsame, hleft⟩ | ⟨hqueued, hrunning, hnext⟩
      · refine ⟨by rw [hsame]; exact hc.starts, by rw [hsame, hmax]; exact hc.attempt, by rw [hmax]; exact hc.maxAttempts,
          ?_, hpromotions⟩
        intro hq
        rw [hsame, hmax]
        rcases hleft hq with hq' | hlt
        · exact hc.left hq'
        · exact hlt
      · have hlt := hc.left hqueued
        have h5 := hc.maxAttempts
        have h0 := hc.starts
        rw [addNumber_exact (by omega)] at hnext
        refine ⟨by omega, by omega, by omega, fun hq => absurd (hrunning.symm.trans hq) nofun, hpromotions⟩
    · obtain rfl := Option.some.inj (hj.symm.trans hj0)
      rw [show countEvents isStart id (call.transition rt intent).events = 1 from hone]
      obtain rfl := Option.some.inj (hj1.symm.trans hstarted)
      have hlt := hc.left hqueued
      have h5 := hc.maxAttempts
      have h0 := hc.starts
      have hnext : (startedJob job command.nowEpochSeconds).attempt = job.attempt + 1 :=
        addNumber_exact (by omega)
      refine ⟨by omega, by omega, by omega, nofun, hpromotions⟩

/-- No call has events about a job that does not exist. -/
theorem call_silent (rt : Runtime) (intent : PaasSecurityIntent) (call : PaasCall) (hj : call.state.jobs.get? id = none) :
    countEvents isStart id (call.transition rt intent).events = 0 ∧
      countEvents isPromotion id (call.transition rt intent).events = 0 := by
  rcases @exec_refused rt intent call.state call.command with ⟨-, -, hevents⟩ | ha
  · rw [show (call.transition rt intent).events = [] from hevents]
    exact ⟨rfl, rfl⟩
  · have hd := (stateInvariantError_none.1 (exec_checked ha)).1
    constructor
    · rcases exec_starts ha id with hzero | ⟨-, -, job, -, hj', -⟩
      · exact hzero
      · rw [hj] at hj'
        cases hj'
    · rcases exec_promotions ha id with hzero | ⟨-, command, current, -, hid, hg, -⟩
      · exact hzero
      · have hfound := hg.found
        rw [hd.records.key_eq hfound, ← hid, hj] at hfound
        cases hfound

/-- **Starts are counted by the attempts of a job, and a promotion is its end.** -/
theorem run_counted (hr : CallRun rt intent h s) (id : String) :
    (∀ job, s.jobs.get? id = some job → Counted (starts rt intent id h) (promotions rt intent id h) job) ∧
      (s.jobs.get? id = none → starts rt intent id h = 0 ∧ promotions rt intent id h = 0) := by
  refine hr.history (I := fun h s => (∀ job, s.jobs.get? id = some job →
    Counted (starts rt intent id h) (promotions rt intent id h) job) ∧
    (s.jobs.get? id = none → starts rt intent id h = 0 ∧ promotions rt intent id h = 0)) ?_ ?_
  · exact ⟨fun _ hj => absurd hj create_jobs, fun _ => ⟨rfl, rfl⟩⟩
  · rintro h m call t - ⟨hfound, hnone⟩ ⟨rfl, rfl⟩
    rw [starts_snoc, promotions_snoc]
    cases hj : call.state.jobs.get? id with
    | some job =>
      constructor
      · intro job' hj'
        exact (hfound job hj).call call hj hj'
      · intro hgone
        obtain ⟨job', hj', -⟩ := call_job rt intent call hj
        rw [hgone] at hj'
        cases hj'
    | none =>
      obtain ⟨hstarts, hpromotions⟩ := hnone hj
      obtain ⟨hstart, hpromotion⟩ := call_silent rt intent call hj
      rw [hstarts, hpromotions, hstart, hpromotion]
      refine ⟨?_, fun _ => ⟨rfl, rfl⟩⟩
      intro job' hj'
      rcases @exec_refused rt intent call.state call.command with ⟨-, hs, -⟩ | ha
      · rw [show call.after rt intent = call.state from hs, hj] at hj'
        cases hj'
      · obtain ⟨command, tenant, -, -, he, rfl⟩ := exec_fresh ha hj hj'
        have hvalid := he.valid
        simp only [validEnqueueCommand, Bool.and_eq_true, decide_eq_true_eq] at hvalid
        obtain ⟨⟨⟨-, hmin⟩, hmax⟩, -⟩ := hvalid
        exact ⟨le_rfl, Int.le_trans Int.one_nonneg hmin, hmax, fun _ => Int.lt_of_lt_of_le Int.zero_lt_one hmin,
          Or.inl rfl⟩

/-- **A job that is not live is not promoted any more.** -/
theorem run_unpromoted (hr : Run (CallStep rt intent) m h s) (hj : m.jobs.get? id = some job) (hlive : ¬ isLive job) :
    promotions rt intent id h = 0 := by
  refine hr.history (I := fun h _ => promotions rt intent id h = 0) rfl ?_
  rintro h m' call t hprev hzero ⟨rfl, rfl⟩
  rw [promotions_snoc, hzero, Nat.zero_add]
  obtain ⟨job', hj', hf⟩ := run_job hprev hj
  rcases @exec_refused rt intent call.state call.command with ⟨-, -, hevents⟩ | ha
  · rw [show (call.transition rt intent).events = [] from hevents]
    rfl
  · have hd := (stateInvariantError_none.1 (exec_checked ha)).1
    rcases exec_promotions ha id with hquiet | ⟨-, command, current, -, hid, hg, -⟩
    · exact hquiet
    · -- only a running job is promoted
      have hfound := hg.found
      rw [hd.records.key_eq hfound, ← hid, hj'] at hfound
      obtain rfl := Option.some.inj hfound
      exact absurd (hf.live (Or.inr hg.running)) hlive

/-! ## The life of a job -/

/-- The call is a cancellation of the job that is accepted, and not the repetition of one. -/
def Cancels (rt : Runtime) (intent : PaasSecurityIntent) (id : String) (call : PaasCall) : Prop :=
  ∃ command, call.command = .cancel command ∧ command.jobId = id ∧ (call.transition rt intent).accepted = true ∧
    (call.transition rt intent).code = .accepted

/-- The job's worker acknowledges with evidence of its cleanup, and the lock is dropped. -/
def AcknowledgedBy (rt : Runtime) (intent : PaasSecurityIntent) (id : String) (call : PaasCall)
    (found left : PaasControlJob) : Prop :=
  ∃ command, call.command = .acknowledge command ∧ command.jobId = id ∧
    (call.transition rt intent).accepted = true ∧ command.workerRole = found.workerRole ∧
    hasText command.cleanupEvidence = true ∧ isTerminal left = true ∧
    (call.after rt intent).resourceLocks.get? (resourceKey rt found.tenantId found.resource) = none

/-- The life of a job that is `job` after the calls `before` and `job'` after the calls `after`. -/
structure Lifecycle (rt : Runtime) (intent : PaasSecurityIntent) (id : String) (before after : List PaasCall)
    (job job' : PaasControlJob) : Prop where
  absorbing : isTerminal job = true → job' = job
  deadline : job'.deadlineAtEpochSeconds = job.deadlineAtEpochSeconds
  maxAttempts : job'.maxAttempts = job.maxAttempts
  starts : (starts rt intent id (before ++ after) : ℤ) ≤ job.maxAttempts
  promotions : promotions rt intent id (before ++ after) ≤ 1
  /-- No promotion follows once the job's cancellation was requested, or its deadline was swept. -/
  cancelled : ∀ call ∈ before, Cancels rt intent id call → Paas.promotions rt intent id after = 0
  stopped : job.cancellationReason ≠ none → Paas.promotions rt intent id after = 0
  inTime : ∀ call ∈ before ++ after, ∀ command, call.command = .complete command → command.jobId = id →
    (call.transition rt intent).accepted = true → command.completedAtEpochSeconds < job.deadlineAtEpochSeconds
  /-- A job that is being cancelled stays so and keeps its lock until its worker acknowledges. -/
  cancelling : ∀ call ∈ before ++ after, ∀ found, call.state.jobs.get? id = some found → found.status = .cancelling →
    ∃ left, (call.after rt intent).jobs.get? id = some left ∧
      ((left = found ∧
          (call.after rt intent).resourceLocks.get? (resourceKey rt found.tenantId found.resource) = some id) ∨
        AcknowledgedBy rt intent id call found left)

/-- A cancellation that is accepted finds the job, and leaves it not live. -/
theorem Cancels.unlive {call : PaasCall} (hc : Cancels rt intent id call) :
    ∃ job, (call.after rt intent).jobs.get? id = some job ∧ ¬ isLive job := by
  obtain ⟨s, c⟩ := call
  obtain ⟨command, rfl, rfl, ha, hcode⟩ := hc
  have hcode' : (cancelPaasJob rt s intent command).code = .accepted := hcode
  obtain ⟨hcheck, current, hfound, -, -, -, -, -, ⟨existing, -, -, -, hs⟩ | ⟨-, ⟨-, hs⟩ | ⟨-, hs⟩⟩⟩ :=
    cancel_accepted ha
  · rw [hs] at hcode'
    cases hcode'
  · refine ⟨cancelledQueuedJob current command.requestedAtEpochSeconds, ?_, ?_⟩
    · show (cancelPaasJob rt s intent command).state.jobs.get? command.jobId = _
      rw [hs, (stateInvariantError_none.1 hcheck).1.records.key_eq hfound]
      exact Record.get?_set_self ..
    · rintro (hl | hl) <;> cases hl
  · refine ⟨cancellingJob current .user command.requestedAtEpochSeconds, ?_, ?_⟩
    · show (cancelPaasJob rt s intent command).state.jobs.get? command.jobId = _
      rw [hs, (stateInvariantError_none.1 hcheck).1.records.key_eq hfound]
      exact Record.get?_set_self ..
    · rintro (hl | hl) <;> cases hl

/-- A report that is accepted is in time. -/
theorem call_inTime {call : PaasCall} {command : PaasCompleteJobCommand} (hc : call.command = .complete command)
    (ha : (call.transition rt intent).accepted = true) :
    ∃ job, call.state.jobs.get? command.jobId = some job ∧
      command.completedAtEpochSeconds < job.deadlineAtEpochSeconds := by
  obtain ⟨s, c⟩ := call
  obtain rfl : c = .complete command := hc
  obtain ⟨-, current, hg, -⟩ := complete_accepted ha
  exact ⟨current, hg.found, hg.deadline⟩

/-- **A job that is being cancelled** stays so, or its worker acknowledges. -/
theorem call_cancelling {call : PaasCall} (hd : Durable rt intent (call.after rt intent)) {found : PaasControlJob}
    (hj : call.state.jobs.get? id = some found) (hstatus : found.status = .cancelling) :
    ∃ left, (call.after rt intent).jobs.get? id = some left ∧
      ((left = found ∧
          (call.after rt intent).resourceLocks.get? (resourceKey rt found.tenantId found.resource) = some id) ∨
        AcknowledgedBy rt intent id call found left) := by
  obtain ⟨left, hleft, hstep⟩ := call_job rt intent call hj
  refine ⟨left, hleft, ?_⟩
  obtain ⟨s, c⟩ := call
  change JobStep s c id found left at hstep
  cases hstep with
  | kept => exact Or.inl ⟨rfl, hd.locks.held id found hleft (active_cancelling hstatus)⟩
  | started queued => rw [hstatus] at queued; cases queued
  | expired _ queued _ => rw [hstatus] at queued; cases queued
  | swept running _ => rw [hstatus] at running; cases running
  | retried guard => exact absurd (hstatus.symm.trans guard.running) nofun
  | failed guard => exact absurd (hstatus.symm.trans guard.running) nofun
  | succeeded guard => exact absurd (hstatus.symm.trans guard.running) nofun
  | cancelled _ queued => rw [hstatus] at queued; cases queued
  | cancelling _ running => rw [hstatus] at running; cases running
  | @acknowledged command _ guard =>
    right
    rcases @acknowledge_refused rt intent s command with ⟨-, hs, -⟩ | ha
    · -- a refused acknowledgement leaves the job as it was
      have hsame : some found = some (acknowledgedJob found command.cleanupEvidence command.acknowledgedAtEpochSeconds) :=
        hj.symm.trans ((congrArg (fun s : PaasControlState => s.jobs.get? command.jobId) hs.symm).trans hleft)
      rcases acknowledgedJob_ended found command.cleanupEvidence command.acknowledgedAtEpochSeconds with he | he <;>
        rw [← Option.some.inj hsame, hstatus] at he <;> cases he
    · obtain ⟨-, current, hg, hanswer⟩ := acknowledge_accepted ha
      obtain rfl := Option.some.inj (hj.symm.trans hg.found)
      refine ⟨command, rfl, rfl, ha, hg.workerRole.symm, hg.cleanupEvidence, ?_, ?_⟩
      · unfold isTerminal
        rcases acknowledgedJob_ended found command.cleanupEvidence command.acknowledgedAtEpochSeconds with he | he <;>
          rw [he] <;> rfl
      · show (acknowledgePaasJobCancellation rt s intent command).state.resourceLocks.get? _ = none
        rw [hanswer]
        exact Record.get?_erase.trans (if_pos rfl)

/-- **The life of a job** in any run. -/
theorem run_lifecycle (rt : Runtime) (intent : PaasSecurityIntent) {before after : List PaasCall}
    {m s : PaasControlState} (hbefore : CallRun rt intent before m) (hafter : Run (CallStep rt intent) m after s)
    {id : String} {job : PaasControlJob} (hj : m.jobs.get? id = some job) :
    ∃ job', s.jobs.get? id = some job' ∧ Lifecycle rt intent id before after job job' := by
  have hr : CallRun rt intent (before ++ after) s := hbefore.trans hafter
  obtain ⟨job', hj', hf⟩ := run_job hafter hj
  have hcounted := (run_counted hr id).1 job' hj'
  refine ⟨job', hj', hf.terminal, hf.deadline, hf.maxAttempts, ?_, ?_, ?_, ?_, ?_, ?_⟩
  · have h1 := hcounted.starts
    have h2 := hcounted.attempt
    rw [hf.maxAttempts] at h2
    omega
  · rcases hcounted.promotions with h0 | ⟨h1, -⟩
    · omega
    · omega
  · intro call hcall hcancels
    obtain ⟨first, rest, rfl⟩ := List.append_of_mem hcall
    obtain ⟨m', m'', -, ⟨rfl, rfl⟩, hrest⟩ := hbefore.step_at
    obtain ⟨job1, hj1, hlive⟩ := hcancels.unlive
    obtain ⟨job2, hj2, hf2⟩ := run_job hrest hj1
    obtain rfl := Option.some.inj (hj.symm.trans hj2)
    exact run_unpromoted hafter hj fun hl => hlive (hf2.live hl)
  · intro hreason
    exact run_unpromoted hafter hj (run_stopped hbefore hj hreason)
  · intro call hcall command hc hid ha
    obtain ⟨first, rest, heq⟩ := List.append_of_mem hcall
    rw [heq] at hr
    obtain ⟨m', m'', hfirst, ⟨rfl, rfl⟩, hrest⟩ := hr.step_at
    obtain ⟨current, hcurrent, hlt⟩ := call_inTime hc ha
    rw [hid] at hcurrent
    -- the job that was found has its deadline to the end of the run
    obtain ⟨left, hleft, hstep⟩ := call_job rt intent call hcurrent
    obtain ⟨last, hlast, hf2⟩ := run_job hrest hleft
    obtain rfl := Option.some.inj (hj'.symm.trans hlast)
    rw [← hf.deadline, hf2.deadline, hstep.follows.deadline]
    exact hlt
  · intro call hcall found hfound hstatus
    obtain ⟨first, rest, heq⟩ := List.append_of_mem hcall
    rw [heq] at hr
    obtain ⟨m', m'', hfirst, ⟨rfl, rfl⟩, -⟩ := hr.step_at
    have hreached : CallRun rt intent (first ++ [call]) (call.after rt intent) := hfirst.snoc ⟨rfl, rfl⟩
    rcases run_durable hreached with hd | hcreate
    · exact call_cancelling hd hfound hstatus
    · obtain ⟨left, hleft, -⟩ := call_job rt intent call hfound
      rw [hcreate] at hleft
      exact absurd hleft create_jobs

/-! ## A sample life -/

/-- The sample job is started, and asked to stop a minute after its deadline; its worker acknowledges. -/
def sampleLife : List PaasCommand × List PaasCommand :=
  ([.enqueue sampleEnqueue, .schedule (sampleSchedule 1200)],
    [.sweep ⟨2, 1660⟩, .acknowledge ⟨3, "job-a", "tenant-a", .builder, 1700, "workspace removed"⟩])

def sampleRunning : PaasControlState :=
  stateAfter sampleRuntime sampleIntent (createPaasControlState sampleIntent) sampleLife.1

/-- `run_lifecycle` on the sample life. -/
theorem run_lifecycle_sample : ∃ job job', job.status = .running ∧ job'.status = .timedOut ∧
    Lifecycle sampleRuntime sampleIntent "job-a"
      (callsFrom sampleRuntime sampleIntent (createPaasControlState sampleIntent) sampleLife.1)
      (callsFrom sampleRuntime sampleIntent sampleRunning sampleLife.2) job job' := by
  have hbefore := callsFrom_run sampleRuntime sampleIntent (createPaasControlState sampleIntent) sampleLife.1
  have hafter := callsFrom_run sampleRuntime sampleIntent sampleRunning sampleLife.2
  obtain ⟨job, hj, hrunning⟩ : ∃ job, sampleRunning.jobs.get? "job-a" = some job ∧ job.status = .running := by
    have hstatus : (sampleRunning.jobs.get? "job-a").map PaasControlJob.status = some .running := by decide +kernel
    exact Option.map_eq_some_iff.1 hstatus
  obtain ⟨job', hj', hlife⟩ := run_lifecycle sampleRuntime sampleIntent hbefore hafter hj
  refine ⟨job, job', hrunning, ?_, hlife⟩
  have hstatus : (((stateAfter sampleRuntime sampleIntent sampleRunning sampleLife.2).jobs.get? "job-a").map
      PaasControlJob.status) = some .timedOut := by decide +kernel
  rw [hj', Option.map_some] at hstatus
  exact Option.some.inj hstatus

end SecureSaas.Paas
