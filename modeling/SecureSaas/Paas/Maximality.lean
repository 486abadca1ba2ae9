import SecureSaas.Paas.Fairness

/-!
# What one call of the scheduler starts

The loop of `schedulePaasJobs` as rounds that each start one job, whatever the bound on starts.

* `startJobs_rounds`: the loop is a sequence of rounds, up to its bound or to one that finds nothing.
* `Rounds.length_le`: each round takes a queued job away, so there are no more rounds than queued jobs.
* `Rounds.queue`: the jobs started of a tenant are the first of its queue, in order.
* `nextStart_none_iff`: when a round finds nothing.
* `schedule_maximal`: **a call starts the first jobs of the queues, until nothing more may start.**
-/

namespace SecureSaas.Paas

open Js

variable {rt : Runtime} {intent : PaasSecurityIntent} {s m m' : PaasControlState} {now revision : ℤ}
  {jobs : List PaasControlJob}

/-! ## Rounds -/

/-- The loop gets from a state to another one by starting jobs, given as they were before. -/
inductive Rounds (rt : Runtime) (intent : PaasSecurityIntent) (now : ℤ) :
    PaasControlState → List PaasControlJob → PaasControlState → Prop
  | stop (m : PaasControlState) : Rounds rt intent now m [] m
  | start {m m' : PaasControlState} {tenantId jobId : String} {rest : List String} {job : PaasControlJob}
      {jobs : List PaasControlJob} : nextStart rt intent (scheduleTenants rt intent) m = some (tenantId, jobId, rest, job) →
      Rounds rt intent now (withStarted rt m tenantId jobId rest (startedJob job now)) jobs m' →
      Rounds rt intent now m (job :: jobs) m'

/-- **The loop is a sequence of rounds**, up to its bound or to one that finds nothing to start. -/
theorem startJobs_rounds (now revision : ℤ) (starts : ℕ) (m : PaasControlState) (events : List PaasControlEvent) :
    ∃ jobs, Rounds rt intent now m jobs (startJobs rt intent (scheduleTenants rt intent) now revision starts m events).1 ∧
      (startJobs rt intent (scheduleTenants rt intent) now revision starts m events).2 =
        events ++ jobs.map (fun job => event .jobStarted revision now (startedJob job now)) ∧ jobs.length ≤ starts ∧
      (jobs.length = starts ∨ nextStart rt intent (scheduleTenants rt intent)
        (startJobs rt intent (scheduleTenants rt intent) now revision starts m events).1 = none) := by
  induction starts generalizing m events with
  | zero => exact ⟨[], .stop m, (List.append_nil _).symm, le_rfl, Or.inl rfl⟩
  | succ starts ih =>
    rw [startJobs_succ]
    cases hn : nextStart rt intent (scheduleTenants rt intent) m with
    | none => exact ⟨[], .stop m, (List.append_nil _).symm, Nat.zero_le _, Or.inr hn⟩
    | some p =>
      obtain ⟨tenantId, jobId, rest, job⟩ := p
      obtain ⟨jobs, hrounds, hevents, hlength, hexit⟩ := ih (withStarted rt m tenantId jobId rest (startedJob job now))
        (events ++ [event .jobStarted revision now (startedJob job now)])
      refine ⟨job :: jobs, .start hn hrounds, ?_, Nat.succ_le_succ hlength, hexit.imp (congrArg (· + 1)) id⟩
      rw [hevents, List.append_assoc]
      rfl

theorem Durable.jobId_eq (h : Durable rt intent m) {id : String} {job : PaasControlJob} (hj : m.jobs.get? id = some job) :
    job.id = id ∧ id ≠ "" := by
  have hfields := h.records.fields id job hj
  simp only [durableFields, Bool.and_eq_true, beq_iff_eq] at hfields
  have hid : isJobId job.id = true := by tauto
  have heq : id = job.id := by tauto
  refine ⟨heq.symm, ?_⟩
  rintro rfl
  rw [← heq] at hid
  exact absurd hid (by decide)

section
variable {tenantId jobId : String} {rest : List String} {job : PaasControlJob}

/-- A job that is queued after a start was queued before, and it is another one. -/
theorem queued_withStarted {id : String} {job' : PaasControlJob}
    (hj : (withStarted rt m tenantId jobId rest (startedJob job now)).jobs.get? id = some job')
    (hqueued : job'.status = .queued) : id ≠ jobId ∧ m.jobs.get? id = some job' := by
  change (m.jobs.set jobId (startedJob job now)).get? id = some job' at hj
  rcases Record.get?_set_some hj with ⟨-, rfl⟩ | hother
  · cases hqueued
  · exact hother

end

theorem Rounds.durable (hr : Rounds rt intent now m jobs m') (h : Durable rt intent m) : Durable rt intent m' := by
  induction hr with
  | stop => exact h
  | start hn _ ih =>
    obtain ⟨hm, hglobal⟩ := h.nextStart hn
    exact ih (h.start hm hglobal now)

/-- A job that is not queued is left alone. -/
theorem Rounds.keeps (hr : Rounds rt intent now m jobs m') (h : Durable rt intent m) {id : String} {job : PaasControlJob}
    (hj : m.jobs.get? id = some job) (hstatus : job.status ≠ .queued) : m'.jobs.get? id = some job := by
  induction hr with
  | stop => exact hj
  | @start m m' tenantId jobId rest job0 jobs hn _ ih =>
    obtain ⟨hm, hglobal⟩ := h.nextStart hn
    refine ih (h.start hm hglobal now) ((Record.get?_set_ne ?_).trans hj)
    rintro rfl
    obtain rfl := Option.some.inj (hj.symm.trans hm.found)
    exact hstatus hm.queued

/-- **A job that is started was queued when the loop began**, and it is running when the loop ends. -/
theorem Rounds.started (hr : Rounds rt intent now m jobs m') (h : Durable rt intent m) {job : PaasControlJob}
    (hjob : job ∈ jobs) : m.jobs.get? job.id = some job ∧ job.status = .queued ∧
      m'.jobs.get? job.id = some (startedJob job now) := by
  induction hr with
  | stop => cases hjob
  | @start m m' tenantId jobId rest job0 jobs hn hr ih =>
    obtain ⟨hm, hglobal⟩ := h.nextStart hn
    have hnext := h.start hm hglobal now
    rcases List.mem_cons.1 hjob with rfl | hjob
    · rw [(h.jobId_eq hm.found).1]
      exact ⟨hm.found, hm.queued, hr.keeps hnext (Record.get?_set_self ..) PaasJobStatus.noConfusion⟩
    · obtain ⟨hj, hqueued, hrunning⟩ := ih hnext hjob
      exact ⟨(queued_withStarted hj hqueued).2, hqueued, hrunning⟩

/-- How many jobs are queued. -/
def queuedJobs (m : PaasControlState) : ℕ := m.jobs.count fun job => job.status == .queued

/-- **The loop ends**: each of its rounds leaves one queued job less. -/
theorem Rounds.length_le (hr : Rounds rt intent now m jobs m') (h : Durable rt intent m) :
    jobs.length + queuedJobs m' ≤ queuedJobs m := by
  induction hr with
  | stop => exact (Nat.zero_add _).le
  | @start m m' tenantId jobId rest job jobs hn _ ih =>
    obtain ⟨hm, hglobal⟩ := h.nextStart hn
    have hrest := ih (h.start hm hglobal now)
    have hless : queuedJobs (withStarted rt m tenantId jobId rest (startedJob job now)) < queuedJobs m := by
      refine Record.count_lt jobId ?_ ⟨job, hm.found, beq_iff_eq.2 hm.queued⟩
      intro id job' hj hqueued
      obtain ⟨hne, hj⟩ := queued_withStarted hj (beq_iff_eq.1 hqueued)
      exact ⟨hne, job', hj, hqueued⟩
    rw [List.length_cons]
    omega

/-- The ids of a tenant's jobs, in order. -/
def idsOf (tenantId : String) (jobs : List PaasControlJob) : List String :=
  (jobs.filter fun job => job.tenantId == tenantId).map fun job => job.id

/-- **The jobs started of a tenant are the first of its queue**, and the others keep their order. -/
theorem Rounds.queue (hr : Rounds rt intent now m jobs m') (h : Durable rt intent m) (tenantId : String) :
    ∀ queue, m.tenantQueues.get? tenantId = some queue →
      ∃ rest, m'.tenantQueues.get? tenantId = some rest ∧ queue = idsOf tenantId jobs ++ rest := by
  induction hr with
  | stop => exact fun queue hq => ⟨queue, hq, rfl⟩
  | @start m m' tenantId0 jobId0 rest0 job0 jobs hn _ ih =>
    obtain ⟨hm, hglobal⟩ := h.nextStart hn
    have hnext := ih (h.start hm hglobal now)
    intro queue hq
    by_cases ht : tenantId = tenantId0
    · subst ht
      obtain rfl := Option.some.inj (hm.queue.symm.trans hq)
      obtain ⟨rest, hrest, heq⟩ := hnext rest0 (Record.get?_set_self ..)
      refine ⟨rest, hrest, ?_⟩
      have hids : idsOf tenantId (job0 :: jobs) = jobId0 :: idsOf tenantId jobs := by
        simp [idsOf, hm.tenant, (h.jobId_eq hm.found).1]
      rw [hids, heq]
      rfl
    · obtain ⟨rest, hrest, heq⟩ := hnext queue ((Record.get?_set_ne ht).trans hq)
      refine ⟨rest, hrest, ?_⟩
      have hids : idsOf tenantId (job0 :: jobs) = idsOf tenantId jobs := by
        simp [idsOf, hm.tenant, Ne.symm ht]
      rw [hids]
      exact heq

/-- At its start a job is the first of its tenant's queue. -/
theorem Rounds.head (hr : Rounds rt intent now m jobs m') (h : Durable rt intent m) {before after : List PaasControlJob}
    {job : PaasControlJob} (hjobs : jobs = before ++ job :: after) :
    ∃ t rest, Rounds rt intent now m before t ∧ MayStart rt intent t job.tenantId job.id rest job := by
  induction hr generalizing before with
  | stop => exact absurd hjobs.symm (by simp)
  | @start m m' tenantId0 jobId0 rest0 job0 jobs hn _ ih =>
    obtain ⟨hm, hglobal⟩ := h.nextStart hn
    cases before with
    | nil =>
      obtain ⟨rfl, -⟩ := List.cons.inj hjobs
      refine ⟨m, rest0, .stop m, ?_⟩
      rw [hm.tenant, (h.jobId_eq hm.found).1]
      exact hm
    | cons first before =>
      rw [List.cons_append, List.cons.injEq] at hjobs
      obtain ⟨rfl, hjobs⟩ := hjobs
      obtain ⟨t, rest, hrounds, hstart⟩ := ih (h.start hm hglobal now) hjobs
      exact ⟨t, rest, .start hn hrounds, hstart⟩

/-! ## A round that finds nothing -/

/-- A tenant whose first job may start is eligible. -/
theorem MayStart.eligible {tenantId jobId : String} {rest : List String} {job : PaasControlJob}
    (hm : MayStart rt intent m tenantId jobId rest job) (h : Durable rt intent m) :
    eligibleTenant rt m intent tenantId = true := by
  have hknown : ∃ tenant, intent.find tenantId = some tenant :=
    find_some.2 ((h.records.queues tenantId).1 ⟨_, hm.queue⟩)
  obtain ⟨tenant, hf⟩ := hknown
  obtain ⟨hmem, hid⟩ := find_mem hf
  have hhead : truthy ((m.tenantQueues.get? tenantId).bind List.head?) = some jobId := by
    rw [hm.queue]
    exact truthy_some.2 ⟨rfl, (h.jobId_eq hm.found).2⟩
  have hlock : (truthy (m.resourceLocks.get? (resourceKey rt job.tenantId job.resource))).isNone = true := by
    rw [hm.tenant, hm.free]
    rfl
  have hquota := hm.quota tenant hmem hid
  unfold eligibleTenant
  simp only [hhead, hm.found, hf, activeBuilds_length, activeDeployments_length, hlock, Bool.and_true]
  by_cases hb : job.operation = .build
  · have hlt := hquota.1 hb
    rw [if_pos hb, Bool.not_eq_true', decide_eq_false_iff_not]
    omega
  · have hlt := hquota.2 hb
    rw [if_neg hb, Bool.not_eq_true', decide_eq_false_iff_not]
    omega

/-- **A round finds nothing exactly when the global bound is reached or no tenant's first job may start.** -/
theorem nextStart_none_iff (h : Durable rt intent m) (hnames : ∀ tenant ∈ intent.tenants, tenant.tenantId ≠ "") :
    nextStart rt intent (scheduleTenants rt intent) m = none ↔ intent.scheduling.maxGlobalConcurrency ≤ m.jobs.count isActive ∨
      ∀ tenantId jobId rest job, ¬ MayStart rt intent m tenantId jobId rest job := by
  constructor
  · intro hnone
    by_contra hsome
    rw [not_or, Nat.not_le] at hsome
    obtain ⟨hroom, hsome⟩ := hsome
    simp only [not_forall, not_not] at hsome
    obtain ⟨tenantId, jobId, rest, job, hm⟩ := hsome
    have heligible := hm.eligible h
    have hmem : tenantId ∈ scheduleTenants rt intent := eligible_known heligible
    cases hnext : nextEligibleTenant rt m intent (scheduleTenants rt intent) with
    | none =>
      rw [nextEligibleTenant_scan] at hnext
      rw [firstFrom_none hnext hmem] at heligible
      cases heligible
    | some tenantId0 =>
      have heligible0 : eligibleTenant rt m intent tenantId0 = true := List.find?_some hnext
      have hknown : tenantId0 ∈ intent.tenantIds := Runtime.mem_sortByKey.1 (eligible_known heligible0)
      obtain ⟨tenant, htenant, rfl⟩ := List.mem_map.1 hknown
      -- the tenant found has a name, so the loop goes on
      have hfound : truthy (some tenant.tenantId) = some tenant.tenantId := truthy_some.2 ⟨rfl, hnames tenant htenant⟩
      obtain ⟨jobId0, rest0, job0, hm0⟩ := h.mayStart heligible0
      have hlt : (activeJobs m).length < intent.scheduling.maxGlobalConcurrency := hroom
      unfold nextStart at hnone
      simp only [if_pos hlt, hnext, hfound, hm0.queue, hm0.found, Option.map_some, reduceCtorEq] at hnone
  · intro hstuck
    cases hn : nextStart rt intent (scheduleTenants rt intent) m with
    | none => rfl
    | some p =>
      obtain ⟨tenantId, jobId, rest, job⟩ := p
      obtain ⟨hm, hglobal⟩ := h.nextStart hn
      rcases hstuck with hfull | hstuck
      · omega
      · exact absurd hm (hstuck tenantId jobId rest job)

/-! ## Expiry that has nothing to tell -/

/-- What is told stays told. -/
theorem expireQueue_told (queue : List String) {events : List PaasControlEvent} (h : events ≠ []) (s : PaasControlState)
    (retained : List String) : (expireQueue now revision queue s events retained).2.1 ≠ [] := by
  induction queue generalizing s events retained with
  | nil => exact h
  | cons jobId queue ih =>
    unfold expireQueue
    cases s.jobs.get? jobId with
    | none => exact ih h _ _
    | some job =>
      simp only
      split
      · exact ih (List.append_ne_nil_of_left_ne_nil h _) _ _
      · exact ih h _ _

theorem expireQueue_silent {queue : List String} {events : List PaasControlEvent} {retained : List String}
    (h : (expireQueue now revision queue s events retained).2.1 = []) :
    expireQueue now revision queue s events retained = (s, events, retained ++ queue) := by
  induction queue generalizing retained with
  | nil =>
    unfold expireQueue
    rw [List.append_nil]
  | cons jobId queue ih =>
    unfold expireQueue at h ⊢
    cases hj : s.jobs.get? jobId with
    | none =>
      simp only [hj] at h ⊢
      rw [ih h, List.append_assoc]
      rfl
    | some job =>
      simp only [hj] at h ⊢
      by_cases hdue : job.deadlineAtEpochSeconds ≤ now
      · -- a job that times out is told
        rw [if_pos hdue] at h
        exact absurd h (expireQueue_told _ (List.append_ne_nil_of_right_ne_nil _ (List.cons_ne_nil _ _)) _ _)
      · rw [if_neg hdue] at h ⊢
        rw [ih h, List.append_assoc]
        rfl

theorem expireQueues_told (queues : List (String × List String)) {events : List PaasControlEvent} (h : events ≠ [])
    (s : PaasControlState) : (expireQueues now revision queues s events).2 ≠ [] := by
  induction queues generalizing s events with
  | nil => exact h
  | cons queue queues ih =>
    unfold expireQueues
    exact ih (expireQueue_told queue.2 h s []) _

theorem expireQueues_silent {queues : List (String × List String)} {events : List PaasControlEvent}
    (hqueues : ∀ e ∈ queues, s.tenantQueues.get? e.1 = some e.2) (h : (expireQueues now revision queues s events).2 = []) :
    (expireQueues now revision queues s events).1 = s := by
  induction queues with
  | nil => rfl
  | cons queue queues ih =>
    obtain ⟨tenantId, queue⟩ := queue
    unfold expireQueues at h ⊢
    have hsilent : (expireQueue now revision queue s events []).2.1 = [] := by
      by_contra htold
      exact expireQueues_told queues htold _ h
    have hset : s.tenantQueues.set tenantId queue = s.tenantQueues := Record.set_same (hqueues _ List.mem_cons_self)
    simp only [expireQueue_silent hsilent, List.nil_append, hset] at h ⊢
    exact ih (fun e he => hqueues e (List.mem_cons_of_mem _ he)) h

/-- Expiry that has nothing to tell changes nothing. -/
theorem expireQueuedJobs_silent (h : (expireQueuedJobs s now revision).2 = []) : (expireQueuedJobs s now revision).1 = s :=
  expireQueues_silent (fun _ he => Record.mem_entries.1 he) h

/-! ## The call -/

/-- The queued ids that expiry retains: their jobs have a deadline after now. -/
def retained (s : PaasControlState) (now : ℤ) (queue : List String) : List String := queue.filter (isKept s now)

/-- What a call has made of the state by starting jobs, of which it may start `limit`. -/
structure Scheduled (rt : Runtime) (intent : PaasSecurityIntent) (now : ℤ) (limit : ℕ) (s : PaasControlState)
    (jobs : List PaasControlJob) (t : PaasControlState) : Prop where
  /-- A job that is started was queued, with a deadline after now. -/
  waiting : ∀ job ∈ jobs, s.jobs.get? job.id = some job ∧ job.status = .queued ∧ now < job.deadlineAtEpochSeconds ∧
    t.jobs.get? job.id = some (startedJob job now)
  /-- At its start, after those before it, it was the first of its tenant's queue and could start. -/
  head : ∀ before job after, jobs = before ++ job :: after → ∃ m rest,
    Rounds rt intent now (expireQueuedJobs s now (addNumber s.revision 1)).1 before m ∧
      MayStart rt intent m job.tenantId job.id rest job
  /-- The jobs started of a tenant come first in what expiry retains of its queue, the others stay in order. -/
  queue : ∀ tenantId queue, s.tenantQueues.get? tenantId = some queue → ∃ rest,
    t.tenantQueues.get? tenantId = some rest ∧ retained s now queue = idsOf tenantId jobs ++ rest
  /-- Where more jobs could be started, no tenant's first job may start. -/
  maximal : jobs.length < limit → t.jobs.count isActive < intent.scheduling.maxGlobalConcurrency →
    ∀ tenantId jobId rest job, ¬ MayStart rt intent t tenantId jobId rest job

/-- A retained job has a deadline after now. -/
theorem deadline_of_retained {queue : List String} {id : String} {job : PaasControlJob} (hid : id ∈ retained s now queue)
    (hj : s.jobs.get? id = some job) : now < job.deadlineAtEpochSeconds := by
  have hkept := (List.mem_filter.1 hid).2
  unfold isKept at hkept
  rw [hj] at hkept
  have hdue : ¬ job.deadlineAtEpochSeconds ≤ now := by simpa [isDue] using hkept
  omega

/-- **The rounds of a call, from the state that expiry leaves.** -/
theorem Rounds.scheduled (h : Durable rt intent s) (hnames : ∀ tenant ∈ intent.tenants, tenant.tenantId ≠ "") {limit : ℕ}
    (hr : Rounds rt intent now (expireQueuedJobs s now (addNumber s.revision 1)).1 jobs m')
    (hexit : jobs.length = limit ∨ nextStart rt intent (scheduleTenants rt intent) m' = none) :
    Scheduled rt intent now limit s jobs m' := by
  have hexpired := h.expire now (addNumber s.revision 1)
  obtain ⟨expiredJobs, tenantQueues, events, heq, hjobs, hqueues⟩ := expireQueuedJobs_spec s now (addNumber s.revision 1)
  have hqueue : ∀ tenantId queue, s.tenantQueues.get? tenantId = some queue → ∃ rest,
      m'.tenantQueues.get? tenantId = some rest ∧ retained s now queue = idsOf tenantId jobs ++ rest := by
    intro tenantId queue hq
    refine hr.queue hexpired tenantId _ ?_
    rw [heq]
    show tenantQueues.get? tenantId = some (retained s now queue)
    rw [hqueues, hq]
    rfl
  refine ⟨?_, fun before job after hsplit => hr.head hexpired hsplit, hqueue, ?_⟩
  · intro job hjob
    obtain ⟨hfound, hqueued, hrunning⟩ := hr.started hexpired hjob
    -- expiry has left the job alone
    have hsame : s.jobs.get? job.id = some job := by
      rw [heq] at hfound
      change expiredJobs.get? job.id = some job at hfound
      rw [hjobs] at hfound
      obtain ⟨job', hj', hexp⟩ := Option.map_eq_some_iff.1 hfound
      rw [hj']
      unfold expireIf at hexp
      split at hexp
      · rw [← hexp] at hqueued
        cases hqueued
      · rw [hexp]
    obtain ⟨queue, hq, hin⟩ := h.queues.queued job.id job hsame hqueued
    obtain ⟨rest, -, hretained⟩ := hqueue job.tenantId queue hq
    have hin : job.id ∈ retained s now queue := by
      rw [hretained]
      exact List.mem_append_left _ (List.mem_map.2 ⟨job, List.mem_filter.2 ⟨hjob, beq_iff_eq.2 rfl⟩, rfl⟩)
    exact ⟨hsame, hqueued, deadline_of_retained hin hsame, hrunning⟩
  · intro hlimit hroom
    rcases hexit with hfull | hnone
    · omega
    · rcases (nextStart_none_iff (hr.durable hexpired) hnames).1 hnone with hfull | hstuck
      · omega
      · exact hstuck

/-- The revision has no part in it. -/
theorem Scheduled.finalized {limit : ℕ} {t : PaasControlState} (h : Scheduled rt intent now limit s jobs t) (revision : ℤ) :
    Scheduled rt intent now limit s jobs (finalize t revision) := by
  refine ⟨h.waiting, h.head, h.queue, ?_⟩
  intro hlimit hroom tenantId jobId rest job hm
  exact h.maximal hlimit hroom tenantId jobId rest job ⟨hm.queue, hm.found, hm.tenant, hm.queued, hm.free, hm.quota⟩

/-- The starts that a call tells are those of its jobs. -/
theorem starts_told {events : List PaasControlEvent} (h : ∀ e ∈ events, e.type = .jobTimedOut) (now revision : ℤ)
    (jobs : List PaasControlJob) :
    ((events ++ jobs.map fun job => event .jobStarted revision now (startedJob job now)).filter
      fun e => isStart e.type).map PaasControlEvent.jobId = jobs.map PaasControlJob.id := by
  have hexpiry : events.filter (fun e => isStart e.type) = [] := by
    rw [List.filter_eq_nil_iff]
    intro e he
    rw [h e he]
    exact Bool.false_ne_true
  rw [List.filter_append, hexpiry, List.nil_append, List.filter_map, List.map_map]
  have hall : jobs.filter ((fun e : PaasControlEvent => isStart e.type) ∘ fun job =>
      event .jobStarted revision now (startedJob job now)) = jobs := List.filter_eq_self.2 fun _ _ => rfl
  rw [hall]
  rfl

/-- **A call of the scheduler ends, starts the first jobs of the queues and leaves none that may start.** The names of an
intent's tenants are not empty (`nameValue`). -/
theorem schedule_maximal (rt : Runtime) (intent : PaasSecurityIntent) (s : PaasControlState) (command : PaasScheduleCommand)
    (hnames : ∀ tenant ∈ intent.tenants, tenant.tenantId ≠ "")
    (ha : (schedulePaasJobs rt s intent command).accepted = true) :
    (∀ jobs m, Rounds rt intent command.nowEpochSeconds
      (expireQueuedJobs s command.nowEpochSeconds (addNumber s.revision 1)).1 jobs m →
        jobs.length ≤ queuedJobs (expireQueuedJobs s command.nowEpochSeconds (addNumber s.revision 1)).1) ∧
    ∃ jobs, jobs.length ≤ maxStarts intent command ∧
      ((schedulePaasJobs rt s intent command).events.filter fun e => isStart e.type).map PaasControlEvent.jobId =
        jobs.map PaasControlJob.id ∧
      Scheduled rt intent command.nowEpochSeconds (maxStarts intent command) s jobs
        (schedulePaasJobs rt s intent command).state := by
  obtain ⟨hcheck, -, hs⟩ := schedule_accepted ha
  have h := (stateInvariantError_none.1 hcheck).1
  have hexpired := h.expire command.nowEpochSeconds (addNumber s.revision 1)
  constructor
  · intro jobs m hr
    have hlength := hr.length_le hexpired
    omega
  · obtain ⟨jobs, hrounds, hevents, hlength, hexit⟩ := @startJobs_rounds rt intent command.nowEpochSeconds (addNumber s.revision 1)
      (maxStarts intent command)
      (expireQueuedJobs s command.nowEpochSeconds (addNumber s.revision 1)).1
      (expireQueuedJobs s command.nowEpochSeconds (addNumber s.revision 1)).2
    change (scheduled rt intent s command).2 = _ at hevents
    have hscheduled := hrounds.scheduled h hnames hexit
    have htold := starts_told (expireQueuedJobs_events s command.nowEpochSeconds (addNumber s.revision 1))
      command.nowEpochSeconds (addNumber s.revision 1) jobs
    rw [← hevents] at htold
    refine ⟨jobs, hlength, ?_⟩
    rcases hs with ⟨hsilent, hs⟩ | hs
    · -- nothing is told, so the state is as it was
      obtain ⟨hexpiry, hnojobs⟩ := List.append_eq_nil_iff.1 (hevents.symm.trans hsilent)
      have hsame : (scheduled rt intent s command).1 = s := by
        unfold scheduled at hsilent ⊢
        rw [startJobs_silent hsilent, expireQueuedJobs_silent hexpiry]
      rw [hs]
      change Scheduled rt intent command.nowEpochSeconds (maxStarts intent command) s jobs
        (scheduled rt intent s command).1 at hscheduled
      rw [hsame] at hscheduled
      rw [hsilent] at htold
      exact ⟨htold, hscheduled⟩
    · rw [hs]
      exact ⟨htold, hscheduled.finalized _⟩

/-- `schedule_maximal` on the sample run: its one job starts. -/
theorem schedule_maximal_sample : ∃ job, Scheduled sampleRuntime sampleIntent 1000 1 sampleQueued [job]
    (sampleStarted 1000) := by
  obtain ⟨-, jobs, hlength, htold, hscheduled⟩ := schedule_maximal sampleRuntime sampleIntent sampleQueued
    (sampleSchedule 1000) (by decide) (by decide +kernel)
  have hone : jobs.length = 1 := by
    have hcount := congrArg List.length htold
    rw [List.length_map, List.length_map] at hcount
    rw [← hcount]
    decide +kernel
  obtain ⟨job, rfl⟩ := List.length_eq_one_iff.1 hone
  exact ⟨job, hscheduled⟩

end SecureSaas.Paas
