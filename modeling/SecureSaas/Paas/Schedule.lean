import SecureSaas.Paas.Commands
import SecureSaas.Paas.Expiry

/-!
# Starting jobs

The loop of `schedulePaasJobs`, one round at a time.

* `MayStart`, `Durable.mayStart`: what an eligible tenant is eligible through.
* `Durable.startJobs`: the loop keeps the state durable, whatever the clock says.
* `Durable.startJobs_clock`: it keeps the clocks in order exactly when it starts no job before its
  creation.
* `schedule_accepted`, `Durable.scheduled`, `ClockOk.scheduled_iff`: the same for the transition.
-/

namespace SecureSaas.Paas

open Js

variable {rt : Runtime} {intent : PaasSecurityIntent} {s : PaasControlState} {now revision : ℤ}

/-! ## What may start -/

/-- The tenant's first job may start: it is queued, the count it joins is below its quota, and the
lock of its resource is free. -/
structure MayStart (rt : Runtime) (intent : PaasSecurityIntent) (s : PaasControlState) (tenantId jobId : String)
    (rest : List String) (job : PaasControlJob) : Prop where
  queue : s.tenantQueues.get? tenantId = some (jobId :: rest)
  found : s.jobs.get? jobId = some job
  tenant : job.tenantId = tenantId
  queued : job.status = .queued
  free : s.resourceLocks.get? (resourceKey rt tenantId job.resource) = none
  quota : ∀ tenant ∈ intent.tenants, tenant.tenantId = tenantId →
    (job.operation = .build → s.jobs.count (isActiveBuild tenantId) < tenant.maxConcurrentBuilds) ∧
    (job.operation ≠ .build → s.jobs.count (isActiveDeployment tenantId) < tenant.maxConcurrentDeployments)

/-- A free lock, in a state whose locks name their jobs. -/
theorem Durable.lock_none (h : Durable rt intent s) {key : String}
    (hl : truthy (s.resourceLocks.get? key) = none) : s.resourceLocks.get? key = none := by
  rcases truthy_none.1 hl with hnone | hempty
  · exact hnone
  · -- no job has the empty text as its id
    obtain ⟨job, hj, -, -⟩ := h.locks.active key "" hempty
    have hfields := h.records.fields "" job hj
    simp only [durableFields, Bool.and_eq_true, beq_iff_eq] at hfields
    have hid : isJobId job.id = true := by tauto
    have hempty' : "" = job.id := by tauto
    rw [← hempty'] at hid
    exact absurd hid (by decide)

/-- Two tenants of one id are one tenant. -/
theorem find_unique (hn : intent.tenantIds.Nodup) {tenantId : String} {tenant tenant' : PaasTenantQuota}
    (hf : intent.find tenantId = some tenant) (hm : tenant' ∈ intent.tenants) (hid : tenant'.tenantId = tenantId) :
    tenant' = tenant := by
  obtain ⟨hmem, hid'⟩ := find_mem hf
  exact List.inj_on_of_nodup_map hn hm hmem (hid.trans hid'.symm)

/-- **A tenant is eligible exactly through the job at the head of its queue.** -/
theorem Durable.mayStart (h : Durable rt intent s) {tenantId : String}
    (he : eligibleTenant rt s intent tenantId = true) : ∃ jobId rest job, MayStart rt intent s tenantId jobId rest job := by
  unfold eligibleTenant at he
  cases hhead : truthy ((s.tenantQueues.get? tenantId).bind List.head?) with
  | none => simp only [hhead] at he; cases he
  | some jobId =>
    cases hj : s.jobs.get? jobId with
    | none => simp only [hhead, hj] at he; cases he
    | some job =>
      cases hf : intent.find tenantId with
      | none => simp only [hhead, hj, hf] at he; cases he
      | some tenant =>
        simp only [hhead, hj, hf, activeBuilds_length, activeDeployments_length, Bool.and_eq_true] at he
        obtain ⟨hquota, hlock⟩ := he
        obtain ⟨hhead, -⟩ := truthy_some.1 hhead
        obtain ⟨queue, hqueue, hqueue'⟩ := Option.bind_eq_some_iff.1 hhead
        obtain ⟨rest, rfl⟩ := List.head?_eq_some_iff.1 hqueue'
        obtain ⟨job', hj', htenant, hstatus⟩ := h.queues.member tenantId _ hqueue jobId (List.mem_cons_self ..)
        obtain rfl := Option.some.inj (hj.symm.trans hj')
        rw [Option.isNone_iff_eq_none, htenant] at hlock
        refine ⟨jobId, rest, job, hqueue, hj, htenant, hstatus, h.lock_none hlock, ?_⟩
        intro tenant' hmem hid
        obtain rfl := find_unique h.records.tenants hf hmem hid
        by_cases hb : job.operation = .build
        · rw [if_pos hb, Bool.not_eq_true', decide_eq_false_iff_not] at hquota
          exact ⟨fun _ => by omega, fun hnb => absurd hb hnb⟩
        · rw [if_neg hb, Bool.not_eq_true', decide_eq_false_iff_not] at hquota
          exact ⟨fun hb' => absurd hb' hb, fun _ => by omega⟩

theorem updates_started {job : PaasControlJob} (hstatus : job.status = .queued) (now : ℤ) :
    Updates job (startedJob job now) := by
  refine ⟨rfl, rfl, rfl, ?_, fun hs => absurd (hstatus.symm.trans hs) nofun⟩
  intro id hf
  simp only [durableFields, Bool.and_eq_true, decide_eq_true_eq] at hf ⊢
  obtain ⟨⟨⟨⟨hid, hattempt⟩, hmin⟩, hmax⟩, hop⟩ := hf
  exact ⟨⟨⟨⟨hid, addNumber_nonneg hattempt zero_le_one⟩, hmin⟩, hmax⟩, hop⟩

/-- **A start keeps a state durable.** -/
theorem Durable.start (h : Durable rt intent s) {tenantId jobId : String} {rest : List String}
    {job : PaasControlJob} (hm : MayStart rt intent s tenantId jobId rest job)
    (hglobal : s.jobs.count isActive < intent.scheduling.maxGlobalConcurrency) (now : ℤ) :
    Durable rt intent (withStarted rt s tenantId jobId rest (startedJob job now)) := by
  have hmoved : Moved (replace jobId (startedJob job now)) s
      (withStarted rt s tenantId jobId rest (startedJob job now)) :=
    Moved.set hm.found (updates_started hm.queued now) rfl
  have hid : jobId = job.id := by
    have hf := h.records.fields jobId job hm.found
    simp only [durableFields, Bool.and_eq_true, beq_iff_eq] at hf
    tauto
  have hidle : isActive job = false := by
    unfold isActive
    rw [hm.queued]
    rfl
  refine ⟨h.queues.shrink hmoved ?_ ?_, h.locks.acquire hm.found hidle rfl hmoved ?_ ?_,
    h.quotas.start hm.found hmoved hglobal ?_, h.records.move hmoved ?_⟩
  · intro tenantId' queue' hq
    change (s.tenantQueues.set tenantId rest).get? tenantId' = some queue' at hq
    -- the started job is in no queue any more
    have hnodup := h.queues.nodup tenantId _ hm.queue
    rcases Record.get?_set_some hq with ⟨ht, rfl⟩ | ⟨ht, hq⟩
    · refine ⟨jobId :: queue', ht ▸ hm.queue, List.sublist_cons_self _ _, ?_⟩
      intro id hin job' _
      refine replace_ne ?_ _ _
      intro heq
      rw [heq] at hin
      exact (List.nodup_cons.1 hnodup).1 hin
    · refine ⟨queue', hq, List.Sublist.refl _, ?_⟩
      intro id hin job' hj'
      refine replace_ne ?_ _ _
      intro heq
      obtain ⟨job'', hj'', htenant, -⟩ := h.queues.member tenantId' queue' hq id hin
      rw [heq, hm.found] at hj''
      rw [← Option.some.inj hj'', hm.tenant] at htenant
      exact ht htenant.symm
  · intro id job' hj' hstatus
    by_cases heq : id = jobId
    · rw [heq, replace_self] at hstatus
      cases hstatus
    · rw [replace_ne heq] at hstatus
      refine ⟨hstatus, ?_⟩
      intro queue hq hin
      show ∃ queue', (s.tenantQueues.set tenantId rest).get? job'.tenantId = some queue' ∧ id ∈ queue'
      rw [Record.get?_set]
      by_cases ht : job'.tenantId = tenantId
      · rw [ht, hm.queue] at hq
        rw [← Option.some.inj hq] at hin
        rw [if_pos ht]
        exact ⟨rest, rfl, (List.mem_cons.1 hin).resolve_left heq⟩
      · rw [if_neg ht]
        exact ⟨queue, hq, hin⟩
  · rw [hm.tenant]
    exact hm.free
  · rw [hid]
    rfl
  · intro tenant hmem ht
    rw [hm.tenant] at ht
    rw [ht]
    exact hm.quota tenant hmem ht
  · refine ⟨rfl, rfl, rfl, rfl, rfl, ?_, Or.inr ⟨tenantId, _, rfl, hm.queue⟩⟩
    intro tenantId'
    show (∃ queue, (s.tenantQueues.set tenantId rest).get? tenantId' = some queue) ↔ _
    rw [Record.get?_set]
    by_cases ht : tenantId' = tenantId
    · rw [if_pos ht, ht]
      exact iff_of_true ⟨rest, rfl⟩ ⟨_, hm.queue⟩
    · rw [if_neg ht]

/-! ## The loop of starts -/

/-- What a round of the loop starts: the tenant, its first job's id, the rest of its queue, the job. -/
def nextStart (rt : Runtime) (intent : PaasSecurityIntent) (tenantIds : List String) (s : PaasControlState) :
    Option (String × String × List String × PaasControlJob) :=
  if (activeJobs s).length < intent.scheduling.maxGlobalConcurrency then
    match truthy (nextEligibleTenant rt s intent tenantIds) with
    | none => none
    | some tenantId =>
      match s.tenantQueues.get? tenantId with
      | some (jobId :: rest) => (s.jobs.get? jobId).map fun job => (tenantId, jobId, rest, job)
      | _ => none
  else none

/-- **One round of the loop.** -/
theorem startJobs_succ (tenantIds : List String) (now revision : ℤ) (starts : ℕ) (s : PaasControlState)
    (events : List PaasControlEvent) :
    startJobs rt intent tenantIds now revision (starts + 1) s events =
      match nextStart rt intent tenantIds s with
      | none => (s, events)
      | some (tenantId, jobId, rest, job) =>
        startJobs rt intent tenantIds now revision starts
          (withStarted rt s tenantId jobId rest (startedJob job now))
          (events ++ [event .jobStarted revision now (startedJob job now)]) := by
  rw [startJobs]
  unfold nextStart
  by_cases hlt : (activeJobs s).length < intent.scheduling.maxGlobalConcurrency
  · rw [if_pos hlt, if_pos hlt]
    cases truthy (nextEligibleTenant rt s intent tenantIds) with
    | none => rfl
    | some tenantId =>
      cases hq : s.tenantQueues.get? tenantId with
      | none => simp only [hq]
      | some queue =>
        cases queue with
        | nil => simp only [hq]
        | cons jobId rest =>
          cases hj : s.jobs.get? jobId with
          | none => simp only [hq, hj, Option.map_none]
          | some job => simp only [hq, hj, Option.map_some]
  · rw [if_neg hlt, if_neg hlt]

theorem Durable.nextStart (h : Durable rt intent s) {tenantIds : List String} {tenantId jobId : String}
    {rest : List String} {job : PaasControlJob}
    (hn : nextStart rt intent tenantIds s = some (tenantId, jobId, rest, job)) :
    MayStart rt intent s tenantId jobId rest job ∧ s.jobs.count isActive < intent.scheduling.maxGlobalConcurrency := by
  unfold Paas.nextStart at hn
  by_cases hlt : (activeJobs s).length < intent.scheduling.maxGlobalConcurrency
  · refine ⟨?_, hlt⟩
    rw [if_pos hlt] at hn
    cases ht : truthy (nextEligibleTenant rt s intent tenantIds) with
    | none => simp only [ht] at hn; cases hn
    | some tenantId0 =>
      have heligible : eligibleTenant rt s intent tenantId0 = true := List.find?_some (truthy_some.1 ht).1
      obtain ⟨jobId0, rest0, job0, hm⟩ := h.mayStart heligible
      simp only [ht, hm.queue, hm.found, Option.map_some, Option.some.injEq, Prod.mk.injEq] at hn
      obtain ⟨rfl, rfl, rfl, rfl⟩ := hn
      exact hm
  · rw [if_neg hlt] at hn
    cases hn

/-- **The loop of starts keeps a state durable**, whatever the clock says. -/
theorem Durable.startJobs (h : Durable rt intent s) (tenantIds : List String) (now revision : ℤ) (starts : ℕ)
    (events : List PaasControlEvent) :
    Durable rt intent (startJobs rt intent tenantIds now revision starts s events).1 := by
  induction starts generalizing s events with
  | zero => exact h
  | succ starts ih =>
    rw [startJobs_succ]
    cases hn : Paas.nextStart rt intent tenantIds s with
    | none => exact h
    | some p =>
      obtain ⟨tenantId, jobId, rest, job⟩ := p
      obtain ⟨hm, hglobal⟩ := h.nextStart hn
      exact ih (h.start hm hglobal now) _

/-- A job that is not queued is left alone by the loop of starts. -/
theorem Durable.startJobs_keeps (h : Durable rt intent s) {tenantIds : List String} {now revision : ℤ} {starts : ℕ}
    {events : List PaasControlEvent} {id : String} {job : PaasControlJob} (hj : s.jobs.get? id = some job)
    (hstatus : job.status ≠ .queued) :
    (Paas.startJobs rt intent tenantIds now revision starts s events).1.jobs.get? id = some job := by
  induction starts generalizing s events with
  | zero => exact hj
  | succ starts ih =>
    rw [startJobs_succ]
    cases hn : Paas.nextStart rt intent tenantIds s with
    | none => exact hj
    | some p =>
      obtain ⟨tenantId, jobId, rest, job0⟩ := p
      obtain ⟨hm, hglobal⟩ := h.nextStart hn
      refine ih (h.start hm hglobal now) ?_
      have hid : id ≠ jobId := by
        rintro rfl
        obtain rfl := Option.some.inj (hj.symm.trans hm.found)
        exact hstatus hm.queued
      show (s.jobs.set jobId (startedJob job0 now)).get? id = some job
      rw [Record.get?_set_ne hid]
      exact hj

/-- No round of the loop starts a job before its creation. -/
def startsInOrder (rt : Runtime) (intent : PaasSecurityIntent) (tenantIds : List String) (now : ℤ) :
    ℕ → PaasControlState → Bool
  | 0, _ => true
  | starts + 1, s =>
    match nextStart rt intent tenantIds s with
    | none => true
    | some (tenantId, jobId, rest, job) =>
      decide (job.createdAtEpochSeconds ≤ now) &&
        startsInOrder rt intent tenantIds now starts (withStarted rt s tenantId jobId rest (startedJob job now))

/-- **The loop of starts keeps the clocks in order exactly when it starts no job before its creation.** -/
theorem Durable.startJobs_clock (h : Durable rt intent s) (hclock : ClockOk intent s) (tenantIds : List String)
    (hnow : validEpoch now = true) (revision : ℤ) (starts : ℕ) (events : List PaasControlEvent) :
    ClockOk intent (Paas.startJobs rt intent tenantIds now revision starts s events).1 ↔
      startsInOrder rt intent tenantIds now starts s = true := by
  induction starts generalizing s events with
  | zero => exact iff_of_true hclock rfl
  | succ starts ih =>
    rw [startJobs_succ]
    unfold startsInOrder
    cases hn : Paas.nextStart rt intent tenantIds s with
    | none => exact iff_of_true hclock rfl
    | some p =>
      obtain ⟨tenantId, jobId, rest, job⟩ := p
      obtain ⟨hm, hglobal⟩ := h.nextStart hn
      have hdurable := h.start hm hglobal now
      have hfound : (withStarted rt s tenantId jobId rest (startedJob job now)).jobs.get? jobId =
          some (startedJob job now) := Record.get?_set_self ..
      have hstarted := (hclock jobId job hm.found).started_iff (h.records.tenant jobId job hm.found) hnow
      simp only [Bool.and_eq_true, decide_eq_true_eq]
      by_cases hle : job.createdAtEpochSeconds ≤ now
      · rw [ih hdurable ?_]
        · exact (and_iff_right hle).symm
        · intro id job' hj'
          change (s.jobs.set jobId (startedJob job now)).get? id = some job' at hj'
          rcases Record.get?_set_some hj' with ⟨-, rfl⟩ | ⟨-, hj'⟩
          · exact hstarted.2 hle
          · exact hclock id job' hj'
      · -- the job started too early stays as it is to the end of the loop
        refine iff_of_false ?_ fun hand => hle hand.1
        intro hresult
        exact hle (hstarted.1 (hresult jobId _ (hdurable.startJobs_keeps hfound nofun)))

/-- Jobs created by now start in order, whichever they are. -/
theorem Durable.startsInOrder_of_created (h : Durable rt intent s) (tenantIds : List String) (starts : ℕ)
    (hcreated : ∀ id job, s.jobs.get? id = some job → job.status = .queued → job.createdAtEpochSeconds ≤ now) :
    startsInOrder rt intent tenantIds now starts s = true := by
  induction starts generalizing s with
  | zero => rfl
  | succ starts ih =>
    unfold startsInOrder
    cases hn : Paas.nextStart rt intent tenantIds s with
    | none => rfl
    | some p =>
      obtain ⟨tenantId, jobId, rest, job⟩ := p
      obtain ⟨hm, hglobal⟩ := h.nextStart hn
      rw [Bool.and_eq_true, decide_eq_true_eq]
      refine ⟨hcreated jobId job hm.found hm.queued, ih (h.start hm hglobal now) ?_⟩
      intro id job' hj' hstatus
      change (s.jobs.set jobId (startedJob job now)).get? id = some job' at hj'
      rcases Record.get?_set_some hj' with ⟨-, rfl⟩ | ⟨-, hj'⟩
      · cases hstatus
      · exact hcreated id job' hj' hstatus

/-! ## The transition -/

/-- Events are only added, one for each start. -/
theorem startJobs_events (tenantIds : List String) (now revision : ℤ) (starts : ℕ) (s : PaasControlState)
    (events : List PaasControlEvent) :
    ∃ more, (startJobs rt intent tenantIds now revision starts s events).2 = events ++ more ∧
      ∀ e ∈ more, e.type = .jobStarted := by
  induction starts generalizing s events with
  | zero => exact ⟨[], (List.append_nil _).symm, nofun⟩
  | succ starts ih =>
    rw [startJobs_succ]
    cases nextStart rt intent tenantIds s with
    | none => exact ⟨[], (List.append_nil _).symm, nofun⟩
    | some p =>
      obtain ⟨tenantId, jobId, rest, job⟩ := p
      obtain ⟨more, hmore, htypes⟩ := ih (withStarted rt s tenantId jobId rest (startedJob job now))
        (events ++ [event .jobStarted revision now (startedJob job now)])
      refine ⟨event .jobStarted revision now (startedJob job now) :: more, ?_, ?_⟩
      · rw [hmore, List.append_assoc, List.singleton_append]
      · exact List.forall_mem_cons.2 ⟨rfl, htypes⟩

/-- A loop without events has found nothing to start. -/
theorem nextStart_of_silent {tenantIds : List String} {revision : ℤ} {starts : ℕ} {events : List PaasControlEvent}
    (h : (startJobs rt intent tenantIds now revision (starts + 1) s events).2 = []) :
    nextStart rt intent tenantIds s = none := by
  rw [startJobs_succ] at h
  cases hn : nextStart rt intent tenantIds s with
  | none => rfl
  | some p =>
    obtain ⟨tenantId, jobId, rest, job⟩ := p
    rw [hn] at h
    simp only at h
    obtain ⟨more, hmore, -⟩ := startJobs_events tenantIds now revision starts
      (withStarted rt s tenantId jobId rest (startedJob job now))
      (events ++ [event .jobStarted revision now (startedJob job now)])
    rw [hmore] at h
    simp at h

theorem startsInOrder_of_silent {tenantIds : List String} {revision : ℤ} {starts : ℕ} {events : List PaasControlEvent}
    (h : (startJobs rt intent tenantIds now revision starts s events).2 = []) :
    startsInOrder rt intent tenantIds now starts s = true := by
  cases starts with
  | zero => rfl
  | succ starts =>
    unfold startsInOrder
    rw [nextStart_of_silent h]

/-- How many jobs one call may start. -/
def maxStarts (intent : PaasSecurityIntent) (command : PaasScheduleCommand) : ℕ :=
  (command.maxStarts.getD intent.scheduling.maxGlobalConcurrency).toNat

/-- The jobs expired, then the jobs started. -/
def scheduled (rt : Runtime) (intent : PaasSecurityIntent) (s : PaasControlState) (command : PaasScheduleCommand) :
    PaasControlState × List PaasControlEvent :=
  startJobs rt intent (scheduleTenants rt intent) command.nowEpochSeconds (addNumber s.revision 1) (maxStarts intent command)
    (expireQueuedJobs s command.nowEpochSeconds (addNumber s.revision 1)).1
    (expireQueuedJobs s command.nowEpochSeconds (addNumber s.revision 1)).2

/-- **What a call of the scheduler has passed**, and its answer. -/
theorem schedule_accepted {command : PaasScheduleCommand} (h : (schedulePaasJobs rt s intent command).accepted = true) :
    stateInvariantError rt s intent = none ∧ validEpoch command.nowEpochSeconds = true ∧
      (((scheduled rt intent s command).2 = [] ∧ schedulePaasJobs rt s intent command = noChange s) ∨
        schedulePaasJobs rt s intent command = accepted (finalize (scheduled rt intent s command).1
          (addNumber s.revision 1)) (scheduled rt intent s command).2 none) := by
  unfold schedulePaasJobs at h ⊢
  obtain ⟨hcheck, heq⟩ := accepted_else h
  rw [heq] at h ⊢
  obtain ⟨-, heq⟩ := accepted_else h
  rw [heq] at h ⊢
  obtain ⟨hnow, heq⟩ := accepted_else h
  rw [heq] at h ⊢
  obtain ⟨-, heq⟩ := accepted_else h
  rw [heq]
  rw [Bool.not_eq_true', Bool.not_eq_false] at hnow
  refine ⟨checked hcheck, hnow, ?_⟩
  show ((scheduled rt intent s command).2 = [] ∧
      (if (scheduled rt intent s command).2.isEmpty = true then noChange s
        else accepted (finalize (scheduled rt intent s command).1 (addNumber s.revision 1))
          (scheduled rt intent s command).2 none) = noChange s) ∨
    (if (scheduled rt intent s command).2.isEmpty = true then noChange s
      else accepted (finalize (scheduled rt intent s command).1 (addNumber s.revision 1))
        (scheduled rt intent s command).2 none) = _
  by_cases hempty : (scheduled rt intent s command).2.isEmpty = true
  · rw [if_pos hempty]
    exact Or.inl ⟨List.isEmpty_iff.1 hempty, rfl⟩
  · rw [if_neg hempty]
    exact Or.inr rfl

/-- **An accepted call of the scheduler leaves a durable state**, whatever its clock says. -/
theorem Durable.scheduled (h : Durable rt intent s) {command : PaasScheduleCommand}
    (ha : (schedulePaasJobs rt s intent command).accepted = true) :
    Durable rt intent (schedulePaasJobs rt s intent command).state := by
  have hrevision := addNumber_nonneg h.records.revision zero_le_one
  obtain ⟨-, -, ⟨-, hs⟩ | hs⟩ := schedule_accepted ha
  · rw [hs]
    exact h
  · rw [hs]
    exact ((h.expire _ _).startJobs _ _ _ _ _).finalized hrevision

/-- The call starts no job before its creation. -/
def scheduleInOrder (rt : Runtime) (intent : PaasSecurityIntent) (s : PaasControlState)
    (command : PaasScheduleCommand) : Bool :=
  startsInOrder rt intent (scheduleTenants rt intent) command.nowEpochSeconds (maxStarts intent command)
    (expireQueuedJobs s command.nowEpochSeconds (addNumber s.revision 1)).1

/-- **The scheduler keeps the clocks in order exactly when it starts no job before its creation.** -/
theorem ClockOk.scheduled_iff (h : ClockOk intent s) (hd : Durable rt intent s) {command : PaasScheduleCommand}
    (ha : (schedulePaasJobs rt s intent command).accepted = true) :
    ClockOk intent (schedulePaasJobs rt s intent command).state ↔ scheduleInOrder rt intent s command = true := by
  obtain ⟨-, hnow, ⟨hsilent, hs⟩ | hs⟩ := schedule_accepted ha
  · rw [hs]
    exact iff_of_true h (startsInOrder_of_silent hsilent)
  · rw [hs]
    exact (hd.expire _ _).startJobs_clock (h.expire hd hnow) _ hnow _ _ _

end SecureSaas.Paas
