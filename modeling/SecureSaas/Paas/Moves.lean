import SecureSaas.Paas.Invariant
import SecureSaas.Paas.Transitions

/-!
# What keeps a state durable

A transition is made of a few moves: jobs leave a queue or join it, start, stop being active, or
are asked to stop; and a record is added. Each part of the invariant has one lemma for each way
a move can touch it.

* `Moved`: the jobs of a state with a function run over them.
* `QueuesOk.shrink`, `QueuesOk.push`: queues that lose jobs, or gain one.
* `LocksOk.keep`, `LocksOk.release`, `LocksOk.acquire`: what becomes of the locks.
* `QuotasOk.keep`, `QuotasOk.start`: what becomes of the counts.
* `RecordsOk.carry`, `Durable.withRecords`: what becomes of the records.
-/

namespace SecureSaas.Paas

open Js

variable {rt : Runtime} {intent : PaasSecurityIntent} {s s' : PaasControlState}

/-! ## Jobs -/

/-- What a step may do to a job: it keeps its tenant, its resource and its operation, and is left
alone once it has succeeded. -/
structure Updates (job job' : PaasControlJob) : Prop where
  tenantId : job'.tenantId = job.tenantId
  resource : job'.resource = job.resource
  operation : job'.operation = job.operation
  fields : ∀ id, durableFields id job = true → durableFields id job' = true
  succeeded : job.status = .succeeded → job' = job

theorem Updates.refl (job : PaasControlJob) : Updates job job :=
  ⟨rfl, rfl, rfl, fun _ h => h, fun _ => rfl⟩

/-- The jobs of `s'` are those of `s`, each updated by `f`. -/
structure Moved (f : String → PaasControlJob → PaasControlJob) (s s' : PaasControlState) : Prop where
  jobs : ∀ id, s'.jobs.get? id = (s.jobs.get? id).map (f id)
  updates : ∀ id job, s.jobs.get? id = some job → Updates job (f id job)

variable {f : String → PaasControlJob → PaasControlJob}

theorem Moved.get (hm : Moved f s s') {id : String} {job : PaasControlJob} (hj : s.jobs.get? id = some job) :
    s'.jobs.get? id = some (f id job) := by
  rw [hm.jobs, hj, Option.map_some]

theorem Moved.of_get (hm : Moved f s s') {id : String} {job' : PaasControlJob}
    (hj : s'.jobs.get? id = some job') : ∃ job, s.jobs.get? id = some job ∧ f id job = job' := by
  rw [hm.jobs] at hj
  exact Option.map_eq_some_iff.1 hj

/-- One job is replaced. -/
def replace (id0 : String) (job0 : PaasControlJob) (id : String) (job : PaasControlJob) : PaasControlJob :=
  if id = id0 then job0 else job

@[simp] theorem replace_self (id0 : String) (job0 job : PaasControlJob) : replace id0 job0 id0 job = job0 :=
  if_pos rfl

theorem replace_ne {id0 id : String} (h : id ≠ id0) (job0 job : PaasControlJob) :
    replace id0 job0 id job = job := if_neg h

theorem Moved.set {id0 : String} {job0 job0' : PaasControlJob} (hj : s.jobs.get? id0 = some job0)
    (hu : Updates job0 job0') (hs : s'.jobs = s.jobs.set id0 job0') : Moved (replace id0 job0') s s' := by
  constructor
  · intro id
    rw [hs, Record.get?_set]
    by_cases hid : id = id0
    · rw [if_pos hid, hid, hj, Option.map_some, replace_self]
    · rw [if_neg hid]
      cases s.jobs.get? id with
      | none => rfl
      | some job => rw [Option.map_some, replace_ne hid]
  · intro id job hget
    by_cases hid : id = id0
    · rw [hid, hj] at hget
      rw [hid, replace_self, ← Option.some.inj hget]
      exact hu
    · rw [replace_ne hid]
      exact Updates.refl job

/-! ## Queues -/

/-- **Queues that lose jobs**: what stays queued is unchanged, and what is still queued stays. -/
theorem QueuesOk.shrink (h : QueuesOk s) (hm : Moved f s s')
    (hqueues : ∀ tenantId queue', s'.tenantQueues.get? tenantId = some queue' →
      ∃ queue, s.tenantQueues.get? tenantId = some queue ∧ queue'.Sublist queue ∧
        ∀ id ∈ queue', ∀ job, s.jobs.get? id = some job → f id job = job)
    (hkeep : ∀ id job, s.jobs.get? id = some job → (f id job).status = .queued → job.status = .queued ∧
      ∀ queue, s.tenantQueues.get? job.tenantId = some queue → id ∈ queue →
        ∃ queue', s'.tenantQueues.get? job.tenantId = some queue' ∧ id ∈ queue') : QueuesOk s' := by
  refine ⟨?_, ?_, ?_⟩
  · intro tenantId queue' hq id hid
    obtain ⟨queue, hget, hsub, hsame⟩ := hqueues tenantId queue' hq
    obtain ⟨job, hj, htenant, hstatus⟩ := h.member tenantId queue hget id (hsub.subset hid)
    have hj' := hm.get hj
    rw [hsame id hid job hj] at hj'
    exact ⟨job, hj', htenant, hstatus⟩
  · intro tenantId queue' hq
    obtain ⟨queue, hget, hsub, -⟩ := hqueues tenantId queue' hq
    exact (h.nodup tenantId queue hget).sublist hsub
  · intro id job' hj' hstatus
    obtain ⟨job, hj, rfl⟩ := hm.of_get hj'
    obtain ⟨hqueued, hstay⟩ := hkeep id job hj hstatus
    obtain ⟨queue, hget, hid⟩ := h.queued id job hj hqueued
    obtain ⟨queue', hget', hid'⟩ := hstay queue hget hid
    rw [(hm.updates id job hj).tenantId]
    exact ⟨queue', hget', hid'⟩

/-- Jobs that are not queued may change as long as they stay so. -/
theorem QueuesOk.keep (h : QueuesOk s) (hm : Moved f s s') (hqueues : s'.tenantQueues = s.tenantQueues)
    (hf : ∀ id job, s.jobs.get? id = some job → f id job = job ∨
      (job.status ≠ .queued ∧ (f id job).status ≠ .queued)) : QueuesOk s' := by
  refine h.shrink hm ?_ ?_
  · intro tenantId queue hq
    rw [hqueues] at hq
    refine ⟨queue, hq, List.Sublist.refl _, ?_⟩
    intro id hid job hj
    obtain ⟨job', hj', -, hstatus⟩ := h.member tenantId queue hq id hid
    obtain rfl := Option.some.inj (hj.symm.trans hj')
    rcases hf id job hj with hsame | ⟨hne, -⟩
    · exact hsame
    · exact absurd hstatus hne
  · intro id job hj hstatus
    rcases hf id job hj with hsame | ⟨-, hne⟩
    · rw [hsame] at hstatus
      refine ⟨hstatus, ?_⟩
      intro queue hq hid
      exact ⟨queue, by rw [hqueues]; exact hq, hid⟩
    · exact absurd hstatus hne

/-- **A job joins its tenant's queue**, from outside all queues. -/
theorem QueuesOk.push (h : QueuesOk s) {id0 : String} {job0 : PaasControlJob}
    (hjobs : ∀ id, s'.jobs.get? id = if id = id0 then some job0 else s.jobs.get? id)
    (hnew : ∀ job, s.jobs.get? id0 = some job → job.status ≠ .queued) (hstatus : job0.status = .queued)
    {queue0 : List String} (hqueue0 : s.tenantQueues.get? job0.tenantId = some queue0)
    (hqueues : s'.tenantQueues = s.tenantQueues.set job0.tenantId (queue0 ++ [id0])) : QueuesOk s' := by
  -- no queue held the job before
  have hout : ∀ tenantId queue, s.tenantQueues.get? tenantId = some queue → id0 ∉ queue := by
    intro tenantId queue hq hid
    obtain ⟨job, hj, -, hqueued⟩ := h.member tenantId queue hq id0 hid
    exact hnew job hj hqueued
  have hget : ∀ tenantId queue, s'.tenantQueues.get? tenantId = some queue →
      (tenantId = job0.tenantId ∧ queue = queue0 ++ [id0]) ∨ s.tenantQueues.get? tenantId = some queue := by
    intro tenantId queue hq
    rw [hqueues] at hq
    exact (Record.get?_set_some hq).imp_right And.right
  have hold : ∀ tenantId queue, s.tenantQueues.get? tenantId = some queue → ∀ id ∈ queue,
      ∃ job, s'.jobs.get? id = some job ∧ job.tenantId = tenantId ∧ job.status = .queued := by
    intro tenantId queue hq id hid
    have hne : id ≠ id0 := by
      rintro rfl
      exact hout tenantId queue hq hid
    rw [hjobs, if_neg hne]
    exact h.member tenantId queue hq id hid
  refine ⟨?_, ?_, ?_⟩
  · intro tenantId queue hq id hid
    rcases hget tenantId queue hq with ⟨ht, rfl⟩ | hq'
    · rcases List.mem_append.1 hid with hid | hid
      · rw [ht]
        exact hold _ _ hqueue0 id hid
      · rw [List.mem_singleton.1 hid, hjobs, if_pos rfl]
        exact ⟨job0, rfl, ht.symm, hstatus⟩
    · exact hold tenantId queue hq' id hid
  · intro tenantId queue hq
    rcases hget tenantId queue hq with ⟨-, rfl⟩ | hq'
    · rw [List.nodup_append]
      refine ⟨h.nodup _ _ hqueue0, List.nodup_singleton _, ?_⟩
      intro a ha b hb heq
      rw [List.mem_singleton.1 hb] at heq
      exact hout _ _ hqueue0 (heq ▸ ha)
    · exact h.nodup tenantId queue hq'
  · intro id job hj hqueued
    rw [hjobs] at hj
    by_cases hid : id = id0
    · rw [if_pos hid] at hj
      obtain rfl := Option.some.inj hj
      refine ⟨queue0 ++ [id0], ?_, ?_⟩
      · rw [hqueues, Record.get?_set_self]
      · rw [hid]
        exact List.mem_append_right _ (List.mem_singleton_self _)
    · rw [if_neg hid] at hj
      obtain ⟨queue, hq, hmem⟩ := h.queued id job hj hqueued
      rw [hqueues, Record.get?_set]
      by_cases ht : job.tenantId = job0.tenantId
      · rw [ht, hqueue0] at hq
        rw [if_pos ht, Option.some.inj hq]
        exact ⟨_, rfl, List.mem_append_left _ hmem⟩
      · rw [if_neg ht]
        exact ⟨queue, hq, hmem⟩

/-! ## Locks -/

/-- The locks stay when the same jobs are active. -/
theorem LocksOk.keep (h : LocksOk rt s) (hm : Moved f s s') (hlocks : s'.resourceLocks = s.resourceLocks)
    (hf : ∀ id job, s.jobs.get? id = some job → isActive (f id job) = isActive job) : LocksOk rt s' := by
  constructor
  · intro id job' hj' hactive
    obtain ⟨job, hj, rfl⟩ := hm.of_get hj'
    have hu := hm.updates id job hj
    rw [hf id job hj] at hactive
    rw [hlocks, hu.tenantId, hu.resource]
    exact h.held id job hj hactive
  · intro key id hl
    rw [hlocks] at hl
    obtain ⟨job, hj, hactive, hkey⟩ := h.active key id hl
    have hu := hm.updates id job hj
    refine ⟨f id job, hm.get hj, ?_, ?_⟩
    · rw [hf id job hj]
      exact hactive
    · rw [hu.tenantId, hu.resource]
      exact hkey

/-- **A job stops being active** and its lock is dropped. -/
theorem LocksOk.release (h : LocksOk rt s) {id0 : String} {job0 job0' : PaasControlJob}
    (hj0 : s.jobs.get? id0 = some job0) (hactive0 : isActive job0 = true) (hstop : isActive job0' = false)
    (hm : Moved (replace id0 job0') s s')
    (hlocks : s'.resourceLocks = s.resourceLocks.erase (resourceKey rt job0.tenantId job0.resource)) :
    LocksOk rt s' := by
  have hlock0 := h.held id0 job0 hj0 hactive0
  constructor
  · intro id job' hj' hactive
    obtain ⟨job, hj, rfl⟩ := hm.of_get hj'
    by_cases hid : id = id0
    · rw [hid, replace_self, hstop] at hactive
      cases hactive
    · rw [replace_ne hid] at hactive ⊢
      have hlock := h.held id job hj hactive
      -- the lock of another job has another key
      have hne : resourceKey rt job.tenantId job.resource ≠ resourceKey rt job0.tenantId job0.resource := by
        intro heq
        rw [heq, hlock0] at hlock
        exact hid (Option.some.inj hlock).symm
      rw [hlocks, Record.get?_erase_ne hne]
      exact hlock
  · intro key id hl
    rw [hlocks, Record.get?_erase] at hl
    by_cases hkey : key = resourceKey rt job0.tenantId job0.resource
    · rw [if_pos hkey] at hl
      cases hl
    · rw [if_neg hkey] at hl
      obtain ⟨job, hj, hactive, hjob⟩ := h.active key id hl
      have hid : id ≠ id0 := by
        rintro rfl
        obtain rfl := Option.some.inj (hj0.symm.trans hj)
        exact hkey hjob.symm
      refine ⟨job, ?_, hactive, hjob⟩
      rw [hm.get hj, replace_ne hid]

/-- **A job starts** and takes a lock that is free. -/
theorem LocksOk.acquire (h : LocksOk rt s) {id0 : String} {job0 job0' : PaasControlJob}
    (hj0 : s.jobs.get? id0 = some job0) (hidle : isActive job0 = false) (hstart : isActive job0' = true)
    (hm : Moved (replace id0 job0') s s')
    (hfree : s.resourceLocks.get? (resourceKey rt job0.tenantId job0.resource) = none)
    (hlocks : s'.resourceLocks = s.resourceLocks.set (resourceKey rt job0.tenantId job0.resource) id0) :
    LocksOk rt s' := by
  have hu : Updates job0 job0' := by
    have := hm.updates id0 job0 hj0
    rwa [replace_self] at this
  constructor
  · intro id job' hj' hactive
    obtain ⟨job, hj, rfl⟩ := hm.of_get hj'
    by_cases hid : id = id0
    · rw [hid, replace_self, hu.tenantId, hu.resource, hlocks, Record.get?_set_self]
    · rw [replace_ne hid] at hactive ⊢
      have hlock := h.held id job hj hactive
      have hne : resourceKey rt job.tenantId job.resource ≠ resourceKey rt job0.tenantId job0.resource := by
        intro heq
        rw [heq, hfree] at hlock
        cases hlock
      rw [hlocks, Record.get?_set_ne hne]
      exact hlock
  · intro key id hl
    rw [hlocks] at hl
    rcases Record.get?_set_some hl with ⟨hkey, rfl⟩ | ⟨-, hl⟩
    · refine ⟨job0', ?_, hstart, ?_⟩
      · rw [hm.get hj0, replace_self]
      · rw [hu.tenantId, hu.resource, hkey]
    · obtain ⟨job, hj, hactive, hjob⟩ := h.active key id hl
      have hid : id ≠ id0 := by
        rintro rfl
        obtain rfl := Option.some.inj (hj0.symm.trans hj)
        rw [hidle] at hactive
        cases hactive
      refine ⟨job, ?_, hactive, hjob⟩
      rw [hm.get hj, replace_ne hid]

/-! ## Counts -/

/-- No count grows while no job becomes active. -/
theorem QuotasOk.keep (h : QuotasOk intent s)
    (hactive : ∀ id job', s'.jobs.get? id = some job' → isActive job' = true →
      ∃ job, s.jobs.get? id = some job ∧ isActive job = true ∧ job'.tenantId = job.tenantId ∧
        job'.operation = job.operation) : QuotasOk intent s' := by
  refine ⟨?_, ?_, ?_⟩
  · refine le_trans (Record.count_le ?_) h.global
    intro id job' hj' ha
    obtain ⟨job, hj, hactive, -⟩ := hactive id job' hj' ha
    exact ⟨job, hj, hactive⟩
  · intro tenant ht
    refine le_trans (Record.count_le ?_) (h.builds tenant ht)
    intro id job' hj' ha
    simp only [isActiveBuild, Bool.and_eq_true] at ha ⊢
    obtain ⟨job, hj, hactive, htenant, hop⟩ := hactive id job' hj' ha.1.1
    rw [htenant, hop] at ha
    exact ⟨job, hj, ⟨hactive, ha.1.2⟩, ha.2⟩
  · intro tenant ht
    refine le_trans (Record.count_le ?_) (h.deployments tenant ht)
    intro id job' hj' ha
    simp only [isActiveDeployment, Bool.and_eq_true] at ha ⊢
    obtain ⟨job, hj, hactive, htenant, hop⟩ := hactive id job' hj' ha.1.1
    rw [htenant, hop] at ha
    exact ⟨job, hj, ⟨hactive, ha.1.2⟩, ha.2⟩

theorem QuotasOk.move (h : QuotasOk intent s) (hm : Moved f s s')
    (hf : ∀ id job, s.jobs.get? id = some job → isActive (f id job) = true → isActive job = true) :
    QuotasOk intent s' := by
  refine h.keep ?_
  intro id job' hj' hactive
  obtain ⟨job, hj, rfl⟩ := hm.of_get hj'
  have hu := hm.updates id job hj
  exact ⟨job, hj, hf id job hj hactive, hu.tenantId, hu.operation⟩

/-- **A job starts** while the counts it joins are below their quotas. -/
theorem QuotasOk.start (h : QuotasOk intent s) {id0 : String} {job0 job0' : PaasControlJob}
    (hj0 : s.jobs.get? id0 = some job0) (hm : Moved (replace id0 job0') s s')
    (hglobal : s.jobs.count isActive < intent.scheduling.maxGlobalConcurrency)
    (hquota : ∀ tenant ∈ intent.tenants, tenant.tenantId = job0.tenantId →
      (job0.operation = .build → s.jobs.count (isActiveBuild tenant.tenantId) < tenant.maxConcurrentBuilds) ∧
      (job0.operation ≠ .build →
        s.jobs.count (isActiveDeployment tenant.tenantId) < tenant.maxConcurrentDeployments)) :
    QuotasOk intent s' := by
  have hu : Updates job0 job0' := by
    have := hm.updates id0 job0 hj0
    rwa [replace_self] at this
  -- a job other than the one that starts is as it was
  have hother : ∀ {p : PaasControlJob → Bool} (id : String) (job' : PaasControlJob), id ≠ id0 →
      s'.jobs.get? id = some job' → p job' = true → ∃ job, s.jobs.get? id = some job ∧ p job = true := by
    intro p id job' hid hj' hp
    obtain ⟨job, hj, rfl⟩ := hm.of_get hj'
    rw [replace_ne hid] at hp
    exact ⟨job, hj, hp⟩
  have hsame : ∀ {p : PaasControlJob → Bool}, p job0' = false → s'.jobs.count p ≤ s.jobs.count p := by
    intro p hp
    refine Record.count_le ?_
    intro id job' hj' ha
    by_cases hid : id = id0
    · rw [hid, hm.get hj0, replace_self] at hj'
      rw [← Option.some.inj hj', hp] at ha
      cases ha
    · exact hother id job' hid hj' ha
  refine ⟨?_, ?_, ?_⟩
  · have := Record.count_le_succ (p := isActive) (q := isActive) id0 hother
    omega
  · intro tenant ht
    by_cases hb : isActiveBuild tenant.tenantId job0' = true
    · simp only [isActiveBuild, Bool.and_eq_true, beq_iff_eq] at hb
      have hlt := (hquota tenant ht (hb.1.2.symm.trans hu.tenantId)).1 (hu.operation.symm.trans hb.2)
      have := Record.count_le_succ (p := isActiveBuild tenant.tenantId)
        (q := isActiveBuild tenant.tenantId) id0 hother
      omega
    · exact le_trans (hsame (Bool.not_eq_true _ ▸ hb)) (h.builds tenant ht)
  · intro tenant ht
    by_cases hd : isActiveDeployment tenant.tenantId job0' = true
    · simp only [isActiveDeployment, Bool.and_eq_true, beq_iff_eq, bne_iff_ne] at hd
      have hlt := (hquota tenant ht (hd.1.2.symm.trans hu.tenantId)).2 fun hb => hd.2 (hu.operation.trans hb)
      have := Record.count_le_succ (p := isActiveDeployment tenant.tenantId)
        (q := isActiveDeployment tenant.tenantId) id0 hother
      omega
    · exact le_trans (hsame (Bool.not_eq_true _ ▸ hd)) (h.deployments tenant ht)

/-! ## Records -/

/-- The parts of the state that a move of jobs leaves alone. -/
structure SameRecords (s s' : PaasControlState) : Prop where
  apiVersion : s'.apiVersion = s.apiVersion
  revision : s'.revision = s.revision
  idempotency : s'.idempotency = s.idempotency
  redeemedCapabilities : s'.redeemedCapabilities = s.redeemedCapabilities
  deployments : s'.deployments = s.deployments
  queues : ∀ tenantId, (∃ queue, s'.tenantQueues.get? tenantId = some queue) ↔
    ∃ queue, s.tenantQueues.get? tenantId = some queue
  lastScheduled : s'.lastScheduledTenant = s.lastScheduledTenant ∨
    ∃ tenantId queue, s'.lastScheduledTenant = some tenantId ∧ s.tenantQueues.get? tenantId = some queue

/-- The jobs that records name stay, and keep what the records say of them. -/
theorem RecordsOk.carry (h : RecordsOk rt intent s) (hsame : SameRecords s s')
    (hcarry : ∀ id job, s.jobs.get? id = some job →
      ∃ job', s'.jobs.get? id = some job' ∧ job'.tenantId = job.tenantId ∧ (job.status = .succeeded → job' = job))
    (hjobs : ∀ id job', s'.jobs.get? id = some job' →
      job'.tenantId ∈ intent.tenantIds ∧ durableFields id job' = true) : RecordsOk rt intent s' := by
  refine ⟨hsame.apiVersion ▸ h.apiVersion, hsame.revision ▸ h.revision, h.tenants, ?_, ?_,
    fun id job hj => (hjobs id job hj).1, fun id job hj => (hjobs id job hj).2, ?_, ?_, ?_⟩
  · intro tenantId
    rw [hsame.queues, h.queues]
  · intro tenantId hl
    rcases hsame.lastScheduled with heq | ⟨tenantId', queue, hlast, hq⟩
    · rw [heq] at hl
      exact h.lastScheduled tenantId hl
    · rw [hlast] at hl
      obtain rfl := Option.some.inj hl
      exact (h.queues _).1 ⟨queue, hq⟩
  · intro key record hr
    rw [hsame.idempotency] at hr
    obtain ⟨⟨job, hj, htenant⟩, hkey⟩ := h.idempotency key record hr
    obtain ⟨job', hj', htenant', -⟩ := hcarry _ job hj
    exact ⟨⟨job', hj', htenant.trans htenant'.symm⟩, hkey⟩
  · intro key redemption hr
    rw [hsame.redeemedCapabilities] at hr
    obtain ⟨⟨job, hj, htenant⟩, hkey⟩ := h.redemptions key redemption hr
    obtain ⟨job', hj', htenant', -⟩ := hcarry _ job hj
    exact ⟨⟨job', hj', htenant.trans htenant'.symm⟩, hkey⟩
  · intro key deployment hd
    rw [hsame.deployments] at hd
    obtain ⟨hok, job, hj, hsource⟩ := h.deployments key deployment hd
    obtain ⟨job', hj', -, hsucceeded⟩ := hcarry _ job hj
    have hstatus : job.status = .succeeded := by
      simp only [isSource, Bool.and_eq_true, beq_iff_eq] at hsource
      exact hsource.1.1.1
    exact ⟨hok, job', hj', hsucceeded hstatus ▸ hsource⟩

theorem RecordsOk.move (h : RecordsOk rt intent s) (hm : Moved f s s') (hsame : SameRecords s s') :
    RecordsOk rt intent s' := by
  refine h.carry hsame ?_ ?_
  · intro id job hj
    have hu := hm.updates id job hj
    exact ⟨f id job, hm.get hj, hu.tenantId, hu.succeeded⟩
  · intro id job' hj'
    obtain ⟨job, hj, rfl⟩ := hm.of_get hj'
    have hu := hm.updates id job hj
    rw [hu.tenantId]
    exact ⟨h.tenant id job hj, hu.fields id (h.fields id job hj)⟩

/-- The parts of the state that say which job is where. -/
structure SameJobs (s s' : PaasControlState) : Prop where
  jobs : s'.jobs = s.jobs
  tenantQueues : s'.tenantQueues = s.tenantQueues
  resourceLocks : s'.resourceLocks = s.resourceLocks
  apiVersion : s'.apiVersion = s.apiVersion
  lastScheduledTenant : s'.lastScheduledTenant = s.lastScheduledTenant

/-- A record may be added when it is consistent with the jobs. -/
theorem Durable.withRecords (h : Durable rt intent s) (hsame : SameJobs s s') (hrevision : 0 ≤ s'.revision)
    (hidempotency : ∀ key record, s'.idempotency.get? key = some record →
      s.idempotency.get? key = some record ∨
        ((∃ job, s.jobs.get? record.jobId = some job ∧ record.tenantId = job.tenantId) ∧
          stateKey rt [record.tenantId, record.idempotencyKey] = key))
    (hredemptions : ∀ key redemption, s'.redeemedCapabilities.get? key = some redemption →
      s.redeemedCapabilities.get? key = some redemption ∨
        ((∃ job, s.jobs.get? redemption.jobId = some job ∧ redemption.tenantId = job.tenantId) ∧
          stateKey rt [redemption.capabilityId] = key))
    (hdeployments : ∀ key deployment, s'.deployments.get? key = some deployment →
      s.deployments.get? key = some deployment ∨
        (DeploymentOk rt intent key deployment ∧
          ∃ job, s.jobs.get? deployment.sourceJobId = some job ∧ isSource deployment job = true)) :
    Durable rt intent s' := by
  obtain ⟨hq, hl, hquotas, hr⟩ := h
  refine ⟨⟨?_, ?_, ?_⟩, ⟨?_, ?_⟩, ⟨?_, ?_, ?_⟩, ⟨?_, hrevision, hr.tenants, ?_, ?_, ?_, ?_, ?_, ?_, ?_⟩⟩
  · rw [hsame.tenantQueues, hsame.jobs]; exact hq.member
  · rw [hsame.tenantQueues]; exact hq.nodup
  · rw [hsame.tenantQueues, hsame.jobs]; exact hq.queued
  · rw [hsame.resourceLocks, hsame.jobs]; exact hl.held
  · rw [hsame.resourceLocks, hsame.jobs]; exact hl.active
  · rw [hsame.jobs]; exact hquotas.global
  · rw [hsame.jobs]; exact hquotas.builds
  · rw [hsame.jobs]; exact hquotas.deployments
  · rw [hsame.apiVersion]; exact hr.apiVersion
  · rw [hsame.tenantQueues]; exact hr.queues
  · rw [hsame.lastScheduledTenant]; exact hr.lastScheduled
  · rw [hsame.jobs]; exact hr.tenant
  · rw [hsame.jobs]; exact hr.fields
  · intro key record hget
    rw [hsame.jobs]
    exact (hidempotency key record hget).elim (hr.idempotency key record) id
  · intro key redemption hget
    rw [hsame.jobs]
    exact (hredemptions key redemption hget).elim (hr.redemptions key redemption) id
  · intro key deployment hget
    rw [hsame.jobs]
    exact (hdeployments key deployment hget).elim (hr.deployments key deployment) id

theorem Durable.finalized (h : Durable rt intent s) {revision : ℤ} (hrevision : 0 ≤ revision) :
    Durable rt intent (finalize s revision) :=
  h.withRecords ⟨rfl, rfl, rfl, rfl, rfl⟩ hrevision (fun _ _ hg => Or.inl hg) (fun _ _ hg => Or.inl hg)
    fun _ _ hg => Or.inl hg

end SecureSaas.Paas
