import SecureSaas.Paas.Reports
import SecureSaas.Paas.Schedule
import SecureSaas.Run

/-!
# Runs of the control plane

A step of the control plane is an accepted command. Clocks may say anything; what a run never
breaks is the part of the invariant that has no clock in it.

* `Durable.exec`: every accepted command keeps the state durable.
* `reachable_safe`: the scheduler's promises hold in every state a run reaches.

The sample run at the end enqueues one build and starts it.
-/

namespace SecureSaas.Paas

open Js

variable {rt : Runtime} {intent : PaasSecurityIntent} {s s' : PaasControlState} {h : List PaasCommand}

/-! ## Commands and steps -/

inductive PaasCommand
  | enqueue (command : PaasEnqueueJobCommand)
  | schedule (command : PaasScheduleCommand)
  | complete (command : PaasCompleteJobCommand)
  | cancel (command : PaasCancelJobCommand)
  | acknowledge (command : PaasAcknowledgeCancellationCommand)
  | sweep (command : PaasSweepCommand)

def PaasCommand.exec (rt : Runtime) (state : PaasControlState) (intent : PaasSecurityIntent) :
    PaasCommand → PaasControlTransition
  | .enqueue command => enqueuePaasJob rt state intent command
  | .schedule command => schedulePaasJobs rt state intent command
  | .complete command => completePaasJob rt state intent command
  | .cancel command => cancelPaasJob rt state intent command
  | .acknowledge command => acknowledgePaasJobCancellation rt state intent command
  | .sweep command => sweepExpiredPaasJobs rt state intent command

/-- The command is accepted and leads to the next state. -/
def ControlStep (rt : Runtime) (intent : PaasSecurityIntent) (s : PaasControlState) (c : PaasCommand)
    (s' : PaasControlState) : Prop :=
  (c.exec rt s intent).accepted = true ∧ (c.exec rt s intent).state = s'

theorem exec_checked {c : PaasCommand} (h : (c.exec rt s intent).accepted = true) :
    stateInvariantError rt s intent = none := by
  cases c with
  | enqueue command => exact (enqueue_accepted h).1
  | schedule command => exact (schedule_accepted h).1
  | complete command => exact (complete_accepted h).1
  | cancel command => exact (cancel_accepted h).1
  | acknowledge command => exact (acknowledge_accepted h).1
  | sweep command => exact (sweep_accepted h).1

/-- **Every accepted command leaves a durable state.** -/
theorem Durable.exec (hd : Durable rt intent s) {c : PaasCommand} (h : (c.exec rt s intent).accepted = true) :
    Durable rt intent (c.exec rt s intent).state := by
  cases c with
  | enqueue command =>
    obtain ⟨-, hvalid, tenant, ht, -, ⟨existing, -, -, -, hs⟩ | ⟨hg, hs⟩⟩ := enqueue_accepted h
    · show Durable rt intent (enqueuePaasJob rt s intent command).state
      rw [hs]
      exact hd
    · show Durable rt intent (enqueuePaasJob rt s intent command).state
      rw [hs]
      exact hd.enqueued hvalid ht hg.new _
  | schedule command => exact hd.scheduled h
  | complete command => exact hd.completed h
  | cancel command => exact hd.cancelled h
  | acknowledge command => exact hd.acknowledged h
  | sweep command => exact hd.swept h

theorem ControlStep.durable {c : PaasCommand} (hs : ControlStep rt intent s c s') : Durable rt intent s' := by
  obtain ⟨haccepted, rfl⟩ := hs
  exact (stateInvariantError_none.1 (exec_checked haccepted)).1.exec haccepted

/-! ## The initial state -/

/-- There are no jobs and no records at first. -/
theorem create_empty {α : Type} {r : Record α} (hr : r = Record.empty) {key : String} {v : α} :
    r.get? key ≠ some v := by
  rw [hr, Record.get?_empty]
  nofun

theorem create_jobs {id : String} {job : PaasControlJob} :
    (createPaasControlState intent).jobs.get? id ≠ some job := create_empty rfl

theorem create_locks : LocksOk rt (createPaasControlState intent) :=
  ⟨fun _ _ hj => absurd hj create_jobs, fun _ _ hl => absurd hl (create_empty rfl)⟩

/-- Every queue is empty at first. -/
theorem create_queue {tenantId : String} {queue : List String}
    (hq : (createPaasControlState intent).tenantQueues.get? tenantId = some queue) : queue = [] := by
  obtain ⟨tenant, -, heq⟩ := List.mem_map.1 (Record.mem_of_fromEntries_get? hq)
  exact (Prod.mk.inj heq).2.symm

theorem create_queues : QueuesOk (createPaasControlState intent) := by
  refine ⟨?_, ?_, fun _ _ hj => absurd hj create_jobs⟩
  · intro tenantId queue hq id hid
    rw [create_queue hq] at hid
    cases hid
  · intro tenantId queue hq
    rw [create_queue hq]
    exact List.nodup_nil

theorem create_quotas : QuotasOk intent (createPaasControlState intent) :=
  ⟨Nat.zero_le _, fun _ _ => Nat.zero_le _, fun _ _ => Nat.zero_le _⟩

/-- **The initial state is durable** when no two tenants share an id. -/
theorem create_durable (hn : intent.tenantIds.Nodup) : Durable rt intent (createPaasControlState intent) := by
  refine ⟨create_queues, create_locks, create_quotas, ⟨rfl, le_rfl, hn, ?_, ?_, fun _ _ hj => absurd hj create_jobs,
    fun _ _ hj => absurd hj create_jobs, fun _ _ hr => absurd hr (create_empty rfl),
    fun _ _ hr => absurd hr (create_empty rfl), fun _ _ hd => absurd hd (create_empty rfl)⟩⟩
  rotate_left
  · intro tenantId hl
    cases hl
  intro tenantId
  have hkeys : ((intent.tenants.map fun tenant => (tenant.tenantId, ([] : List String))).map Prod.fst).Nodup := by
    rw [List.map_map]
    exact hn
  have hget : ∀ queue, (createPaasControlState intent).tenantQueues.get? tenantId = some queue ↔
      (tenantId, queue) ∈ intent.tenants.map fun tenant => (tenant.tenantId, []) :=
    fun queue => Record.fromEntries_get? hkeys
  constructor
  · intro hq
    obtain ⟨queue, hq⟩ := hq
    obtain ⟨tenant, ht, heq⟩ := List.mem_map.1 ((hget queue).1 hq)
    exact List.mem_map.2 ⟨tenant, ht, (Prod.mk.inj heq).1⟩
  · intro ht
    obtain ⟨tenant, hmem, heq⟩ := List.mem_map.1 ht
    exact ⟨[], (hget []).2 (List.mem_map.2 ⟨tenant, hmem, by rw [heq]⟩)⟩

/-! ## A sample run -/

def sampleIntent : PaasSecurityIntent := ⟨[⟨"tenant-a", 1, 1, 10⟩], ⟨1⟩⟩

def sampleRevision : String := "aaaaaaaaaaaaaaaaaaaaaaaaaaaaaaaaaaaaaaaa"

def sampleEnqueue : PaasEnqueueJobCommand where
  expectedRevision := 0
  jobId := "job-a"
  tenantId := "tenant-a"
  operation := .build
  resource := "app"
  idempotencyKey := "key-a"
  requestedAtEpochSeconds := 1000
  maxAttempts := 1
  sourceRevision := some sampleRevision
  artifactDigest := none
  authorization :=
    { allowed := true
      evaluatedAtEpochSeconds := 1000
      capabilityToRedeem := none
      audit :=
        { tenant := "tenant-a"
          operation := .build
          resource := "app"
          sourceRevision := some sampleRevision
          artifactDigest := none
          authorizationDecisionAllow := true
          decisionEpochSeconds := 1000
          capabilityId := none
          idempotencyKey := some "key-a" } }

/-- What the sample commands hash, and the SHA-256 digests. -/
def sampleTable : List (String × String) := [
  ("[\"tenant-a\",\"key-a\"]", "95d0a31f49addd06cbf326f6f21376e6e4da7630f44bfab9e11976a950f0ef1f"),
  ("[\"resource\",\"tenant-a\",\"app\"]", "81eae5579b47af7a4b244e26ff18ec9fd21e6ba9de91b3f9592789f90d33fab0"),
  ("\x7b\"action\":\"enqueue\",\"tenantId\":\"tenant-a\",\"operation\":\"build\",\"resource\":\"app\"," ++
      "\"sourceRevision\":\"aaaaaaaaaaaaaaaaaaaaaaaaaaaaaaaaaaaaaaaa\",\"artifactDigest\":null\x7d",
    "97ba2411988b14a820eff7cdef28adc87891a4cee8629b3cf2c1975ec5b86677")]

theorem sampleTable_hex : ∀ p ∈ sampleTable, isHexDigest p.2 = true := by
  repeat' first | exact hex_nil | refine hex_cons (by decide +kernel) (by decide +kernel) ?_

def sampleRuntime : Runtime := Runtime.tabulated sampleTable (fun _ => none) sampleTable_hex

def sampleQueued : PaasControlState :=
  (enqueuePaasJob sampleRuntime (createPaasControlState sampleIntent) sampleIntent sampleEnqueue).state

theorem sample_enqueued : ControlStep sampleRuntime sampleIntent (createPaasControlState sampleIntent)
    (.enqueue sampleEnqueue) sampleQueued := by
  refine ⟨?_, rfl⟩
  show (enqueuePaasJob sampleRuntime (createPaasControlState sampleIntent) sampleIntent sampleEnqueue).accepted = true
  decide +kernel

/-- The scheduler is called at the given time. -/
def sampleSchedule (now : ℤ) : PaasScheduleCommand := ⟨1, now, none⟩

def sampleStarted (now : ℤ) : PaasControlState :=
  (schedulePaasJobs sampleRuntime sampleQueued sampleIntent (sampleSchedule now)).state

/-! ## Safety -/

/-- The text whose hash is the lock of a resource. -/
def resourceText (tenantId resource : String) : String :=
  jsonStringify (.array (["resource", tenantId, resource].map .string))

/-- Two resources have one text only if they are one. -/
theorem resourceText_inj {tenantId tenantId' resource resource' : String}
    (h : resourceText tenantId resource = resourceText tenantId' resource') :
    tenantId = tenantId' ∧ resource = resource' := by
  have hparts := strings_text_inj h
  simp only [List.cons.injEq, and_true, true_and] at hparts
  exact hparts

/-- What the scheduler promises of the control state. -/
structure Safe (rt : Runtime) (intent : PaasSecurityIntent) (s : PaasControlState) : Prop where
  /-- A tenant's resource has one active job at most. -/
  active : ∀ id id' job job', s.jobs.get? id = some job → s.jobs.get? id' = some job' → isActive job = true →
    isActive job' = true → job.tenantId = job'.tenantId → job.resource = job'.resource → id = id'
  /-- An active job owns the lock of its resource, and no other lock that does not collide with it. -/
  owns : ∀ id job, s.jobs.get? id = some job → isActive job = true → ∀ tenantId resource,
    rt.CollisionFreeOn {resourceText job.tenantId job.resource, resourceText tenantId resource} →
    (s.resourceLocks.get? (resourceKey rt tenantId resource) = some id ↔
      tenantId = job.tenantId ∧ resource = job.resource)
  /-- Every lock is that of an active job's resource. -/
  locks : ∀ key id, s.resourceLocks.get? key = some id →
    ∃ job, s.jobs.get? id = some job ∧ isActive job = true ∧ resourceKey rt job.tenantId job.resource = key
  global : (activeJobs s).length ≤ intent.scheduling.maxGlobalConcurrency
  builds : ∀ tenant ∈ intent.tenants, ((activeJobs s).filter fun job => job.tenantId == tenant.tenantId &&
    job.operation == .build).length ≤ tenant.maxConcurrentBuilds
  deployments : ∀ tenant ∈ intent.tenants, ((activeJobs s).filter fun job => job.tenantId == tenant.tenantId &&
    job.operation != .build).length ≤ tenant.maxConcurrentDeployments
  /-- A queued job is once in its own tenant's queue, and in no other's. -/
  queued : ∀ id job, s.jobs.get? id = some job → job.status = .queued →
    (∃ queue, s.tenantQueues.get? job.tenantId = some queue ∧ queue.count id = 1) ∧
      ∀ tenantId queue, s.tenantQueues.get? tenantId = some queue → id ∈ queue → tenantId = job.tenantId
  /-- Nothing but a queued job is in a queue. -/
  queues : ∀ tenantId queue, s.tenantQueues.get? tenantId = some queue → ∀ id ∈ queue,
    ∃ job, s.jobs.get? id = some job ∧ job.status = .queued

/-- **Queues, locks and counts make a state safe.** -/
theorem safe_of (hq : QueuesOk s) (hl : LocksOk rt s) (hquotas : QuotasOk intent s) : Safe rt intent s := by
  refine ⟨?_, ?_, hl.active, hquotas.global, ?_, ?_, ?_, ?_⟩
  · intro id id' job job' hj hj' ha ha' htenant hresource
    -- both own the one lock
    have hlock := hl.held id job hj ha
    rw [htenant, hresource, hl.held id' job' hj' ha'] at hlock
    exact (Option.some.inj hlock).symm
  · intro id job hj ha tenantId resource hcf
    constructor
    · intro hlock
      obtain ⟨job', hj', -, hkey⟩ := hl.active _ id hlock
      obtain rfl := Option.some.inj (hj.symm.trans hj')
      have htext := hcf (Set.mem_insert _ _) (Set.mem_insert_of_mem _ rfl) hkey
      obtain ⟨htenant, hresource⟩ := resourceText_inj htext
      exact ⟨htenant.symm, hresource.symm⟩
    · intro heq
      rw [heq.1, heq.2]
      exact hl.held id job hj ha
  · intro tenant ht
    have hcount := hquotas.builds tenant ht
    rw [← activeBuilds_length, List.filter_filter] at hcount
    simp only [Bool.and_comm] at hcount ⊢
    exact hcount
  · intro tenant ht
    have hcount := hquotas.deployments tenant ht
    rw [← activeDeployments_length, List.filter_filter] at hcount
    simp only [Bool.and_comm] at hcount ⊢
    exact hcount
  · intro id job hj hstatus
    obtain ⟨queue, hqueue, hid⟩ := hq.queued id job hj hstatus
    refine ⟨⟨queue, hqueue, List.count_eq_one_of_mem (hq.nodup _ queue hqueue) hid⟩, ?_⟩
    intro tenantId queue' hqueue' hid'
    obtain ⟨job', hj', htenant, -⟩ := hq.member tenantId queue' hqueue' id hid'
    obtain rfl := Option.some.inj (hj.symm.trans hj')
    exact htenant.symm
  · intro tenantId queue hqueue id hid
    obtain ⟨job, hj, -, hstatus⟩ := hq.member tenantId queue hqueue id hid
    exact ⟨job, hj, hstatus⟩

/-- **Scheduling is safe in every run**, whatever the clocks of its commands say. -/
theorem reachable_safe (rt : Runtime) (intent : PaasSecurityIntent) {h : List PaasCommand} {s : PaasControlState}
    (hr : Run (ControlStep rt intent) (createPaasControlState intent) h s) : Safe rt intent s := by
  cases hr with
  | start => exact safe_of create_queues create_locks create_quotas
  | snoc _ last =>
    -- the state before the last step was checked, and the step kept what the check found
    have hd := last.durable
    exact safe_of hd.queues hd.locks hd.quotas

/-- `reachable_safe` on the sample run, whose job is running. -/
theorem reachable_safe_running : ∃ h s, Run (ControlStep sampleRuntime sampleIntent)
    (createPaasControlState sampleIntent) h s ∧ (activeJobs s).length = 1 ∧ Safe sampleRuntime sampleIntent s := by
  have hstarted : ControlStep sampleRuntime sampleIntent sampleQueued (.schedule (sampleSchedule 1200))
      (sampleStarted 1200) := by
    refine ⟨?_, rfl⟩
    show (schedulePaasJobs sampleRuntime sampleQueued sampleIntent (sampleSchedule 1200)).accepted = true
    decide +kernel
  have hrun := (Run.single sample_enqueued).snoc hstarted
  exact ⟨_, _, hrun, by decide +kernel, reachable_safe sampleRuntime sampleIntent hrun⟩

end SecureSaas.Paas
