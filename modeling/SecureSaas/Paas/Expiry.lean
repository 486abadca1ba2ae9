import SecureSaas.Paas.Clock
import SecureSaas.Paas.Moves

/-!
# Expiring queued jobs

The two loops of `expireQueuedJobs`, read as one move of the state.

* `expireQueuedJobs_spec`: which jobs time out, and what stays queued.
* `Durable.expire`, `ClockOk.expire`: expiry keeps the state durable and its clocks in order.
-/

namespace SecureSaas.Paas

open Js

variable {rt : Runtime} {intent : PaasSecurityIntent} {s : PaasControlState} {now revision : ℤ}

def isDue (now : ℤ) (job : PaasControlJob) : Bool := decide (job.deadlineAtEpochSeconds ≤ now)

/-- The queued id is retained: its job is not due. -/
def isKept (s : PaasControlState) (now : ℤ) (id : String) : Bool := !(s.jobs.get? id).any (isDue now)

/-- What expiry does to a job, given whether it is queued. -/
def expireIf (queued : Bool) (now : ℤ) (job : PaasControlJob) : PaasControlJob :=
  if queued = true ∧ job.deadlineAtEpochSeconds ≤ now then timedOutJob job now else job

/-- Expiring twice is expiring once. -/
theorem expireIf_expireIf (a b : Bool) (now : ℤ) (job : PaasControlJob) :
    expireIf b now (expireIf a now job) = expireIf (a || b) now job := by
  unfold expireIf
  by_cases hd : job.deadlineAtEpochSeconds ≤ now
  · cases a with
    | false => simp
    | true => cases b <;> simp [hd, timedOutJob]
  · simp [hd]

theorem expireIf_due (queued : Bool) (now : ℤ) (job : PaasControlJob) :
    isDue now (expireIf queued now job) = isDue now job := by
  unfold expireIf
  split <;> rfl

/-- Expiry changes no deadline, so it changes no later decision. -/
theorem isKept_congr {s s' : PaasControlState} {queued : String → Bool}
    (h : ∀ id, s'.jobs.get? id = (s.jobs.get? id).map (expireIf (queued id) now)) (id : String) :
    isKept s' now id = isKept s now id := by
  unfold isKept
  rw [h id]
  cases s.jobs.get? id with
  | none => rfl
  | some job => simp [expireIf_due]

/-- The state after one queue: its due jobs have timed out. -/
theorem expireQueue_spec (now revision : ℤ) (queue : List String) (s : PaasControlState) (events : List PaasControlEvent)
    (retained : List String) :
    ∃ jobs events', expireQueue now revision queue s events retained =
        ({ s with jobs := jobs }, events', retained ++ queue.filter (isKept s now)) ∧
      ∀ id, jobs.get? id = (s.jobs.get? id).map (expireIf (queue.contains id) now) := by
  induction queue generalizing s events retained with
  | nil =>
    refine ⟨s.jobs, events, by simp [expireQueue], ?_⟩
    intro id
    cases s.jobs.get? id <;> simp [expireIf]
  | cons jobId queue ih =>
    unfold expireQueue
    cases hj : s.jobs.get? jobId with
    | none =>
      obtain ⟨jobs, events', heq, hjobs⟩ := ih s events (retained ++ [jobId])
      refine ⟨jobs, events', ?_, ?_⟩
      · simp [heq, isKept, hj]
      · intro id
        rw [hjobs id]
        by_cases hid : id = jobId
        · rw [hid, hj]
          rfl
        · simp [hid]
    | some job =>
      by_cases hdue : job.deadlineAtEpochSeconds ≤ now
      · -- the job times out; were it queued twice, it would time out in the same way again
        simp only [if_pos hdue]
        have hset : ∀ id, (s.jobs.set jobId (timedOutJob job now)).get? id =
            (s.jobs.get? id).map (expireIf (id == jobId) now) := by
          intro id
          rw [Record.get?_set]
          by_cases hid : id = jobId
          · rw [if_pos hid, hid, hj]
            simp [expireIf, hdue]
          · rw [if_neg hid]
            cases s.jobs.get? id <;> simp [expireIf, hid]
        obtain ⟨jobs, events', heq, hjobs⟩ := ih { s with jobs := s.jobs.set jobId (timedOutJob job now) }
          (events ++ [event .jobTimedOut revision now (timedOutJob job now)]) retained
        refine ⟨jobs, events', ?_, ?_⟩
        · rw [heq]
          have hkept : isKept s now jobId = false := by simp [isKept, hj, isDue, hdue]
          rw [List.filter_cons_of_neg (by rw [hkept]; exact Bool.false_ne_true)]
          rw [List.filter_congr fun id _ => isKept_congr hset id]
        · intro id
          rw [hjobs id]
          show ((s.jobs.set jobId (timedOutJob job now)).get? id).map _ = _
          rw [hset id, Option.map_map]
          cases s.jobs.get? id with
          | none => rfl
          | some job' =>
            rw [Option.map_some, Option.map_some, Function.comp_apply, expireIf_expireIf, List.contains_cons]
      · simp only [if_neg hdue]
        obtain ⟨jobs, events', heq, hjobs⟩ := ih s events (retained ++ [jobId])
        refine ⟨jobs, events', ?_, ?_⟩
        · rw [heq]
          have hkept : isKept s now jobId = true := by simp [isKept, hj, isDue, hdue]
          rw [List.filter_cons_of_pos hkept, List.append_assoc, List.singleton_append]
        · intro id
          rw [hjobs id]
          by_cases hid : id = jobId
          · rw [hid, hj]
            simp [expireIf, hdue]
          · simp [hid]

/-- The id is in one of the queues. -/
def isListed (queues : List (String × List String)) (id : String) : Bool := queues.any fun e => e.2.contains id

/-- The state after the queues that are left: their due jobs have timed out and left them. -/
theorem expireQueues_spec (now revision : ℤ) (queues : List (String × List String)) (s : PaasControlState)
    (events : List PaasControlEvent) (hn : (queues.map Prod.fst).Nodup) :
    ∃ jobs tenantQueues events', expireQueues now revision queues s events =
        ({ s with jobs := jobs, tenantQueues := tenantQueues }, events') ∧
      (∀ id, jobs.get? id = (s.jobs.get? id).map (expireIf (isListed queues id) now)) ∧
      ∀ tenantId queue, tenantQueues.get? tenantId = some queue ↔
        (∃ q, (tenantId, q) ∈ queues ∧ queue = q.filter (isKept s now)) ∨
          ((∀ q, (tenantId, q) ∉ queues) ∧ s.tenantQueues.get? tenantId = some queue) := by
  induction queues generalizing s events with
  | nil =>
    refine ⟨s.jobs, s.tenantQueues, events, rfl, ?_, ?_⟩
    · intro id
      cases s.jobs.get? id <;> simp [expireIf, isListed]
    · intro tenantId queue
      simp
  | cons e rest ih =>
    obtain ⟨tenantId0, queue0⟩ := e
    obtain ⟨hnew, hrest⟩ := List.nodup_cons.1 hn
    obtain ⟨jobs0, events0, heq0, hjobs0⟩ := expireQueue_spec now revision queue0 s events []
    obtain ⟨jobs, tenantQueues, events', heq, hjobs, hqueues⟩ := ih
      { s with jobs := jobs0, tenantQueues := s.tenantQueues.set tenantId0 (queue0.filter (isKept s now)) }
      events0 hrest
    refine ⟨jobs, tenantQueues, events', ?_, ?_, ?_⟩
    · unfold expireQueues
      rw [heq0]
      exact heq
    · intro id
      rw [hjobs id]
      show (jobs0.get? id).map _ = _
      rw [hjobs0 id, Option.map_map]
      cases s.jobs.get? id with
      | none => rfl
      | some job =>
        rw [Option.map_some, Option.map_some, Function.comp_apply, expireIf_expireIf]
        rfl
    · intro tenantId queue
      rw [hqueues]
      have hkept : ∀ id, isKept { s with
          jobs := jobs0, tenantQueues := s.tenantQueues.set tenantId0 (queue0.filter (isKept s now)) } now id =
          isKept s now id := fun id => isKept_congr hjobs0 id
      have hout : ∀ q, (tenantId0, q) ∉ rest := by
        intro q hq
        exact hnew (List.mem_map.2 ⟨(tenantId0, q), hq, rfl⟩)
      simp only [List.filter_congr fun id _ => hkept id, List.mem_cons, Record.get?_set]
      by_cases ht : tenantId = tenantId0
      · subst ht
        simp [hout, eq_comm]
      · simp [ht]

/-- Expiry times out the due jobs of all queues, and retains the others. -/
theorem expireQueuedJobs_spec (s : PaasControlState) (now revision : ℤ) :
    ∃ jobs tenantQueues events, expireQueuedJobs s now revision =
        ({ s with jobs := jobs, tenantQueues := tenantQueues }, events) ∧
      (∀ id, jobs.get? id = (s.jobs.get? id).map (expireIf (isListed s.tenantQueues.entries id) now)) ∧
      ∀ tenantId, tenantQueues.get? tenantId =
        (s.tenantQueues.get? tenantId).map fun queue => queue.filter (isKept s now) := by
  obtain ⟨jobs, tenantQueues, events, heq, hjobs, hqueues⟩ := expireQueues_spec now revision
    s.tenantQueues.entries s [] s.tenantQueues.keys_nodup
  refine ⟨jobs, tenantQueues, events, heq, hjobs, ?_⟩
  intro tenantId
  apply Option.ext
  intro queue
  rw [hqueues, Option.map_eq_some_iff]
  simp only [Record.mem_entries]
  constructor
  · rintro (⟨q, hq, rfl⟩ | ⟨hnone, hq⟩)
    · exact ⟨q, hq, rfl⟩
    · exact absurd hq (hnone queue)
  · rintro ⟨q, hq, rfl⟩
    exact Or.inl ⟨q, hq, rfl⟩

/-- A job that is listed is queued. -/
theorem QueuesOk.listed (h : QueuesOk s) {id : String} (hl : isListed s.tenantQueues.entries id = true)
    {job : PaasControlJob} (hj : s.jobs.get? id = some job) : job.status = .queued := by
  obtain ⟨e, he, hin⟩ := List.any_eq_true.1 hl
  obtain ⟨job', hj', -, hstatus⟩ := h.member e.1 e.2 (Record.mem_entries.1 he) id (List.contains_iff_mem.1 hin)
  obtain rfl := Option.some.inj (hj.symm.trans hj')
  exact hstatus

theorem updates_timedOut {job : PaasControlJob} (hstatus : job.status = .queued) (now : ℤ) :
    Updates job (timedOutJob job now) :=
  ⟨rfl, rfl, rfl, fun _ h => h, fun hs => absurd (hstatus.symm.trans hs) nofun⟩

/-- **Expiry keeps a state durable.** -/
theorem Durable.expire (h : Durable rt intent s) (now revision : ℤ) :
    Durable rt intent (expireQueuedJobs s now revision).1 := by
  obtain ⟨jobs, tenantQueues, events, heq, hjobs, hqueues⟩ := expireQueuedJobs_spec s now revision
  rw [heq]
  have hm : Moved (fun id => expireIf (isListed s.tenantQueues.entries id) now) s
      { s with jobs := jobs, tenantQueues := tenantQueues } := by
    refine ⟨hjobs, ?_⟩
    intro id job hj
    unfold expireIf
    split
    · rename_i hexp
      exact updates_timedOut (h.queues.listed hexp.1 hj) now
    · exact Updates.refl job
  have hactive : ∀ id job, s.jobs.get? id = some job →
      isActive (expireIf (isListed s.tenantQueues.entries id) now job) = isActive job := by
    intro id job hj
    unfold expireIf
    split
    · rename_i hexp
      have hstatus := h.queues.listed hexp.1 hj
      unfold isActive
      rw [hstatus]
      rfl
    · rfl
  refine ⟨h.queues.shrink hm ?_ ?_, h.locks.keep hm rfl hactive, h.quotas.move hm ?_, h.records.move hm ?_⟩
  · intro tenantId queue' hq
    change tenantQueues.get? tenantId = some queue' at hq
    rw [hqueues] at hq
    obtain ⟨queue, hget, rfl⟩ := Option.map_eq_some_iff.1 hq
    refine ⟨queue, hget, List.filter_sublist, ?_⟩
    intro id hid job hj
    -- a retained job is not due
    have hkept := (List.mem_filter.1 hid).2
    unfold isKept at hkept
    rw [hj] at hkept
    have hdue : ¬ job.deadlineAtEpochSeconds ≤ now := by simpa [isDue] using hkept
    exact if_neg fun hexp => hdue hexp.2
  · intro id job hj hstatus
    unfold expireIf at hstatus
    split at hstatus
    · cases hstatus
    · rename_i hexp
      refine ⟨hstatus, ?_⟩
      intro queue hget hid
      refine ⟨queue.filter (isKept s now), ?_, ?_⟩
      · show tenantQueues.get? job.tenantId = _
        rw [hqueues, hget, Option.map_some]
      · have hlisted : isListed s.tenantQueues.entries id = true :=
          List.any_eq_true.2 ⟨(job.tenantId, queue), Record.mem_entries.2 hget, List.contains_iff_mem.2 hid⟩
        have hdue : ¬ job.deadlineAtEpochSeconds ≤ now := fun hd => hexp ⟨hlisted, hd⟩
        refine List.mem_filter.2 ⟨hid, ?_⟩
        simp [isKept, hj, isDue, hdue]
  · intro id job hj ha
    rw [hactive id job hj] at ha
    exact ha
  · refine ⟨rfl, rfl, rfl, rfl, rfl, ?_, Or.inl rfl⟩
    intro tenantId
    show (∃ queue, tenantQueues.get? tenantId = some queue) ↔ _
    rw [hqueues]
    simp only [Option.map_eq_some_iff]
    constructor
    · rintro ⟨-, queue, hq, -⟩
      exact ⟨queue, hq⟩
    · rintro ⟨queue, hq⟩
      exact ⟨_, queue, hq, rfl⟩

theorem ClockOk.expire (h : ClockOk intent s) (hd : Durable rt intent s) (hnow : validEpoch now = true) :
    ClockOk intent (expireQueuedJobs s now revision).1 := by
  obtain ⟨jobs, tenantQueues, events, heq, hjobs, -⟩ := expireQueuedJobs_spec s now revision
  rw [heq]
  intro id job' hj'
  change jobs.get? id = some job' at hj'
  rw [hjobs] at hj'
  obtain ⟨job, hj, rfl⟩ := Option.map_eq_some_iff.1 hj'
  unfold expireIf
  split
  · rename_i hexp
    -- a job that is due was created before
    have hcreated := ((h id job hj).created (hd.records.tenant id job hj)).1
    exact (h id job hj).timedOut hnow (by omega)
  · exact h id job hj

end SecureSaas.Paas
