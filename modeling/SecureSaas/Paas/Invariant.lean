import SecureSaas.Paas.State
import Mathlib.Data.List.Dedup

/-!
# What the state check accepts

The check is a conjunction over all jobs, queues, locks and records. Here it is read off key by
key, and the part that depends on the clocks of the commands is kept apart from the rest.

* `Durable`: queues, locks, quotas and records fit together.
* `ClockOk`: the times of every job are in order.
* `stateInvariantError_none`: the check passes exactly on the states that have both.
-/

namespace SecureSaas.Paas

open Js

variable {rt : Runtime} {intent : PaasSecurityIntent} {s : PaasControlState}

/-! ## The parts of the check -/

/-- Each queue holds its tenant's queued jobs, each once. -/
structure QueuesOk (s : PaasControlState) : Prop where
  member : ∀ tenantId queue, s.tenantQueues.get? tenantId = some queue → ∀ id ∈ queue,
    ∃ job, s.jobs.get? id = some job ∧ job.tenantId = tenantId ∧ job.status = .queued
  nodup : ∀ tenantId queue, s.tenantQueues.get? tenantId = some queue → queue.Nodup
  queued : ∀ id job, s.jobs.get? id = some job → job.status = .queued →
    ∃ queue, s.tenantQueues.get? job.tenantId = some queue ∧ id ∈ queue

/-- The locks are those of the active jobs. -/
structure LocksOk (rt : Runtime) (s : PaasControlState) : Prop where
  held : ∀ id job, s.jobs.get? id = some job → isActive job = true →
    s.resourceLocks.get? (resourceKey rt job.tenantId job.resource) = some id
  active : ∀ key id, s.resourceLocks.get? key = some id →
    ∃ job, s.jobs.get? id = some job ∧ isActive job = true ∧ resourceKey rt job.tenantId job.resource = key

structure QuotasOk (intent : PaasSecurityIntent) (s : PaasControlState) : Prop where
  global : s.jobs.count isActive ≤ intent.scheduling.maxGlobalConcurrency
  builds : ∀ tenant ∈ intent.tenants, s.jobs.count (isActiveBuild tenant.tenantId) ≤ tenant.maxConcurrentBuilds
  deployments : ∀ tenant ∈ intent.tenants,
    s.jobs.count (isActiveDeployment tenant.tenantId) ≤ tenant.maxConcurrentDeployments

/-- A deployment's own fields. -/
structure DeploymentOk (rt : Runtime) (intent : PaasSecurityIntent) (key : String)
    (deployment : PaasDeploymentRecord) : Prop where
  tenant : deployment.tenantId ∈ intent.tenantIds
  resource : boundedResource deployment.resource = true
  key : resourceKey rt deployment.tenantId deployment.resource = key
  active : validDigest (some deployment.activeArtifactDigest) = true
  previous : ∀ artifact ∈ deployment.previousArtifactDigests, validDigest (some artifact) = true
  length : deployment.previousArtifactDigests.length ≤ 20
  fresh : deployment.activeArtifactDigest ∉ deployment.previousArtifactDigests
  nodup : deployment.previousArtifactDigests.Nodup
  generation : 1 ≤ deployment.generation

/-- Tenants, jobs and records name each other consistently. -/
structure RecordsOk (rt : Runtime) (intent : PaasSecurityIntent) (s : PaasControlState) : Prop where
  apiVersion : s.apiVersion = paasControlStateApiVersion
  revision : 0 ≤ s.revision
  tenants : intent.tenantIds.Nodup
  queues : ∀ tenantId, (∃ queue, s.tenantQueues.get? tenantId = some queue) ↔ tenantId ∈ intent.tenantIds
  lastScheduled : ∀ tenantId, s.lastScheduledTenant = some tenantId → tenantId ∈ intent.tenantIds
  tenant : ∀ id job, s.jobs.get? id = some job → job.tenantId ∈ intent.tenantIds
  fields : ∀ id job, s.jobs.get? id = some job → durableFields id job = true
  idempotency : ∀ key record, s.idempotency.get? key = some record →
    (∃ job, s.jobs.get? record.jobId = some job ∧ record.tenantId = job.tenantId) ∧
      stateKey rt [record.tenantId, record.idempotencyKey] = key
  redemptions : ∀ key redemption, s.redeemedCapabilities.get? key = some redemption →
    (∃ job, s.jobs.get? redemption.jobId = some job ∧ redemption.tenantId = job.tenantId) ∧
      stateKey rt [redemption.capabilityId] = key
  deployments : ∀ key deployment, s.deployments.get? key = some deployment →
    DeploymentOk rt intent key deployment ∧
      ∃ job, s.jobs.get? deployment.sourceJobId = some job ∧ isSource deployment job = true

/-- Everything the check asks for but the order of times. -/
structure Durable (rt : Runtime) (intent : PaasSecurityIntent) (s : PaasControlState) : Prop where
  queues : QueuesOk s
  locks : LocksOk rt s
  quotas : QuotasOk intent s
  records : RecordsOk rt intent s

/-- The times of a job are in order and within its tenant's. -/
structure JobClock (intent : PaasSecurityIntent) (job : PaasControlJob) : Prop where
  durable : ∀ tenant, intent.find job.tenantId = some tenant → durableTimes tenant job = true
  lifecycle : lifecycleTimes job = true

def ClockOk (intent : PaasSecurityIntent) (s : PaasControlState) : Prop :=
  ∀ id job, s.jobs.get? id = some job → JobClock intent job

/-! ## Reading the check -/

theorem failWhen_none {failed : Bool} {message : String} : failWhen failed message = none ↔ failed = false := by
  unfold failWhen
  cases failed <;> simp

theorem mem_sortNames {names : List String} {name : String} : name ∈ sortNames names ↔ name ∈ names :=
  (List.perm_insertionSort _ _).mem_iff

theorem sortNames_eq_iff {a b : List String} : sortNames a = sortNames b ↔ a.Perm b := by
  constructor
  · intro h
    have ha : (sortNames a).Perm a := List.perm_insertionSort _ _
    exact ha.symm.trans (h ▸ List.perm_insertionSort _ _)
  · intro h
    have hsorted : ∀ names : List String, (sortNames names).Pairwise fun a b => a ≤ b :=
      fun names => List.pairwise_insertionSort _ _
    have hperm : (sortNames a).Perm (sortNames b) :=
      (List.perm_insertionSort _ _).trans (h.trans (List.perm_insertionSort _ _).symm)
    exact hperm.eq_of_pairwise (fun x y _ _ hxy hyx => String.le_antisymm hxy hyx) (hsorted a) (hsorted b)

theorem find_some {tenantId : String} :
    (∃ tenant, intent.find tenantId = some tenant) ↔ tenantId ∈ intent.tenantIds := by
  rw [← Option.isSome_iff_exists]
  unfold PaasSecurityIntent.find PaasSecurityIntent.tenantIds
  rw [List.find?_isSome, List.mem_map]
  simp only [beq_iff_eq]

theorem find_mem {tenantId : String} {tenant : PaasTenantQuota} (h : intent.find tenantId = some tenant) :
    tenant ∈ intent.tenants ∧ tenant.tenantId = tenantId :=
  ⟨List.mem_of_find?_eq_some h, by simpa using List.find?_some h⟩

/-- The keys of the queues are the tenants' ids. -/
theorem queueKeys_none : failWhen (jsonStringify (.array ((sortNames s.tenantQueues.keys).map .string)) !=
      jsonStringify (.array ((sortNames intent.tenantIds).map .string)))
      "tenant queues do not match the security intent" = none ↔
    intent.tenantIds.Nodup ∧
      ∀ tenantId, (∃ queue, s.tenantQueues.get? tenantId = some queue) ↔ tenantId ∈ intent.tenantIds := by
  rw [failWhen_none, bne_eq_false_iff_eq]
  have hperm : jsonStringify (.array ((sortNames s.tenantQueues.keys).map .string)) =
      jsonStringify (.array ((sortNames intent.tenantIds).map .string)) ↔
      s.tenantQueues.keys.Perm intent.tenantIds := by
    rw [← sortNames_eq_iff]
    exact ⟨strings_text_inj, fun h => by rw [h]⟩
  rw [hperm]
  constructor
  · intro h
    refine ⟨h.nodup_iff.1 s.tenantQueues.keys_nodup, ?_⟩
    intro tenantId
    rw [← h.mem_iff, Record.mem_keys]
  · rintro ⟨hn, hkeys⟩
    rw [List.perm_ext_iff_of_nodup s.tenantQueues.keys_nodup hn]
    intro tenantId
    rw [Record.mem_keys, hkeys]

theorem queueError_none {tenantId : String} {queue : List String} : queueError s tenantId queue = none ↔
    ∀ id ∈ queue, ∃ job, s.jobs.get? id = some job ∧ job.tenantId = tenantId ∧ job.status = .queued := by
  unfold queueError
  rw [List.findSome?_eq_none_iff]
  refine forall₂_congr fun id _ => ?_
  cases s.jobs.get? id with
  | none => simp
  | some job => simp

/-- Queues that hold their own tenants' jobs share none. -/
theorem flatten_nodup (hmember : ∀ tenantId queue, s.tenantQueues.get? tenantId = some queue → ∀ id ∈ queue,
      ∃ job, s.jobs.get? id = some job ∧ job.tenantId = tenantId ∧ job.status = .queued) :
    s.tenantQueues.values.flatten.Nodup ↔
      ∀ tenantId queue, s.tenantQueues.get? tenantId = some queue → queue.Nodup := by
  rw [List.nodup_flatten]
  constructor
  · rintro ⟨hn, -⟩ tenantId queue hq
    exact hn queue (Record.mem_values.2 ⟨tenantId, hq⟩)
  · intro h
    constructor
    · intro queue hq
      obtain ⟨tenantId, hq⟩ := Record.mem_values.1 hq
      exact h tenantId queue hq
    · unfold Record.values
      rw [List.pairwise_map]
      have hkeys : s.tenantQueues.entries.Pairwise fun p q => p.1 ≠ q.1 :=
        List.pairwise_map.1 s.tenantQueues.keys_nodup
      refine hkeys.imp_of_mem ?_
      intro p q hp hq hne id hip hiq
      obtain ⟨job, hjob, hp', -⟩ := hmember p.1 p.2 (Record.mem_entries.1 hp) id hip
      obtain ⟨job', hjob', hq', -⟩ := hmember q.1 q.2 (Record.mem_entries.1 hq) id hiq
      obtain rfl := Option.some.inj (hjob.symm.trans hjob')
      exact hne (hp'.symm.trans hq')

/-- `new Set(names).size === names.length` -/
theorem dedup_length {names : List String} : names.dedup.length = names.length ↔ names.Nodup := by
  rw [← List.dedup_eq_self]
  exact ⟨(List.dedup_sublist names).eq_of_length, fun h => by rw [h]⟩

theorem dedup_none {names : List String} {message : String} :
    failWhen (names.dedup.length != names.length) message = none ↔ names.Nodup := by
  rw [failWhen_none, bne_eq_false_iff_eq, dedup_length]

theorem jobError_none {queuedIds : List String} {jobKey : String} {job : PaasControlJob} :
    jobError rt s intent queuedIds jobKey job = none ↔
      (job.tenantId ∈ intent.tenantIds ∧ durableFields jobKey job = true ∧ JobClock intent job) ∧
        (job.status = .queued ↔ job.id ∈ queuedIds) ∧
        (isActive job = true →
          s.resourceLocks.get? (resourceKey rt job.tenantId job.resource) = some job.id) := by
  have hmembership : (job.status == .queued) = queuedIds.contains job.id ↔
      (job.status = .queued ↔ job.id ∈ queuedIds) := by
    rw [Bool.eq_iff_iff, beq_iff_eq, List.contains_iff_mem]
  have hlock : (isActive job && s.resourceLocks.get? (resourceKey rt job.tenantId job.resource) != some job.id) =
      false ↔ (isActive job = true →
        s.resourceLocks.get? (resourceKey rt job.tenantId job.resource) = some job.id) := by
    cases isActive job <;> simp
  have hfields : (intent.find job.tenantId).any (fun tenant => durableFields jobKey job && durableTimes tenant job) =
      true ↔ job.tenantId ∈ intent.tenantIds ∧ durableFields jobKey job = true ∧
        ∀ tenant, intent.find job.tenantId = some tenant → durableTimes tenant job = true := by
    rw [← find_some]
    cases intent.find job.tenantId with
    | none => simp
    | some tenant => simp
  unfold jobError
  split_ifs with h1 h2 h3 h4
  · simp only [Bool.not_eq_true', ← Bool.not_eq_true, hfields] at h1
    simp only [false_iff]
    rintro ⟨⟨ht, hf, hc⟩, -⟩
    exact h1 ⟨ht, hf, hc.durable⟩
  · simp only [bne_iff_ne, ne_eq, hmembership] at h2
    simp only [false_iff]
    exact fun h => h2 h.2.1
  · simp only [Bool.not_eq_true', ← Bool.not_eq_true] at h3
    simp only [false_iff]
    exact fun h => h3 h.1.2.2.lifecycle
  · rw [← Bool.not_eq_false, hlock] at h4
    simp only [false_iff]
    exact fun h => h4 h.2.2
  · simp only [Bool.not_eq_true', ← Bool.not_eq_true, not_not, hfields] at h1
    simp only [bne_iff_ne, ne_eq, not_not, hmembership] at h2
    simp only [Bool.not_eq_true', ← Bool.not_eq_true, not_not] at h3
    rw [Bool.not_eq_true, hlock] at h4
    simp only [true_iff]
    exact ⟨⟨h1.1, h1.2.1, h1.2.2, h3⟩, h2, h4⟩

theorem lockError_none {lock jobId : String} : lockError rt s lock jobId = none ↔
    ∃ job, s.jobs.get? jobId = some job ∧ isActive job = true ∧ resourceKey rt job.tenantId job.resource = lock := by
  unfold lockError
  cases s.jobs.get? jobId with
  | none => simp
  | some job => simp

/-- The builds counted against a tenant's quota. -/
theorem activeBuilds_length (tenantId : String) : (((activeJobs s).filter fun job => job.tenantId == tenantId).filter
    fun job => job.operation == .build).length = s.jobs.count (isActiveBuild tenantId) := by
  unfold activeJobs Record.count isActiveBuild
  rw [List.filter_filter, List.filter_filter]
  congr 2
  funext job
  cases isActive job <;> cases job.tenantId == tenantId <;> cases job.operation == .build <;> rfl

theorem activeDeployments_length (tenantId : String) :
    (((activeJobs s).filter fun job => job.tenantId == tenantId).filter
      fun job => job.operation != .build).length = s.jobs.count (isActiveDeployment tenantId) := by
  unfold activeJobs Record.count isActiveDeployment
  rw [List.filter_filter, List.filter_filter]
  congr 2
  funext job
  cases isActive job <;> cases job.tenantId == tenantId <;> cases job.operation != .build <;> rfl

theorem quotaError_none {tenant : PaasTenantQuota} : quotaError s tenant = none ↔
    s.jobs.count (isActiveBuild tenant.tenantId) ≤ tenant.maxConcurrentBuilds ∧
      s.jobs.count (isActiveDeployment tenant.tenantId) ≤ tenant.maxConcurrentDeployments := by
  unfold quotaError
  simp only [activeBuilds_length, activeDeployments_length]
  split_ifs with h
  · simp only [Bool.or_eq_true, decide_eq_true_eq] at h
    simp only [false_iff]
    omega
  · simp only [Bool.or_eq_true, decide_eq_true_eq] at h
    simp only [true_iff]
    omega

theorem idempotencyError_none {key : String} {record : PaasIdempotencyRecord} :
    idempotencyError rt s key record = none ↔
      (∃ job, s.jobs.get? record.jobId = some job ∧ record.tenantId = job.tenantId) ∧
        stateKey rt [record.tenantId, record.idempotencyKey] = key := by
  unfold idempotencyError
  cases s.jobs.get? record.jobId with
  | none => simp
  | some job => simp

theorem redemptionError_none {key : String} {redemption : PaasCapabilityRedemption} :
    redemptionError rt s key redemption = none ↔
      (∃ job, s.jobs.get? redemption.jobId = some job ∧ redemption.tenantId = job.tenantId) ∧
        stateKey rt [redemption.capabilityId] = key := by
  unfold redemptionError
  cases s.jobs.get? redemption.jobId with
  | none => simp
  | some job => simp

theorem deploymentError_none {key : String} {deployment : PaasDeploymentRecord} :
    deploymentError rt s (sortNames intent.tenantIds) key deployment = none ↔
      DeploymentOk rt intent key deployment ∧
        ∃ job, s.jobs.get? deployment.sourceJobId = some job ∧ isSource deployment job = true := by
  have hsource : (s.jobs.get? deployment.sourceJobId).any (isSource deployment) = true ↔
      ∃ job, s.jobs.get? deployment.sourceJobId = some job ∧ isSource deployment job = true := by
    cases s.jobs.get? deployment.sourceJobId with
    | none => simp
    | some job => simp
  unfold deploymentError
  split_ifs with h
  · simp only [Bool.and_eq_true, List.contains_iff_mem, mem_sortNames, beq_iff_eq, List.all_eq_true,
      decide_eq_true_eq, Bool.not_eq_true', ← Bool.not_eq_true, dedup_length, hsource] at h
    obtain ⟨⟨⟨⟨⟨⟨⟨⟨⟨h1, h2⟩, h3⟩, h4⟩, h5⟩, h6⟩, h7⟩, h8⟩, h9⟩, h10⟩ := h
    exact iff_of_true rfl ⟨⟨h1, h2, h3, h4, h5, h6, h7, h8, h9⟩, h10⟩
  · simp only [Bool.and_eq_true, List.contains_iff_mem, mem_sortNames, beq_iff_eq, List.all_eq_true,
      decide_eq_true_eq, Bool.not_eq_true', ← Bool.not_eq_true, dedup_length, hsource] at h
    simp only [false_iff]
    rintro ⟨hd, hjob⟩
    exact h ⟨⟨⟨⟨⟨⟨⟨⟨⟨hd.tenant, hd.resource⟩, hd.key⟩, hd.active⟩, hd.previous⟩, hd.length⟩, hd.fresh⟩,
      hd.nodup⟩, hd.generation⟩, hjob⟩

/-- **The check passes exactly on the durable states with their clocks in order.** -/
theorem stateInvariantError_none : stateInvariantError rt s intent = none ↔
    Durable rt intent s ∧ ClockOk intent s := by
  unfold stateInvariantError
  simp only [Option.orElse_eq_orElse, Option.orElse_eq_or, Option.or_eq_none_iff]
  rw [queueKeys_none, dedup_none]
  simp only [Record.findSome?_entries, queueError_none, jobError_none, lockError_none, idempotencyError_none,
    redemptionError_none, deploymentError_none]
  simp only [List.findSome?_eq_none_iff, quotaError_none, failWhen_none]
  constructor
  · rintro ⟨hversion, ⟨htenants, hkeys⟩, hlast, hflat, hmember, hjobs, hlocks, hglobal, hquota, hidem, hred, hdep⟩
    simp only [Bool.or_eq_false_iff, bne_eq_false_iff_eq, decide_eq_false_iff_not, not_lt] at hversion
    have hid : ∀ id job, s.jobs.get? id = some job → id = job.id := by
      intro id job hj
      have hf := (hjobs id job hj).1.2.1
      simp only [durableFields, Bool.and_eq_true, beq_iff_eq] at hf
      tauto
    refine ⟨⟨⟨hmember, (flatten_nodup hmember).1 hflat, ?_⟩, ⟨?_, hlocks⟩, ⟨?_, ?_, ?_⟩, ?_⟩, ?_⟩
    · intro id job hj hq
      have hin := (hjobs id job hj).2.1.1 hq
      rw [← hid id job hj] at hin
      obtain ⟨queue, hqueue, hin⟩ := List.mem_flatten.1 hin
      obtain ⟨tenantId, hget⟩ := Record.mem_values.1 hqueue
      obtain ⟨job', hj', htenant, -⟩ := hmember tenantId queue hget id hin
      obtain rfl := Option.some.inj (hj.symm.trans hj')
      exact ⟨queue, htenant ▸ hget, hin⟩
    · intro id job hj hactive
      rw [(hjobs id job hj).2.2 hactive, ← hid id job hj]
    · exact not_lt.1 (of_decide_eq_false hglobal)
    · exact fun tenant ht => (hquota tenant ht).1
    · exact fun tenant ht => (hquota tenant ht).2
    · refine ⟨hversion.1, hversion.2, htenants, hkeys, ?_, ?_, ?_, hidem, hred, hdep⟩
      · intro tenantId hl
        rw [hl] at hlast
        simpa [mem_sortNames] using hlast
      · exact fun id job hj => (hjobs id job hj).1.1
      · exact fun id job hj => (hjobs id job hj).1.2.1
    · exact fun id job hj => (hjobs id job hj).1.2.2
  · rintro ⟨⟨hqueues, hlocks, hquotas, hrecords⟩, hclock⟩
    have hid : ∀ id job, s.jobs.get? id = some job → id = job.id := by
      intro id job hj
      have hf := hrecords.fields id job hj
      simp only [durableFields, Bool.and_eq_true, beq_iff_eq] at hf
      tauto
    refine ⟨?_, ⟨hrecords.tenants, hrecords.queues⟩, ?_, (flatten_nodup hqueues.member).2 hqueues.nodup,
      hqueues.member, ?_, hlocks.active, ?_, ?_, hrecords.idempotency, hrecords.redemptions, hrecords.deployments⟩
    · simp only [Bool.or_eq_false_iff, bne_eq_false_iff_eq, decide_eq_false_iff_not, not_lt]
      exact ⟨hrecords.apiVersion, hrecords.revision⟩
    · cases hl : s.lastScheduledTenant with
      | none => rfl
      | some tenantId => simpa [mem_sortNames] using hrecords.lastScheduled tenantId hl
    · intro id job hj
      refine ⟨⟨hrecords.tenant id job hj, hrecords.fields id job hj, hclock id job hj⟩, ?_, ?_⟩
      · rw [← hid id job hj, List.mem_flatten]
        constructor
        · intro hq
          obtain ⟨queue, hget, hin⟩ := hqueues.queued id job hj hq
          exact ⟨queue, Record.mem_values.2 ⟨_, hget⟩, hin⟩
        · rintro ⟨queue, hqueue, hin⟩
          obtain ⟨tenantId, hget⟩ := Record.mem_values.1 hqueue
          obtain ⟨job', hj', -, hq⟩ := hqueues.member tenantId queue hget id hin
          obtain rfl := Option.some.inj (hj.symm.trans hj')
          exact hq
      · intro hactive
        rw [hlocks.held id job hj hactive, hid id job hj]
    · exact decide_eq_false (not_lt.2 hquotas.global)
    · exact fun tenant ht => ⟨hquotas.builds tenant ht, hquotas.deployments tenant ht⟩

end SecureSaas.Paas
