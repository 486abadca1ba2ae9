import SecureSaas.Paas.Readable
import SecureSaas.Paas.Fairness

/-!
# Reloading the states of a run

The transitions write fields that they do not check and the parser of snapshots does: the optional
texts of a command, and the redeemed capability. A run that writes none of the wrong form reaches
states that are read back.

* `PaasCommand.storable`: the condition on a command and the state before it.
* `ReadableJob.step`, `Readable.exec`: a storable command leaves a readable state.
* `reload_run`: **the states of a run of storable commands, in the order of their times, are read back.**
-/

namespace SecureSaas.Paas

open Js

variable {rt : Runtime} {intent : PaasSecurityIntent} {s s' : PaasControlState} {c : PaasCommand}

/-! ## Storable commands -/

/-- The time a command is sent at. -/
def PaasCommand.time : PaasCommand → ℤ
  | .enqueue command => command.requestedAtEpochSeconds
  | .schedule command => command.nowEpochSeconds
  | .complete command => command.completedAtEpochSeconds
  | .cancel command => command.requestedAtEpochSeconds
  | .acknowledge command => command.acknowledgedAtEpochSeconds
  | .sweep command => command.nowEpochSeconds

/-- The texts of a new job have the form that the parser asks for, and its deadline is in order. -/
def storableJob (intent : PaasSecurityIntent) (command : PaasEnqueueJobCommand) : Bool :=
  isStateName command.tenantId && (truthy command.sourceRevision).all isSourceRevision &&
    (truthy command.artifactDigest).all isStateDigest &&
    (truthy command.authorization.capabilityToRedeem).all hasText &&
    (intent.find command.tenantId).all fun tenant => enqueueInOrder tenant command.requestedAtEpochSeconds

/-- What the command writes has the form that the parser asks for. A repeated command writes nothing. -/
def PaasCommand.storable (rt : Runtime) (s : PaasControlState) (intent : PaasSecurityIntent) : PaasCommand → Bool
  | .enqueue command => (s.idempotency.get? (stateKey rt [command.tenantId, command.idempotencyKey])).isSome ||
      storableJob intent command
  | .complete command => (truthy command.resultArtifactDigest).all isStateDigest
  | .cancel command => (s.idempotency.get? (stateKey rt [command.tenantId, command.idempotencyKey])).isSome ||
      (truthy command.authorization.capabilityToRedeem).all hasText
  | _ => true

/-- A step whose command is storable. -/
def StorableStep (rt : Runtime) (intent : PaasSecurityIntent) (s : PaasControlState) (c : PaasCommand)
    (s' : PaasControlState) : Prop :=
  ControlStep rt intent s c s' ∧ c.storable rt s intent = true

theorem all_some {α : Type} {o : Option α} {p : α → Bool} : o.all p = true ↔ ∀ a, o = some a → p a = true := by
  cases o <;> simp

/-- What a storable command that enqueues a job has of it. -/
theorem storable_enqueues {command : PaasEnqueueJobCommand} {tenant : PaasTenantQuota}
    (he : Enqueues rt intent s command tenant) (h : (PaasCommand.enqueue command).storable rt s intent = true) :
    storableJob intent command = true := by
  simp only [PaasCommand.storable, he.guard.record, Option.isSome_none, Bool.false_or] at h
  exact h

/-! ## Jobs -/

/-- **A storable command leaves a readable job.** -/
theorem ReadableJob.step {id : String} {job job' : PaasControlJob} (h : ReadableJob job)
    (hs : JobStep s c id job job') (hstorable : c.storable rt s intent = true) (hattempt : 0 ≤ job.attempt)
    (hnow : validEpoch job'.updatedAtEpochSeconds = true) : ReadableJob job' := by
  have hend : ∀ t, some job'.updatedAtEpochSeconds = some t → validEpoch t = true := by
    intro t ht
    rw [← Option.some.inj ht]
    exact hnow
  have herror : ∀ {text : Option String}, text.any hasText = true → ∀ t, text = some t → hasText t = true := by
    intro text htext t ht
    rw [ht] at htext
    exact htext
  cases hs with
  | kept => exact h
  | started => exact { h with started := hend, attempt := addNumber_one_le hattempt h.attempt }
  | expired => exact { h with completed := hend }
  | swept => exact { h with }
  | retried _ _ error => exact { h with started := nofun, lastErrorCode := herror error }
  | failed _ _ error => exact { h with started := nofun, completed := hend, lastErrorCode := herror error }
  | succeeded =>
    refine { h with started := nofun, completed := hend, resultArtifactDigest := ?_ }
    intro text htext
    rcases Option.or_eq_some_iff.1 htext with hreported | ⟨-, hkept⟩
    · exact all_some.1 hstorable text hreported
    · exact h.resultArtifactDigest text hkept
  | cancelled => exact { h with completed := hend }
  | cancelling => exact { h with }
  | acknowledged guard =>
    refine { h with started := nofun, completed := hend, cleanupEvidence := ?_ }
    intro text htext
    rw [← Option.some.inj htext]
    exact guard.cleanupEvidence

theorem readableJob_enqueued {command : PaasEnqueueJobCommand} (tenant : PaasTenantQuota)
    (h : storableJob intent command = true) :
    ReadableJob (enqueuedJob command tenant (truthy command.authorization.capabilityToRedeem)) := by
  simp only [storableJob, Bool.and_eq_true, all_some] at h
  obtain ⟨⟨⟨⟨hname, hrevision⟩, hartifact⟩, hcapability⟩, -⟩ := h
  exact ⟨hname, hrevision, hartifact, hcapability, nofun, nofun, by simp [enqueuedJob], nofun, nofun, nofun⟩

/-- The jobs after an accepted command: those it found, and the one it enqueued. -/
theorem exec_readableJobs (ha : (c.exec rt s intent).accepted = true) (hd : Durable rt intent s)
    (hclock : ClockOk intent (c.exec rt s intent).state) (h : Readable s) (hc : c.storable rt s intent = true)
    {id : String} {job' : PaasControlJob} (hj' : (c.exec rt s intent).state.jobs.get? id = some job') :
    ReadableJob job' := by
  have hd' := hd.exec ha
  cases hj : s.jobs.get? id with
  | none =>
    obtain ⟨command, tenant, rfl, -, he, rfl⟩ := exec_fresh ha hj hj'
    exact readableJob_enqueued tenant (storable_enqueues he hc)
  | some job =>
    obtain ⟨job0, hj0, hs⟩ := exec_jobs ha hj
    obtain rfl := Option.some.inj (hj'.symm.trans hj0)
    have hfields := hd.records.fields id job hj
    simp only [durableFields, Bool.and_eq_true, decide_eq_true_eq] at hfields
    obtain ⟨⟨⟨⟨-, hattempt⟩, -⟩, -⟩, -⟩ := hfields
    obtain ⟨tenant, ht⟩ := find_some.2 (hd'.records.tenant id job' hj')
    obtain ⟨-, -, -, hupdated, -⟩ := durableTimes_iff.1 ((hclock id job' hj').durable tenant ht)
    exact (h.jobs id job hj).step hs hc hattempt hupdated

/-! ## Records -/

theorem redeem_mem {capabilityId : Option String} {tenantId jobId key : String} {now : ℤ}
    {redemption : PaasCapabilityRedemption}
    (h : (redeem rt s capabilityId tenantId jobId now).redeemedCapabilities.get? key = some redemption) :
    s.redeemedCapabilities.get? key = some redemption ∨
      (capabilityId = some redemption.capabilityId ∧ redemption.redeemedAtEpochSeconds = now) := by
  cases capabilityId with
  | none => exact Or.inl h
  | some capabilityId =>
    rcases Record.get?_set_some h with ⟨-, rfl⟩ | ⟨-, h⟩
    · exact Or.inr ⟨rfl, rfl⟩
    · exact Or.inl h

/-- The part of `Readable` about keys and capabilities. -/
def ReadableRecords (s : PaasControlState) : Prop :=
  (∀ key record, s.idempotency.get? key = some record →
    hasText record.idempotencyKey = true ∧ isHexDigest record.fingerprint = true) ∧
  ∀ key redemption, s.redeemedCapabilities.get? key = some redemption →
    hasText redemption.capabilityId = true ∧ validEpoch redemption.redeemedAtEpochSeconds = true

/-- **The records of keys and capabilities stay readable.** -/
theorem exec_readableRecords (ha : (c.exec rt s intent).accepted = true) (h : Readable s)
    (hc : c.storable rt s intent = true) : ReadableRecords (c.exec rt s intent).state := by
  have hkept : (c.exec rt s intent).state.idempotency = s.idempotency →
      (c.exec rt s intent).state.redeemedCapabilities = s.redeemedCapabilities →
      ReadableRecords (c.exec rt s intent).state := by
    intro hi hr
    unfold ReadableRecords
    rw [hi, hr]
    exact ⟨h.idempotency, h.redemptions⟩
  have hunkeyed : c.key = none → ReadableRecords (c.exec rt s intent).state := by
    intro hk
    obtain ⟨hi, hr⟩ := @call_unkeyed rt intent ⟨s, c⟩ hk
    exact hkept hi hr
  cases c with
  | enqueue command =>
    obtain ⟨-, hvalid, tenant, ht, hbinds, ⟨existing, -, -, -, hs⟩ | ⟨hg, hs⟩⟩ := enqueue_accepted ha
    · exact hkept (congrArg (fun t => t.state.idempotency) hs) (congrArg (fun t => t.state.redeemedCapabilities) hs)
    · have hstorable := storable_enqueues ⟨hvalid, ht, hbinds, hg, hs⟩ hc
      simp only [storableJob, Bool.and_eq_true] at hstorable
      simp only [validEnqueueCommand, Bool.and_eq_true] at hvalid
      obtain ⟨⟨⟨⟨⟨⟨⟨-, -⟩, -⟩, hkey⟩, hepoch⟩, -⟩, -⟩, -⟩ := hvalid
      have hidempotency : ((PaasCommand.enqueue command).exec rt s intent).state.idempotency = _ :=
        (congrArg (fun t => t.state.idempotency) hs).trans (redeem_idempotency ..)
      have hredeemed : ((PaasCommand.enqueue command).exec rt s intent).state.redeemedCapabilities = _ :=
        congrArg (fun t => t.state.redeemedCapabilities) hs
      constructor
      · intro key record hget
        rw [hidempotency] at hget
        rcases Record.get?_set_some hget with ⟨-, rfl⟩ | ⟨-, hold⟩
        · exact ⟨hkey, rt.sha256_hex _⟩
        · exact h.idempotency key record hold
      · intro key redemption hget
        rw [hredeemed] at hget
        rcases redeem_mem hget with hold | ⟨hcapability, hat⟩
        · exact h.redemptions key redemption hold
        · exact ⟨all_some.1 hstorable.1.2 _ hcapability, hat ▸ hepoch⟩
  | cancel command =>
    obtain ⟨-, current, -, -, hepoch, hkey, -, -, ⟨existing, -, -, -, hs⟩ | ⟨hg, hs⟩⟩ := cancel_accepted ha
    · exact hkept (congrArg (fun t => t.state.idempotency) hs) (congrArg (fun t => t.state.redeemedCapabilities) hs)
    · have hidempotency : ((PaasCommand.cancel command).exec rt s intent).state.idempotency =
          (withCancellation rt s command current (truthy command.authorization.capabilityToRedeem)).idempotency := by
        rcases hs with ⟨-, hs⟩ | ⟨-, hs⟩ <;> exact congrArg (fun t => t.state.idempotency) hs
      have hredeemed : ((PaasCommand.cancel command).exec rt s intent).state.redeemedCapabilities =
          (withCancellation rt s command current
            (truthy command.authorization.capabilityToRedeem)).redeemedCapabilities := by
        rcases hs with ⟨-, hs⟩ | ⟨-, hs⟩ <;> exact congrArg (fun t => t.state.redeemedCapabilities) hs
      simp only [PaasCommand.storable, hg.record, Option.isSome_none, Bool.false_or] at hc
      constructor
      · intro key record hget
        rw [hidempotency.trans (redeem_idempotency ..)] at hget
        rcases Record.get?_set_some hget with ⟨-, rfl⟩ | ⟨-, hold⟩
        · exact ⟨hkey, rt.sha256_hex _⟩
        · exact h.idempotency key record hold
      · intro key redemption hget
        rw [hredeemed] at hget
        rcases redeem_mem hget with hold | ⟨hcapability, hat⟩
        · exact h.redemptions key redemption hold
        · exact ⟨all_some.1 hc _ hcapability, hat ▸ hepoch⟩
  | _ => exact hunkeyed rfl

/-- **The deployments stay readable.** -/
theorem exec_readableDeployments (ha : (c.exec rt s intent).accepted = true) (hd : Durable rt intent s)
    (h : Readable s) : ∀ key deployment, (c.exec rt s intent).state.deployments.get? key = some deployment →
      deployment.generation ≤ 2 ^ 53 ∧ validEpoch deployment.updatedAtEpochSeconds = true := by
  intro key deployment hget
  rcases exec_deployments ha with hs | ⟨command, job, hp⟩
  · rw [hs] at hget
    exact h.deployments key deployment hget
  · rw [hp.deployments] at hget
    rcases Record.get?_set_some hget with ⟨-, rfl⟩ | ⟨-, hget⟩
    · refine ⟨?_, hp.guard.epoch⟩
      cases hcurrent : s.deployments.get? (resourceKey rt job.tenantId job.resource) with
      | none =>
        simp only [promotedRecord, hcurrent]
        exact addNumber_one_le le_rfl (by decide)
      | some current =>
        simp only [promotedRecord, hcurrent]
        have hgeneration := (hd.records.deployments _ current hcurrent).1.generation
        exact addNumber_one_le (by show 0 ≤ current.generation; omega) (h.deployments _ current hcurrent).1
    · exact h.deployments key deployment hget

/-! ## The tenant served last -/

/-- The loop of starts serves tenants of the jobs it finds. -/
theorem startJobs_last (h : Durable rt intent s) (tenantIds : List String) (now revision : ℤ) (starts : ℕ)
    (events : List PaasControlEvent) :
    (startJobs rt intent tenantIds now revision starts s events).1.lastScheduledTenant = s.lastScheduledTenant ∨
      ∃ id job, s.jobs.get? id = some job ∧
        (startJobs rt intent tenantIds now revision starts s events).1.lastScheduledTenant = some job.tenantId := by
  induction starts generalizing s events with
  | zero => exact Or.inl rfl
  | succ starts ih =>
    rw [startJobs_succ]
    cases hn : Paas.nextStart rt intent tenantIds s with
    | none => exact Or.inl rfl
    | some p =>
      obtain ⟨tenantId, jobId, rest, job⟩ := p
      obtain ⟨hm, hglobal⟩ := h.nextStart hn
      right
      rcases ih (h.start hm hglobal now) (events ++ [event .jobStarted revision now (startedJob job now)]) with
        hlast | ⟨id, job', hj', hlast⟩
      · refine ⟨jobId, job, hm.found, hlast.trans ?_⟩
        rw [hm.tenant]
        rfl
      · change (s.jobs.set jobId (startedJob job now)).get? id = some job' at hj'
        rcases Record.get?_set_some hj' with ⟨-, rfl⟩ | ⟨-, hj'⟩
        · exact ⟨jobId, job, hm.found, hlast⟩
        · exact ⟨id, job', hj', hlast⟩

/-- **The tenant served last** was served last before, or has a job. -/
theorem exec_lastScheduled (ha : (c.exec rt s intent).accepted = true) (hd : Durable rt intent s) :
    (c.exec rt s intent).state.lastScheduledTenant = s.lastScheduledTenant ∨
      ∃ id job, s.jobs.get? id = some job ∧ (c.exec rt s intent).state.lastScheduledTenant = some job.tenantId := by
  by_cases hc : ∃ command, c = .schedule command
  · obtain ⟨command, rfl⟩ := hc
    obtain ⟨-, -, ⟨-, hs⟩ | hs⟩ := schedule_accepted ha
    · exact Or.inl (congrArg (fun t => t.state.lastScheduledTenant) hs)
    · have hlast : ((PaasCommand.schedule command).exec rt s intent).state.lastScheduledTenant =
          (scheduled rt intent s command).1.lastScheduledTenant := congrArg (fun t => t.state.lastScheduledTenant) hs
      rw [hlast]
      rcases startJobs_last (hd.expire command.nowEpochSeconds (addNumber s.revision 1)) (scheduleTenants rt intent)
        command.nowEpochSeconds (addNumber s.revision 1) (maxStarts intent command)
        (expireQueuedJobs s command.nowEpochSeconds (addNumber s.revision 1)).2 with hsame | ⟨id, job', hj', hserved⟩
      · exact Or.inl (hsame.trans (expireQueuedJobs_last ..))
      · right
        rcases hd.queues.expire_job command.nowEpochSeconds (addNumber s.revision 1) id with
          hexp | ⟨job, hj, -, -, hexp⟩
        · exact ⟨id, job', hexp.symm.trans hj', hserved⟩
        · rw [hj'] at hexp
          rw [Option.some.inj hexp] at hserved
          exact ⟨id, job, hj, hserved⟩
  · exact Or.inl (exec_last ha fun command hschedule => hc ⟨command, hschedule⟩)

theorem exec_revision (ha : (c.exec rt s intent).accepted = true) :
    (c.exec rt s intent).state.revision = s.revision ∨
      (c.exec rt s intent).state.revision = addNumber s.revision 1 := by
  cases c with
  | enqueue command =>
    obtain ⟨-, -, tenant, -, -, ⟨existing, -, -, -, hs⟩ | ⟨-, hs⟩⟩ := enqueue_accepted ha
    · exact Or.inl (congrArg (fun t => t.state.revision) hs)
    · exact Or.inr (congrArg (fun t => t.state.revision) hs)
  | schedule command =>
    obtain ⟨-, -, ⟨-, hs⟩ | hs⟩ := schedule_accepted ha
    · exact Or.inl (congrArg (fun t => t.state.revision) hs)
    · exact Or.inr (congrArg (fun t => t.state.revision) hs)
  | complete command =>
    obtain ⟨current, -, hs⟩ := complete_state ha
    right
    rcases hs with hs | hs | hs | ⟨-, hs⟩ <;> exact congrArg PaasControlState.revision hs
  | cancel command =>
    obtain ⟨-, current, -, -, -, -, -, -, ⟨-, -, -, -, hs⟩ | ⟨-, ⟨-, hs⟩ | ⟨-, hs⟩⟩⟩ := cancel_accepted ha
    · exact Or.inl (congrArg (fun t => t.state.revision) hs)
    · exact Or.inr (congrArg (fun t => t.state.revision) hs)
    · exact Or.inr (congrArg (fun t => t.state.revision) hs)
  | acknowledge command =>
    obtain ⟨-, current, -, hs⟩ := acknowledge_accepted ha
    exact Or.inr (congrArg (fun t => t.state.revision) hs)
  | sweep command =>
    obtain ⟨-, -, hs | hs⟩ := sweep_accepted ha
    · exact Or.inl (congrArg (fun t => t.state.revision) hs)
    · exact Or.inr (congrArg (fun t => t.state.revision) hs)

/-- **A storable command leaves a readable state.** -/
theorem Readable.exec (h : Readable s) (ha : (c.exec rt s intent).accepted = true) (hd : Durable rt intent s)
    (hclock : ClockOk intent (c.exec rt s intent).state) (hc : c.storable rt s intent = true) :
    Readable (c.exec rt s intent).state := by
  obtain ⟨hidempotency, hredemptions⟩ := exec_readableRecords ha h hc
  refine ⟨?_, ?_, fun id job' hj' => exec_readableJobs ha hd hclock h hc hj', hidempotency, hredemptions,
    exec_readableDeployments ha hd h⟩
  · rcases exec_revision ha with hs | hs
    · rw [hs]
      exact h.revision
    · rw [hs]
      exact addNumber_one_le hd.records.revision h.revision
  · intro tenantId hlast
    rcases exec_lastScheduled ha hd with hs | ⟨id, job, hj, hs⟩
    · exact h.lastScheduled tenantId (hs.symm.trans hlast)
    · rw [← Option.some.inj (hs.symm.trans hlast)]
      exact (h.jobs id job hj).tenantId

/-! ## Commands in the order of their times -/

theorem JobStep.created {id : String} {job job' : PaasControlJob} (hs : JobStep s c id job job') :
    job'.createdAtEpochSeconds = job.createdAtEpochSeconds := by
  cases hs <;> rfl

/-- No job has been created after the last command of the history. -/
def CreatedBy (h : List PaasCommand) (s : PaasControlState) : Prop :=
  ∀ id job, s.jobs.get? id = some job → ∃ c ∈ h, job.createdAtEpochSeconds ≤ c.time

theorem CreatedBy.exec {h : List PaasCommand} (hcreated : CreatedBy h s)
    (ha : (c.exec rt s intent).accepted = true) : CreatedBy (h ++ [c]) (c.exec rt s intent).state := by
  intro id job' hj'
  cases hj : s.jobs.get? id with
  | none =>
    obtain ⟨command, tenant, rfl, -, -, rfl⟩ := exec_fresh ha hj hj'
    exact ⟨.enqueue command, List.mem_append_right _ (List.mem_singleton_self _), le_rfl⟩
  | some job =>
    obtain ⟨job0, hj0, hs⟩ := exec_jobs ha hj
    obtain rfl := Option.some.inj (hj'.symm.trans hj0)
    obtain ⟨c0, hc0, hle⟩ := hcreated id job hj
    exact ⟨c0, List.mem_append_left _ hc0, hs.created ▸ hle⟩

/-- **A storable command that no job was created after is in order.** -/
theorem inOrder_of_storable (hd : Durable rt intent s) (hc : c.storable rt s intent = true)
    (hcreated : ∀ id job, s.jobs.get? id = some job → job.createdAtEpochSeconds ≤ c.time) :
    c.inOrder rt s intent = true := by
  cases c with
  | enqueue command =>
    rcases Bool.or_eq_true_iff.1 hc with hrepeated | hstorable
    · exact Bool.or_eq_true_iff.2 (Or.inl hrepeated)
    · exact Bool.or_eq_true_iff.2 (Or.inr (Bool.and_eq_true_iff.1 hstorable).2)
  | schedule command =>
    refine (hd.expire command.nowEpochSeconds (addNumber s.revision 1)).startsInOrder_of_created _ _ ?_
    intro id job hj hqueued
    rcases hd.queues.expire_job command.nowEpochSeconds (addNumber s.revision 1) id with hexp | ⟨_, -, -, -, hexp⟩
    · exact hcreated id job (hexp.symm.trans hj)
    · -- a job that has timed out is not queued
      rw [Option.some.inj (hj.symm.trans hexp)] at hqueued
      cases hqueued
  | _ => rfl

/-! ## Runs -/

/-- The stored value of the state is read back. -/
def Reloads (rt : Runtime) (intent : PaasSecurityIntent) (s : PaasControlState) : Prop :=
  ∃ s', parsePaasControlState rt s.toValue intent = .ok s' ∧ SameState s s'

/-- What holds of the states of a run of storable commands in the order of their times. -/
structure Stored (rt : Runtime) (intent : PaasSecurityIntent) (h : List PaasCommand) (s : PaasControlState) :
    Prop where
  durable : Durable rt intent s
  clock : ClockOk intent s
  readable : Readable s
  created : CreatedBy h s

theorem Stored.reloads {h : List PaasCommand} (hs : Stored rt intent h s) : Reloads rt intent s :=
  ⟨s.relisted, parse_toValue hs.durable hs.clock hs.readable, sameState_relisted s⟩

theorem Stored.start (hn : intent.tenantIds.Nodup) : Stored rt intent [] (createPaasControlState intent) := by
  refine ⟨create_durable hn, create_clock, ⟨?_, nofun, fun _ _ hj => absurd hj create_jobs,
    fun _ _ hr => absurd hr (create_empty rfl), fun _ _ hr => absurd hr (create_empty rfl),
    fun _ _ hd => absurd hd (create_empty rfl)⟩, fun _ _ hj => absurd hj create_jobs⟩
  show (0 : ℤ) ≤ 2 ^ 53
  decide

/-- **A storable command keeps the state stored** when it does not come before an earlier one. -/
theorem Stored.step {h : List PaasCommand} (hi : Stored rt intent h s) (hs : StorableStep rt intent s c s')
    (htime : ∀ c' ∈ h, c'.time ≤ c.time) : Stored rt intent (h ++ [c]) s' := by
  obtain ⟨⟨ha, rfl⟩, hc⟩ := hs
  have hcreated : ∀ id job, s.jobs.get? id = some job → job.createdAtEpochSeconds ≤ c.time := by
    intro id job hj
    obtain ⟨c', hc', hle⟩ := hi.created id job hj
    exact hle.trans (htime c' hc')
  have hclock := (hi.clock.exec_iff hi.durable ha).2 (inOrder_of_storable hi.durable hc hcreated)
  exact ⟨hi.durable.exec ha, hclock, hi.readable.exec ha hi.durable hclock hc, hi.created.exec ha⟩

/-- **The states of a run are read back** when its commands are storable and their times do not go back. -/
theorem reload_run (rt : Runtime) (intent : PaasSecurityIntent) (hn : intent.tenantIds.Nodup)
    {h : List PaasCommand} {s : PaasControlState}
    (hr : Run (StorableStep rt intent) (createPaasControlState intent) h s)
    (htimes : (h.map PaasCommand.time).Pairwise (· ≤ ·)) : Reloads rt intent s := by
  have hstored : (h.map PaasCommand.time).Pairwise (· ≤ ·) → Stored rt intent h s := by
    refine hr.history (I := fun h s => (h.map PaasCommand.time).Pairwise (· ≤ ·) → Stored rt intent h s)
      (fun _ => Stored.start hn) ?_
    intro h m c t _ ih hs htimes
    rw [List.map_append, List.pairwise_append] at htimes
    obtain ⟨hbefore, -, hlast⟩ := htimes
    refine (ih hbefore).step hs fun c' hc' => ?_
    exact hlast _ (List.mem_map_of_mem hc') _ (List.mem_singleton_self _)
  exact (hstored htimes).reloads

/-! ## A sample deployment -/

def reloadDeploy : PaasCommand := .enqueue (sampleDeployment .deploy 0 1000 "job-1" "key-1" digestA)

/-- The worker reports that the deployment has succeeded, with a digest of its result. -/
def reloadReport (resultArtifactDigest : String) : PaasCommand :=
  .complete { sampleSuccess 2 1020 "job-1" with resultArtifactDigest := some resultArtifactDigest }

def reloadQueued : PaasControlState :=
  (reloadDeploy.exec rollbackRuntime (createPaasControlState sampleIntent) sampleIntent).state

def reloadRunning : PaasControlState :=
  ((PaasCommand.schedule ⟨1, 1010, none⟩).exec rollbackRuntime reloadQueued sampleIntent).state

def reloadReported (resultArtifactDigest : String) : PaasControlState :=
  ((reloadReport resultArtifactDigest).exec rollbackRuntime reloadRunning sampleIntent).state

/-- The deployment is enqueued and started. -/
theorem reload_started : StorableStep rollbackRuntime sampleIntent (createPaasControlState sampleIntent) reloadDeploy
      reloadQueued ∧
    StorableStep rollbackRuntime sampleIntent reloadQueued (.schedule ⟨1, 1010, none⟩) reloadRunning :=
  ⟨⟨⟨by decide +kernel, rfl⟩, by decide +kernel⟩, ⟨by decide +kernel, rfl⟩, rfl⟩

/-- `reload_run` on the sample, whose worker reports a digest. -/
theorem reload_run_sample : Reloads rollbackRuntime sampleIntent (reloadReported digestB) := by
  obtain ⟨hdeploy, hstart⟩ := reload_started
  have hreport : StorableStep rollbackRuntime sampleIntent reloadRunning (reloadReport digestB)
      (reloadReported digestB) := ⟨⟨by decide +kernel, rfl⟩, by decide +kernel⟩
  exact reload_run rollbackRuntime sampleIntent (by decide) (((Run.single hdeploy).snoc hstart).snoc hreport)
    (by decide)

/-- A worker that reports a tag leaves a state that is not read back. -/
theorem reported_tag_unreadable : ∃ h s, Run (ControlStep rollbackRuntime sampleIntent)
    (createPaasControlState sampleIntent) h s ∧ (h.map PaasCommand.time).Pairwise (· ≤ ·) ∧
    ¬ Reloads rollbackRuntime sampleIntent s := by
  obtain ⟨⟨hdeploy, -⟩, hstart, -⟩ := reload_started
  have hreport : ControlStep rollbackRuntime sampleIntent reloadRunning (reloadReport "latest")
      (reloadReported "latest") := ⟨by decide +kernel, rfl⟩
  refine ⟨_, _, ((Run.single hdeploy).snoc hstart).snoc hreport, by decide, ?_⟩
  rintro ⟨s', hparse, -⟩
  have herror : (parsePaasControlState rollbackRuntime (reloadReported "latest").toValue sampleIntent).isOk = false := by
    decide +kernel
  rw [hparse] at herror
  cases herror

end SecureSaas.Paas
