import SecureSaas.Paas.Idempotency

/-!
# Tenants do not meet

All tenants share the maps of the control state, whose keys are hashes, and one space of job ids.

* `SameOn`: two maps have the same entries among those of some tenants.
* `exec_others`: an accepted command of one tenant leaves what the others have.
* `exec_code`: what other tenants have is no part of a command's answer.
* `tenant_isolated`: **both, for the four commands that a tenant or its worker sends.**
-/

namespace SecureSaas.Paas

open Js

variable {rt : Runtime} {intent : PaasSecurityIntent} {s s' : PaasControlState} {c : PaasCommand} {T : String}

/-! ## Entries of some tenants -/

/-- The entries that satisfy `p` are the same. -/
def SameOn {α : Type} (p : String → α → Prop) (r r' : Record α) : Prop :=
  ∀ key value, p key value → (r.get? key = some value ↔ r'.get? key = some value)

section SameOn

variable {α : Type} {p : String → α → Prop} {r r' : Record α} {k : String}

theorem SameOn.refl (p : String → α → Prop) (r : Record α) : SameOn p r r := fun _ _ _ => Iff.rfl

/-- An entry that does not satisfy `p`, before and after, may be set. -/
theorem SameOn.set {v : α} (hold : ∀ w, r.get? k = some w → ¬ p k w) (hnew : ¬ p k v) : SameOn p r (r.set k v) := by
  intro key value hp
  rw [Record.get?_set]
  by_cases hk : key = k
  · subst hk
    rw [if_pos rfl]
    refine iff_of_false (fun hv => hold value hv hp) ?_
    intro hv
    rw [Option.some.inj hv] at hnew
    exact hnew hp
  · rw [if_neg hk]

theorem SameOn.erase (hold : ∀ w, r.get? k = some w → ¬ p k w) : SameOn p r (r.erase k) := by
  intro key value hp
  rw [Record.get?_erase]
  by_cases hk : key = k
  · subst hk
    rw [if_pos rfl]
    exact iff_of_false (fun hv => hold value hv hp) nofun
  · rw [if_neg hk]

/-- A key whose entries satisfy `p` has the same value. -/
theorem SameOn.get?_eq (h : SameOn p r r') (h1 : ∀ v, r.get? k = some v → p k v)
    (h2 : ∀ v, r'.get? k = some v → p k v) : r.get? k = r'.get? k := by
  cases hv : r.get? k with
  | some v => exact ((h k v (h1 v hv)).1 hv).symm
  | none =>
    cases hw : r'.get? k with
    | none => rfl
    | some w =>
      rw [(h k w (h2 w hw)).2 hw] at hv
      cases hv

end SameOn

/-- The tenants that satisfy `q` have the same in both states. -/
structure TenantsAgree (q : String → Prop) (s s' : PaasControlState) : Prop where
  jobs : SameOn (fun _ job => q job.tenantId) s.jobs s'.jobs
  queues : ∀ tenantId, q tenantId → s.tenantQueues.get? tenantId = s'.tenantQueues.get? tenantId
  idempotency : SameOn (fun _ record => q record.tenantId) s.idempotency s'.idempotency
  redemptions : SameOn (fun _ redemption => q redemption.tenantId) s.redeemedCapabilities s'.redeemedCapabilities
  /-- A lock belongs to the tenant of its job. -/
  locks : SameOn (fun _ jobId => ∃ job, s.jobs.get? jobId = some job ∧ q job.tenantId) s.resourceLocks s'.resourceLocks
  deployments : SameOn (fun _ deployment => q deployment.tenantId) s.deployments s'.deployments

theorem TenantsAgree.refl (q : String → Prop) (s : PaasControlState) : TenantsAgree q s s :=
  ⟨SameOn.refl _ _, fun _ _ => rfl, SameOn.refl _ _, SameOn.refl _ _, SameOn.refl _ _, SameOn.refl _ _⟩

/-! ## Keys -/

/-- The text whose hash is the key of an idempotency record. -/
def keyText (tenantId idempotencyKey : String) : String :=
  jsonStringify (.array ([tenantId, idempotencyKey].map .string))

theorem keyText_inj {tenantId tenantId' idempotencyKey idempotencyKey' : String}
    (h : keyText tenantId idempotencyKey = keyText tenantId' idempotencyKey') : tenantId = tenantId' := by
  have hparts := strings_text_inj h
  exact (List.cons_eq_cons.1 hparts).1

/-- What the keys of a state's records, locks and deployments are hashed from. -/
def keyTexts (s : PaasControlState) : Set String :=
  {text | (∃ key record, s.idempotency.get? key = some record ∧
        text = keyText record.tenantId record.idempotencyKey) ∨
      (∃ id job, s.jobs.get? id = some job ∧ text = resourceText job.tenantId job.resource) ∨
      ∃ key deployment, s.deployments.get? key = some deployment ∧
        text = resourceText deployment.tenantId deployment.resource}

/-- What the keys that a command looks up are hashed from. -/
def PaasCommand.keyTexts : PaasCommand → Set String
  | .enqueue command =>
    {keyText command.tenantId command.idempotencyKey, resourceText command.tenantId command.resource}
  | .cancel command => {keyText command.tenantId command.idempotencyKey}
  | _ => ∅

/-- The tenant and the job that a command of a tenant or its worker names. -/
def PaasCommand.names : PaasCommand → Option (String × String)
  | .enqueue command => some (command.tenantId, command.jobId)
  | .cancel command => some (command.tenantId, command.jobId)
  | .complete command => some (command.tenantId, command.jobId)
  | .acknowledge command => some (command.tenantId, command.jobId)
  | _ => none

/-! ## What a command leaves -/

/-- What is redeemed for a tenant is an entry of its own. -/
theorem redeem_others {capabilityId : Option String} (hunredeemed : isRedeemed rt s capabilityId = false)
    (hs' : s'.redeemedCapabilities = s.redeemedCapabilities) (jobId : String) (now : ℤ) :
    SameOn (fun _ redemption => redemption.tenantId ≠ T) s.redeemedCapabilities
      (redeem rt s' capabilityId T jobId now).redeemedCapabilities := by
  cases capabilityId with
  | none =>
    rw [show (redeem rt s' none T jobId now).redeemedCapabilities = s.redeemedCapabilities from hs']
    exact SameOn.refl _ _
  | some capabilityId =>
    have hnone : s.redeemedCapabilities.get? (stateKey rt [capabilityId]) = none :=
      Option.not_isSome_iff_eq_none.1 (Bool.not_eq_true _ ▸ hunredeemed)
    show SameOn _ _ (s'.redeemedCapabilities.set _ _)
    rw [hs']
    refine SameOn.set ?_ (not_not.2 rfl)
    intro w hw
    rw [hnone] at hw
    cases hw

/-- An entry of a map that has none at the key may be set for the tenant. -/
theorem fresh_others {r : Record PaasIdempotencyRecord} {key : String} {record : PaasIdempotencyRecord}
    (hfresh : r.get? key = none) (htenant : record.tenantId = T) :
    SameOn (fun _ record => record.tenantId ≠ T) r (r.set key record) := by
  refine SameOn.set ?_ (not_not.2 htenant)
  intro w hw
  rw [hfresh] at hw
  cases hw

/-- A job of the tenant may become another one of the tenant. -/
theorem job_others {id : String} {job job' : PaasControlJob} (hj : s.jobs.get? id = some job)
    (htenant : job.tenantId = T) (htenant' : job'.tenantId = T) :
    SameOn (fun _ job => job.tenantId ≠ T) s.jobs (s.jobs.set id job') := by
  refine SameOn.set ?_ (not_not.2 htenant')
  intro w hw
  rw [← Option.some.inj (hj.symm.trans hw)]
  exact not_not.2 htenant

theorem queue_others (queue : List String) (tenantId : String) (h : tenantId ≠ T) :
    s.tenantQueues.get? tenantId = (s.tenantQueues.set T queue).get? tenantId := (Record.get?_set_ne h).symm

/-- The lock of an active job of the tenant may be released. -/
theorem lock_others (hd : Durable rt intent s) {id : String} {job : PaasControlJob} (hj : s.jobs.get? id = some job)
    (htenant : job.tenantId = T) (hactive : isActive job = true) :
    SameOn (fun _ jobId => ∃ job, s.jobs.get? jobId = some job ∧ job.tenantId ≠ T) s.resourceLocks
      (s.resourceLocks.erase (resourceKey rt job.tenantId job.resource)) := by
  refine SameOn.erase ?_
  rintro owner howner ⟨job', hj', hother⟩
  obtain rfl := Option.some.inj ((hd.locks.held id job hj hactive).symm.trans howner)
  obtain rfl := Option.some.inj (hj.symm.trans hj')
  exact hother htenant

/-- The deployment of a resource of the tenant may be replaced. -/
theorem deployment_others (hd : Durable rt intent s) (hcf : rt.CollisionFreeOn (keyTexts s)) {id : String}
    {job : PaasControlJob} (hj : s.jobs.get? id = some job) (htenant : job.tenantId = T) {d : PaasDeploymentRecord}
    (hdtenant : d.tenantId = T) :
    SameOn (fun _ deployment => deployment.tenantId ≠ T) s.deployments
      (s.deployments.set (resourceKey rt job.tenantId job.resource) d) := by
  refine SameOn.set ?_ (not_not.2 hdtenant)
  intro old hold
  -- what is replaced has the key of the job's resource, so it is of the same tenant
  have hkey := (hd.records.deployments _ old hold).1.key
  obtain ⟨hsame, -⟩ := resource_unique hcf (Or.inr (Or.inr ⟨_, old, hold, rfl⟩)) (Or.inr (Or.inl ⟨id, job, hj, rfl⟩)) hkey
  exact not_not.2 (hsame.trans htenant)

theorem enqueue_others {command : PaasEnqueueJobCommand} (ha : (enqueuePaasJob rt s intent command).accepted = true) :
    TenantsAgree (· ≠ command.tenantId) s (enqueuePaasJob rt s intent command).state := by
  obtain ⟨-, -, tenant, -, -, ⟨existing, -, -, -, hs⟩ | ⟨hg, hs⟩⟩ := enqueue_accepted ha
  · rw [hs]
    exact TenantsAgree.refl _ s
  · rw [hs]
    -- the six maps of the state without the new revision
    show TenantsAgree _ s (finalize (withEnqueued rt s command
      (enqueuedJob command tenant (truthy command.authorization.capabilityToRedeem))) _)
    have hredeemed : SameOn (fun _ redemption => redemption.tenantId ≠ command.tenantId) s.redeemedCapabilities
        (withEnqueued rt s command (enqueuedJob command tenant
          (truthy command.authorization.capabilityToRedeem))).redeemedCapabilities := by
      refine redeem_others hg.unredeemed ?_ _ _
      rfl
    refine ⟨?_, ?_, ?_, hredeemed, ?_, ?_⟩
    · rw [withEnqueued_jobs]
      refine SameOn.set ?_ (not_not.2 rfl)
      intro w hw
      rw [hg.new] at hw
      cases hw
    all_goals unfold finalize withEnqueued redeem enqueuedJob
    · intro tenantId hother
      cases truthy command.authorization.capabilityToRedeem <;> exact queue_others _ tenantId hother
    · cases truthy command.authorization.capabilityToRedeem <;> exact fresh_others hg.record rfl
    · cases truthy command.authorization.capabilityToRedeem <;> exact SameOn.refl _ _
    · cases truthy command.authorization.capabilityToRedeem <;> exact SameOn.refl _ _

theorem cancel_others {command : PaasCancelJobCommand} (ha : (cancelPaasJob rt s intent command).accepted = true) :
    TenantsAgree (· ≠ command.tenantId) s (cancelPaasJob rt s intent command).state := by
  obtain ⟨hcheck, current, hfound, htenant, -, -, -, -, ⟨existing, -, -, -, hs⟩ | ⟨hg, hs⟩⟩ := cancel_accepted ha
  · rw [hs]
    exact TenantsAgree.refl _ s
  · have hid := (stateInvariantError_none.1 hcheck).1.records.key_eq hfound
    have hcurrent : s.jobs.get? current.id = some current := by
      rw [← hid]
      exact hfound
    have hidempotency : SameOn (fun _ record => record.tenantId ≠ command.tenantId) s.idempotency
        (withCancellation rt s command current (truthy command.authorization.capabilityToRedeem)).idempotency := by
      unfold withCancellation
      cases truthy command.authorization.capabilityToRedeem <;> exact fresh_others hg.record rfl
    have hredeemed : SameOn (fun _ redemption => redemption.tenantId ≠ command.tenantId) s.redeemedCapabilities
        (withCancellation rt s command current
          (truthy command.authorization.capabilityToRedeem)).redeemedCapabilities := by
      refine redeem_others hg.unredeemed ?_ _ _
      rfl
    have hlocks : SameOn (fun _ jobId => ∃ job, s.jobs.get? jobId = some job ∧ job.tenantId ≠ command.tenantId)
        s.resourceLocks
        (withCancellation rt s command current (truthy command.authorization.capabilityToRedeem)).resourceLocks := by
      unfold withCancellation
      cases truthy command.authorization.capabilityToRedeem <;> exact SameOn.refl _ _
    have hdeployments : SameOn (fun _ deployment => deployment.tenantId ≠ command.tenantId) s.deployments
        (withCancellation rt s command current (truthy command.authorization.capabilityToRedeem)).deployments := by
      unfold withCancellation
      cases truthy command.authorization.capabilityToRedeem <;> exact SameOn.refl _ _
    rcases hs with ⟨-, hs⟩ | ⟨-, hs⟩
    · rw [hs]
      refine ⟨job_others hcurrent htenant htenant, ?_, hidempotency, hredeemed, hlocks, hdeployments⟩
      intro tenantId hother
      show _ = (s.tenantQueues.set current.tenantId _).get? tenantId
      rw [htenant]
      exact queue_others _ tenantId hother
    · rw [hs]
      refine ⟨job_others hcurrent htenant htenant, ?_, hidempotency, hredeemed, hlocks, hdeployments⟩
      intro tenantId hother
      show _ = (withCancellation rt s command current _).tenantQueues.get? tenantId
      unfold withCancellation
      cases truthy command.authorization.capabilityToRedeem <;> rfl

/-- A report releases the lock of its job. -/
theorem released_others (hd : Durable rt intent s) {job : PaasControlJob} (job' : PaasControlJob) (hj : s.jobs.get? job.id = some job)
    (htenant : job.tenantId = T) (hactive : isActive job = true) (hid : job'.id = job.id)
    (htenant' : job'.tenantId = job.tenantId) (hresource : job'.resource = job.resource) :
    TenantsAgree (· ≠ T) s (released rt s job') := by
  refine ⟨?_, fun _ _ => rfl, SameOn.refl _ _, SameOn.refl _ _, ?_, SameOn.refl _ _⟩
  · show SameOn _ s.jobs (s.jobs.set job'.id job')
    rw [hid]
    exact job_others hj htenant (htenant'.trans htenant)
  · show SameOn _ s.resourceLocks (s.resourceLocks.erase (resourceKey rt job'.tenantId job'.resource))
    rw [htenant', hresource]
    exact lock_others hd hj htenant hactive

theorem complete_others {command : PaasCompleteJobCommand} (ha : (completePaasJob rt s intent command).accepted = true)
    (hcf : rt.CollisionFreeOn (keyTexts s)) :
    TenantsAgree (· ≠ command.tenantId) s (completePaasJob rt s intent command).state := by
  have hd := (stateInvariantError_none.1 (exec_checked (c := .complete command) ha)).1
  obtain ⟨current, hg, hs⟩ := complete_state ha
  have hfound : s.jobs.get? current.id = some current := by
    rw [← hd.records.key_eq hg.found]
    exact hg.found
  have hactive : isActive current = true := by
    unfold isActive
    rw [hg.running]
    rfl
  rcases hs with hs | hs | hs | ⟨-, hs⟩
  · rw [hs]
    obtain ⟨hjobs, -, hidempotency, hredemptions, hlocks, hdeployments⟩ := released_others hd
      (retriedJob current command.errorCode command.completedAtEpochSeconds) hfound hg.tenantId hactive rfl rfl rfl
    refine ⟨hjobs, ?_, hidempotency, hredemptions, hlocks, hdeployments⟩
    intro tenantId hother
    show _ = (s.tenantQueues.set current.tenantId _).get? tenantId
    rw [hg.tenantId]
    exact queue_others _ tenantId hother
  · rw [hs]
    obtain ⟨hjobs, hqueues, hidempotency, hredemptions, hlocks, hdeployments⟩ := released_others hd
      (failedJob current command.errorCode command.completedAtEpochSeconds) hfound hg.tenantId hactive rfl rfl rfl
    exact ⟨hjobs, hqueues, hidempotency, hredemptions, hlocks, hdeployments⟩
  · rw [hs]
    obtain ⟨hjobs, hqueues, hidempotency, hredemptions, hlocks, hdeployments⟩ := released_others hd
      (succeededJob current command.resultArtifactDigest command.completedAtEpochSeconds) hfound hg.tenantId
      hactive rfl rfl rfl
    exact ⟨hjobs, hqueues, hidempotency, hredemptions, hlocks, hdeployments⟩
  · rw [hs]
    obtain ⟨hjobs, hqueues, hidempotency, hredemptions, hlocks, -⟩ := released_others hd
      (succeededJob current command.resultArtifactDigest command.completedAtEpochSeconds) hfound hg.tenantId
      hactive rfl rfl rfl
    exact ⟨hjobs, hqueues, hidempotency, hredemptions, hlocks, deployment_others hd hcf hfound hg.tenantId hg.tenantId⟩

theorem acknowledge_others {command : PaasAcknowledgeCancellationCommand}
    (ha : (acknowledgePaasJobCancellation rt s intent command).accepted = true) :
    TenantsAgree (· ≠ command.tenantId) s (acknowledgePaasJobCancellation rt s intent command).state := by
  have hd := (stateInvariantError_none.1 (exec_checked (c := .acknowledge command) ha)).1
  obtain ⟨-, current, hg, hs⟩ := acknowledge_accepted ha
  have hfound : s.jobs.get? current.id = some current := by
    rw [← hd.records.key_eq hg.found]
    exact hg.found
  have hactive : isActive current = true := by
    unfold isActive
    rw [hg.cancelling]
    rfl
  rw [hs]
  obtain ⟨hjobs, hqueues, hidempotency, hredemptions, hlocks, hdeployments⟩ := released_others hd
    (acknowledgedJob current command.cleanupEvidence command.acknowledgedAtEpochSeconds) hfound hg.tenantId
    hactive rfl rfl rfl
  exact ⟨hjobs, hqueues, hidempotency, hredemptions, hlocks, hdeployments⟩

/-- **An accepted command of a tenant leaves what the other tenants have.** -/
theorem exec_others {tenantId jobId : String} (hn : c.names = some (tenantId, jobId))
    (ha : (c.exec rt s intent).accepted = true) (hcf : rt.CollisionFreeOn (keyTexts s)) :
    TenantsAgree (· ≠ tenantId) s (c.exec rt s intent).state := by
  cases c with
  | enqueue command =>
    obtain ⟨rfl, rfl⟩ := Prod.mk.inj (Option.some.inj hn)
    exact enqueue_others ha
  | cancel command =>
    obtain ⟨rfl, rfl⟩ := Prod.mk.inj (Option.some.inj hn)
    exact cancel_others ha
  | complete command =>
    obtain ⟨rfl, rfl⟩ := Prod.mk.inj (Option.some.inj hn)
    exact complete_others ha hcf
  | acknowledge command =>
    obtain ⟨rfl, rfl⟩ := Prod.mk.inj (Option.some.inj hn)
    exact acknowledge_others ha
  | _ => cases hn

/-! ## What answers depend on -/

/-- Two answers have one code if they have it on both sides of a test. -/
theorem code_ite {p : Prop} [Decidable p] {t t' u u' : PaasControlTransition} (ht : t.code = t'.code)
    (hu : u.code = u'.code) : (if p then t else u).code = (if p then t' else u').code := by
  by_cases hp : p
  · rw [if_pos hp, if_pos hp]
    exact ht
  · rw [if_neg hp, if_neg hp]
    exact hu

/-- The tenant, and what it may know of the others, are the same in both states. -/
structure OwnAgree (tenantId jobId : String) (s s' : PaasControlState) : Prop where
  own : TenantsAgree (· = tenantId) s s'
  revision : s.revision = s'.revision
  present : (s.jobs.get? jobId).isSome = (s'.jobs.get? jobId).isSome
  redeemed : ∀ key, (s.redeemedCapabilities.get? key).isSome = (s'.redeemedCapabilities.get? key).isSome

theorem OwnAgree.job {tenantId jobId : String} (h : OwnAgree tenantId jobId s s') :
    (s.jobs.get? jobId).filter (fun job => job.tenantId == tenantId) =
      (s'.jobs.get? jobId).filter fun job => job.tenantId == tenantId := by
  have hsame := h.own.jobs jobId
  apply Option.ext
  intro job
  rw [Option.filter_eq_some_iff, Option.filter_eq_some_iff, beq_iff_eq]
  exact and_congr_left fun htenant => hsame job htenant

theorem OwnAgree.isRedeemed_eq {tenantId jobId : String} (h : OwnAgree tenantId jobId s s')
    (capabilityId : Option String) : isRedeemed rt s capabilityId = isRedeemed rt s' capabilityId := by
  cases capabilityId with
  | none => rfl
  | some capabilityId => exact h.redeemed _

/-- The record at a tenant's key is the tenant's. -/
theorem Durable.record_tenant (hd : Durable rt intent s) {texts : Set String} (hcf : rt.CollisionFreeOn texts)
    (hsub : keyTexts s ⊆ texts) {tenantId idempotencyKey : String} (hkey : keyText tenantId idempotencyKey ∈ texts)
    {record : PaasIdempotencyRecord} (hr : s.idempotency.get? (stateKey rt [tenantId, idempotencyKey]) = some record) :
    record.tenantId = tenantId :=
  keyText_inj (hcf (hsub (Or.inl ⟨_, record, hr, rfl⟩)) hkey (hd.records.idempotency _ record hr).2)

theorem OwnAgree.record {tenantId jobId : String} (h : OwnAgree tenantId jobId s s') (hd : Durable rt intent s)
    (hd' : Durable rt intent s') {texts : Set String} (hcf : rt.CollisionFreeOn texts) (hsub : keyTexts s ⊆ texts)
    (hsub' : keyTexts s' ⊆ texts) {idempotencyKey : String} (hkey : keyText tenantId idempotencyKey ∈ texts) :
    s.idempotency.get? (stateKey rt [tenantId, idempotencyKey]) =
      s'.idempotency.get? (stateKey rt [tenantId, idempotencyKey]) :=
  h.own.idempotency.get?_eq (fun _ hr => hd.record_tenant hcf hsub hkey hr)
    fun _ hr => hd'.record_tenant hcf hsub' hkey hr

/-- The deployment at the key of a tenant's resource is the tenant's. -/
theorem Durable.deployment_tenant (hd : Durable rt intent s) {texts : Set String} (hcf : rt.CollisionFreeOn texts)
    (hsub : keyTexts s ⊆ texts) {tenantId resource : String} (hkey : resourceText tenantId resource ∈ texts)
    {d : PaasDeploymentRecord} (hr : s.deployments.get? (resourceKey rt tenantId resource) = some d) :
    d.tenantId = tenantId :=
  (resource_unique hcf (hsub (Or.inr (Or.inr ⟨_, d, hr, rfl⟩))) hkey (hd.records.deployments _ d hr).1.key).1

theorem enqueue_code {command : PaasEnqueueJobCommand} (hcheck : stateInvariantError rt s intent = none)
    (hcheck' : stateInvariantError rt s' intent = none) (h : OwnAgree command.tenantId command.jobId s s')
    (hrecord : s.idempotency.get? (stateKey rt [command.tenantId, command.idempotencyKey]) =
      s'.idempotency.get? (stateKey rt [command.tenantId, command.idempotencyKey]))
    (hdeployment : s.deployments.get? (resourceKey rt command.tenantId command.resource) =
      s'.deployments.get? (resourceKey rt command.tenantId command.resource)) :
    (enqueuePaasJob rt s intent command).code = (enqueuePaasJob rt s' intent command).code := by
  have htaken : jobTaken s command.jobId = jobTaken s' command.jobId := by
    unfold jobTaken
    rw [h.present]
  have htarget : knownRollbackTarget rt s command = knownRollbackTarget rt s' command := by
    unfold knownRollbackTarget
    rw [hdeployment]
  unfold enqueuePaasJob
  rw [hcheck, hcheck', hrecord]
  refine code_ite rfl (code_ite rfl ?_)
  cases intent.find command.tenantId with
  | none => rfl
  | some tenant =>
    refine code_ite rfl ?_
    cases s'.idempotency.get? (stateKey rt [command.tenantId, command.idempotencyKey]) with
    | some existing => exact code_ite rfl rfl
    | none =>
      dsimp only
      rw [h.revision, htaken, htarget, h.isRedeemed_eq]
      exact code_ite rfl (code_ite rfl (code_ite rfl (code_ite rfl rfl)))

theorem cancel_code {command : PaasCancelJobCommand} (hcheck : stateInvariantError rt s intent = none)
    (hcheck' : stateInvariantError rt s' intent = none) (h : OwnAgree command.tenantId command.jobId s s')
    (hrecord : s.idempotency.get? (stateKey rt [command.tenantId, command.idempotencyKey]) =
      s'.idempotency.get? (stateKey rt [command.tenantId, command.idempotencyKey])) :
    (cancelPaasJob rt s intent command).code = (cancelPaasJob rt s' intent command).code := by
  unfold cancelPaasJob
  rw [hcheck, hcheck', hrecord, h.job]
  refine code_ite rfl ?_
  cases (s'.jobs.get? command.jobId).filter fun job => job.tenantId == command.tenantId with
  | none => rfl
  | some current =>
    refine code_ite rfl (code_ite rfl ?_)
    cases s'.idempotency.get? (stateKey rt [command.tenantId, command.idempotencyKey]) with
    | some existing => exact code_ite rfl rfl
    | none =>
      dsimp only
      rw [h.revision, h.isRedeemed_eq]
      exact code_ite rfl (code_ite rfl (code_ite rfl (code_ite rfl rfl)))

theorem complete_code {command : PaasCompleteJobCommand} (hcheck : stateInvariantError rt s intent = none)
    (hcheck' : stateInvariantError rt s' intent = none) (h : OwnAgree command.tenantId command.jobId s s') :
    (completePaasJob rt s intent command).code = (completePaasJob rt s' intent command).code := by
  unfold completePaasJob
  rw [hcheck, hcheck', h.revision, h.job]
  refine code_ite rfl (code_ite rfl (code_ite rfl ?_))
  cases (s'.jobs.get? command.jobId).filter fun job => job.tenantId == command.tenantId with
  | none => rfl
  | some current =>
    refine code_ite rfl (code_ite rfl (code_ite rfl (code_ite rfl (code_ite rfl ?_))))
    cases command.outcome with
    | failed => exact code_ite rfl rfl
    | succeeded =>
      dsimp only
      cases (succeededJob current command.resultArtifactDigest command.completedAtEpochSeconds).operation <;> rfl

theorem acknowledge_code {command : PaasAcknowledgeCancellationCommand}
    (hcheck : stateInvariantError rt s intent = none) (hcheck' : stateInvariantError rt s' intent = none)
    (h : OwnAgree command.tenantId command.jobId s s') : (acknowledgePaasJobCancellation rt s intent command).code =
      (acknowledgePaasJobCancellation rt s' intent command).code := by
  unfold acknowledgePaasJobCancellation
  rw [hcheck, hcheck', h.revision, h.job]
  refine code_ite rfl (code_ite rfl ?_)
  cases (s'.jobs.get? command.jobId).filter fun job => job.tenantId == command.tenantId with
  | none => rfl
  | some current => exact code_ite rfl (code_ite rfl (code_ite rfl rfl))

/-- **What the other tenants have is no part of the code of an answer**, among states that pass their
check. -/
theorem exec_code {tenantId jobId : String} (hn : c.names = some (tenantId, jobId)) (h : OwnAgree tenantId jobId s s')
    (hcheck : stateInvariantError rt s intent = none) (hcheck' : stateInvariantError rt s' intent = none)
    (hcf : rt.CollisionFreeOn (keyTexts s ∪ keyTexts s' ∪ c.keyTexts)) :
    (c.exec rt s intent).code = (c.exec rt s' intent).code := by
  have hd := (stateInvariantError_none.1 hcheck).1
  have hd' := (stateInvariantError_none.1 hcheck').1
  have hsub : keyTexts s ⊆ keyTexts s ∪ keyTexts s' ∪ c.keyTexts := fun _ ht => Or.inl (Or.inl ht)
  have hsub' : keyTexts s' ⊆ keyTexts s ∪ keyTexts s' ∪ c.keyTexts := fun _ ht => Or.inl (Or.inr ht)
  cases c with
  | enqueue command =>
    obtain ⟨rfl, rfl⟩ := Prod.mk.inj (Option.some.inj hn)
    refine enqueue_code hcheck hcheck' h (h.record hd hd' hcf hsub hsub' (Or.inr (Or.inl rfl))) ?_
    exact h.own.deployments.get?_eq (fun _ hr => hd.deployment_tenant hcf hsub (Or.inr (Or.inr rfl)) hr)
      fun _ hr => hd'.deployment_tenant hcf hsub' (Or.inr (Or.inr rfl)) hr
  | cancel command =>
    obtain ⟨rfl, rfl⟩ := Prod.mk.inj (Option.some.inj hn)
    exact cancel_code hcheck hcheck' h (h.record hd hd' hcf hsub hsub' (Or.inr rfl))
  | complete command =>
    obtain ⟨rfl, rfl⟩ := Prod.mk.inj (Option.some.inj hn)
    exact complete_code hcheck hcheck' h
  | acknowledge command =>
    obtain ⟨rfl, rfl⟩ := Prod.mk.inj (Option.some.inj hn)
    exact acknowledge_code hcheck hcheck' h
  | _ => cases hn

/-- **Tenants do not meet**: an accepted command of one leaves what the others have, and what they
have is no part of the code of its answer. -/
theorem tenant_isolated (rt : Runtime) (intent : PaasSecurityIntent) {c : PaasCommand} {tenantId jobId : String}
    (hn : c.names = some (tenantId, jobId)) :
    (∀ s, rt.CollisionFreeOn (keyTexts s) → (c.exec rt s intent).accepted = true →
      TenantsAgree (· ≠ tenantId) s (c.exec rt s intent).state) ∧
    ∀ s s', rt.CollisionFreeOn (keyTexts s ∪ keyTexts s' ∪ c.keyTexts) → OwnAgree tenantId jobId s s' →
      stateInvariantError rt s intent = none → stateInvariantError rt s' intent = none →
      (c.exec rt s intent).code = (c.exec rt s' intent).code :=
  ⟨fun _ hcf ha => exec_others hn ha hcf, fun _ _ hcf h hcheck hcheck' => exec_code hn h hcheck hcheck' hcf⟩

/-! ## Two tenants -/

def twoTenants : PaasSecurityIntent := ⟨[⟨"tenant-a", 2, 1, 10⟩, ⟨"tenant-b", 2, 1, 10⟩], ⟨3⟩⟩

/-- A tenant builds a resource. -/
def tenantBuild (tenantId resource idempotencyKey jobId : String) (expectedRevision : ℤ) : PaasEnqueueJobCommand :=
  { sampleEnqueue with
    expectedRevision, jobId, tenantId, resource, idempotencyKey
    authorization := { sampleEnqueue.authorization with
      audit := { sampleEnqueue.authorization.audit with
        tenant := tenantId
        resource
        idempotencyKey := some idempotencyKey } } }

/-- What the builds hash, and the SHA-256 digests. -/
def tenantTable : List (String × String) := [
  ("[\"tenant-a\",\"key-a\"]",
    "95d0a31f49addd06cbf326f6f21376e6e4da7630f44bfab9e11976a950f0ef1f"),
  ("[\"tenant-a\",\"key-c\"]",
    "20b85972ca08228740cf7df40d7c9855a69391f05f9adb510d4453e53aa2c962"),
  ("[\"tenant-b\",\"key-b\"]",
    "3982f4714dc4b3aff3ca2633b49058d2042cbea637e3684ae361eb094e2d904f"),
  ("[\"tenant-b\",\"key-d\"]",
    "a608fcc85a2e4cce5099d2ec118189095cf74d681c6c1ac688a4c7b5375b6904"),
  ("[\"resource\",\"tenant-a\",\"app\"]",
    "81eae5579b47af7a4b244e26ff18ec9fd21e6ba9de91b3f9592789f90d33fab0"),
  ("[\"resource\",\"tenant-a\",\"site\"]",
    "68dcbeee097aa57e1e07bc450b0134353ed7f0740387a373fd090cdab016590f"),
  ("[\"resource\",\"tenant-b\",\"app\"]",
    "6341fff48334fab9c46c0af6a7bd191911d06af95c9d9296406672e705e1358c"),
  ("[\"resource\",\"tenant-b\",\"site\"]",
    "2cdfeecf558747b09797641399642ec2292e4b547e2e93ab59c1b066111dcfdb"),
  ("\x7b\"action\":\"enqueue\",\"tenantId\":\"tenant-a\",\"operation\":\"build\"," ++
      "\"resource\":\"app\",\"sourceRevision\":\"aaaaaaaaaaaaaaaaaaaaaaaaaaaaaaaaaaaaaaaa\"," ++
      "\"artifactDigest\":null\x7d",
    "97ba2411988b14a820eff7cdef28adc87891a4cee8629b3cf2c1975ec5b86677"),
  ("\x7b\"action\":\"enqueue\",\"tenantId\":\"tenant-a\",\"operation\":\"build\"," ++
      "\"resource\":\"site\",\"sourceRevision\":\"aaaaaaaaaaaaaaaaaaaaaaaaaaaaaaaaaaaaaaaa\"," ++
      "\"artifactDigest\":null\x7d",
    "23e63c0c530ecd42d7a24db58dded853bce2598ee472708551a18e3cfba35583"),
  ("\x7b\"action\":\"enqueue\",\"tenantId\":\"tenant-b\",\"operation\":\"build\"," ++
      "\"resource\":\"app\",\"sourceRevision\":\"aaaaaaaaaaaaaaaaaaaaaaaaaaaaaaaaaaaaaaaa\"," ++
      "\"artifactDigest\":null\x7d",
    "59733c5c9dfcc6eb9f5d9f59b300425220c6903de550593366e7ad089bc5bc8a"),
  ("\x7b\"action\":\"enqueue\",\"tenantId\":\"tenant-b\",\"operation\":\"build\"," ++
      "\"resource\":\"site\",\"sourceRevision\":\"aaaaaaaaaaaaaaaaaaaaaaaaaaaaaaaaaaaaaaaa\"," ++
      "\"artifactDigest\":null\x7d",
    "e6e15f5e837b97c02e276492faa698d43ac5f580e195c088170ed182489aac21")]

theorem tenantTable_hex : ∀ p ∈ tenantTable, isHexDigest p.2 = true := by
  repeat' first | exact hex_nil | refine hex_cons (by decide +kernel) (by decide +kernel) ?_

def tenantRuntime : Runtime := Runtime.tabulated tenantTable (fun _ => none) tenantTable_hex

def buildA : PaasEnqueueJobCommand := tenantBuild "tenant-a" "app" "key-a" "job-a" 0

def afterA : PaasControlState := (enqueuePaasJob tenantRuntime (createPaasControlState twoTenants) twoTenants buildA).state

/-- The scheduler has been called at a time. -/
def afterStart (now : ℤ) : PaasControlState :=
  (schedulePaasJobs tenantRuntime afterA twoTenants (sampleSchedule now)).state

def buildB (expectedRevision : ℤ) : PaasEnqueueJobCommand :=
  tenantBuild "tenant-b" "app" "key-b" "job-b" expectedRevision

/-- Texts in a list whose hashes are different have no collisions. -/
theorem collisionFree_list {texts : List String} (h : (texts.map rt.sha256).Nodup) : rt.CollisionFreeOn {t | t ∈ texts} :=
  fun _ h1 _ h2 heq => List.inj_on_of_nodup_map h h1 h2 heq

theorem afterA_texts : keyTexts afterA ⊆ {t | t ∈ [keyText "tenant-a" "key-a", resourceText "tenant-a" "app"]} := by
  have hrecords : ∀ e ∈ afterA.idempotency.entries, keyText e.2.tenantId e.2.idempotencyKey = keyText "tenant-a" "key-a" := by
    decide +kernel
  have hjobs : ∀ e ∈ afterA.jobs.entries, resourceText e.2.tenantId e.2.resource = resourceText "tenant-a" "app" := by
    decide +kernel
  have hnone : afterA.deployments.entries = [] := by decide +kernel
  rintro text (⟨key, record, hr, rfl⟩ | ⟨id, job, hj, rfl⟩ | ⟨key, d, hd, -⟩)
  · rw [hrecords _ (Record.mem_entries.2 hr)]
    exact List.mem_cons_self
  · rw [hjobs _ (Record.mem_entries.2 hj)]
    exact List.mem_cons_of_mem _ List.mem_cons_self
  · have hmem := Record.mem_entries.2 hd
    rw [hnone] at hmem
    cases hmem

/-- `tenant_isolated` on a build of the second tenant: the first one's job is as it was. -/
theorem tenant_isolated_build : TenantsAgree (· ≠ "tenant-b") afterA
    ((PaasCommand.enqueue (buildB 1)).exec tenantRuntime afterA twoTenants).state := by
  have hcf : tenantRuntime.CollisionFreeOn (keyTexts afterA) :=
    (collisionFree_list (by decide +kernel)).mono afterA_texts
  exact (tenant_isolated tenantRuntime twoTenants (c := .enqueue (buildB 1)) rfl).1 afterA hcf (by decide +kernel)

/-- An early start of one tenant's job changes the answer to the other tenant's command. -/
theorem early_start_denies : OwnAgree "tenant-b" "job-b" (afterStart 500) (afterStart 1000) ∧
    stateInvariantError tenantRuntime (afterStart 1000) twoTenants = none ∧
    ((PaasCommand.enqueue (buildB 2)).exec tenantRuntime (afterStart 1000) twoTenants).code = .accepted ∧
    ((PaasCommand.enqueue (buildB 2)).exec tenantRuntime (afterStart 500) twoTenants).code =
      .stateInvariantViolation := by
  -- neither state has anything of the second tenant, and they share all maps but the jobs
  have hjobs : ∀ now, now = 500 ∨ now = 1000 → ∀ e ∈ (afterStart now).jobs.entries, e.2.tenantId = "tenant-a" := by
    rintro now (rfl | rfl) <;> decide +kernel
  have hnone : ∀ now, now = 500 ∨ now = 1000 → ∀ id job, (afterStart now).jobs.get? id = some job →
      job.tenantId ≠ "tenant-b" := by
    intro now hnow id job hj
    rw [hjobs now hnow _ (Record.mem_entries.2 hj)]
    decide
  have hsame : (afterStart 500).tenantQueues = (afterStart 1000).tenantQueues ∧
      (afterStart 500).idempotency = (afterStart 1000).idempotency ∧
      (afterStart 500).redeemedCapabilities = (afterStart 1000).redeemedCapabilities ∧
      (afterStart 500).resourceLocks = (afterStart 1000).resourceLocks ∧
      (afterStart 500).deployments = (afterStart 1000).deployments ∧
      (afterStart 500).revision = (afterStart 1000).revision ∧
      ((afterStart 500).jobs.get? "job-b").isSome = ((afterStart 1000).jobs.get? "job-b").isSome := by decide +kernel
  obtain ⟨hqueues, hidempotency, hredemptions, hlocks, hdeployments, hrevision, hpresent⟩ := hsame
  refine ⟨⟨⟨?_, ?_, ?_, ?_, ?_, ?_⟩, hrevision, hpresent, ?_⟩, by decide +kernel, by decide +kernel, by decide +kernel⟩
  · intro id job htenant
    exact iff_of_false (fun hj => hnone 500 (Or.inl rfl) id job hj htenant)
      fun hj => hnone 1000 (Or.inr rfl) id job hj htenant
  · intro tenantId _
    rw [hqueues]
  · rw [hidempotency]
    exact SameOn.refl _ _
  · rw [hredemptions]
    exact SameOn.refl _ _
  · rw [hlocks]
    exact SameOn.refl _ _
  · rw [hdeployments]
    exact SameOn.refl _ _
  · intro key
    rw [hredemptions]

end SecureSaas.Paas
