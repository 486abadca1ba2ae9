import SecureSaas.Paas.Outcomes

/-!
# Rollback safety

What a deployment's record says about the past of its resource. The history of a run is the list
of its calls; a call keeps the state it found, so the history tells what was active before.

* `PaasCall.deploys_cases`: a call promotes one job of one resource, or leaves the deployments alone.
* `run_traced`: previous digests were active, rollback jobs name digests that were, and generations
  count completions.
* `rollback_safe`: **a rollback goes back to a digest that was active before.**
-/

namespace SecureSaas.Paas

open Js

variable {rt : Runtime} {intent : PaasSecurityIntent} {s m : PaasControlState} {h : List PaasCall}

/-! ## The history of a resource -/

/-- The digest was active for the tenant's resource before one of the calls. -/
def WasActive (rt : Runtime) (h : List PaasCall) (tenantId resource digest : String) : Prop :=
  ∃ call ∈ h, ∃ d, call.state.deployments.get? (resourceKey rt tenantId resource) = some d ∧
    d.tenantId = tenantId ∧ d.resource = resource ∧ d.activeArtifactDigest = digest

/-- The call completes a deployment or a rollback of the tenant's resource. -/
def PaasCall.deploys (rt : Runtime) (intent : PaasSecurityIntent) (tenantId resource : String) (call : PaasCall) :
    Bool :=
  match call.command with
  | .complete command => (call.transition rt intent).accepted && command.outcome == .succeeded &&
      (call.state.jobs.get? command.jobId).any fun job =>
        job.operation != .build && job.tenantId == tenantId && job.resource == resource
  | _ => false

/-- The number of completions of deployments and rollbacks of the tenant's resource. -/
def completions (rt : Runtime) (intent : PaasSecurityIntent) (tenantId resource : String) (h : List PaasCall) : ℕ :=
  h.countP (PaasCall.deploys rt intent tenantId resource)

/-- The resources that the calls name, as the texts whose hashes are their keys. -/
def resourceTexts (h : List PaasCall) : Set String :=
  {text | ∃ call ∈ h, ∃ command, call.command = .enqueue command ∧
    text = resourceText command.tenantId command.resource}

theorem WasActive.snoc {tenantId resource digest : String} (hw : WasActive rt h tenantId resource digest)
    (call : PaasCall) : WasActive rt (h ++ [call]) tenantId resource digest := by
  obtain ⟨before, hmem, hd⟩ := hw
  exact ⟨before, List.mem_append_left _ hmem, hd⟩

theorem resourceTexts_mono {h' : List PaasCall} (hsub : h ⊆ h') : resourceTexts h ⊆ resourceTexts h' := by
  rintro text ⟨call, hmem, hcommand⟩
  exact ⟨call, hsub hmem, hcommand⟩

theorem resourceTexts_snoc (call : PaasCall) : resourceTexts h ⊆ resourceTexts (h ++ [call]) :=
  resourceTexts_mono fun _ hx => List.mem_append_left _ hx

theorem completions_snoc (tenantId resource : String) (call : PaasCall) :
    completions rt intent tenantId resource (h ++ [call]) = completions rt intent tenantId resource h +
      if call.deploys rt intent tenantId resource = true then 1 else 0 := by
  unfold completions
  rw [List.countP_append, List.countP_singleton]

/-- Resources with one key are one, among those without collisions. -/
theorem resource_unique {texts : Set String} (hcf : rt.CollisionFreeOn texts) {tenantId tenantId' resource resource' : String}
    (h1 : resourceText tenantId resource ∈ texts) (h2 : resourceText tenantId' resource' ∈ texts)
    (hkey : resourceKey rt tenantId resource = resourceKey rt tenantId' resource') :
    tenantId = tenantId' ∧ resource = resource' :=
  resourceText_inj (hcf h1 h2 hkey)

/-! ## One call -/

/-- **A call promotes one job**, or leaves the deployments alone. -/
theorem PaasCall.deploys_cases (rt : Runtime) (intent : PaasSecurityIntent) (call : PaasCall) :
    (∃ command job, (call.transition rt intent).accepted = true ∧
        Promotes rt intent call.state call.command command job ∧
        ∀ tenantId resource, call.deploys rt intent tenantId resource = (job.tenantId == tenantId && job.resource == resource)) ∨
      ((call.after rt intent).deployments = call.state.deployments ∧
        ∀ tenantId resource, call.deploys rt intent tenantId resource = false) := by
  obtain ⟨s, c⟩ := call
  rcases @exec_refused rt intent s c with ⟨hrefused, hs, -⟩ | ha
  · right
    refine ⟨congrArg PaasControlState.deployments hs, ?_⟩
    intro tenantId resource
    unfold PaasCall.deploys PaasCall.transition
    cases c <;> simp only
    rename_i command
    rw [hrefused]
    rfl
  · cases c with
    | complete command =>
      obtain ⟨-, current, hg, ⟨hfailed, -, hs⟩ | ⟨hsucceeded, -, hs⟩⟩ := complete_accepted ha
      · right
        constructor
        · refine (congrArg (fun t => t.state.deployments) hs).trans ?_
          unfold failedAnswer
          dsimp only
          split <;> rfl
        · intro tenantId resource
          simp [PaasCall.deploys, hfailed]
      · have hdeploys : ∀ tenantId resource, PaasCall.deploys rt intent tenantId resource ⟨s, .complete command⟩ =
            (current.operation != .build && current.tenantId == tenantId && current.resource == resource) := by
          intro tenantId resource
          have hget := hg.found
          simp only [PaasCall.deploys, PaasCall.transition, ha, hsucceeded, hget, Option.any_some, beq_self_eq_true,
            Bool.true_and]
        by_cases hbuild : current.operation = .build
        · right
          constructor
          · refine (congrArg (fun t => t.state.deployments) hs).trans ?_
            unfold succeededAnswer
            rw [if_pos hbuild]
            rfl
          · intro tenantId resource
            rw [hdeploys, hbuild]
            rfl
        · left
          refine ⟨command, current, ha, ⟨rfl, hg, hsucceeded, hbuild, ?_⟩, ?_⟩
          · refine (congrArg (fun t => t.state.deployments) hs).trans ?_
            unfold succeededAnswer
            rw [if_neg hbuild]
            rfl
          · intro tenantId resource
            rw [hdeploys, bne_iff_ne.2 hbuild, Bool.true_and]
    | _ =>
      right
      constructor
      · rcases exec_deployments ha with hs | ⟨command, job, hp⟩
        · exact hs
        · cases hp.call
      · intro tenantId resource
        rfl

/-- What a step may do to a job leaves alone what the job is for. -/
theorem JobStep.same {c : PaasCommand} {id : String} {job job' : PaasControlJob} (h : JobStep s c id job job') :
    job'.tenantId = job.tenantId ∧ job'.resource = job.resource ∧ job'.operation = job.operation ∧
      job'.artifactDigest = job.artifactDigest := by
  cases h <;> exact ⟨rfl, rfl, rfl, rfl⟩

/-- An accepted rollback command names a previous digest of its resource. -/
theorem knownRollbackTarget_cases {command : PaasEnqueueJobCommand} (h : knownRollbackTarget rt s command = true) :
    ∃ d artifact, s.deployments.get? (resourceKey rt command.tenantId command.resource) = some d ∧
      truthy command.artifactDigest = some artifact ∧ artifact ∈ d.previousArtifactDigests := by
  unfold knownRollbackTarget at h
  cases hd : s.deployments.get? (resourceKey rt command.tenantId command.resource) with
  | none => simp only [hd] at h; cases h
  | some d =>
    cases hart : truthy command.artifactDigest with
    | none => simp only [hd, hart] at h; cases h
    | some artifact =>
      simp only [hd, hart] at h
      exact ⟨d, artifact, rfl, rfl, List.contains_iff_mem.1 h⟩

/-! ## Runs -/

/-- What the state says about the history of its resources. -/
structure Traced (rt : Runtime) (intent : PaasSecurityIntent) (h : List PaasCall) (s : PaasControlState) : Prop where
  key : ∀ key d, s.deployments.get? key = some d → resourceKey rt d.tenantId d.resource = key
  previous : ∀ key d, s.deployments.get? key = some d → ∀ digest ∈ d.previousArtifactDigests,
    WasActive rt h d.tenantId d.resource digest
  generation : ∀ key d, s.deployments.get? key = some d →
    d.generation = countTo (completions rt intent d.tenantId d.resource h)
  undeployed : ∀ tenantId resource, s.deployments.get? (resourceKey rt tenantId resource) = none →
    completions rt intent tenantId resource h = 0
  deployed : ∀ key d, s.deployments.get? key = some d → resourceText d.tenantId d.resource ∈ resourceTexts h
  jobs : ∀ id job, s.jobs.get? id = some job → resourceText job.tenantId job.resource ∈ resourceTexts h
  rollbacks : ∀ id job, s.jobs.get? id = some job → job.operation = .rollback →
    ∀ digest, job.artifactDigest = some digest → WasActive rt h job.tenantId job.resource digest

variable {call : PaasCall}

/-- The deployments of a promotion: one record is new, and the history of its resource is longer. -/
theorem Traced.promote (ht : Traced rt intent h call.state) (hcf : rt.CollisionFreeOn (resourceTexts (h ++ [call])))
    {command : PaasCompleteJobCommand} {job : PaasControlJob}
    (hp : Promotes rt intent call.state call.command command job)
    (hdeploys : ∀ tenantId resource,
      call.deploys rt intent tenantId resource = (job.tenantId == tenantId && job.resource == resource))
    {key : String} {d : PaasDeploymentRecord} (hd : (call.after rt intent).deployments.get? key = some d) :
    resourceKey rt d.tenantId d.resource = key ∧
      (∀ digest ∈ d.previousArtifactDigests, WasActive rt (h ++ [call]) d.tenantId d.resource digest) ∧
      d.generation = countTo (completions rt intent d.tenantId d.resource (h ++ [call])) ∧
      resourceText d.tenantId d.resource ∈ resourceTexts (h ++ [call]) := by
  have hnamed := resourceTexts_snoc call (ht.jobs _ job hp.guard.found)
  rw [show (call.after rt intent).deployments = _ from hp.deployments, Record.get?_set] at hd
  rw [completions_snoc, hdeploys]
  by_cases hkey : key = resourceKey rt job.tenantId job.resource
  · rw [if_pos hkey] at hd
    obtain rfl := Option.some.inj hd
    -- the record that is replaced is of the same resource
    have hold : ∀ old, call.state.deployments.get? (resourceKey rt job.tenantId job.resource) = some old →
        old.tenantId = job.tenantId ∧ old.resource = job.resource := fun old ho =>
      resource_unique hcf (resourceTexts_snoc call (ht.deployed _ old ho)) hnamed (ht.key _ old ho)
    refine ⟨hkey.symm, ?_, ?_, hnamed⟩
    · intro digest hdigest
      change digest ∈ deploymentHistory (call.state.deployments.get? (resourceKey rt job.tenantId job.resource)) _ at hdigest
      cases ho : call.state.deployments.get? (resourceKey rt job.tenantId job.resource) with
      | none =>
        rw [ho] at hdigest
        cases hdigest
      | some old =>
        obtain ⟨htenant, hresource⟩ := hold old ho
        rw [ho] at hdigest
        have hprevious : ∀ digest ∈ old.previousArtifactDigests,
            WasActive rt (h ++ [call]) job.tenantId job.resource digest := by
          intro digest hin
          have hw := ht.previous _ old ho digest hin
          rw [htenant, hresource] at hw
          exact hw.snoc call
        unfold deploymentHistory at hdigest
        simp only at hdigest
        split at hdigest
        · exact hprevious digest (List.mem_of_mem_take hdigest)
        · rcases List.mem_cons.1 (List.mem_of_mem_take hdigest) with hactive | hin
          · exact ⟨call, List.mem_append_right _ (List.mem_singleton_self call), old, ho, htenant, hresource,
              hactive.symm⟩
          · exact hprevious digest (List.mem_filter.1 hin).1
    · show addNumber (((call.state.deployments.get? (resourceKey rt job.tenantId job.resource)).map
          fun d => d.generation).getD 0) 1 = countTo (completions rt intent job.tenantId job.resource h +
            if (job.tenantId == job.tenantId && job.resource == job.resource) = true then 1 else 0)
      rw [if_pos (by simp)]
      cases ho : call.state.deployments.get? (resourceKey rt job.tenantId job.resource) with
      | none =>
        rw [ht.undeployed _ _ ho]
        rfl
      | some old =>
        obtain ⟨htenant, hresource⟩ := hold old ho
        rw [Option.map_some, Option.getD_some, ht.generation _ old ho, htenant, hresource]
        rfl
  · rw [if_neg hkey] at hd
    have hother : (job.tenantId == d.tenantId && job.resource == d.resource) = false := by
      by_contra hsame
      simp only [Bool.not_eq_false, Bool.and_eq_true, beq_iff_eq] at hsame
      rw [← ht.key key d hd, hsame.1, hsame.2] at hkey
      exact hkey rfl
    rw [hother]
    exact ⟨ht.key key d hd, fun digest hin => (ht.previous key d hd digest hin).snoc call, ht.generation key d hd,
      resourceTexts_snoc call (ht.deployed key d hd)⟩

/-- **Every call keeps the trace**, on resources without collisions. -/
theorem Traced.step (ht : Traced rt intent h call.state) (hcf : rt.CollisionFreeOn (resourceTexts (h ++ [call]))) :
    Traced rt intent (h ++ [call]) (call.after rt intent) := by
  -- the jobs, of a call that is accepted
  have hjobs : ∀ id job', (call.after rt intent).jobs.get? id = some job' →
      resourceText job'.tenantId job'.resource ∈ resourceTexts (h ++ [call]) ∧
        (job'.operation = .rollback → ∀ digest, job'.artifactDigest = some digest →
          WasActive rt (h ++ [call]) job'.tenantId job'.resource digest) := by
    intro id job' hj'
    have hkept : ∀ job, call.state.jobs.get? id = some job → job'.tenantId = job.tenantId →
        job'.resource = job.resource → job'.operation = job.operation → job'.artifactDigest = job.artifactDigest →
        resourceText job'.tenantId job'.resource ∈ resourceTexts (h ++ [call]) ∧
          (job'.operation = .rollback → ∀ digest, job'.artifactDigest = some digest →
            WasActive rt (h ++ [call]) job'.tenantId job'.resource digest) := by
      intro job hj htenant hresource hop hdigest
      rw [htenant, hresource, hop, hdigest]
      exact ⟨resourceTexts_snoc call (ht.jobs id job hj), fun hr digest hd => (ht.rollbacks id job hj hr digest hd).snoc call⟩
    rcases @exec_refused rt intent call.state call.command with ⟨-, hs, -⟩ | ha
    · rw [show call.after rt intent = call.state from hs] at hj'
      exact hkept job' hj' rfl rfl rfl rfl
    · cases hj : call.state.jobs.get? id with
      | some job =>
        obtain ⟨job1, hj1, hstep⟩ := exec_jobs ha hj
        obtain rfl := Option.some.inj (hj1.symm.trans hj')
        obtain ⟨htenant, hresource, hop, hdigest⟩ := hstep.same
        exact hkept job hj htenant hresource hop hdigest
      | none =>
        obtain ⟨command, tenant, hc, -, he, rfl⟩ := exec_fresh ha hj hj'
        have hnamed : resourceText command.tenantId command.resource ∈ resourceTexts (h ++ [call]) :=
          ⟨call, List.mem_append_right _ (List.mem_singleton_self call), command, hc, rfl⟩
        refine ⟨hnamed, ?_⟩
        intro hr digest hdigest
        obtain ⟨d, artifact, hd, hart, hin⟩ := knownRollbackTarget_cases (he.guard.target hr)
        obtain ⟨htenant, hresource⟩ := resource_unique hcf (resourceTexts_snoc call (ht.deployed _ d hd)) hnamed
          (ht.key _ d hd)
        have hw := ht.previous _ d hd artifact hin
        rw [htenant, hresource] at hw
        obtain rfl : artifact = digest := Option.some.inj (hart.symm.trans hdigest)
        exact hw.snoc call
  rcases call.deploys_cases rt intent with ⟨command, job, -, hp, hdeploys⟩ | ⟨hsame, hnone⟩
  · have hdep := fun key d (hd : (call.after rt intent).deployments.get? key = some d) => ht.promote hcf hp hdeploys hd
    refine ⟨fun key d hd => (hdep key d hd).1, fun key d hd => (hdep key d hd).2.1, fun key d hd => (hdep key d hd).2.2.1,
      ?_, fun key d hd => (hdep key d hd).2.2.2, fun id job' hj' => (hjobs id job' hj').1,
      fun id job' hj' => (hjobs id job' hj').2⟩
    intro tenantId resource hundeployed
    rw [show (call.after rt intent).deployments = _ from hp.deployments, Record.get?_set] at hundeployed
    by_cases hkey : resourceKey rt tenantId resource = resourceKey rt job.tenantId job.resource
    · rw [if_pos hkey] at hundeployed
      cases hundeployed
    · rw [if_neg hkey] at hundeployed
      have hother : (job.tenantId == tenantId && job.resource == resource) = false := by
        by_contra heq
        simp only [Bool.not_eq_false, Bool.and_eq_true, beq_iff_eq] at heq
        rw [heq.1, heq.2] at hkey
        exact hkey rfl
      rw [completions_snoc, hdeploys, hother, ht.undeployed _ _ hundeployed]
      rfl
  · have hcount : ∀ tenantId resource, completions rt intent tenantId resource (h ++ [call]) =
        completions rt intent tenantId resource h := by
      intro tenantId resource
      rw [completions_snoc, hnone]
      rfl
    refine ⟨?_, ?_, ?_, ?_, ?_, fun id job' hj' => (hjobs id job' hj').1, fun id job' hj' => (hjobs id job' hj').2⟩
    · rw [hsame]
      exact ht.key
    · rw [hsame]
      exact fun key d hd digest hin => (ht.previous key d hd digest hin).snoc call
    · rw [hsame]
      intro key d hd
      rw [hcount]
      exact ht.generation key d hd
    · rw [hsame]
      intro tenantId resource hundeployed
      rw [hcount]
      exact ht.undeployed tenantId resource hundeployed
    · rw [hsame]
      exact fun key d hd => resourceTexts_snoc call (ht.deployed key d hd)

/-- In every run the state tells the truth about its history. -/
theorem run_traced (hr : CallRun rt intent h s) (hcf : rt.CollisionFreeOn (resourceTexts h)) : Traced rt intent h s := by
  refine hr.history (I := fun h s => rt.CollisionFreeOn (resourceTexts h) → Traced rt intent h s) ?_ ?_ hcf
  · intro _
    exact ⟨fun _ _ hd => absurd hd (create_empty rfl), fun _ _ hd => absurd hd (create_empty rfl),
      fun _ _ hd => absurd hd (create_empty rfl), fun _ _ _ => rfl, fun _ _ hd => absurd hd (create_empty rfl),
      fun _ _ hj => absurd hj create_jobs, fun _ _ hj => absurd hj create_jobs⟩
  · rintro h m call t - ht ⟨rfl, rfl⟩ hcf
    exact (ht (hcf.mono (resourceTexts_snoc call))).step hcf

/-- **Rollback safety**: a rollback that completes goes back to a digest that was active for its
tenant's resource before; and what a deployment's record says of its past is so. -/
theorem rollback_safe (rt : Runtime) (intent : PaasSecurityIntent) {h : List PaasCall} {s : PaasControlState}
    (hr : CallRun rt intent h s) (hcf : rt.CollisionFreeOn (resourceTexts h)) :
    (∀ before call after command job, h = before ++ call :: after → call.command = .complete command →
      (call.transition rt intent).accepted = true → command.outcome = .succeeded →
      call.state.jobs.get? command.jobId = some job → job.operation = .rollback →
      ∃ d, (call.after rt intent).deployments.get? (resourceKey rt job.tenantId job.resource) = some d ∧
        d.tenantId = job.tenantId ∧ d.resource = job.resource ∧
        WasActive rt before job.tenantId job.resource d.activeArtifactDigest) ∧
    ∀ key d, s.deployments.get? key = some d →
      d.previousArtifactDigests.Nodup ∧ d.activeArtifactDigest ∉ d.previousArtifactDigests ∧
        d.previousArtifactDigests.length ≤ 20 ∧
        (∀ digest ∈ d.previousArtifactDigests, WasActive rt h d.tenantId d.resource digest) ∧
        d.generation = countTo (completions rt intent d.tenantId d.resource h) ∧
        (completions rt intent d.tenantId d.resource h < 2 ^ 53 →
          d.generation = completions rt intent d.tenantId d.resource h) := by
  constructor
  · rintro before call after command job rfl hc ha hsucceeded hj hop
    obtain ⟨m, m', hbefore, ⟨rfl, rfl⟩, -⟩ := hr.step_at
    have ht : Traced rt intent before call.state :=
      run_traced hbefore (hcf.mono (resourceTexts_mono fun _ hx => List.mem_append_left _ hx))
    have hd := (stateInvariantError_none.1 (exec_checked ha)).1
    have hvalid : validDigest job.artifactDigest = true := by
      have hf := hd.records.fields _ job hj
      simp only [durableFields, hop, reduceCtorEq, if_false, Bool.and_eq_true] at hf
      exact hf.2.1
    obtain ⟨digest, hdigest⟩ : ∃ digest, job.artifactDigest = some digest := by
      rw [← Option.isSome_iff_exists]
      cases hnone : job.artifactDigest with
      | none =>
        rw [hnone] at hvalid
        cases hvalid
      | some digest => rfl
    rcases call.deploys_cases rt intent with ⟨command', job', -, hp, -⟩ | ⟨-, hnone⟩
    · obtain rfl : command = command' := PaasCommand.complete.inj (hc.symm.trans hp.call)
      obtain rfl := Option.some.inj (hj.symm.trans hp.guard.found)
      refine ⟨promotedRecord rt call.state job command.completedAtEpochSeconds, ?_, rfl, rfl, ?_⟩
      · rw [show (call.after rt intent).deployments = _ from hp.deployments, Record.get?_set_self]
      · show WasActive rt before job.tenantId job.resource (job.artifactDigest.getD "")
        rw [hdigest]
        exact ht.rollbacks _ job hj hop digest hdigest
    · have hdeploys : call.deploys rt intent job.tenantId job.resource = true := by
        unfold PaasCall.deploys
        rw [hc]
        simp [ha, hsucceeded, hj, hop]
      rw [hnone] at hdeploys
      cases hdeploys
  · intro key d hget
    have ht := run_traced hr hcf
    rcases run_durable hr with hd | rfl
    · obtain ⟨hok, -⟩ := hd.records.deployments key d hget
      refine ⟨hok.nodup, hok.fresh, hok.length, ht.previous key d hget, ht.generation key d hget, ?_⟩
      intro hexact
      rw [ht.generation key d hget, countTo_exact hexact]
    · exact absurd hget (create_empty rfl)

/-! ## A sample rollback

A resource is deployed twice and rolled back. -/

def digestA : String := "sha256:aaaaaaaaaaaaaaaaaaaaaaaaaaaaaaaaaaaaaaaaaaaaaaaaaaaaaaaaaaaaaaaa"

def digestB : String := "sha256:bbbbbbbbbbbbbbbbbbbbbbbbbbbbbbbbbbbbbbbbbbbbbbbbbbbbbbbbbbbbbbbb"

/-- A deployment or a rollback of the sample resource, without a capability. -/
def sampleDeployment (operation : PaasJobOperation) (expectedRevision requestedAtEpochSeconds : ℤ)
    (jobId idempotencyKey digest : String) : PaasEnqueueJobCommand where
  expectedRevision := expectedRevision
  jobId := jobId
  tenantId := "tenant-a"
  operation := operation
  resource := "app"
  idempotencyKey := idempotencyKey
  requestedAtEpochSeconds := requestedAtEpochSeconds
  maxAttempts := 1
  sourceRevision := none
  artifactDigest := some digest
  authorization :=
    { allowed := true
      evaluatedAtEpochSeconds := requestedAtEpochSeconds
      capabilityToRedeem := none
      audit :=
        { tenant := "tenant-a"
          operation := operation.toOperation
          resource := "app"
          sourceRevision := none
          artifactDigest := some digest
          authorizationDecisionAllow := true
          decisionEpochSeconds := requestedAtEpochSeconds
          capabilityId := none
          idempotencyKey := some idempotencyKey } }

def sampleSuccess (expectedRevision completedAtEpochSeconds : ℤ) (jobId : String) : PaasCompleteJobCommand where
  expectedRevision := expectedRevision
  jobId := jobId
  tenantId := "tenant-a"
  workerRole := .deployer
  completedAtEpochSeconds := completedAtEpochSeconds
  outcome := .succeeded
  retryable := none
  errorCode := none
  resultArtifactDigest := none

def rollbackCommands : List PaasCommand := [
  .enqueue (sampleDeployment .deploy 0 1000 "job-1" "key-1" digestA),
  .schedule ⟨1, 1010, none⟩,
  .complete (sampleSuccess 2 1020 "job-1"),
  .enqueue (sampleDeployment .deploy 3 1030 "job-2" "key-2" digestB),
  .schedule ⟨4, 1040, none⟩,
  .complete (sampleSuccess 5 1050 "job-2"),
  .enqueue (sampleDeployment .rollback 6 1060 "job-3" "key-3" digestA),
  .schedule ⟨7, 1070, none⟩,
  .complete (sampleSuccess 8 1080 "job-3")]

/-- What the sample commands hash, and the SHA-256 digests. -/
def rollbackTable : List (String × String) := [
  ("[\"tenant-a\",\"key-1\"]",
    "56a90ab75af6727824927228338f7c11d300b9322d3d8f533b2c02eacf7bdcbf"),
  ("[\"tenant-a\",\"key-2\"]",
    "6ed734377fdfc4f0290a2984343b59d76cd7d129f0fc50df35775de03f0a3e6d"),
  ("[\"tenant-a\",\"key-3\"]",
    "4ec19bd7e64341ce5026c0e9a22c93a30724a216aa41935509ed8adf1ac3ab13"),
  ("[\"resource\",\"tenant-a\",\"app\"]",
    "81eae5579b47af7a4b244e26ff18ec9fd21e6ba9de91b3f9592789f90d33fab0"),
  ("\x7b\"action\":\"enqueue\",\"tenantId\":\"tenant-a\",\"operation\":\"deploy\"," ++
      "\"resource\":\"app\",\"sourceRevision\":null," ++
      "\"artifactDigest\":\"sha256:aaaaaaaaaaaaaaaaaaaaaaaaaaaaaaaaaaaaaaaaaaaaaaaaaaaaaaaaaaaaaaaa\"\x7d",
    "fafa3b862222c303afd62cdab6674dd32fd9287b8ec6d3b827af3a13b01a248c"),
  ("\x7b\"action\":\"enqueue\",\"tenantId\":\"tenant-a\",\"operation\":\"deploy\"," ++
      "\"resource\":\"app\",\"sourceRevision\":null," ++
      "\"artifactDigest\":\"sha256:bbbbbbbbbbbbbbbbbbbbbbbbbbbbbbbbbbbbbbbbbbbbbbbbbbbbbbbbbbbbbbbb\"\x7d",
    "c1e59084dbbe8d65329b0e27e38936d026739f55f98765e0d6176885cba010bb"),
  ("\x7b\"action\":\"enqueue\",\"tenantId\":\"tenant-a\",\"operation\":\"rollback\"," ++
      "\"resource\":\"app\",\"sourceRevision\":null," ++
      "\"artifactDigest\":\"sha256:aaaaaaaaaaaaaaaaaaaaaaaaaaaaaaaaaaaaaaaaaaaaaaaaaaaaaaaaaaaaaaaa\"\x7d",
    "6786f6331923268e3236f66bbd22b6f7e92a564be3a505d3f1290db9d5dc945d")]

theorem rollbackTable_hex : ∀ p ∈ rollbackTable, isHexDigest p.2 = true := by
  repeat' first | exact hex_nil | refine hex_cons (by decide +kernel) (by decide +kernel) ?_

def rollbackRuntime : Runtime := Runtime.tabulated rollbackTable (fun _ => none) rollbackTable_hex

/-- The calls of the sample name one resource. -/
theorem rollback_texts : resourceTexts (callsFrom rollbackRuntime sampleIntent (createPaasControlState sampleIntent)
    rollbackCommands) ⊆ {resourceText "tenant-a" "app"} := by
  rintro text ⟨call, hcall, command, hc, rfl⟩
  have hmem : call.command ∈ rollbackCommands := by
    rw [← callsFrom_commands rollbackRuntime sampleIntent (createPaasControlState sampleIntent) rollbackCommands]
    exact List.mem_map_of_mem hcall
  rw [hc] at hmem
  simp only [rollbackCommands, List.mem_cons, PaasCommand.enqueue.injEq, reduceCtorEq, List.not_mem_nil, or_false,
    false_or] at hmem
  rcases hmem with rfl | rfl | rfl <;> rfl

/-- `rollback_safe` on the sample: the third completion is that of the rollback. -/
theorem rollback_safe_sample : ∃ h s, CallRun rollbackRuntime sampleIntent h s ∧ ∃ key d,
    s.deployments.get? key = some d ∧ d.activeArtifactDigest = digestA ∧ d.generation = 3 ∧
      (completions rollbackRuntime sampleIntent d.tenantId d.resource h < 2 ^ 53 →
        d.generation = completions rollbackRuntime sampleIntent d.tenantId d.resource h) ∧
      WasActive rollbackRuntime h d.tenantId d.resource digestB := by
  have hcf : rollbackRuntime.CollisionFreeOn (resourceTexts (callsFrom rollbackRuntime sampleIntent
      (createPaasControlState sampleIntent) rollbackCommands)) :=
    (Set.injOn_singleton _ _).mono rollback_texts
  have hrun := callsFrom_run rollbackRuntime sampleIntent (createPaasControlState sampleIntent) rollbackCommands
  obtain ⟨-, hdeployments⟩ := rollback_safe rollbackRuntime sampleIntent hrun hcf
  have hget : (stateAfter rollbackRuntime sampleIntent (createPaasControlState sampleIntent)
      rollbackCommands).deployments.get? (resourceKey rollbackRuntime "tenant-a" "app") =
      some ⟨"tenant-a", "app", digestA, [digestB], 3, 1080, "job-3"⟩ := by decide +kernel
  obtain ⟨-, -, -, hprevious, -, hgeneration⟩ := hdeployments _ _ hget
  exact ⟨_, _, hrun, _, _, hget, rfl, rfl, hgeneration, hprevious digestB (List.mem_singleton_self _)⟩

end SecureSaas.Paas
