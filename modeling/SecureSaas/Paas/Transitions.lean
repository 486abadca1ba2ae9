import SecureSaas.Paas.State

/-!
# The six transitions of the PaaS control state

Each checks the state and its command, then either rejects the command with a code and the state
as it was, or accepts it with the next state and its events.

* `enqueuePaasJob`, `cancelPaasJob`: commands of an authorized tenant.
* `schedulePaasJobs`, `sweepExpiredPaasJobs`: the control plane's own.
* `completePaasJob`, `acknowledgePaasJobCancellation`: reports of a worker.
-/

namespace SecureSaas.Paas

open Js

/-! ## Commands and answers -/

inductive PaasOperation
  | build | deploy | cancel | rollback | readState | readFile | writeFile | execCommand | openTerminal
  | pushArtifact | pullArtifact | invokeAgent
deriving DecidableEq

def PaasJobOperation.toOperation : PaasJobOperation → PaasOperation
  | .build => .build
  | .deploy => .deploy
  | .rollback => .rollback

/-- The fields of the audit record that bind a decision to a command. -/
structure PaasAuthorizationAuditRecord where
  tenant : String
  operation : PaasOperation
  resource : String
  sourceRevision : Option String
  artifactDigest : Option String
  /-- `"allow"`, not `"deny"`. -/
  authorizationDecisionAllow : Bool
  decisionEpochSeconds : ℤ
  capabilityId : Option String
  idempotencyKey : Option String
deriving DecidableEq

structure PaasAuthorizationDecision where
  allowed : Bool
  evaluatedAtEpochSeconds : ℤ
  capabilityToRedeem : Option String
  audit : PaasAuthorizationAuditRecord
deriving DecidableEq

structure PaasEnqueueJobCommand where
  expectedRevision : ℤ
  jobId : String
  tenantId : String
  operation : PaasJobOperation
  resource : String
  idempotencyKey : String
  requestedAtEpochSeconds : ℤ
  maxAttempts : ℤ
  sourceRevision : Option String
  artifactDigest : Option String
  authorization : PaasAuthorizationDecision
deriving DecidableEq

structure PaasScheduleCommand where
  expectedRevision : ℤ
  nowEpochSeconds : ℤ
  maxStarts : Option ℤ
deriving DecidableEq

inductive PaasJobOutcome
  | succeeded | failed
deriving DecidableEq

structure PaasCompleteJobCommand where
  expectedRevision : ℤ
  jobId : String
  tenantId : String
  workerRole : PaasWorkerRole
  completedAtEpochSeconds : ℤ
  outcome : PaasJobOutcome
  retryable : Option Bool
  errorCode : Option String
  resultArtifactDigest : Option String
deriving DecidableEq

structure PaasCancelJobCommand where
  expectedRevision : ℤ
  jobId : String
  tenantId : String
  idempotencyKey : String
  requestedAtEpochSeconds : ℤ
  authorization : PaasAuthorizationDecision
deriving DecidableEq

structure PaasAcknowledgeCancellationCommand where
  expectedRevision : ℤ
  jobId : String
  tenantId : String
  workerRole : PaasWorkerRole
  acknowledgedAtEpochSeconds : ℤ
  cleanupEvidence : String
deriving DecidableEq

/-- `Pick<PaasScheduleCommand, "expectedRevision" | "nowEpochSeconds">` -/
structure PaasSweepCommand where
  expectedRevision : ℤ
  nowEpochSeconds : ℤ
deriving DecidableEq

inductive PaasControlEventType
  | jobEnqueued | capabilityRedeemed | jobStarted | jobRetryQueued | jobSucceeded | jobFailed
  | jobCancellationRequested | jobCancelled | jobTimedOut | deploymentPromoted | deploymentRolledBack
deriving DecidableEq

structure PaasControlEvent where
  type : PaasControlEventType
  stateRevision : ℤ
  atEpochSeconds : ℤ
  tenantId : String
  jobId : String
  resource : String
deriving DecidableEq

inductive PaasControlTransitionCode
  | accepted | deduplicated | noChange | stateRevisionConflict | stateInvariantViolation | commandInvalid
  | authorizationDenied | authorizationBindingInvalid | tenantUnknown | jobAlreadyExists | jobNotFound
  | jobNotRunning | jobDeadlineExceeded | jobNotCancellable | idempotencyConflict | capabilityReplayed
  | rollbackTargetUnknown | workerIdentityMismatch | cleanupEvidenceRequired
deriving DecidableEq

structure PaasControlTransition where
  accepted : Bool
  code : PaasControlTransitionCode
  state : PaasControlState
  events : List PaasControlEvent
  jobId : Option String
deriving DecidableEq

def finalize (state : PaasControlState) (revision : ℤ) : PaasControlState := { state with revision := revision }

def accepted (state : PaasControlState) (events : List PaasControlEvent) (jobId : Option String) :
    PaasControlTransition :=
  { accepted := true, code := .accepted, state, events, jobId }

def rejected (state : PaasControlState) (code : PaasControlTransitionCode) : PaasControlTransition :=
  { accepted := false, code, state, events := [], jobId := none }

/-- The answer to a command that was accepted before. -/
def deduplicated (state : PaasControlState) (jobId : String) : PaasControlTransition :=
  { accepted := true, code := .deduplicated, state, events := [], jobId := some jobId }

def noChange (state : PaasControlState) : PaasControlTransition :=
  { accepted := true, code := .noChange, state, events := [], jobId := none }

def event (type : PaasControlEventType) (stateRevision atEpochSeconds : ℤ) (job : PaasControlJob) :
    PaasControlEvent where
  type := type
  stateRevision := stateRevision
  atEpochSeconds := atEpochSeconds
  tenantId := job.tenantId
  jobId := job.id
  resource := job.resource

/-! ## Authorization, fingerprints and records -/

/-- The text is there and not empty, as `if (text)` asks. -/
def truthy (text : Option String) : Option String := text.filter fun s => s != ""

theorem truthy_some {text : Option String} {t : String} : truthy text = some t ↔ text = some t ∧ t ≠ "" := by
  unfold truthy
  rw [Option.filter_eq_some_iff, bne_iff_ne]

theorem truthy_none {text : Option String} : truthy text = none ↔ text = none ∨ text = some "" := by
  cases text with
  | none => simp [truthy]
  | some t => simp [truthy]

/-- The decision allows exactly this command; a cancellation names no revision or artifact. -/
def authorizationBinds (decision : PaasAuthorizationDecision) (tenantId idempotencyKey : String)
    (requestedAtEpochSeconds : ℤ) (operation : PaasOperation) (resource : String)
    (sourceRevision artifactDigest : Option String) : Bool :=
  decision.allowed && decision.evaluatedAtEpochSeconds == requestedAtEpochSeconds &&
    decision.audit.decisionEpochSeconds == requestedAtEpochSeconds &&
    decision.audit.authorizationDecisionAllow && decision.audit.tenant == tenantId &&
    decision.audit.operation == operation && decision.audit.resource == resource &&
    decision.audit.idempotencyKey == some idempotencyKey && decision.audit.sourceRevision == sourceRevision &&
    decision.audit.artifactDigest == artifactDigest &&
    (decision.capabilityToRedeem.isNone || decision.audit.capabilityId == decision.capabilityToRedeem)

/-- `command.authorization.allowed ? "AUTHORIZATION_BINDING_INVALID" : "AUTHORIZATION_DENIED"` -/
def bindingCode (decision : PaasAuthorizationDecision) : PaasControlTransitionCode :=
  if decision.allowed then .authorizationBindingInvalid else .authorizationDenied

variable (rt : Runtime)

/-- `value ?? null` in a digest's payload. -/
def orNull (value : Option String) : Value := (value.map Value.string).getD .null

def enqueueFingerprint (command : PaasEnqueueJobCommand) : String :=
  rt.sha256 (jsonStringify (.object [("action", .string "enqueue"), ("tenantId", .string command.tenantId),
    ("operation", .string command.operation.text), ("resource", .string command.resource),
    ("sourceRevision", orNull command.sourceRevision), ("artifactDigest", orNull command.artifactDigest)]))

def cancelFingerprint (command : PaasCancelJobCommand) (job : PaasControlJob) : String :=
  rt.sha256 (jsonStringify (.object [("action", .string "cancel"), ("tenantId", .string command.tenantId),
    ("jobId", .string command.jobId), ("resource", .string job.resource)]))

def redeem (state : PaasControlState) (capabilityId : Option String) (tenantId jobId : String)
    (redeemedAtEpochSeconds : ℤ) : PaasControlState :=
  match capabilityId with
  | none => state
  | some capabilityId =>
    { state with
      redeemedCapabilities := state.redeemedCapabilities.set (stateKey rt [capabilityId])
        { capabilityId, tenantId, jobId, redeemedAtEpochSeconds } }

def redemptionEvents (capabilityId : Option String) (revision atEpochSeconds : ℤ) (job : PaasControlJob) :
    List PaasControlEvent :=
  if capabilityId.isSome then [event .capabilityRedeemed revision atEpochSeconds job] else []

def isRedeemed (state : PaasControlState) (capabilityId : Option String) : Bool :=
  capabilityId.any fun id => (state.redeemedCapabilities.get? (stateKey rt [id])).isSome

/-! ## Enqueueing -/

def validEnqueueCommand (command : PaasEnqueueJobCommand) : Bool :=
  isJobId command.jobId && hasText command.tenantId && boundedResource command.resource &&
    hasText command.idempotencyKey && validEpoch command.requestedAtEpochSeconds &&
    decide (1 ≤ command.maxAttempts) && decide (command.maxAttempts ≤ 5) &&
    (if command.operation = .build then isSourceRevision (command.sourceRevision.getD "")
      else validDigest command.artifactDigest)

def knownRollbackTarget (state : PaasControlState) (command : PaasEnqueueJobCommand) : Bool :=
  match state.deployments.get? (resourceKey rt command.tenantId command.resource), truthy command.artifactDigest with
  | some deployment, some artifact => deployment.previousArtifactDigests.contains artifact
  | _, _ => false

/-- `state.jobs[jobId]` is set. Of the properties every object inherits, `constructor` has the
form of a job id. -/
def jobTaken (state : PaasControlState) (jobId : String) : Bool :=
  (state.jobs.get? jobId).isSome || jobId == "constructor"

def enqueuedJob (command : PaasEnqueueJobCommand) (tenant : PaasTenantQuota) (capabilityId : Option String) :
    PaasControlJob where
  id := command.jobId
  tenantId := command.tenantId
  operation := command.operation
  resource := command.resource
  sourceRevision := truthy command.sourceRevision
  artifactDigest := truthy command.artifactDigest
  status := .queued
  workerRole := if command.operation = .build then .builder else .deployer
  idempotencyKey := command.idempotencyKey
  capabilityId := capabilityId
  createdAtEpochSeconds := command.requestedAtEpochSeconds
  updatedAtEpochSeconds := command.requestedAtEpochSeconds
  deadlineAtEpochSeconds := addNumber command.requestedAtEpochSeconds (mulNumber tenant.maxExecutionMinutes 60)
  startedAtEpochSeconds := none
  completedAtEpochSeconds := none
  attempt := 0
  maxAttempts := command.maxAttempts
  lastErrorCode := none
  cancellationReason := none
  cleanupEvidence := none
  resultArtifactDigest := none

/-- `state.tenantQueues[tenantId].push(jobId)` -/
def pushJob (state : PaasControlState) (tenantId jobId : String) : PaasControlState :=
  { state with
    tenantQueues := state.tenantQueues.set tenantId ((state.tenantQueues.get? tenantId).getD [] ++ [jobId]) }

/-- The state with the new job in its tenant's queue and its records. -/
def withEnqueued (state : PaasControlState) (command : PaasEnqueueJobCommand) (job : PaasControlJob) :
    PaasControlState :=
  let next := { pushJob state command.tenantId command.jobId with jobs := state.jobs.set command.jobId job }
  let next := { next with
    idempotency := next.idempotency.set (stateKey rt [command.tenantId, command.idempotencyKey])
      { action := .enqueue, tenantId := command.tenantId, idempotencyKey := command.idempotencyKey
        fingerprint := enqueueFingerprint rt command, jobId := command.jobId } }
  redeem rt next job.capabilityId command.tenantId command.jobId command.requestedAtEpochSeconds

def enqueuePaasJob (state : PaasControlState) (intent : PaasSecurityIntent) (command : PaasEnqueueJobCommand) :
    PaasControlTransition :=
  if (stateInvariantError rt state intent).isSome then rejected state .stateInvariantViolation
  else if !validEnqueueCommand command then rejected state .commandInvalid
  else match intent.find command.tenantId with
  | none => rejected state .tenantUnknown
  | some tenant =>
    if !authorizationBinds command.authorization command.tenantId command.idempotencyKey
        command.requestedAtEpochSeconds command.operation.toOperation command.resource command.sourceRevision
        command.artifactDigest then
      rejected state (bindingCode command.authorization)
    else match state.idempotency.get? (stateKey rt [command.tenantId, command.idempotencyKey]) with
    | some existing =>
      if existing.action = .enqueue ∧ existing.fingerprint = enqueueFingerprint rt command then
        deduplicated state existing.jobId
      else rejected state .idempotencyConflict
    | none =>
      let capabilityId := truthy command.authorization.capabilityToRedeem
      if command.expectedRevision ≠ state.revision then rejected state .stateRevisionConflict
      else if jobTaken state command.jobId then rejected state .jobAlreadyExists
      else if command.operation = .rollback && !knownRollbackTarget rt state command then
        rejected state .rollbackTargetUnknown
      else if isRedeemed rt state capabilityId then rejected state .capabilityReplayed
      else
        let revision := addNumber state.revision 1
        let job := enqueuedJob command tenant capabilityId
        accepted (finalize (withEnqueued rt state command job) revision)
          (event .jobEnqueued revision command.requestedAtEpochSeconds job ::
            redemptionEvents capabilityId revision command.requestedAtEpochSeconds job)
          (some command.jobId)

/-! ## Scheduling -/

def timedOutJob (job : PaasControlJob) (now : ℤ) : PaasControlJob :=
  { job with
    status := .timedOut
    cancellationReason := some .deadline
    updatedAtEpochSeconds := now
    completedAtEpochSeconds := some now }

/-- The inner loop of `expireQueuedJobs`: the jobs of one queue, with those retained so far. -/
def expireQueue (now revision : ℤ) : List String → PaasControlState → List PaasControlEvent → List String →
    PaasControlState × List PaasControlEvent × List String
  | [], state, events, retained => (state, events, retained)
  | jobId :: queue, state, events, retained =>
    match state.jobs.get? jobId with
    -- the state check has ruled out a queued id without a job
    | none => expireQueue now revision queue state events (retained ++ [jobId])
    | some job =>
      if job.deadlineAtEpochSeconds ≤ now then
        let job := timedOutJob job now
        expireQueue now revision queue { state with jobs := state.jobs.set jobId job }
          (events ++ [event .jobTimedOut revision now job]) retained
      else expireQueue now revision queue state events (retained ++ [jobId])

/-- The outer loop, over the queues that are left. -/
def expireQueues (now revision : ℤ) : List (String × List String) → PaasControlState →
    List PaasControlEvent → PaasControlState × List PaasControlEvent
  | [], state, events => (state, events)
  | (tenantId, queue) :: rest, state, events =>
    let (state, events, retained) := expireQueue now revision queue state events []
    expireQueues now revision rest { state with tenantQueues := state.tenantQueues.set tenantId retained } events

def expireQueuedJobs (state : PaasControlState) (now revision : ℤ) : PaasControlState × List PaasControlEvent :=
  expireQueues now revision state.tenantQueues.entries state []

/-- The tenant's first job could start: its quota is not used up and its resource is not locked. -/
def eligibleTenant (state : PaasControlState) (intent : PaasSecurityIntent) (tenantId : String) : Bool :=
  match truthy ((state.tenantQueues.get? tenantId).bind List.head?) with
  | none => false
  | some jobId =>
    match state.jobs.get? jobId, intent.find tenantId with
    | some job, some tenant =>
      let active := (activeJobs state).filter fun candidate => candidate.tenantId == tenantId
      let atQuota :=
        if job.operation = .build then
          decide (tenant.maxConcurrentBuilds ≤ (active.filter fun candidate => candidate.operation == .build).length)
        else
          decide (tenant.maxConcurrentDeployments ≤
            (active.filter fun candidate => candidate.operation != .build).length)
      !atQuota && (truthy (state.resourceLocks.get? (resourceKey rt job.tenantId job.resource))).isNone
    -- the state check has ruled out a queued id without a job and a tenant without a quota
    | _, _ => false

/-- Where the search for the next tenant starts: after the one served last. -/
def rotationStart (state : PaasControlState) (tenantIds : List String) : ℕ :=
  match truthy state.lastScheduledTenant with
  | none => 0
  | some last =>
    match tenantIds.findIdx? fun tenantId => tenantId == last with
    | none => 0
    | some index => (index + 1) % tenantIds.length

def nextEligibleTenant (state : PaasControlState) (intent : PaasSecurityIntent) (tenantIds : List String) :
    Option String :=
  let start := rotationStart state tenantIds
  ((List.range tenantIds.length).filterMap fun offset =>
    tenantIds[(start + offset) % tenantIds.length]?).find? (eligibleTenant rt state intent)

def startedJob (job : PaasControlJob) (now : ℤ) : PaasControlJob :=
  { job with
    status := .running
    startedAtEpochSeconds := some now
    updatedAtEpochSeconds := now
    attempt := addNumber job.attempt 1 }

/-- The first job of a tenant's queue starts and locks its resource. -/
def withStarted (state : PaasControlState) (tenantId jobId : String) (rest : List String)
    (job : PaasControlJob) : PaasControlState :=
  { state with
    jobs := state.jobs.set jobId job
    tenantQueues := state.tenantQueues.set tenantId rest
    resourceLocks := state.resourceLocks.set (resourceKey rt job.tenantId job.resource) job.id
    lastScheduledTenant := some tenantId }

/-- The loop of `schedulePaasJobs`, with the number of starts left. -/
def startJobs (intent : PaasSecurityIntent) (tenantIds : List String) (now revision : ℤ) :
    ℕ → PaasControlState → List PaasControlEvent → PaasControlState × List PaasControlEvent
  | 0, state, events => (state, events)
  | starts + 1, state, events =>
    if (activeJobs state).length < intent.scheduling.maxGlobalConcurrency then
      match truthy (nextEligibleTenant rt state intent tenantIds) with
      | none => (state, events)
      | some tenantId =>
        match state.tenantQueues.get? tenantId with
        | some (jobId :: rest) =>
          match state.jobs.get? jobId with
          | some job =>
            let job := startedJob job now
            startJobs intent tenantIds now revision starts (withStarted rt state tenantId jobId rest job)
              (events ++ [event .jobStarted revision now job])
          -- an eligible tenant has a first job
          | none => (state, events)
        | _ => (state, events)
    else (state, events)

def scheduleTenants (intent : PaasSecurityIntent) : List String := rt.sortByKey (fun id => id) intent.tenantIds

def schedulePaasJobs (state : PaasControlState) (intent : PaasSecurityIntent) (command : PaasScheduleCommand) :
    PaasControlTransition :=
  if (stateInvariantError rt state intent).isSome then rejected state .stateInvariantViolation
  else if command.expectedRevision ≠ state.revision then rejected state .stateRevisionConflict
  else if !validEpoch command.nowEpochSeconds then rejected state .commandInvalid
  else
    let maxStarts := command.maxStarts.getD intent.scheduling.maxGlobalConcurrency
    if maxStarts < 1 then rejected state .commandInvalid
    else
      let revision := addNumber state.revision 1
      let (next, events) := expireQueuedJobs state command.nowEpochSeconds revision
      let (next, events) := startJobs rt intent (scheduleTenants rt intent) command.nowEpochSeconds revision
        maxStarts.toNat next events
      if events.isEmpty then noChange state else accepted (finalize next revision) events none

/-! ## Completion -/

/-- The job with its lock released, at the time of a worker's report. -/
def releasedJob (job : PaasControlJob) (now : ℤ) : PaasControlJob :=
  { job with updatedAtEpochSeconds := now, startedAtEpochSeconds := none }

def retriedJob (job : PaasControlJob) (errorCode : Option String) (now : ℤ) : PaasControlJob :=
  { releasedJob job now with lastErrorCode := errorCode, status := .queued }

def failedJob (job : PaasControlJob) (errorCode : Option String) (now : ℤ) : PaasControlJob :=
  { releasedJob job now with lastErrorCode := errorCode, status := .failed, completedAtEpochSeconds := some now }

def succeededJob (job : PaasControlJob) (resultArtifactDigest : Option String) (now : ℤ) : PaasControlJob :=
  { releasedJob job now with
    status := .succeeded
    completedAtEpochSeconds := some now
    resultArtifactDigest := (truthy resultArtifactDigest).or job.resultArtifactDigest }

/-- `delete state.resourceLocks[resourceKey(...)]`, and the job as it is now. -/
def released (state : PaasControlState) (job : PaasControlJob) : PaasControlState :=
  { state with
    jobs := state.jobs.set job.id job
    resourceLocks := state.resourceLocks.erase (resourceKey rt job.tenantId job.resource) }

/-- What was deployed before `artifact`, the last twenty. -/
def deploymentHistory (current : Option PaasDeploymentRecord) (artifact : String) : List String :=
  match current with
  | none => []
  | some current =>
    (if current.activeArtifactDigest = artifact then current.previousArtifactDigests
      else current.activeArtifactDigest ::
        current.previousArtifactDigests.filter fun candidate => candidate != artifact).take 20

/-- `job.artifactDigest!`: the state check has ruled out a deployment job without an artifact. -/
def promoteDeployment (state : PaasControlState) (job : PaasControlJob) (now : ℤ) : PaasControlState :=
  let artifact := job.artifactDigest.getD ""
  let key := resourceKey rt job.tenantId job.resource
  let current := state.deployments.get? key
  { state with
    deployments := state.deployments.set key
      { tenantId := job.tenantId
        resource := job.resource
        activeArtifactDigest := artifact
        previousArtifactDigests := deploymentHistory current artifact
        generation := addNumber ((current.map fun d => d.generation).getD 0) 1
        updatedAtEpochSeconds := now
        sourceJobId := job.id } }

def completePaasJob (state : PaasControlState) (intent : PaasSecurityIntent) (command : PaasCompleteJobCommand) :
    PaasControlTransition :=
  if (stateInvariantError rt state intent).isSome then rejected state .stateInvariantViolation
  else if command.expectedRevision ≠ state.revision then rejected state .stateRevisionConflict
  else if !validEpoch command.completedAtEpochSeconds then rejected state .commandInvalid
  else match (state.jobs.get? command.jobId).filter fun job => job.tenantId == command.tenantId with
  | none => rejected state .jobNotFound
  | some current =>
    if current.status ≠ .running then rejected state .jobNotRunning
    else if current.workerRole ≠ command.workerRole then rejected state .workerIdentityMismatch
    else if current.deadlineAtEpochSeconds ≤ command.completedAtEpochSeconds ∨
        command.completedAtEpochSeconds < current.startedAtEpochSeconds.getD 0 then
      rejected state .jobDeadlineExceeded
    else if command.outcome = .succeeded && current.operation = .build &&
        !validDigest command.resultArtifactDigest then
      rejected state .commandInvalid
    else if command.outcome = .failed &&
        (!command.errorCode.any hasText || (truthy command.resultArtifactDigest).isSome) then
      rejected state .commandInvalid
    else
      let revision := addNumber state.revision 1
      let now := command.completedAtEpochSeconds
      match command.outcome with
      | .failed =>
        if command.retryable = some true ∧ current.attempt < current.maxAttempts ∧
            now < current.deadlineAtEpochSeconds then
          let job := retriedJob current command.errorCode now
          accepted (finalize (pushJob (released rt state job) job.tenantId job.id) revision)
            [event .jobRetryQueued revision now job] (some job.id)
        else
          let job := failedJob current command.errorCode now
          accepted (finalize (released rt state job) revision) [event .jobFailed revision now job] (some job.id)
      | .succeeded =>
        let job := succeededJob current command.resultArtifactDigest now
        let succeeded := event .jobSucceeded revision now job
        match job.operation with
        | .build => accepted (finalize (released rt state job) revision) [succeeded] (some job.id)
        | .deploy => accepted (finalize (promoteDeployment rt (released rt state job) job now) revision)
            [succeeded, event .deploymentPromoted revision now job] (some job.id)
        | .rollback => accepted (finalize (promoteDeployment rt (released rt state job) job now) revision)
            [succeeded, event .deploymentRolledBack revision now job] (some job.id)

/-! ## Cancellation -/

def cancelledQueuedJob (job : PaasControlJob) (now : ℤ) : PaasControlJob :=
  { job with
    updatedAtEpochSeconds := now
    cancellationReason := some .user
    status := .cancelled
    completedAtEpochSeconds := some now }

def cancellingJob (job : PaasControlJob) (reason : PaasCancellationReason) (now : ℤ) : PaasControlJob :=
  { job with updatedAtEpochSeconds := now, cancellationReason := some reason, status := .cancelling }

/-- The records a cancellation leaves. -/
def withCancellation (state : PaasControlState) (command : PaasCancelJobCommand) (job : PaasControlJob)
    (capabilityId : Option String) : PaasControlState :=
  let next := { state with
    idempotency := state.idempotency.set (stateKey rt [command.tenantId, command.idempotencyKey])
      { action := .cancel, tenantId := command.tenantId, idempotencyKey := command.idempotencyKey
        fingerprint := cancelFingerprint rt command job, jobId := job.id } }
  redeem rt next capabilityId command.tenantId job.id command.requestedAtEpochSeconds

def cancelPaasJob (state : PaasControlState) (intent : PaasSecurityIntent) (command : PaasCancelJobCommand) :
    PaasControlTransition :=
  if (stateInvariantError rt state intent).isSome then rejected state .stateInvariantViolation
  else match (state.jobs.get? command.jobId).filter fun job => job.tenantId == command.tenantId with
  | none => rejected state .jobNotFound
  | some current =>
    if !validEpoch command.requestedAtEpochSeconds || !hasText command.idempotencyKey ||
        decide (command.requestedAtEpochSeconds < current.createdAtEpochSeconds) then
      rejected state .commandInvalid
    else if !authorizationBinds command.authorization command.tenantId command.idempotencyKey
        command.requestedAtEpochSeconds .cancel current.resource none none then
      rejected state (bindingCode command.authorization)
    else match state.idempotency.get? (stateKey rt [command.tenantId, command.idempotencyKey]) with
    | some existing =>
      if existing.action = .cancel ∧ existing.fingerprint = cancelFingerprint rt command current then
        deduplicated state current.id
      else rejected state .idempotencyConflict
    | none =>
      let capabilityId := truthy command.authorization.capabilityToRedeem
      if command.expectedRevision ≠ state.revision then rejected state .stateRevisionConflict
      else if current.status ≠ .queued ∧ current.status ≠ .running then rejected state .jobNotCancellable
      else if isRedeemed rt state capabilityId then rejected state .capabilityReplayed
      else
        let revision := addNumber state.revision 1
        let now := command.requestedAtEpochSeconds
        let next := withCancellation rt state command current capabilityId
        let redemption := redemptionEvents capabilityId revision now current
        if current.status = .queued then
          let job := cancelledQueuedJob current now
          let queue := ((state.tenantQueues.get? job.tenantId).getD []).filter fun queued => queued != job.id
          accepted (finalize { next with
              jobs := state.jobs.set current.id job
              tenantQueues := state.tenantQueues.set job.tenantId queue } revision)
            (redemption ++ [event .jobCancelled revision now job]) (some job.id)
        else
          let job := cancellingJob current .user now
          accepted (finalize { next with jobs := state.jobs.set current.id job } revision)
            (redemption ++ [event .jobCancellationRequested revision now job]) (some job.id)

def acknowledgedJob (job : PaasControlJob) (cleanupEvidence : String) (now : ℤ) : PaasControlJob :=
  { releasedJob job now with
    status := if job.cancellationReason = some .deadline then .timedOut else .cancelled
    completedAtEpochSeconds := some now
    cleanupEvidence := some cleanupEvidence }

def acknowledgePaasJobCancellation (state : PaasControlState) (intent : PaasSecurityIntent)
    (command : PaasAcknowledgeCancellationCommand) : PaasControlTransition :=
  if (stateInvariantError rt state intent).isSome then rejected state .stateInvariantViolation
  else if command.expectedRevision ≠ state.revision then rejected state .stateRevisionConflict
  else match (state.jobs.get? command.jobId).filter fun job => job.tenantId == command.tenantId with
  | none => rejected state .jobNotFound
  | some current =>
    if current.status ≠ .cancelling then rejected state .jobNotCancellable
    else if current.workerRole ≠ command.workerRole then rejected state .workerIdentityMismatch
    else if !validEpoch command.acknowledgedAtEpochSeconds || !hasText command.cleanupEvidence ||
        decide (command.acknowledgedAtEpochSeconds < current.updatedAtEpochSeconds) then
      rejected state .cleanupEvidenceRequired
    else
      let revision := addNumber state.revision 1
      let now := command.acknowledgedAtEpochSeconds
      let job := acknowledgedJob current command.cleanupEvidence now
      accepted (finalize (released rt state job) revision)
        [event (if job.status = .timedOut then .jobTimedOut else .jobCancelled) revision now job] (some job.id)

/-- A running job past its deadline is asked to stop. -/
def isOverdue (now : ℤ) (job : PaasControlJob) : Bool :=
  job.status == .running && decide (job.deadlineAtEpochSeconds ≤ now)

def sweptJob (now : ℤ) (job : PaasControlJob) : PaasControlJob :=
  if isOverdue now job then cancellingJob job .deadline now else job

def sweepExpiredPaasJobs (state : PaasControlState) (intent : PaasSecurityIntent) (command : PaasSweepCommand) :
    PaasControlTransition :=
  if (stateInvariantError rt state intent).isSome then rejected state .stateInvariantViolation
  else if command.expectedRevision ≠ state.revision then rejected state .stateRevisionConflict
  else if !validEpoch command.nowEpochSeconds then rejected state .commandInvalid
  else
    let revision := addNumber state.revision 1
    let now := command.nowEpochSeconds
    let (next, events) := expireQueuedJobs state now revision
    let events := events ++ (next.jobs.values.filter (isOverdue now)).map fun job =>
      event .jobCancellationRequested revision now (sweptJob now job)
    if events.isEmpty then noChange state
    else accepted (finalize { next with jobs := next.jobs.mapValues (sweptJob now) } revision) events none

end SecureSaas.Paas
