import SecureSaas.Js.Double
import SecureSaas.Js.Record
import SecureSaas.Js.Runtime

/-!
# The PaaS control state and its check

The jobs of the tenants, their queues, the locks of the resources they work on, and the records
of idempotency keys, redeemed capabilities and deployments. Every transition starts with
`stateInvariantError`.

Counters and times are integers held by doubles, so `Number.isInteger` holds of those below
`infinity`; the quotas of an intent are the natural numbers its parser accepts.
-/

namespace SecureSaas.Paas

open Js

/-! ## Jobs and records -/

inductive PaasJobOperation
  | build | deploy | rollback
deriving DecidableEq

def PaasJobOperation.text : PaasJobOperation → String
  | .build => "build"
  | .deploy => "deploy"
  | .rollback => "rollback"

inductive PaasJobStatus
  | queued | running | cancelling | succeeded | failed | cancelled | timedOut
deriving DecidableEq

inductive PaasWorkerRole
  | builder | deployer
deriving DecidableEq

inductive PaasCancellationReason
  | user | deadline
deriving DecidableEq

structure PaasControlJob where
  id : String
  tenantId : String
  operation : PaasJobOperation
  resource : String
  sourceRevision : Option String
  artifactDigest : Option String
  status : PaasJobStatus
  workerRole : PaasWorkerRole
  idempotencyKey : String
  capabilityId : Option String
  createdAtEpochSeconds : ℤ
  updatedAtEpochSeconds : ℤ
  deadlineAtEpochSeconds : ℤ
  startedAtEpochSeconds : Option ℤ
  completedAtEpochSeconds : Option ℤ
  attempt : ℤ
  maxAttempts : ℤ
  lastErrorCode : Option String
  cancellationReason : Option PaasCancellationReason
  cleanupEvidence : Option String
  resultArtifactDigest : Option String
deriving DecidableEq

structure PaasDeploymentRecord where
  tenantId : String
  resource : String
  activeArtifactDigest : String
  previousArtifactDigests : List String
  generation : ℤ
  updatedAtEpochSeconds : ℤ
  sourceJobId : String
deriving DecidableEq

inductive PaasIdempotencyAction
  | enqueue | cancel
deriving DecidableEq

structure PaasIdempotencyRecord where
  action : PaasIdempotencyAction
  tenantId : String
  idempotencyKey : String
  fingerprint : String
  jobId : String
deriving DecidableEq

structure PaasCapabilityRedemption where
  capabilityId : String
  tenantId : String
  jobId : String
  redeemedAtEpochSeconds : ℤ
deriving DecidableEq

structure PaasControlState where
  apiVersion : String
  revision : ℤ
  lastScheduledTenant : Option String
  jobs : Record PaasControlJob
  tenantQueues : Record (List String)
  idempotency : Record PaasIdempotencyRecord
  redeemedCapabilities : Record PaasCapabilityRedemption
  resourceLocks : Record String
  deployments : Record PaasDeploymentRecord
deriving DecidableEq

structure PaasTenantQuota where
  tenantId : String
  maxConcurrentBuilds : ℕ
  maxConcurrentDeployments : ℕ
  maxExecutionMinutes : ℕ
deriving DecidableEq

structure PaasScheduling where
  maxGlobalConcurrency : ℕ
deriving DecidableEq

/-- The parts of the security intent the control state is checked against. -/
structure PaasSecurityIntent where
  tenants : List PaasTenantQuota
  scheduling : PaasScheduling
deriving DecidableEq

def paasControlStateApiVersion : String := "security.deus.dev/paas-control-state/v1alpha1"

def createPaasControlState (intent : PaasSecurityIntent) : PaasControlState where
  apiVersion := paasControlStateApiVersion
  revision := 0
  lastScheduledTenant := none
  jobs := Record.empty
  tenantQueues := Record.fromEntries (intent.tenants.map fun tenant => (tenant.tenantId, []))
  idempotency := Record.empty
  redeemedCapabilities := Record.empty
  resourceLocks := Record.empty
  deployments := Record.empty

/-! ## Keys, formats and active jobs -/

def stateKey (rt : Runtime) (parts : List String) : String :=
  rt.sha256 (jsonStringify (.array (parts.map .string)))

def resourceKey (rt : Runtime) (tenantId resource : String) : String :=
  stateKey rt ["resource", tenantId, resource]

/-- `/^[a-z0-9](?:[a-z0-9.-]{0,61}[a-z0-9])?$/` -/
def isJobId (s : String) : Bool :=
  Pattern.fullMatch (.seq (.cls isLowerAlnum) (.opt
    (.seq (.upTo (fun c => isLowerAlnum c || c == '.' || c == '-') 61) (.cls isLowerAlnum)))) s

/-- `/^[a-f0-9]{40,64}$/` -/
def isSourceRevision (s : String) : Bool :=
  Pattern.fullMatch (.seq (.exactly isHex 40) (.upTo isHex 24)) s

/-- `/^sha256:[a-f0-9]{64}$/`, on a text that may be missing. -/
def validDigest (value : Option String) : Bool :=
  value.any fun s => Pattern.fullMatch (.seq (.lit "sha256:") (.exactly isHex 64)) s

def boundedResource (value : String) : Bool := hasText value && !includes value "*"

def validEpoch (value : ℤ) : Bool := decide (0 ≤ value) && decide (value < infinity)

/-- `validEpoch` of a time that may be missing. -/
def knownEpoch (value : Option ℤ) : Bool := value.any validEpoch

def isActive (job : PaasControlJob) : Bool := job.status == .running || job.status == .cancelling

def isTerminal (job : PaasControlJob) : Bool :=
  [PaasJobStatus.succeeded, .failed, .cancelled, .timedOut].contains job.status

/-- A job whose quota is the tenant's builds, or its deployments. -/
def isActiveBuild (tenantId : String) (job : PaasControlJob) : Bool :=
  isActive job && job.tenantId == tenantId && job.operation == .build

def isActiveDeployment (tenantId : String) (job : PaasControlJob) : Bool :=
  isActive job && job.tenantId == tenantId && job.operation != .build

def activeJobs (state : PaasControlState) : List PaasControlJob := state.jobs.values.filter isActive

def PaasSecurityIntent.find (intent : PaasSecurityIntent) (tenantId : String) : Option PaasTenantQuota :=
  intent.tenants.find? fun candidate => candidate.tenantId == tenantId

def PaasSecurityIntent.tenantIds (intent : PaasSecurityIntent) : List String :=
  intent.tenants.map fun tenant => tenant.tenantId

/-! ## The check -/

/-- `names.sort()`, on texts that are only compared afterwards. -/
def sortNames (names : List String) : List String := names.insertionSort fun a b => a ≤ b

def queueError (state : PaasControlState) (tenantId : String) (queue : List String) : Option String :=
  queue.findSome? fun jobId =>
    if (state.jobs.get? jobId).any fun job => job.tenantId == tenantId && job.status == .queued then none
    else some ("queue '" ++ tenantId ++ "' contains an invalid job '" ++ jobId ++ "'")

/-- The durable fields of a job that no clock has a part in. -/
def durableFields (jobKey : String) (job : PaasControlJob) : Bool :=
  jobKey == job.id && isJobId job.id && boundedResource job.resource && hasText job.idempotencyKey &&
    decide (0 ≤ job.attempt) && decide (1 ≤ job.maxAttempts) && decide (job.maxAttempts ≤ 5) &&
    (if job.operation = .build then isSourceRevision (job.sourceRevision.getD "") && job.workerRole == .builder
      else validDigest job.artifactDigest && job.workerRole == .deployer)

/-- The durable times of a job: they are in order, and its time is within the tenant's. -/
def durableTimes (tenant : PaasTenantQuota) (job : PaasControlJob) : Bool :=
  validEpoch job.createdAtEpochSeconds && validEpoch job.updatedAtEpochSeconds &&
    validEpoch job.deadlineAtEpochSeconds &&
    decide (job.createdAtEpochSeconds < job.deadlineAtEpochSeconds) &&
    decide (subNumber job.deadlineAtEpochSeconds job.createdAtEpochSeconds ≤
      mulNumber tenant.maxExecutionMinutes 60) &&
    decide (job.createdAtEpochSeconds ≤ job.updatedAtEpochSeconds)

def lifecycleTimes (job : PaasControlJob) : Bool :=
  (!isActive job || knownEpoch job.startedAtEpochSeconds) &&
    (!isTerminal job || knownEpoch job.completedAtEpochSeconds) &&
    (job.startedAtEpochSeconds.all fun t => decide (job.createdAtEpochSeconds ≤ t)) &&
    (job.completedAtEpochSeconds.all fun t => decide (job.createdAtEpochSeconds ≤ t))

def jobError (rt : Runtime) (state : PaasControlState) (intent : PaasSecurityIntent) (queuedIds : List String)
    (jobKey : String) (job : PaasControlJob) : Option String :=
  if !((intent.find job.tenantId).any fun tenant => durableFields jobKey job && durableTimes tenant job) then
    some ("job '" ++ job.id ++ "' has invalid durable fields")
  else if (job.status == .queued) != queuedIds.contains job.id then
    some ("job '" ++ job.id ++ "' queue membership does not match its status")
  else if !lifecycleTimes job then
    some ("job '" ++ job.id ++ "' lifecycle timestamps are incomplete")
  else if isActive job && state.resourceLocks.get? (resourceKey rt job.tenantId job.resource) != some job.id then
    some ("active job '" ++ job.id ++ "' does not own its resource lock")
  else none

def lockError (rt : Runtime) (state : PaasControlState) (lock jobId : String) : Option String :=
  if (state.jobs.get? jobId).any fun job => isActive job && resourceKey rt job.tenantId job.resource == lock
  then none
  else some ("resource lock '" ++ lock ++ "' does not reference its active job")

def quotaError (state : PaasControlState) (tenant : PaasTenantQuota) : Option String :=
  let active := (activeJobs state).filter fun job => job.tenantId == tenant.tenantId
  if tenant.maxConcurrentBuilds < (active.filter fun job => job.operation == .build).length ||
      tenant.maxConcurrentDeployments < (active.filter fun job => job.operation != .build).length then
    some ("tenant '" ++ tenant.tenantId ++ "' concurrency exceeds its quota")
  else none

def idempotencyError (rt : Runtime) (state : PaasControlState) (key : String)
    (record : PaasIdempotencyRecord) : Option String :=
  if ((state.jobs.get? record.jobId).any fun job => record.tenantId == job.tenantId) &&
      stateKey rt [record.tenantId, record.idempotencyKey] == key then none
  else some ("idempotency record references missing job '" ++ record.jobId ++ "'")

def redemptionError (rt : Runtime) (state : PaasControlState) (key : String)
    (redemption : PaasCapabilityRedemption) : Option String :=
  if ((state.jobs.get? redemption.jobId).any fun job => redemption.tenantId == job.tenantId) &&
      stateKey rt [redemption.capabilityId] == key then none
  else some ("capability redemption references missing job '" ++ redemption.jobId ++ "'")

/-- The job a deployment names is the one that put its artifact there. -/
def isSource (deployment : PaasDeploymentRecord) (sourceJob : PaasControlJob) : Bool :=
  sourceJob.status == .succeeded && sourceJob.tenantId == deployment.tenantId &&
    sourceJob.resource == deployment.resource && sourceJob.artifactDigest == some deployment.activeArtifactDigest

def deploymentError (rt : Runtime) (state : PaasControlState) (tenantIds : List String) (key : String)
    (deployment : PaasDeploymentRecord) : Option String :=
  if tenantIds.contains deployment.tenantId && boundedResource deployment.resource &&
      resourceKey rt deployment.tenantId deployment.resource == key &&
      validDigest (some deployment.activeArtifactDigest) &&
      (deployment.previousArtifactDigests.all fun artifact => validDigest (some artifact)) &&
      decide (deployment.previousArtifactDigests.length ≤ 20) &&
      !deployment.previousArtifactDigests.contains deployment.activeArtifactDigest &&
      deployment.previousArtifactDigests.dedup.length == deployment.previousArtifactDigests.length &&
      decide (1 ≤ deployment.generation) &&
      (state.jobs.get? deployment.sourceJobId).any (isSource deployment) then none
  else some ("deployment '" ++ key ++ "' has invalid durable fields")

/-- `some message` when `failed`. -/
def failWhen (failed : Bool) (message : String) : Option String := if failed then some message else none

def stateInvariantError (rt : Runtime) (state : PaasControlState) (intent : PaasSecurityIntent) : Option String :=
  let tenantIds := sortNames intent.tenantIds
  let queuedIds := state.tenantQueues.values.flatten
  failWhen (state.apiVersion != paasControlStateApiVersion || decide (state.revision < 0))
      "invalid API version or revision" <|>
    failWhen (jsonStringify (.array ((sortNames state.tenantQueues.keys).map .string)) !=
        jsonStringify (.array (tenantIds.map .string)))
      "tenant queues do not match the security intent" <|>
    failWhen (!state.lastScheduledTenant.all fun tenantId => tenantIds.contains tenantId)
      "last scheduled tenant is not declared" <|>
    failWhen (queuedIds.dedup.length != queuedIds.length)
      "a job appears in more than one queue position" <|>
    (state.tenantQueues.entries.findSome? fun e => queueError state e.1 e.2) <|>
    (state.jobs.entries.findSome? fun e => jobError rt state intent queuedIds e.1 e.2) <|>
    (state.resourceLocks.entries.findSome? fun e => lockError rt state e.1 e.2) <|>
    failWhen (decide (intent.scheduling.maxGlobalConcurrency < (activeJobs state).length))
      "global concurrency exceeds the security intent" <|>
    (intent.tenants.findSome? fun tenant => quotaError state tenant) <|>
    (state.idempotency.entries.findSome? fun e => idempotencyError rt state e.1 e.2) <|>
    (state.redeemedCapabilities.entries.findSome? fun e => redemptionError rt state e.1 e.2) <|>
    (state.deployments.entries.findSome? fun e => deploymentError rt state tenantIds e.1 e.2)

def assertPaasControlState (rt : Runtime) (state : PaasControlState) (intent : PaasSecurityIntent) :
    Except String Unit :=
  match stateInvariantError rt state intent with
  | some error => .error ("Invalid PaaS control state: " ++ error)
  | none => .ok ()

end SecureSaas.Paas
