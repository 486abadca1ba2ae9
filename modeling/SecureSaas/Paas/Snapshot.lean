import SecureSaas.Js.Members
import SecureSaas.Js.Parse
import SecureSaas.Paas.Transitions

/-!
# Snapshots of the control state

A control state is stored as JSON, and a strict parser reads it back.

* `parsePaasControlState`: the parser, with the checks of single values it is made of.
* `PaasControlState.toValue`: the value that is stored.
-/

namespace SecureSaas.Paas

open Js

/-! ## Checks -/

/-- The UTF-16 code units of a text, by which `sort` orders. -/
def codeUnits (s : String) : List ℕ :=
  s.toList.flatMap fun c =>
    if c.toNat < 65536 then [c.toNat]
    else [0xd800 + (c.toNat - 65536) / 1024, 0xdc00 + (c.toNat - 65536) % 1024]

/-- `texts.sort()` -/
def sortTexts (texts : List String) : List String := texts.insertionSort fun a b => codeUnits a ≤ codeUnits b

def stateObject (value : Value) (path : String) (required optional : List String) :
    Except String (List (String × Value)) :=
  match value with
  | .object input =>
    let unknown := ((ownOrder input).map Prod.fst).filter fun key => !(required ++ optional).contains key
    let missing := required.filter fun key => !Value.has input key
    match sortTexts unknown, missing with
    | key :: _, _ => .error s!"{path} has unknown field '{key}'."
    | [], key :: _ => .error s!"{path} is missing required field '{key}'."
    | [], [] => .ok input
  | _ => .error s!"{path} must be an object."

def stateRecord {α : Type} (value : Value) (path : String) (parse : Check String α) : Except String (Record α) :=
  match value with
  | .object properties => do
    let entries ← (ownOrder properties).mapM fun p => do
      let entry ← parse p.2 s!"{path}.{p.1}"
      pure (p.1, entry)
    pure (Record.fromEntries entries)
  | _ => .error s!"{path} must be an object."

def stateString : Check String String := fun value path =>
  match value with
  | .string s => if hasText s then .ok s else .error s!"{path} must be a non-empty string."
  | _ => .error s!"{path} must be a non-empty string."

def statePattern (value : Value) (path : String) (pattern : String → Bool) : Except String String := do
  let parsed ← stateString value path
  throwUnless (pattern parsed) s!"{path} has an invalid format."
  pure parsed

/-- `/^[a-z0-9](?:[a-z0-9.-]*[a-z0-9])?$/` -/
def isStateName (s : String) : Bool :=
  Pattern.fullMatch (.seq (.cls isLowerAlnum) (.opt
    (.seq (.many fun c => isLowerAlnum c || c == '.' || c == '-') (.cls isLowerAlnum)))) s

/-- `/^sha256:[a-f0-9]{64}$/` -/
def isStateDigest (s : String) : Bool := validDigest (some s)

def stateName : Check String String := fun value path => statePattern value path isStateName

def stateJobId : Check String String := fun value path => statePattern value path isJobId

def stateResource : Check String String := fun value path => do
  let parsed ← stateString value path
  throwUnless (!includes parsed "*") s!"{path} must be an exact resource without wildcards."
  pure parsed

def stateInteger (value : Value) (path : String) (minimum : ℤ) : Except String ℤ :=
  match value with
  | .number (.int n) =>
    if minimum ≤ n then .ok n else .error s!"{path} must be an integer greater than or equal to {minimum}."
  | _ => .error s!"{path} must be an integer greater than or equal to {minimum}."

/-- The members of the enumeration are given by their texts. -/
def stateEnum {α : Type} (value : Value) (path : String) (text : α → String) (allowed : List α) :
    Except String α :=
  let error := path ++ " must be one of: " ++ ", ".intercalate (allowed.map text) ++ "."
  match value with
  | .string s =>
    match allowed.find? fun a => text a == s with
    | some a => .ok a
    | none => .error error
  | _ => .error error

def stateStringArray (value : Value) (path : String) (allowEmpty : Bool) (pattern : Option (String → Bool)) :
    Except String (List String) :=
  match value with
  | .array items => do
    throwUnless (allowEmpty || !items.isEmpty) s!"{path} must be an array."
    let parse : Check String String := fun entry path =>
      match pattern with
      | some pattern => statePattern entry path pattern
      | none => stateString entry path
    let parsed ← parseEntries parse path 0 items
    throwUnless (parsed.dedup.length == parsed.length) s!"{path} must not contain duplicates."
    pure parsed
  | _ => .error s!"{path} must be an array."

/-- A field that is not there stays unset. -/
def assignOptionalString (input : List (String × Value)) (field path : String) (pattern : Option (String → Bool)) :
    Except String (Option String) :=
  if Value.has input field then
    match pattern with
    | some pattern => some <$> statePattern (Value.get input field) s!"{path}.{field}" pattern
    | none => some <$> stateString (Value.get input field) s!"{path}.{field}"
  else pure none

def assignOptionalInteger (input : List (String × Value)) (field path : String) : Except String (Option ℤ) :=
  if Value.has input field then some <$> stateInteger (Value.get input field) s!"{path}.{field}" 0 else pure none

/-! ## The parser -/

def PaasJobStatus.text : PaasJobStatus → String
  | .queued => "queued"
  | .running => "running"
  | .cancelling => "cancelling"
  | .succeeded => "succeeded"
  | .failed => "failed"
  | .cancelled => "cancelled"
  | .timedOut => "timed-out"

def PaasWorkerRole.text : PaasWorkerRole → String
  | .builder => "builder"
  | .deployer => "deployer"

def PaasCancellationReason.text : PaasCancellationReason → String
  | .user => "user"
  | .deadline => "deadline"

def PaasIdempotencyAction.text : PaasIdempotencyAction → String
  | .enqueue => "enqueue"
  | .cancel => "cancel"

/-- The `if ("cancellationReason" in input)` of `parseStateJob`. -/
def assignCancellationReason (input : List (String × Value)) (path : String) :
    Except String (Option PaasCancellationReason) :=
  if Value.has input "cancellationReason" then
    some <$> stateEnum (Value.get input "cancellationReason") s!"{path}.cancellationReason"
      PaasCancellationReason.text [.user, .deadline]
  else pure none

def parseStateJob : Check String PaasControlJob := fun value path => do
  let input ← stateObject value path
    ["id", "tenantId", "operation", "resource", "status", "workerRole", "idempotencyKey", "createdAtEpochSeconds",
      "updatedAtEpochSeconds", "deadlineAtEpochSeconds", "attempt", "maxAttempts"]
    ["sourceRevision", "artifactDigest", "capabilityId", "startedAtEpochSeconds", "completedAtEpochSeconds",
      "lastErrorCode", "cancellationReason", "cleanupEvidence", "resultArtifactDigest"]
  let id ← stateJobId (Value.get input "id") s!"{path}.id"
  let tenantId ← stateName (Value.get input "tenantId") s!"{path}.tenantId"
  let operation ← stateEnum (Value.get input "operation") s!"{path}.operation" PaasJobOperation.text
    [.build, .deploy, .rollback]
  let resource ← stateResource (Value.get input "resource") s!"{path}.resource"
  let status ← stateEnum (Value.get input "status") s!"{path}.status" PaasJobStatus.text
    [.queued, .running, .cancelling, .succeeded, .failed, .cancelled, .timedOut]
  let workerRole ← stateEnum (Value.get input "workerRole") s!"{path}.workerRole" PaasWorkerRole.text
    [.builder, .deployer]
  let idempotencyKey ← stateString (Value.get input "idempotencyKey") s!"{path}.idempotencyKey"
  let createdAtEpochSeconds ←
    stateInteger (Value.get input "createdAtEpochSeconds") s!"{path}.createdAtEpochSeconds" 0
  let updatedAtEpochSeconds ←
    stateInteger (Value.get input "updatedAtEpochSeconds") s!"{path}.updatedAtEpochSeconds" 0
  let deadlineAtEpochSeconds ←
    stateInteger (Value.get input "deadlineAtEpochSeconds") s!"{path}.deadlineAtEpochSeconds" 0
  let attempt ← stateInteger (Value.get input "attempt") s!"{path}.attempt" 0
  let maxAttempts ← stateInteger (Value.get input "maxAttempts") s!"{path}.maxAttempts" 1
  let sourceRevision ← assignOptionalString input "sourceRevision" path (some isSourceRevision)
  let artifactDigest ← assignOptionalString input "artifactDigest" path (some isStateDigest)
  let capabilityId ← assignOptionalString input "capabilityId" path none
  let startedAtEpochSeconds ← assignOptionalInteger input "startedAtEpochSeconds" path
  let completedAtEpochSeconds ← assignOptionalInteger input "completedAtEpochSeconds" path
  let lastErrorCode ← assignOptionalString input "lastErrorCode" path none
  let cancellationReason ← assignCancellationReason input path
  let cleanupEvidence ← assignOptionalString input "cleanupEvidence" path none
  let resultArtifactDigest ← assignOptionalString input "resultArtifactDigest" path (some isStateDigest)
  pure { id, tenantId, operation, resource, sourceRevision, artifactDigest, status, workerRole, idempotencyKey,
         capabilityId, createdAtEpochSeconds, updatedAtEpochSeconds, deadlineAtEpochSeconds, startedAtEpochSeconds,
         completedAtEpochSeconds, attempt, maxAttempts, lastErrorCode, cancellationReason, cleanupEvidence,
         resultArtifactDigest }

def parseIdempotencyRecord : Check String PaasIdempotencyRecord := fun value path => do
  let input ← stateObject value path ["action", "tenantId", "idempotencyKey", "fingerprint", "jobId"] []
  let action ← stateEnum (Value.get input "action") s!"{path}.action" PaasIdempotencyAction.text [.enqueue, .cancel]
  let tenantId ← stateName (Value.get input "tenantId") s!"{path}.tenantId"
  let idempotencyKey ← stateString (Value.get input "idempotencyKey") s!"{path}.idempotencyKey"
  let fingerprint ← statePattern (Value.get input "fingerprint") s!"{path}.fingerprint" isHexDigest
  let jobId ← stateJobId (Value.get input "jobId") s!"{path}.jobId"
  pure { action, tenantId, idempotencyKey, fingerprint, jobId }

def parseCapabilityRedemption : Check String PaasCapabilityRedemption := fun value path => do
  let input ← stateObject value path ["capabilityId", "tenantId", "jobId", "redeemedAtEpochSeconds"] []
  let capabilityId ← stateString (Value.get input "capabilityId") s!"{path}.capabilityId"
  let tenantId ← stateName (Value.get input "tenantId") s!"{path}.tenantId"
  let jobId ← stateJobId (Value.get input "jobId") s!"{path}.jobId"
  let redeemedAtEpochSeconds ←
    stateInteger (Value.get input "redeemedAtEpochSeconds") s!"{path}.redeemedAtEpochSeconds" 0
  pure { capabilityId, tenantId, jobId, redeemedAtEpochSeconds }

def parseDeploymentRecord : Check String PaasDeploymentRecord := fun value path => do
  let input ← stateObject value path
    ["tenantId", "resource", "activeArtifactDigest", "previousArtifactDigests", "generation",
      "updatedAtEpochSeconds", "sourceJobId"] []
  let tenantId ← stateName (Value.get input "tenantId") s!"{path}.tenantId"
  let resource ← stateResource (Value.get input "resource") s!"{path}.resource"
  let activeArtifactDigest ←
    statePattern (Value.get input "activeArtifactDigest") s!"{path}.activeArtifactDigest" isStateDigest
  let previousArtifactDigests ←
    stateStringArray (Value.get input "previousArtifactDigests") s!"{path}.previousArtifactDigests" true
      (some isStateDigest)
  let generation ← stateInteger (Value.get input "generation") s!"{path}.generation" 1
  let updatedAtEpochSeconds ←
    stateInteger (Value.get input "updatedAtEpochSeconds") s!"{path}.updatedAtEpochSeconds" 0
  let sourceJobId ← stateJobId (Value.get input "sourceJobId") s!"{path}.sourceJobId"
  pure { tenantId, resource, activeArtifactDigest, previousArtifactDigests, generation, updatedAtEpochSeconds,
         sourceJobId }

def parsePaasControlState (rt : Runtime) (value : Value) (intent : PaasSecurityIntent) :
    Except String PaasControlState := do
  let root ← stateObject value "paasControlState"
    ["apiVersion", "revision", "lastScheduledTenant", "jobs", "tenantQueues", "idempotency", "redeemedCapabilities",
      "resourceLocks", "deployments"] []
  let apiVersion ← stateString (Value.get root "apiVersion") "apiVersion"
  throwUnless (apiVersion == paasControlStateApiVersion)
    s!"paasControlState.apiVersion must be '{paasControlStateApiVersion}'."
  let revision ← stateInteger (Value.get root "revision") "revision" 0
  let lastScheduledTenant ← nullable stateName (Value.get root "lastScheduledTenant") "lastScheduledTenant"
  let jobs ← stateRecord (Value.get root "jobs") "jobs" parseStateJob
  let tenantQueues ← stateRecord (Value.get root "tenantQueues") "tenantQueues"
    fun entry path => stateStringArray entry path true none
  let idempotency ← stateRecord (Value.get root "idempotency") "idempotency" parseIdempotencyRecord
  let redeemedCapabilities ←
    stateRecord (Value.get root "redeemedCapabilities") "redeemedCapabilities" parseCapabilityRedemption
  let resourceLocks ← stateRecord (Value.get root "resourceLocks") "resourceLocks" stateString
  let deployments ← stateRecord (Value.get root "deployments") "deployments" parseDeploymentRecord
  let state : PaasControlState :=
    { apiVersion, revision, lastScheduledTenant, jobs, tenantQueues, idempotency, redeemedCapabilities,
      resourceLocks, deployments }
  assertPaasControlState rt state intent
  pure state

/-! ## The stored value -/

/-- A number that is not finite is stored as `null`. -/
def numberValue (n : ℤ) : Value := if -infinity < n ∧ n < infinity then .number (.int n) else .null

def recordValue {α : Type} (write : α → Value) (r : Record α) : Value :=
  .object (r.entries.map fun p => (p.1, write p.2))

def PaasControlJob.members (job : PaasControlJob) : List (String × Value) :=
  [("id", .string job.id), ("tenantId", .string job.tenantId), ("operation", .string job.operation.text),
    ("resource", .string job.resource), ("status", .string job.status.text),
    ("workerRole", .string job.workerRole.text), ("idempotencyKey", .string job.idempotencyKey),
    ("createdAtEpochSeconds", numberValue job.createdAtEpochSeconds),
    ("updatedAtEpochSeconds", numberValue job.updatedAtEpochSeconds),
    ("deadlineAtEpochSeconds", numberValue job.deadlineAtEpochSeconds), ("attempt", numberValue job.attempt),
    ("maxAttempts", numberValue job.maxAttempts)]

def PaasControlJob.optionalMembers (job : PaasControlJob) : List (String × Option Value) :=
  [("sourceRevision", job.sourceRevision.map .string), ("artifactDigest", job.artifactDigest.map .string),
    ("capabilityId", job.capabilityId.map .string),
    ("startedAtEpochSeconds", job.startedAtEpochSeconds.map numberValue),
    ("completedAtEpochSeconds", job.completedAtEpochSeconds.map numberValue),
    ("lastErrorCode", job.lastErrorCode.map .string),
    ("cancellationReason", job.cancellationReason.map fun reason => .string reason.text),
    ("cleanupEvidence", job.cleanupEvidence.map .string),
    ("resultArtifactDigest", job.resultArtifactDigest.map .string)]

def PaasControlJob.toValue (job : PaasControlJob) : Value := .object (job.members ++ present job.optionalMembers)

def PaasIdempotencyRecord.toValue (record : PaasIdempotencyRecord) : Value :=
  .object [("action", .string record.action.text), ("tenantId", .string record.tenantId),
    ("idempotencyKey", .string record.idempotencyKey), ("fingerprint", .string record.fingerprint),
    ("jobId", .string record.jobId)]

def PaasCapabilityRedemption.toValue (redemption : PaasCapabilityRedemption) : Value :=
  .object [("capabilityId", .string redemption.capabilityId), ("tenantId", .string redemption.tenantId),
    ("jobId", .string redemption.jobId), ("redeemedAtEpochSeconds", numberValue redemption.redeemedAtEpochSeconds)]

def textsValue (texts : List String) : Value := .array (texts.map .string)

def PaasDeploymentRecord.toValue (deployment : PaasDeploymentRecord) : Value :=
  .object [("tenantId", .string deployment.tenantId), ("resource", .string deployment.resource),
    ("activeArtifactDigest", .string deployment.activeArtifactDigest),
    ("previousArtifactDigests", textsValue deployment.previousArtifactDigests),
    ("generation", numberValue deployment.generation),
    ("updatedAtEpochSeconds", numberValue deployment.updatedAtEpochSeconds),
    ("sourceJobId", .string deployment.sourceJobId)]

/-- The JSON value of a control state. -/
def PaasControlState.toValue (state : PaasControlState) : Value :=
  .object [("apiVersion", .string state.apiVersion), ("revision", numberValue state.revision),
    ("lastScheduledTenant", orNull state.lastScheduledTenant), ("jobs", recordValue PaasControlJob.toValue state.jobs),
    ("tenantQueues", recordValue textsValue state.tenantQueues),
    ("idempotency", recordValue PaasIdempotencyRecord.toValue state.idempotency),
    ("redeemedCapabilities", recordValue PaasCapabilityRedemption.toValue state.redeemedCapabilities),
    ("resourceLocks", recordValue .string state.resourceLocks),
    ("deployments", recordValue PaasDeploymentRecord.toValue state.deployments)]

end SecureSaas.Paas
