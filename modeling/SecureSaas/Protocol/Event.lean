import SecureSaas.Js.Parse
import SecureSaas.Js.Date
import SecureSaas.Js.Runtime

/-!
# Operation events (`src/core/infrastructureControllerProtocol.ts`)

The events of an infrastructure operation, their writer, their parser and the validator of a
page of events. An event hashes its own contents, with the digest of the event before it.
-/

namespace SecureSaas.Protocol

open Js

/-! ## Errors -/

structure InfrastructureProtocolError where
  reasonCode : String
  message : String
deriving DecidableEq

abbrev Result := Except InfrastructureProtocolError

def invalid (message : String) : InfrastructureProtocolError :=
  ⟨"INFRA_PROTOCOL_REQUEST_INVALID", message⟩

abbrev Parser (α : Type) := Check InfrastructureProtocolError α

/-! ## Field checks -/

def infrastructureControllerProtocolApiVersion : String :=
  "security.deus.dev/infrastructure-controller-protocol/v1alpha1"

/-- The keys of `INFRASTRUCTURE_PROTOCOL_REASON_CODES`. -/
def infrastructureProtocolReasonCodes : List String := [
  "INFRA_PROTOCOL_UNSUPPORTED_VERSION", "INFRA_PROTOCOL_REQUIRED_FEATURE_UNAVAILABLE",
  "INFRA_PROTOCOL_DEPRECATED_VERSION", "INFRA_PROTOCOL_VERSION_SUNSET",
  "INFRA_PROTOCOL_REQUEST_INVALID", "INFRA_PROTOCOL_AUTHENTICATION_REQUIRED",
  "INFRA_PROTOCOL_ORGANIZATION_DENIED", "INFRA_PROTOCOL_TENANT_DENIED",
  "INFRA_PROTOCOL_OPERATION_DENIED", "INFRA_PROTOCOL_CLAIM_CONFLICT",
  "INFRA_PROTOCOL_IDEMPOTENCY_CONFLICT", "INFRA_PROTOCOL_PLAN_REQUIRED",
  "INFRA_PROTOCOL_PLAN_STALE", "INFRA_PROTOCOL_APPROVAL_REQUIRED",
  "INFRA_PROTOCOL_DEADLINE_EXCEEDED", "INFRA_PROTOCOL_OPERATION_NOT_FOUND",
  "INFRA_PROTOCOL_CURSOR_INVALID", "INFRA_PROTOCOL_CURSOR_EXPIRED",
  "INFRA_PROTOCOL_CURSOR_SUBJECT_MISMATCH", "INFRA_PROTOCOL_PROVIDER_UNAVAILABLE",
  "INFRA_PROTOCOL_POLICY_DENIED", "INFRA_PROTOCOL_INTERNAL"]

/-- The keys that every object inherits; the `in` operator finds them too. -/
def objectPrototypeKeys : List String := [
  "__defineGetter__", "__defineSetter__", "__lookupGetter__", "__lookupSetter__", "__proto__",
  "constructor", "hasOwnProperty", "isPrototypeOf", "propertyIsEnumerable", "toLocaleString",
  "toString", "valueOf"]

/-- `value in INFRASTRUCTURE_PROTOCOL_REASON_CODES`. -/
def isReasonCode (s : String) : Bool :=
  infrastructureProtocolReasonCodes.contains s || objectPrototypeKeys.contains s

/-- `/^[A-Za-z0-9][A-Za-z0-9._:-]{0,127}$/`, without wildcard or traversal syntax. -/
def isIdentifier (s : String) : Bool :=
  open Pattern in
  fullMatch (seq (cls isAlnum)
      (upTo (fun c => isAlnum c || c == '.' || c == '_' || c == ':' || c == '-') 127)) s &&
    !includes s "*" && !includes s ".."

/-- `/^20[0-9]{2}-[0-9]{2}-[0-9]{2}$/`. -/
def isDateText (s : String) : Bool :=
  open Pattern in
  fullMatch (seq (lit "20") <| seq (exactly isDecimal 2) <| seq (lit "-") <| seq (exactly isDecimal 2) <|
    seq (lit "-") (exactly isDecimal 2)) s

/-- Midnight of the date exists, and its text starts with the date. -/
def isCalendarDate (s : String) : Bool :=
  match dateParse (s ++ "T00:00:00.000Z") with
  | some t => (isoString t).toList.take 10 == s.toList
  | none => false

/-- A string that passes a test, as a string. -/
def text (test : String → Bool) (message : String) : Parser String := fun value path =>
  (checkedText test (fun path => invalid (path ++ message)) value path).map Subtype.val

def identifier : Parser String := text isIdentifier " must be an exact identifier."

def protocolVersion : Parser String := fun value path => do
  let s ← text isDateText " must be a date-version in YYYY-MM-DD form." value path
  text isCalendarDate " must be a real calendar date." (.string s) path

def positiveInteger : Parser ℤ := fun value path =>
  (checkedInteger (fun n => decide (1 ≤ n))
    (fun path => invalid (path ++ " must be a positive safe integer.")) value path).map Subtype.val

def digest : Parser String := text isHexDigest " must be a lowercase SHA-256 digest."

def timestamp : Parser String := fun value path => do
  let s ← text (fun _ => true) " must be an RFC 3339 timestamp." value path
  text isCanonicalTimestamp " must be a canonical RFC 3339 timestamp." (.string s) path

def booleanValue : Parser Bool := checkedBoolean fun path => invalid (path ++ " must be a boolean.")

def reasonCode : Parser String :=
  text isReasonCode " is not a stable infrastructure protocol reason code."

/-- The items of an array without repetition, compared by their JSON texts. -/
def uniqueTexts (parse : Parser String) : Parser (List String) := fun value path =>
  (uniqueArray invalid parse (fun s => jsonStringify (.string s)) value path).map Subtype.val

/-! ## Data -/

inductive InfrastructureOperationPhase
  | accepted | planning | planned | reconciling | observing | cancelling | deleting
  | succeeded | failed | cancelled
deriving DecidableEq

namespace InfrastructureOperationPhase

def text : InfrastructureOperationPhase → String
  | .accepted => "accepted"
  | .planning => "planning"
  | .planned => "planned"
  | .reconciling => "reconciling"
  | .observing => "observing"
  | .cancelling => "cancelling"
  | .deleting => "deleting"
  | .succeeded => "succeeded"
  | .failed => "failed"
  | .cancelled => "cancelled"

def all : List InfrastructureOperationPhase :=
  [.accepted, .planning, .planned, .reconciling, .observing, .cancelling, .deleting, .succeeded, .failed,
    .cancelled]

/-- `["succeeded", "failed", "cancelled"].includes(phase)`. -/
def isTerminal : InfrastructureOperationPhase → Bool
  | .succeeded | .failed | .cancelled => true
  | _ => false

end InfrastructureOperationPhase

/-- The contents of an event. The literal members `apiVersion` and `kind`, the same for every
event, are in `members`. -/
structure EventWithoutDigest where
  protocolVersion : String
  operationId : String
  organizationId : String
  tenantId : String
  eventId : String
  sequence : ℤ
  phase : InfrastructureOperationPhase
  terminal : Bool
  generation : ℤ
  desiredStateDigest : String
  occurredAt : String
  reasonCodes : List String
  previousEventDigest : Option String
deriving DecidableEq

structure InfrastructureOperationEvent extends EventWithoutDigest where
  eventDigest : String
deriving DecidableEq

/-- An input of the writer but for the event it is to follow. -/
structure EventDraft where
  protocolVersion : String
  operationId : String
  organizationId : String
  tenantId : String
  eventId : String
  sequence : ℤ
  phase : InfrastructureOperationPhase
  generation : ℤ
  desiredStateDigest : String
  occurredAt : String
  reasonCodes : List String
deriving DecidableEq

structure InfrastructureOperationEventInput extends EventDraft where
  previousEvent : Option InfrastructureOperationEvent
deriving DecidableEq

def EventWithoutDigest.members (e : EventWithoutDigest) : List (String × Value) := [
  ("apiVersion", .string infrastructureControllerProtocolApiVersion),
  ("kind", .string "InfrastructureOperationEvent"),
  ("protocolVersion", .string e.protocolVersion),
  ("operationId", .string e.operationId),
  ("organizationId", .string e.organizationId),
  ("tenantId", .string e.tenantId),
  ("eventId", .string e.eventId),
  ("sequence", .number (.int e.sequence)),
  ("phase", .string e.phase.text),
  ("terminal", .bool e.terminal),
  ("generation", .number (.int e.generation)),
  ("desiredStateDigest", .string e.desiredStateDigest),
  ("occurredAt", .string e.occurredAt),
  ("reasonCodes", .array (e.reasonCodes.map .string)),
  ("previousEventDigest", e.previousEventDigest.elim .null .string)]

def InfrastructureOperationEvent.toValue (e : InfrastructureOperationEvent) : Value :=
  .object (e.members ++ [("eventDigest", .string e.eventDigest)])

/-- `canonicalJson(eventWithoutDigest)`. -/
def EventWithoutDigest.canonicalText (rt : Runtime) (e : EventWithoutDigest) : String :=
  String.ofList (textWith rt.sortedStyle (.object e.members))

/-- `sha256(canonicalJson(eventWithoutDigest))`. -/
def EventWithoutDigest.digest (rt : Runtime) (e : EventWithoutDigest) : String :=
  rt.sha256 (e.canonicalText rt)

/-! ## The writer -/

variable (rt : Runtime)

/-- The operation, its owner and its desired state, which a chain of events never changes. -/
def EventWithoutDigest.SameSubject (e : EventWithoutDigest)
    (operationId organizationId tenantId : String) (generation : ℤ) (desiredStateDigest : String) : Prop :=
  e.operationId = operationId ∧ e.organizationId = organizationId ∧ e.tenantId = tenantId ∧
    e.generation = generation ∧ e.desiredStateDigest = desiredStateDigest

instance (e : EventWithoutDigest) (operationId organizationId tenantId : String) (generation : ℤ)
    (desiredStateDigest : String) :
    Decidable (e.SameSubject operationId organizationId tenantId generation desiredStateDigest) := by
  unfold EventWithoutDigest.SameSubject
  infer_instance

/-- The checks of a draft against the event it is to follow. -/
def followsPrevious (input : InfrastructureOperationEventInput) (sequence : ℤ) : Result Unit := do
  ensure (!(sequence == 1 && input.previousEvent.isSome))
    (invalid "the first event must not declare a previous event.")
  if sequence > 1 then
    match input.previousEvent with
    | none => .error (invalid "an event must follow the immediately preceding sequence.")
    | some previous => do
      ensure (previous.sequence == sequence - 1)
        (invalid "an event must follow the immediately preceding sequence.")
      ensure (decide (previous.SameSubject input.operationId input.organizationId input.tenantId
          input.generation input.desiredStateDigest))
        (invalid "an event chain must not change its operation subject.")
      ensure (!previous.terminal) (invalid "a terminal event cannot be followed.")
  else .ok ()

def createInfrastructureOperationEvent (input : InfrastructureOperationEventInput) :
    Result InfrastructureOperationEvent := do
  let phase ← enumeration invalid InfrastructureOperationPhase.text InfrastructureOperationPhase.all
    (.string input.phase.text) "event.phase"
  let terminal := phase.isTerminal
  let reasons ← uniqueTexts reasonCode (.array (input.reasonCodes.map .string)) "event.reasonCodes"
  ensure (!(phase == .failed && reasons.isEmpty))
    (invalid "failed events require at least one reason code.")
  ensure (!(phase != .failed && !reasons.isEmpty)) (invalid "only failed events may contain reason codes.")
  let sequence ← positiveInteger (.number (.int input.sequence)) "event.sequence"
  followsPrevious input sequence
  let protocolVersion ← protocolVersion (.string input.protocolVersion) "event.protocolVersion"
  let operationId ← identifier (.string input.operationId) "event.operationId"
  let organizationId ← identifier (.string input.organizationId) "event.organizationId"
  let tenantId ← identifier (.string input.tenantId) "event.tenantId"
  let eventId ← identifier (.string input.eventId) "event.eventId"
  let generation ← positiveInteger (.number (.int input.generation)) "event.generation"
  let desiredStateDigest ← digest (.string input.desiredStateDigest) "event.desiredStateDigest"
  let occurredAt ← timestamp (.string input.occurredAt) "event.occurredAt"
  let eventWithoutDigest : EventWithoutDigest :=
    { protocolVersion, operationId, organizationId, tenantId, eventId, sequence, phase, terminal,
      generation, desiredStateDigest, occurredAt, reasonCodes := reasons,
      previousEventDigest := input.previousEvent.map fun e => e.eventDigest }
  pure { eventWithoutDigest with eventDigest := eventWithoutDigest.digest rt }

/-- Writes a sequence of drafts, each with the event written before it. -/
def createInfrastructureOperationEvents (previous : Option InfrastructureOperationEvent) :
    List EventDraft → Result (List InfrastructureOperationEvent)
  | [] => .ok []
  | draft :: drafts => do
    let event ← createInfrastructureOperationEvent rt { draft with previousEvent := previous }
    let events ← createInfrastructureOperationEvents (some event) drafts
    pure (event :: events)

/-! ## The validator -/

def parseOperationEvent (value : Value) (index : ℕ) : Result InfrastructureOperationEvent := do
  let path := s!"events[{index}]"
  let root ← exactObject invalid value path ["apiVersion", "kind", "protocolVersion", "operationId",
    "organizationId", "tenantId", "eventId", "sequence", "phase", "terminal", "generation",
    "desiredStateDigest", "occurredAt", "reasonCodes", "previousEventDigest", "eventDigest"]
  let phase ← enumeration invalid InfrastructureOperationPhase.text InfrastructureOperationPhase.all
    (Value.get root "phase") (path ++ ".phase")
  let terminal ← booleanValue (Value.get root "terminal") (path ++ ".terminal")
  let reasonCodes ← uniqueTexts reasonCode (Value.get root "reasonCodes") (path ++ ".reasonCodes")
  ensure (terminal == phase.isTerminal) (invalid (path ++ ".terminal does not match its phase."))
  ensure ((phase == .failed) == !reasonCodes.isEmpty)
    (invalid (path ++ ".reasonCodes do not match its phase."))
  let _ ← literal invalid infrastructureControllerProtocolApiVersion (Value.get root "apiVersion")
    (path ++ ".apiVersion")
  let _ ← literal invalid "InfrastructureOperationEvent" (Value.get root "kind") (path ++ ".kind")
  let protocolVersion ← protocolVersion (Value.get root "protocolVersion") (path ++ ".protocolVersion")
  let operationId ← identifier (Value.get root "operationId") (path ++ ".operationId")
  let organizationId ← identifier (Value.get root "organizationId") (path ++ ".organizationId")
  let tenantId ← identifier (Value.get root "tenantId") (path ++ ".tenantId")
  let eventId ← identifier (Value.get root "eventId") (path ++ ".eventId")
  let sequence ← positiveInteger (Value.get root "sequence") (path ++ ".sequence")
  let generation ← positiveInteger (Value.get root "generation") (path ++ ".generation")
  let desiredStateDigest ← digest (Value.get root "desiredStateDigest") (path ++ ".desiredStateDigest")
  let occurredAt ← timestamp (Value.get root "occurredAt") (path ++ ".occurredAt")
  let previousEventDigest ← nullable digest (Value.get root "previousEventDigest")
    (path ++ ".previousEventDigest")
  let parsedWithoutDigest : EventWithoutDigest :=
    { protocolVersion, operationId, organizationId, tenantId, eventId, sequence, phase, terminal,
      generation, desiredStateDigest, occurredAt, reasonCodes, previousEventDigest }
  let eventDigest ← digest (Value.get root "eventDigest") (path ++ ".eventDigest")
  ensure (eventDigest == parsedWithoutDigest.digest rt)
    (invalid (path ++ ".eventDigest does not match the event contents."))
  pure { parsedWithoutDigest with eventDigest }

/-- `values.map(parseOperationEvent)`, from `index` on. -/
def parseOperationEvents : ℕ → List Value → Result (List InfrastructureOperationEvent)
  | _, [] => .ok []
  | index, value :: rest => do
    let event ← parseOperationEvent rt value index
    let events ← parseOperationEvents (index + 1) rest
    pure (event :: events)

/-- The loop of `validateInfrastructureOperationEvents`, with what it expects of the next event. -/
def validateChain (expectedSequence : ℤ) (expectedPrevious : Option String)
    (prior : Option InfrastructureOperationEvent) : List InfrastructureOperationEvent → Result Unit
  | [] => .ok ()
  | event :: rest => do
    ensure (event.sequence == expectedSequence)
      (invalid s!"event sequence {event.sequence} is not {expectedSequence}.")
    ensure (event.previousEventDigest == expectedPrevious)
      (invalid s!"event {event.sequence} has an invalid previous-event digest.")
    match prior with
    | none => .ok ()
    | some prior =>
      ensure (!prior.terminal && decide (prior.SameSubject event.operationId event.organizationId
          event.tenantId event.generation event.desiredStateDigest))
        (invalid s!"event {event.sequence} breaks the operation event chain.")
    validateChain (expectedSequence + 1) (some event.eventDigest) (some event) rest

/-- The options of the validator; without them it expects a first page. -/
structure ValidationOptions where
  expectedFirstSequence : Option ℤ
  expectedPreviousEventDigest : Option String

def ValidationOptions.fromStart : ValidationOptions := ⟨none, none⟩

def validateInfrastructureOperationEvents (values : List Value) (options : ValidationOptions) :
    Result (List InfrastructureOperationEvent) := do
  ensure (!values.isEmpty) (invalid "an operation event page must contain at least one event.")
  let parsed ← parseOperationEvents rt 0 values
  validateChain (options.expectedFirstSequence.getD 1) options.expectedPreviousEventDigest none parsed
  pure parsed

end SecureSaas.Protocol
