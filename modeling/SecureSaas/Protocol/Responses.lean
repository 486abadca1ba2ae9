import SecureSaas.Protocol.Version

/-!
# Responses (`src/core/infrastructureControllerProtocol.ts`)

The server builds a response, the client parses it and checks it once more. The response to a
hello always passes; the responses to an operation repeat texts and numbers of the caller that
the builder does not check.

* `parseVersionResponse_toValue`, `parseOperationResponse_toValue`: which responses are parsed as they are.
* `negotiation_round_trip`: **the answer of a negotiation is.**
* `operation_round_trip_iff`: **when the answer to an operation is.**
-/

namespace SecureSaas.Protocol

open Js

/-! ## The response to a hello -/

def optionalText (o : Option String) : Value := o.elim .null .string

def InfrastructureControllerVersionDeprecation.toValue (d : InfrastructureControllerVersionDeprecation) : Value := .object [
  ("protocolVersion", .string d.protocolVersion),
  ("replacementProtocolVersion", .string d.replacementProtocolVersion),
  ("sunsetEpochSeconds", .number (.int d.sunsetEpochSeconds))]

def InfrastructureControllerVersionResponse.members (r : InfrastructureControllerVersionResponse) :
    List (String × Value) := [
  ("apiVersion", .string infrastructureControllerProtocolApiVersion),
  ("kind", .string "InfrastructureControllerVersionResponse"),
  ("requestId", .string r.requestId),
  ("compatible", .bool r.compatible),
  ("selectedProtocolVersion", optionalText r.selectedProtocolVersion),
  ("serverProtocolVersions", .array (r.serverProtocolVersions.map .string)),
  ("availableFeatures", .array (r.availableFeatures.map .string)),
  ("reasonCodes", .array (r.reasonCodes.map .string)),
  ("deprecation", r.deprecation.elim .null InfrastructureControllerVersionDeprecation.toValue)]

def InfrastructureControllerVersionResponse.toValue (r : InfrastructureControllerVersionResponse) : Value :=
  .object r.members

def parseVersionDeprecation (value : Value) (path : String) : Result InfrastructureControllerVersionDeprecation := do
  let root ← exactObject invalid value path ["protocolVersion", "replacementProtocolVersion", "sunsetEpochSeconds"]
  let version ← protocolVersion (Value.get root "protocolVersion") (path ++ ".protocolVersion")
  let replacement ← protocolVersion (Value.get root "replacementProtocolVersion") (path ++ ".replacementProtocolVersion")
  let sunset ← positiveInteger (Value.get root "sunsetEpochSeconds") (path ++ ".sunsetEpochSeconds")
  pure ⟨version, replacement, sunset⟩

/-- The checks on a deprecation that a response names. -/
def checkDeprecation (compatible : Bool) (selectedProtocolVersion : Option String) (serverProtocolVersions reasonCodes : List String) :
    Option InfrastructureControllerVersionDeprecation → Result Unit
  | none => pure ()
  | some deprecation => do
    validateDeprecation deprecation serverProtocolVersions
    ensure (!(compatible && selectedProtocolVersion ≠ some deprecation.protocolVersion))
      (invalid "versionResponse.deprecation must describe the selected version.")
    ensure (reasonCodes.contains "INFRA_PROTOCOL_DEPRECATED_VERSION" || reasonCodes.contains "INFRA_PROTOCOL_VERSION_SUNSET")
      (invalid "versionResponse.deprecation requires a deprecation reason code.")

def parseInfrastructureControllerVersionResponse (value : Value) : Result InfrastructureControllerVersionResponse := do
  let root ← exactObject invalid value "versionResponse" ["apiVersion", "kind", "requestId", "compatible",
    "selectedProtocolVersion", "serverProtocolVersions", "availableFeatures", "reasonCodes", "deprecation"]
  let compatible ← booleanValue (Value.get root "compatible") "versionResponse.compatible"
  let selectedProtocolVersion ← nullable protocolVersion (Value.get root "selectedProtocolVersion")
    "versionResponse.selectedProtocolVersion"
  let serverProtocolVersions ← nonEmptyUniqueTexts protocolVersion (Value.get root "serverProtocolVersions")
    "versionResponse.serverProtocolVersions"
  let availableFeatures ← uniqueTexts identifier (Value.get root "availableFeatures") "versionResponse.availableFeatures"
  let reasonCodes ← uniqueTexts reasonCode (Value.get root "reasonCodes") "versionResponse.reasonCodes"
  let deprecation ← nullable parseVersionDeprecation (Value.get root "deprecation") "versionResponse.deprecation"
  ensure (compatible == selectedProtocolVersion.isSome)
    (invalid "versionResponse.compatible must exactly match selection of a protocol version.")
  ensure (selectedProtocolVersion.all fun selected => serverProtocolVersions.contains selected)
    (invalid "versionResponse.selectedProtocolVersion must be advertised by the server.")
  ensure (compatible || !reasonCodes.isEmpty) (invalid "an incompatible version response requires a reason code.")
  checkDeprecation compatible selectedProtocolVersion serverProtocolVersions reasonCodes deprecation
  let _ ← literal invalid infrastructureControllerProtocolApiVersion (Value.get root "apiVersion") "versionResponse.apiVersion"
  let _ ← literal invalid "InfrastructureControllerVersionResponse" (Value.get root "kind") "versionResponse.kind"
  let requestId ← identifier (Value.get root "requestId") "versionResponse.requestId"
  pure { requestId, compatible, selectedProtocolVersion, serverProtocolVersions, availableFeatures, reasonCodes, deprecation }

/-- What the parser checks of a response. -/
structure InfrastructureControllerVersionResponse.Sound (r : InfrastructureControllerVersionResponse) : Prop where
  requestId : isIdentifier r.requestId = true
  selected : ∀ s, r.selectedProtocolVersion = some s → isProtocolVersion s = true ∧ s ∈ r.serverProtocolVersions
  versions : (∀ s ∈ r.serverProtocolVersions, isProtocolVersion s = true) ∧ r.serverProtocolVersions.Nodup ∧
    r.serverProtocolVersions ≠ []
  features : (∀ s ∈ r.availableFeatures, isIdentifier s = true) ∧ r.availableFeatures.Nodup
  reasons : (∀ s ∈ r.reasonCodes, isReasonCode s = true) ∧ r.reasonCodes.Nodup
  compatible : r.compatible = r.selectedProtocolVersion.isSome
  incompatible : r.compatible = false → r.reasonCodes ≠ []
  deprecation : ∀ d, r.deprecation = some d → d.Ok r.serverProtocolVersions ∧
    (r.compatible = true → r.selectedProtocolVersion = some d.protocolVersion) ∧
      ("INFRA_PROTOCOL_DEPRECATED_VERSION" ∈ r.reasonCodes ∨ "INFRA_PROTOCOL_VERSION_SUNSET" ∈ r.reasonCodes)

section
variable {request : InfrastructureControllerVersionRequest} {policy : InfrastructureControllerVersionPolicy} {now : ℤ}
  {response : InfrastructureControllerVersionResponse}

theorem parseVersionDeprecation_toValue {d : InfrastructureControllerVersionDeprecation} {versions : List String}
    (h : d.Ok versions) (path : String) : parseVersionDeprecation d.toValue path = .ok d := by
  have hkeys : exactObject invalid d.toValue path
      ["protocolVersion", "replacementProtocolVersion", "sunsetEpochSeconds"] = .ok _ := exactObject_keys rfl
  unfold parseVersionDeprecation
  simp only [hkeys, bind_ok, pure_ok, protocolVersion_ok, positiveInteger_ok, Except.ok.injEq, exists_eq_left',
    Value.get_cons, String.reduceEq, if_true, if_false]
  exact ⟨_, ⟨rfl, h.protocolVersion⟩, _, ⟨rfl, h.replacementProtocolVersion⟩, _, ⟨rfl, h.sunsetEpochSeconds⟩, rfl⟩

theorem nullable_null {α : Type} {check : Parser α} {path : String} : nullable check .null path = .ok none := rfl

theorem nullable_some {α : Type} {check : Parser α} {path : String} {v : Value} {a : α} (hv : v ≠ .null)
    (h : check v path = .ok a) : nullable check v path = .ok (some a) := by
  have hcheck : nullable check v path = (check v path).map some := by
    cases v <;> first | rfl | exact absurd rfl hv
  rw [hcheck, h]
  rfl

theorem checkDeprecation_ok (h : response.Sound) : checkDeprecation response.compatible response.selectedProtocolVersion
    response.serverProtocolVersions response.reasonCodes response.deprecation = .ok () := by
  cases hd : response.deprecation with
  | none => rfl
  | some d =>
    obtain ⟨hok, hselected, hreason⟩ := h.deprecation d hd
    unfold checkDeprecation
    simp only [bind_ok, validateDeprecation_ok, ensure_ok, exists_unit, Bool.or_eq_true, List.contains_iff_mem]
    refine ⟨hok, ?_, hreason⟩
    cases hcompatible : response.compatible with
    | false => rfl
    | true => simp [hselected hcompatible]

/-- **A sound response is parsed as it is.** -/
theorem parseVersionResponse_toValue (h : response.Sound) :
    parseInfrastructureControllerVersionResponse response.toValue = .ok response := by
  have hkeys : exactObject invalid response.toValue "versionResponse" ["apiVersion", "kind", "requestId", "compatible",
      "selectedProtocolVersion", "serverProtocolVersions", "availableFeatures", "reasonCodes", "deprecation"] =
      .ok response.members := exactObject_keys rfl
  have hselected : nullable protocolVersion (optionalText response.selectedProtocolVersion)
      "versionResponse.selectedProtocolVersion" = .ok response.selectedProtocolVersion := by
    cases hs : response.selectedProtocolVersion with
    | none => rfl
    | some s => exact nullable_some (by simp [optionalText]) (protocolVersion_ok.2 ⟨rfl, (h.selected s hs).1⟩)
  have hdeprecation : nullable parseVersionDeprecation
      (response.deprecation.elim .null InfrastructureControllerVersionDeprecation.toValue) "versionResponse.deprecation" =
        .ok response.deprecation := by
    cases hd : response.deprecation with
    | none => rfl
    | some d =>
      exact nullable_some (by simp [InfrastructureControllerVersionDeprecation.toValue])
        (parseVersionDeprecation_toValue (h.deprecation d hd).1 _)
  have hadvertised : (response.selectedProtocolVersion.all fun selected =>
      response.serverProtocolVersions.contains selected) = true := by
    rw [Option.all_eq_true]
    intro s hs
    exact List.contains_iff_mem.2 (h.selected s hs).2
  have hreasoned : (response.compatible || !response.reasonCodes.isEmpty) = true := by
    cases hcompatible : response.compatible with
    | true => rfl
    | false => simpa using h.incompatible hcompatible
  unfold parseInfrastructureControllerVersionResponse
  simp only [hkeys, bind_ok, pure_ok, checkedBoolean_ok, booleanValue, nonEmptyUniqueTexts_ok @protocolVersion_ok,
    uniqueTexts_ok @identifier_ok, uniqueTexts_ok @reasonCode_ok, ensure_ok, literal_ok, identifier_ok, Except.ok.injEq,
    exists_eq_left', exists_unit, InfrastructureControllerVersionResponse.members, Value.get_cons, String.reduceEq, if_true,
    if_false, beq_iff_eq]
  refine ⟨_, rfl, _, hselected, _, ⟨rfl, h.versions⟩, _, ⟨rfl, h.features⟩, _, ⟨rfl, h.reasons⟩, _, hdeprecation,
    h.compatible, hadvertised, hreasoned, checkDeprecation_ok h, ⟨_, rfl⟩, trivial, ⟨_, rfl⟩, trivial, _,
    ⟨rfl, h.requestId⟩, rfl⟩

theorem parseVersionRequest_id {value : Value} (h : parseInfrastructureControllerVersionRequest value = .ok request) :
    isIdentifier request.requestId = true := by
  unfold parseInfrastructureControllerVersionRequest at h
  simp only [bind_ok, pure_ok, identifier_ok] at h
  obtain ⟨root, -, _, -, _, -, requestId, ⟨-, hid⟩, _, -, _, -, rfl⟩ := h
  exact hid

/-- **Every answer to a hello passes the checks of the parser.** -/
theorem Answer.sound (hid : isIdentifier request.requestId = true) (hchecked : policy.Checked)
    (h : Answer request policy now response) : response.Sound := by
  have hreason : ∀ code ∈ ["INFRA_PROTOCOL_UNSUPPORTED_VERSION", "INFRA_PROTOCOL_REQUIRED_FEATURE_UNAVAILABLE",
      "INFRA_PROTOCOL_VERSION_SUNSET", "INFRA_PROTOCOL_DEPRECATED_VERSION"], isReasonCode code = true := by decide
  have hselected : ∀ {v : String}, Preferred request policy v → ∀ s, some v = some s →
      isProtocolVersion s = true ∧ s ∈ policy.supportedProtocolVersions := by
    rintro v hv s hs
    obtain rfl := Option.some.inj hs
    exact ⟨hchecked.versions.1 v hv.mem, hv.mem⟩
  have hnone : ∀ {α : Type} {p : α → Prop}, ∀ a, none = some a → p a := fun _ h => absurd h (by simp)
  cases h with
  | unsupported =>
    exact ⟨hid, hnone, hchecked.versions, hchecked.features, ⟨by simp [versionResponse, hreason], by simp [versionResponse]⟩,
      rfl, fun _ => List.cons_ne_nil _ _, hnone⟩
  | unavailable =>
    exact ⟨hid, hnone, hchecked.versions, hchecked.features, ⟨by simp [versionResponse, hreason], by simp [versionResponse]⟩,
      rfl, fun _ => List.cons_ne_nil _ _, hnone⟩
  | current hv =>
    exact ⟨hid, hselected hv, hchecked.versions, hchecked.features, ⟨by simp [versionResponse], by simp [versionResponse]⟩,
      rfl, fun h => absurd h (by simp [versionResponse]), hnone⟩
  | sunset hv hf hd hok =>
    refine ⟨hid, hnone, hchecked.versions, hchecked.features, ⟨by simp [versionResponse, hreason], by simp [versionResponse]⟩,
      rfl, fun _ => List.cons_ne_nil _ _, ?_⟩
    rintro d' hd'
    obtain rfl := Option.some.inj hd'
    exact ⟨hok, fun h => absurd h (by simp [versionResponse]), Or.inr List.mem_cons_self⟩
  | deprecated hv hf hd hok =>
    refine ⟨hid, hselected hv, hchecked.versions, hchecked.features,
      ⟨by simp [versionResponse, hreason], by simp [versionResponse]⟩, rfl, fun h => absurd h (by simp [versionResponse]), ?_⟩
    rintro d' hd'
    obtain rfl := Option.some.inj hd'
    exact ⟨hok, fun _ => congrArg some hd.holds.symm, Or.inl List.mem_cons_self⟩

end

/-- The part of an `InfrastructureOperationRequest` that its responses repeat. -/
structure InfrastructureOperationRequest where
  protocolVersion : String
  requestId : String
deriving DecidableEq

inductive InfrastructureOperationOutcome
  | accepted | rejected
deriving DecidableEq

namespace InfrastructureOperationOutcome

def text : InfrastructureOperationOutcome → String
  | .accepted => "accepted"
  | .rejected => "rejected"

def all : List InfrastructureOperationOutcome := [.accepted, .rejected]

theorem text_injective : Function.Injective text := by
  intro a b h
  cases a <;> cases b <;> first | rfl | exact absurd h (by decide)

theorem mem_all (a : InfrastructureOperationOutcome) : a ∈ all := by
  cases a <;> decide

end InfrastructureOperationOutcome

structure InfrastructureOperationResponse where
  protocolVersion : String
  requestId : String
  outcome : InfrastructureOperationOutcome
  operationId : Option String
  reasonCodes : List String
  retryAfterSeconds : Option ℤ
deriving DecidableEq

def InfrastructureOperationResponse.members (r : InfrastructureOperationResponse) : List (String × Value) := [
  ("apiVersion", .string infrastructureControllerProtocolApiVersion),
  ("kind", .string "InfrastructureOperationResponse"),
  ("protocolVersion", .string r.protocolVersion),
  ("requestId", .string r.requestId),
  ("outcome", .string r.outcome.text),
  ("operationId", optionalText r.operationId),
  ("reasonCodes", .array (r.reasonCodes.map .string)),
  ("retryAfterSeconds", r.retryAfterSeconds.elim .null fun seconds => .number (.int seconds))]

def InfrastructureOperationResponse.toValue (r : InfrastructureOperationResponse) : Value := .object r.members

/-- `INFRASTRUCTURE_PROTOCOL_REASON_CODES[code].retryable`; an inherited key has no such property. -/
def isRetryable (code : String) : Bool :=
  ["INFRA_PROTOCOL_DEADLINE_EXCEEDED", "INFRA_PROTOCOL_CURSOR_EXPIRED", "INFRA_PROTOCOL_PROVIDER_UNAVAILABLE",
    "INFRA_PROTOCOL_INTERNAL"].contains code

def acceptInfrastructureOperation (request : InfrastructureOperationRequest) (operationId : String) :
    Result InfrastructureOperationResponse := do
  let operationId ← identifier (.string operationId) "operationId"
  pure {
    protocolVersion := request.protocolVersion
    requestId := request.requestId
    outcome := .accepted
    operationId := some operationId
    reasonCodes := []
    retryAfterSeconds := none }

/-- `!Number.isInteger(retryAfterSeconds) || retryAfterSeconds < 1`, where it is not null. -/
def positiveOrNull : Option Number → Result (Option ℤ)
  | none => pure none
  | some (.int seconds) => do
    ensure (decide (1 ≤ seconds)) (invalid "retryAfterSeconds must be a positive integer or null.")
    pure (some seconds)
  | some _ => .error (invalid "retryAfterSeconds must be a positive integer or null.")

def rejectInfrastructureOperation (request : InfrastructureOperationRequest) (reasonCodes : List String)
    (retryAfterSeconds : Option Number) : Result InfrastructureOperationResponse := do
  let reasons ← nonEmptyUniqueTexts reasonCode (.array (reasonCodes.map .string)) "reasonCodes"
  let retryAfterSeconds ← positiveOrNull retryAfterSeconds
  ensure (retryAfterSeconds.isNone || reasons.any isRetryable)
    (invalid "retryAfterSeconds requires at least one retryable reason code.")
  let version ← protocolVersion (.string request.protocolVersion) "operationResponse.protocolVersion"
  let requestId ← identifier (.string request.requestId) "operationResponse.requestId"
  pure {
    protocolVersion := version
    requestId := requestId
    outcome := .rejected
    operationId := none
    reasonCodes := reasons
    retryAfterSeconds := retryAfterSeconds }

/-- The fields that an outcome goes with. -/
def checkOutcome (operationId : Option String) (reasonCodes : List String) (retryAfterSeconds : Option ℤ) :
    InfrastructureOperationOutcome → Result Unit
  | .accepted =>
    ensure (operationId.isSome && reasonCodes.isEmpty && retryAfterSeconds.isNone)
      (invalid "an accepted operation requires an operation ID and no rejection metadata.")
  | .rejected => do
    ensure (operationId.isNone && !reasonCodes.isEmpty)
      (invalid "a rejected operation requires reason codes and no operation ID.")
    ensure (retryAfterSeconds.isNone || reasonCodes.any isRetryable)
      (invalid "operationResponse.retryAfterSeconds requires a retryable reason code.")

def parseInfrastructureOperationResponse (value : Value) : Result InfrastructureOperationResponse := do
  let root ← exactObject invalid value "operationResponse" ["apiVersion", "kind", "protocolVersion", "requestId", "outcome",
    "operationId", "reasonCodes", "retryAfterSeconds"]
  let outcome ← enumeration invalid InfrastructureOperationOutcome.text InfrastructureOperationOutcome.all
    (Value.get root "outcome") "operationResponse.outcome"
  let operationId ← nullable identifier (Value.get root "operationId") "operationResponse.operationId"
  let reasonCodes ← uniqueTexts reasonCode (Value.get root "reasonCodes") "operationResponse.reasonCodes"
  let retryAfterSeconds ← nullable positiveInteger (Value.get root "retryAfterSeconds") "operationResponse.retryAfterSeconds"
  ensure (retryAfterSeconds.all fun seconds => decide (seconds ≤ 86400))
    (invalid "operationResponse.retryAfterSeconds must not exceed 86400.")
  checkOutcome operationId reasonCodes retryAfterSeconds outcome
  let _ ← literal invalid infrastructureControllerProtocolApiVersion (Value.get root "apiVersion")
    "operationResponse.apiVersion"
  let _ ← literal invalid "InfrastructureOperationResponse" (Value.get root "kind") "operationResponse.kind"
  let version ← protocolVersion (Value.get root "protocolVersion") "operationResponse.protocolVersion"
  let requestId ← identifier (Value.get root "requestId") "operationResponse.requestId"
  pure { protocolVersion := version, requestId, outcome, operationId, reasonCodes, retryAfterSeconds }

/-- What the parser checks of a response. -/
structure InfrastructureOperationResponse.Sound (r : InfrastructureOperationResponse) : Prop where
  protocolVersion : isProtocolVersion r.protocolVersion = true
  requestId : isIdentifier r.requestId = true
  operationId : ∀ s, r.operationId = some s → isIdentifier s = true
  reasons : (∀ s ∈ r.reasonCodes, isReasonCode s = true) ∧ r.reasonCodes.Nodup
  retry : ∀ n, r.retryAfterSeconds = some n → 1 ≤ n ∧ n ≤ 86400
  outcome : checkOutcome r.operationId r.reasonCodes r.retryAfterSeconds r.outcome = .ok ()

section
variable {request : InfrastructureOperationRequest} {response : InfrastructureOperationResponse}

theorem outcome_ok {v : Value} {path : String} {a : InfrastructureOperationOutcome} :
    enumeration invalid InfrastructureOperationOutcome.text InfrastructureOperationOutcome.all v path = .ok a ↔
      v = .string a.text :=
  (enumeration_ok InfrastructureOperationOutcome.text_injective).trans
    (and_iff_left (InfrastructureOperationOutcome.mem_all a))

theorem nullableIdentifier_ok {v : Value} {path : String} {o : Option String} :
    nullable identifier v path = .ok o ↔ v = optionalText o ∧ ∀ s, o = some s → isIdentifier s = true :=
  nullable_ok (g := .string) (fun _ h => by cases h) fun _ _ => identifier_ok

theorem nullableSeconds_ok {v : Value} {path : String} {o : Option ℤ} : nullable positiveInteger v path = .ok o ↔
    v = o.elim .null (fun n => .number (.int n)) ∧ ∀ n, o = some n → 1 ≤ n ∧ n ≤ maxSafeInteger :=
  nullable_ok (g := fun n => .number (.int n)) (fun _ h => by cases h) fun _ _ => positiveInteger_ok

/-- **A response is parsed as it is just when it is sound.** -/
theorem parseOperationResponse_toValue :
    parseInfrastructureOperationResponse response.toValue = .ok response ↔ response.Sound := by
  have hkeys : exactObject invalid response.toValue "operationResponse" ["apiVersion", "kind", "protocolVersion",
      "requestId", "outcome", "operationId", "reasonCodes", "retryAfterSeconds"] = .ok response.members :=
    exactObject_keys rfl
  unfold parseInfrastructureOperationResponse
  simp only [hkeys, bind_ok, pure_ok, outcome_ok, nullableIdentifier_ok, uniqueTexts_ok @reasonCode_ok, nullableSeconds_ok,
    ensure_ok, literal_ok, protocolVersion_ok, identifier_ok, Except.ok.injEq, exists_eq_left', exists_unit,
    InfrastructureOperationResponse.members, Value.get_cons, String.reduceEq, if_true, if_false, Option.all_eq_true,
    decide_eq_true_eq]
  constructor
  · rintro ⟨outcome, -, operationId, ⟨-, hoperation⟩, reasons, ⟨-, hreasons⟩, retry, ⟨-, hretry⟩, hbound, houtcome, -, -, -,
      -, version, ⟨-, hversion⟩, requestId, ⟨-, hid⟩, rfl⟩
    exact ⟨hversion, hid, hoperation, hreasons, fun n hn => ⟨(hretry n hn).1, hbound n hn⟩, houtcome⟩
  · intro h
    refine ⟨_, rfl, _, ⟨rfl, h.operationId⟩, _, ⟨rfl, h.reasons⟩, _, ⟨rfl, fun n hn => ?_⟩, fun n hn => (h.retry n hn).2,
      h.outcome, ⟨_, rfl⟩, trivial, ⟨_, rfl⟩, trivial, _, ⟨rfl, h.protocolVersion⟩, _, ⟨rfl, h.requestId⟩, rfl⟩
    have hn := h.retry n hn
    unfold maxSafeInteger
    omega

theorem acceptInfrastructureOperation_ok {operationId : String} :
    acceptInfrastructureOperation request operationId = .ok response ↔ isIdentifier operationId = true ∧
      response = ⟨request.protocolVersion, request.requestId, .accepted, some operationId, [], none⟩ := by
  unfold acceptInfrastructureOperation
  simp only [bind_ok, pure_ok, identifier_ok, Value.string.injEq]
  constructor
  · rintro ⟨_, ⟨rfl, hid⟩, rfl⟩
    exact ⟨hid, rfl⟩
  · rintro ⟨hid, rfl⟩
    exact ⟨_, ⟨rfl, hid⟩, rfl⟩

theorem positiveOrNull_ok {retry : Option Number} {seconds : Option ℤ} : positiveOrNull retry = .ok seconds ↔
    retry = seconds.map .int ∧ ∀ n, seconds = some n → 1 ≤ n := by
  rcases retry with _ | n
  · simp only [positiveOrNull, pure_ok]
    cases seconds <;> simp
  · cases n with
    | int n =>
      simp only [positiveOrNull, bind_ok, ensure_ok, exists_unit, pure_ok, decide_eq_true_eq]
      cases seconds <;> simp
      omega
    | _ => cases seconds <;> simp [positiveOrNull]

theorem rejectInfrastructureOperation_ok {reasonCodes : List String} {retryAfterSeconds : Option Number} :
    rejectInfrastructureOperation request reasonCodes retryAfterSeconds = .ok response ↔
      response = ⟨request.protocolVersion, request.requestId, .rejected, none, reasonCodes, response.retryAfterSeconds⟩ ∧
      isProtocolVersion request.protocolVersion = true ∧ isIdentifier request.requestId = true ∧
      ((∀ s ∈ reasonCodes, isReasonCode s = true) ∧ reasonCodes.Nodup ∧ reasonCodes ≠ []) ∧
      retryAfterSeconds = response.retryAfterSeconds.map .int ∧ (∀ n, response.retryAfterSeconds = some n → 1 ≤ n) ∧
      (response.retryAfterSeconds.isNone || reasonCodes.any isRetryable) = true := by
  unfold rejectInfrastructureOperation
  simp only [bind_ok, pure_ok, nonEmptyUniqueTexts_ok @reasonCode_ok, positiveOrNull_ok, ensure_ok, exists_unit,
    protocolVersion_ok, identifier_ok, Value.string.injEq, Value.array.injEq]
  constructor
  · rintro ⟨reasons, ⟨heq, hreasons⟩, seconds, ⟨hseconds, hpos⟩, hretry, _, ⟨rfl, hversion⟩, _, ⟨rfl, hid⟩, rfl⟩
    obtain rfl := strings_injective heq
    exact ⟨rfl, hversion, hid, hreasons, hseconds, hpos, hretry⟩
  · rintro ⟨hresponse, hversion, hid, hreasons, hseconds, hpos, hretry⟩
    exact ⟨_, ⟨rfl, hreasons⟩, _, ⟨hseconds, hpos⟩, hretry, _, ⟨rfl, hversion⟩, _, ⟨rfl, hid⟩, hresponse.symm⟩

/-- An acceptance is parsed as it is when the texts it repeats are well formed. -/
theorem acceptance_round_trip {operationId : String}
    (h : acceptInfrastructureOperation request operationId = .ok response) :
    parseInfrastructureOperationResponse response.toValue = .ok response ↔
      isProtocolVersion request.protocolVersion = true ∧ isIdentifier request.requestId = true := by
  obtain ⟨hid, rfl⟩ := acceptInfrastructureOperation_ok.1 h
  rw [parseOperationResponse_toValue]
  constructor
  · intro hsound
    exact ⟨hsound.protocolVersion, hsound.requestId⟩
  · rintro ⟨hversion, hrequest⟩
    refine ⟨hversion, hrequest, fun s hs => ?_, ⟨by simp, List.nodup_nil⟩, nofun, rfl⟩
    obtain rfl := Option.some.inj hs
    exact hid

/-- A rejection is parsed as it is when its delay is at most a day. -/
theorem rejection_round_trip {reasonCodes : List String} {retryAfterSeconds : Option Number}
    (h : rejectInfrastructureOperation request reasonCodes retryAfterSeconds = .ok response) :
    parseInfrastructureOperationResponse response.toValue = .ok response ↔
      ∀ n, retryAfterSeconds = some (.int n) → n ≤ 86400 := by
  obtain ⟨hresponse, hversion, hid, ⟨hreasons, hnodup, hne⟩, hseconds, hpos, hretry⟩ :=
    rejectInfrastructureOperation_ok.1 h
  have hgiven : ∀ n, retryAfterSeconds = some (.int n) ↔ response.retryAfterSeconds = some n := by
    intro n
    rw [hseconds]
    cases response.retryAfterSeconds <;> simp
  have houtcome : checkOutcome none reasonCodes response.retryAfterSeconds .rejected = .ok () := by
    have hsome : reasonCodes.isEmpty = false := by simpa using hne
    simp only [checkOutcome, bind_ok, ensure_ok, exists_unit, hsome, hretry]
    exact ⟨rfl, trivial⟩
  rw [parseOperationResponse_toValue]
  constructor
  · intro hsound n hn
    exact (hsound.retry n ((hgiven n).1 hn)).2
  · intro hbound
    rw [hresponse]
    exact ⟨hversion, hid, by simp, ⟨hreasons, hnodup⟩, fun n hn => ⟨hpos n hn, hbound n ((hgiven n).2 hn)⟩, houtcome⟩

end

/-- **The answer to an operation is parsed as it is just when an acceptance repeats a version and a request id that are
well formed, and a rejection a delay of at most a day.** -/
theorem operation_round_trip_iff (request : InfrastructureOperationRequest) :
    (∀ operationId response, acceptInfrastructureOperation request operationId = .ok response →
      (parseInfrastructureOperationResponse response.toValue = .ok response ↔
        isProtocolVersion request.protocolVersion = true ∧ isIdentifier request.requestId = true)) ∧
    (∀ reasonCodes retryAfterSeconds response,
      rejectInfrastructureOperation request reasonCodes retryAfterSeconds = .ok response →
        (parseInfrastructureOperationResponse response.toValue = .ok response ↔
          ∀ n, retryAfterSeconds = some (.int n) → n ≤ 86400)) :=
  ⟨fun _ _ h => acceptance_round_trip h, fun _ _ _ h => rejection_round_trip h⟩

def operationRequest : InfrastructureOperationRequest := ⟨"2026-07-15", "request-1"⟩

/-- The delay of a rejection, for a provider that is away. -/
def unavailable (retryAfterSeconds : ℤ) : InfrastructureOperationResponse :=
  ⟨"2026-07-15", "request-1", .rejected, none, ["INFRA_PROTOCOL_PROVIDER_UNAVAILABLE"], some retryAfterSeconds⟩

theorem unavailable_rejected {retryAfterSeconds : ℤ} (h : 1 ≤ retryAfterSeconds) :
    rejectInfrastructureOperation operationRequest ["INFRA_PROTOCOL_PROVIDER_UNAVAILABLE"] (some (.int retryAfterSeconds)) =
      .ok (unavailable retryAfterSeconds) := by
  have hversion : isProtocolVersion "2026-07-15" = true := by decide +kernel
  refine rejectInfrastructureOperation_ok.2 ⟨rfl, hversion, by decide +kernel, ⟨by decide, by decide, by decide⟩, rfl, ?_, rfl⟩
  rintro n hn
  obtain rfl := Option.some.inj hn
  exact h

/-- An acceptance and a rejection for a day. -/
theorem operation_round_trip_sample :
    (∃ response, acceptInfrastructureOperation operationRequest "operation-1" = .ok response ∧
      parseInfrastructureOperationResponse response.toValue = .ok response) ∧
    (∃ response, rejectInfrastructureOperation operationRequest ["INFRA_PROTOCOL_PROVIDER_UNAVAILABLE"] (some (.int 86400)) =
      .ok response ∧ parseInfrastructureOperationResponse response.toValue = .ok response) := by
  have haccept := acceptInfrastructureOperation_ok.2 ⟨show isIdentifier "operation-1" = true by decide +kernel,
    (rfl : (_ : InfrastructureOperationResponse) = ⟨operationRequest.protocolVersion, operationRequest.requestId, _, _, _, _⟩)⟩
  have hreject := unavailable_rejected (show (1 : ℤ) ≤ 86400 by decide)
  have hiff := operation_round_trip_iff operationRequest
  refine ⟨⟨_, haccept, (hiff.1 _ _ haccept).2 ⟨by decide +kernel, by decide +kernel⟩⟩,
    ⟨_, hreject, (hiff.2 _ _ _ hreject).2 ?_⟩⟩
  rintro n hn
  obtain rfl := Number.int.inj (Option.some.inj hn)
  decide

/-- A delay of one second more is given out, and the client refuses the answer. -/
theorem long_delay_refused :
    rejectInfrastructureOperation operationRequest ["INFRA_PROTOCOL_PROVIDER_UNAVAILABLE"] (some (.int 86401)) =
      .ok (unavailable 86401) ∧
    parseInfrastructureOperationResponse (unavailable 86401).toValue ≠ .ok (unavailable 86401) := by
  have hreject := unavailable_rejected (show (1 : ℤ) ≤ 86401 by decide)
  refine ⟨hreject, fun h => ?_⟩
  have hbound := (rejection_round_trip hreject).1 h 86401 rfl
  omega

end SecureSaas.Protocol
