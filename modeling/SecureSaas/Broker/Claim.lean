import SecureSaas.Js.Runtime
import SecureSaas.Js.Date

/-!
# Resource claims: data and field checks (`src/core/resourceBroker.ts`)

The request, state, lease and record types of the resource broker, the JavaScript values
they are, and the checks of single fields. A check throws with the path of the field it
rejects.
-/

namespace SecureSaas.Broker

open Js

/-! ## Data -/

def resourceClaimApiVersion : String := "security.deus.dev/resource-broker/v1alpha1"
def resourceBrokerStateApiVersion : String := "security.deus.dev/resource-broker-state/v1alpha1"

inductive ResourceClaimPhase
  | pending | reconciling | available | failed | drifted | cancelling | cancelled | deleting | deleted
deriving DecidableEq

def ResourceClaimPhase.text : ResourceClaimPhase → String
  | .pending => "pending"
  | .reconciling => "reconciling"
  | .available => "available"
  | .failed => "failed"
  | .drifted => "drifted"
  | .cancelling => "cancelling"
  | .cancelled => "cancelled"
  | .deleting => "deleting"
  | .deleted => "deleted"

def ResourceClaimPhase.all : List ResourceClaimPhase :=
  [.pending, .reconciling, .available, .failed, .drifted, .cancelling, .cancelled, .deleting, .deleted]

structure ResourceClaimLifecycle where
  deletionProtection : Bool
  destructionApprovalRequired : Bool
  finalizationEvidenceRequired : Bool
  maxReconcileAttempts : ℤ
deriving DecidableEq

structure ResourceClaimRequest where
  apiVersion : String
  kind : String
  claimId : String
  tenantId : String
  generation : ℤ
  resourceKind : String
  resourceApiVersion : String
  desiredStateDigest : String
  desiredStateRef : String
  requiredProviderCapabilities : List String
  lifecycle : ResourceClaimLifecycle
deriving DecidableEq

inductive OutputKind
  | reference | value
deriving DecidableEq

def OutputKind.text : OutputKind → String
  | .reference => "reference"
  | .value => "value"

/-- `string | number | boolean`. -/
inductive Scalar
  | string (s : String)
  | number (n : Number)
  | bool (b : Bool)
deriving DecidableEq

structure ResourceBrokerOutput where
  name : String
  kind : OutputKind
  value : Scalar
deriving DecidableEq

structure ResourceProviderLease where
  providerId : String
  generation : ℤ
  fenceToken : String
  attempt : ℤ
  acquiredAt : String
  expiresAt : String
deriving DecidableEq

structure ResourceClaimFailure where
  code : String
  message : String
  retryable : Bool
  attempt : ℤ
  occurredAt : String
deriving DecidableEq

structure ResourceClaimDrift where
  observedStateDigest : String
  detectedAt : String
deriving DecidableEq

structure ResourceClaimDeletion where
  requestedAt : String
  requestedBy : String
  approvalEvidenceRef : String
  finalizationEvidenceRef : String
deriving DecidableEq

structure ResourceClaimCancellation where
  requestedAt : String
  requestedBy : String
  cleanupEvidenceRef : Option String
deriving DecidableEq

structure ResourceClaimState extends ResourceClaimRequest where
  phase : ResourceClaimPhase
  observedGeneration : ℤ
  providerResourceRef : Option String
  outputs : List ResourceBrokerOutput
  lease : Option ResourceProviderLease
  failure : Option ResourceClaimFailure
  drift : Option ResourceClaimDrift
  deletion : Option ResourceClaimDeletion
  cancellation : Option ResourceClaimCancellation
deriving DecidableEq

inductive BrokerMutationOperation
  | apply | cancel | delete
deriving DecidableEq

def BrokerMutationOperation.text : BrokerMutationOperation → String
  | .apply => "claim.apply"
  | .cancel => "claim.cancel"
  | .delete => "claim.delete"

structure ResourceBrokerIdempotencyRecord where
  tenantId : String
  operation : BrokerMutationOperation
  claimId : String
  key : String
  payloadDigest : String
  capabilityId : String
  committedRevision : ℤ
deriving DecidableEq

structure ResourceBrokerState where
  apiVersion : String
  revision : ℤ
  claims : List ResourceClaimState
  idempotencyRecords : List ResourceBrokerIdempotencyRecord
  redeemedCapabilityIds : List String
deriving DecidableEq

def createResourceBrokerState : ResourceBrokerState where
  apiVersion := resourceBrokerStateApiVersion
  revision := 0
  claims := []
  idempotencyRecords := []
  redeemedCapabilityIds := []

/-! ## As JavaScript values -/

def int (n : ℤ) : Value := .number (.int n)

def strings (l : List String) : Value := .array (l.map .string)

/-- An optional member; an absent one holds `undefined`. -/
def optional {α : Type} (f : α → Value) : Option α → Value
  | none => .undefined
  | some a => f a

def ResourceClaimLifecycle.toValue (l : ResourceClaimLifecycle) : Value := .object [
  ("deletionProtection", .bool l.deletionProtection),
  ("destructionApprovalRequired", .bool l.destructionApprovalRequired),
  ("finalizationEvidenceRequired", .bool l.finalizationEvidenceRequired),
  ("maxReconcileAttempts", int l.maxReconcileAttempts)]

def ResourceClaimRequest.members (c : ResourceClaimRequest) : List (String × Value) := [
  ("apiVersion", .string c.apiVersion),
  ("kind", .string c.kind),
  ("claimId", .string c.claimId),
  ("tenantId", .string c.tenantId),
  ("generation", int c.generation),
  ("resourceKind", .string c.resourceKind),
  ("resourceApiVersion", .string c.resourceApiVersion),
  ("desiredStateDigest", .string c.desiredStateDigest),
  ("desiredStateRef", .string c.desiredStateRef),
  ("requiredProviderCapabilities", strings c.requiredProviderCapabilities),
  ("lifecycle", c.lifecycle.toValue)]

def ResourceClaimRequest.toValue (c : ResourceClaimRequest) : Value := .object c.members

def Scalar.toValue : Scalar → Value
  | .string s => .string s
  | .number n => .number n
  | .bool b => .bool b

def ResourceBrokerOutput.toValue (o : ResourceBrokerOutput) : Value := .object [
  ("name", .string o.name), ("kind", .string o.kind.text), ("value", o.value.toValue)]

def ResourceProviderLease.toValue (l : ResourceProviderLease) : Value := .object [
  ("providerId", .string l.providerId),
  ("generation", int l.generation),
  ("fenceToken", .string l.fenceToken),
  ("attempt", int l.attempt),
  ("acquiredAt", .string l.acquiredAt),
  ("expiresAt", .string l.expiresAt)]

def ResourceClaimFailure.toValue (f : ResourceClaimFailure) : Value := .object [
  ("code", .string f.code),
  ("message", .string f.message),
  ("retryable", .bool f.retryable),
  ("attempt", int f.attempt),
  ("occurredAt", .string f.occurredAt)]

def ResourceClaimDrift.toValue (d : ResourceClaimDrift) : Value := .object [
  ("observedStateDigest", .string d.observedStateDigest),
  ("detectedAt", .string d.detectedAt)]

def ResourceClaimDeletion.toValue (d : ResourceClaimDeletion) : Value := .object [
  ("requestedAt", .string d.requestedAt),
  ("requestedBy", .string d.requestedBy),
  ("approvalEvidenceRef", .string d.approvalEvidenceRef),
  ("finalizationEvidenceRef", .string d.finalizationEvidenceRef)]

def ResourceClaimCancellation.toValue (c : ResourceClaimCancellation) : Value := .object [
  ("requestedAt", .string c.requestedAt),
  ("requestedBy", .string c.requestedBy),
  ("cleanupEvidenceRef", optional .string c.cleanupEvidenceRef)]

def ResourceClaimState.toValue (c : ResourceClaimState) : Value := .object (c.members ++ [
  ("phase", .string c.phase.text),
  ("observedGeneration", int c.observedGeneration),
  ("providerResourceRef", optional .string c.providerResourceRef),
  ("outputs", .array (c.outputs.map ResourceBrokerOutput.toValue)),
  ("lease", optional ResourceProviderLease.toValue c.lease),
  ("failure", optional ResourceClaimFailure.toValue c.failure),
  ("drift", optional ResourceClaimDrift.toValue c.drift),
  ("deletion", optional ResourceClaimDeletion.toValue c.deletion),
  ("cancellation", optional ResourceClaimCancellation.toValue c.cancellation)])

def ResourceBrokerIdempotencyRecord.toValue (r : ResourceBrokerIdempotencyRecord) : Value := .object [
  ("tenantId", .string r.tenantId),
  ("operation", .string r.operation.text),
  ("claimId", .string r.claimId),
  ("key", .string r.key),
  ("payloadDigest", .string r.payloadDigest),
  ("capabilityId", .string r.capabilityId),
  ("committedRevision", int r.committedRevision)]

/-! ## Field checks -/

/-- A string that passes a test. -/
def matching (test : String → Bool) (message : String) (value : Value) (path : String) :
    Except String String :=
  match value with
  | .string s => if test s then .ok s else .error (path ++ message)
  | _ => .error (path ++ message)

/-- An integer that passes a test. -/
def integerMatching (test : ℤ → Bool) (message : String) (value : Value) (path : String) :
    Except String ℤ :=
  match value with
  | .number (.int n) => if test n then .ok n else .error (path ++ message)
  | _ => .error (path ++ message)

/-- `/^[a-z0-9](?:[a-z0-9._-]{0,126}[a-z0-9])?$/`. -/
def isIdentifier (s : String) : Bool :=
  open Pattern in
  fullMatch (seq (cls isLowerAlnum)
    (opt (seq (upTo (fun c => isLowerAlnum c || c == '.' || c == '_' || c == '-') 126)
      (cls isLowerAlnum)))) s

def identifier : Value → String → Except String String :=
  matching isIdentifier " must be a bounded identifier."

/-- `/^[A-Za-z][A-Za-z0-9]{0,126}$/`. -/
def isResourceKind (s : String) : Bool :=
  open Pattern in
  fullMatch (seq (cls fun c => isLowerLetter c || isUpperLetter c) (upTo isAlnum 126)) s

def resourceKind : Value → String → Except String String :=
  matching isResourceKind " must be a bounded resource kind."

/-- `/^[A-Z][A-Z0-9_]{1,63}$/`. -/
def isReasonCode (s : String) : Bool :=
  open Pattern in
  let c := fun c => isUpperLetter c || isDecimal c || c == '_'
  fullMatch (seq (cls isUpperLetter) (seq (cls c) (upTo c 62))) s

def reasonCode : Value → String → Except String String :=
  matching isReasonCode " must be a stable reason code."

/-- `/:\/\/[^\s/@:]+:[^\s/@]+@/`. -/
def hasUrlCredentials (s : String) : Bool :=
  open Pattern in
  search (seq (lit "://") <| seq (many1 fun c => !(isSpace c || c == '/' || c == '@' || c == ':')) <|
    seq (lit ":") <| seq (many1 fun c => !(isSpace c || c == '/' || c == '@')) (lit "@")) s

/-- A named secret is assigned, a URL has credentials, or a private key or access key is shown. -/
def hasSecretMaterial (s : String) : Bool :=
  open Pattern in
  search (seq
      (alt (litI "password") <| alt (litI "secret") <| alt (litI "token") <| alt (litI "credential") <|
        seq (litI "private") (seq (opt (cls fun c => c == '_' || c == ' ' || c == '-')) (litI "key")))
      (seq (many isSpace) (cls fun c => c == '=' || c == ':'))) s ||
    hasUrlCredentials s ||
    search (seq (lit "-----BEGIN ") (seq (many fun c => isUpperLetter c || c == ' ') (lit "PRIVATE KEY-----"))) s ||
    search (seq (lit "AKIA") (exactly (fun c => isDecimal c || isUpperLetter c) 16)) s

def safeMessage (value : Value) (path : String) : Except String String :=
  match value with
  | .string s =>
    if stringLength s < 1 ∨ stringLength s > 512 then .error (path ++ " must be a bounded message.")
    else if hasSecretMaterial s then .error (path ++ " contains secret material.")
    else .ok s
  | _ => .error (path ++ " must be a bounded message.")

/-- `/^[a-z0-9.-]+\/[a-z0-9.-]+\/v[0-9]+(?:alpha|beta)?[0-9]*$/`. -/
def isApiVersion (s : String) : Bool :=
  open Pattern in
  let part := many1 fun c => isLowerAlnum c || c == '.' || c == '-'
  fullMatch (seq part <| seq (lit "/") <| seq part <| seq (lit "/v") <| seq (many1 isDecimal) <|
    seq (opt (alt (lit "alpha") (lit "beta"))) (many isDecimal)) s

def apiVersion : Value → String → Except String String :=
  matching isApiVersion " must be a versioned resource API."

/-- `/^scheme:\/\/(.+)$/` for one of the schemes. -/
def hasScheme (schemes : List String) (s : String) : Bool :=
  open Pattern in
  schemes.any fun scheme => fullMatch (seq (lit scheme) (seq (lit "://") (many1 isDot))) s

def reference (value : Value) (path : String) (schemes : List String) : Except String String :=
  match value with
  | .string s =>
    if stringLength s > 512 then .error (path ++ " must be a bounded reference.")
    else if !hasScheme schemes s || includes s "@" then
      .error (path ++ " must be a safe " ++ "/".intercalate schemes ++ " reference.")
    else .ok s
  | _ => .error (path ++ " must be a bounded reference.")

def digest : Value → String → Except String String :=
  matching isHexDigest " must be a SHA-256 digest."

/-- The text has the form of a UTC timestamp and `Date.parse` reads it. -/
def isTimestamp (s : String) : Bool := isTimestampText s && (dateParse s).isSome

def timestamp : Value → String → Except String String :=
  matching isTimestamp " must be an RFC 3339 UTC timestamp."

def positiveInteger : Value → String → Except String ℤ :=
  integerMatching (fun n => 1 ≤ n) " must be a positive integer."

def nonNegativeInteger : Value → String → Except String ℤ :=
  integerMatching (fun n => 0 ≤ n) " must be a non-negative integer."

def boundedInteger (value : Value) (path : String) (minimum maximum : ℤ) : Except String ℤ :=
  integerMatching (fun n => minimum ≤ n && n ≤ maximum)
    s!" must be between {minimum} and {maximum}." value path

def boolean (value : Value) (path : String) : Except String Bool :=
  match value with
  | .bool b => .ok b
  | _ => .error (path ++ " must be boolean.")

def trueLiteral (value : Value) (path : String) : Except String Bool :=
  match value with
  | .bool true => .ok true
  | _ => .error (path ++ " must be true.")

def literal (value : Value) (path : String) (expected : String) : Except String String :=
  matching (fun s => s == expected) s!" must be '{expected}'." value path

/-- The member of an enumeration with a given text. -/
def enumValue {α : Type} (text : α → String) (value : Value) (path : String) (values : List α) :
    Except String α :=
  let message := path ++ " must be one of: " ++ ", ".intercalate (values.map text) ++ "."
  match value with
  | .string s =>
    match values.find? fun a => text a == s with
    | some a => .ok a
    | none => .error message
  | _ => .error message

/-- The items of an array, each parsed with its own path, from index `index` on. -/
def parseItems {α : Type} (parser : Value → String → Except String α) (path : String) :
    ℕ → List Value → Except String (List α)
  | _, [] => .ok []
  | index, v :: rest => do
    let a ← parser v s!"{path}[{index}]"
    let items ← parseItems parser path (index + 1) rest
    pure (a :: items)

def array {α : Type} (value : Value) (path : String) (parser : Value → String → Except String α) :
    Except String (List α) :=
  match value with
  | .array items => parseItems parser path 0 items
  | _ => .error (path ++ " must be an array.")

def uniqueIdentifiers (value : Value) (path : String) : Except String (List String) := do
  let result ← array value path identifier
  throwUnless (decide result.Nodup) (path ++ " must contain unique values.")
  pure result

def optionalStateField (key : String) : Bool :=
  ["providerResourceRef", "lease", "failure", "drift", "deletion", "cancellation",
    "cleanupEvidenceRef"].contains key

/-- The own properties of an object that has no unknown and lacks no required one. -/
def exactObject (value : Value) (path : String) (allowed : List String) :
    Except String (List (String × Value)) :=
  match value with
  | .object properties =>
    match (ownOrder properties).find? fun p => !allowed.contains p.1 with
    | some p => .error (path ++ " has unknown field '" ++ p.1 ++ "'.")
    | none =>
      match allowed.find? fun key => !Value.has properties key && !optionalStateField key with
      | some key => .error (path ++ "." ++ key ++ " is required.")
      | none => .ok properties
  | _ => .error (path ++ " must be an object.")

def scalar (value : Value) (path : String) : Except String Scalar :=
  match value with
  | .string s => if stringLength s > 512 then .error (path ++ " must be a bounded scalar.") else .ok (.string s)
  | .number n => if n.isFinite then .ok (.number n) else .error (path ++ " must be a bounded scalar.")
  | .bool b => .ok (.bool b)
  | _ => .error (path ++ " must be a bounded scalar.")

end SecureSaas.Broker
