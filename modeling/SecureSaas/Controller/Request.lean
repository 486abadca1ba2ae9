import SecureSaas.Js.Parse
import SecureSaas.Js.Runtime

/-!
# Infrastructure requests (`src/core/infrastructureController.ts`)

The request a trusted host assembles for the infrastructure controller, and its parser. A
parsed request carries what the parser checked: its identifiers are exact, its digests are
digests, its resource prefixes end with a claim separator, and no two of its approvals are by
the same principal.
-/

namespace SecureSaas.Controller

open Js

/-! ## Checked texts -/

/-- `[A-Za-z0-9._:-]`. -/
def isResourceChar (c : Char) : Bool := isAlnum c || c == '.' || c == '_' || c == ':' || c == '-'

/-- `value.includes("*") || value.includes("..")`. -/
def hasWildcardOrTraversal (s : String) : Bool := includes s "*" || includes s ".."

/-- `/^[A-Za-z0-9][A-Za-z0-9._:-]{0,127}$/`. -/
def isIdentifierText (s : String) : Bool :=
  open Pattern in fullMatch (seq (cls isAlnum) (upTo isResourceChar 127)) s

def isIdentifier (s : String) : Bool := isIdentifierText s && !hasWildcardOrTraversal s

abbrev Identifier := {s : String // isIdentifier s = true}

/-- `organization/…/tenant/…/context/…/claim/`, as a pattern. -/
def claimPath : Pattern :=
  open Pattern in
  seq (lit "organization/") <| seq (many1 isResourceChar) <| seq (lit "/tenant/") <|
    seq (many1 isResourceChar) <| seq (lit "/context/") <| seq (many1 isResourceChar) (lit "/claim/")

def isExactResource (s : String) : Bool :=
  open Pattern in
  fullMatch (seq claimPath (many1 isResourceChar)) s && !hasWildcardOrTraversal s

def isResourcePrefix (s : String) : Bool :=
  Pattern.fullMatch claimPath s && !hasWildcardOrTraversal s

abbrev ExactResource := {s : String // isExactResource s = true}
abbrev ResourcePrefix := {s : String // isResourcePrefix s = true}
abbrev Sha256 := {s : String // isHexDigest s = true}

/-- `/^\d+\.\d+\.\d+(?:[-+][0-9A-Za-z.-]+)?$/`. -/
def isVersion (s : String) : Bool :=
  open Pattern in
  fullMatch (seq (many1 isDecimal) <| seq (lit ".") <| seq (many1 isDecimal) <| seq (lit ".") <|
    seq (many1 isDecimal) <| opt <| seq (cls fun c => c == '-' || c == '+')
      (many1 fun c => isAlnum c || c == '.' || c == '-')) s

abbrev Version := {s : String // isVersion s = true}

/-- A safe integer above zero. -/
abbrev PositiveInteger := {n : ℤ // n ≤ maxSafeInteger ∧ decide (0 < n) = true}

/-! ## Data -/

def infrastructureControllerApiVersion : String :=
  "security.deus.dev/infrastructure-controller/v1alpha1"

inductive InfrastructureOperation
  | plan | reconcile | observe | cancel | delete
deriving DecidableEq

namespace InfrastructureOperation

def text : InfrastructureOperation → String
  | .plan => "plan"
  | .reconcile => "reconcile"
  | .observe => "observe"
  | .cancel => "cancel"
  | .delete => "delete"

def all : List InfrastructureOperation := [.plan, .reconcile, .observe, .cancel, .delete]

/-- `mutationOperations.has(operation)`. -/
def isMutation : InfrastructureOperation → Bool
  | .reconcile | .cancel | .delete => true
  | .plan | .observe => false

end InfrastructureOperation

inductive InfrastructureAction
  | plan | reconcile | observe | cancel | delete
deriving DecidableEq

namespace InfrastructureAction

def text : InfrastructureAction → String
  | .plan => "infra.claim.plan"
  | .reconcile => "infra.claim.reconcile"
  | .observe => "infra.claim.observe"
  | .cancel => "infra.claim.cancel"
  | .delete => "infra.claim.delete"

def all : List InfrastructureAction := [.plan, .reconcile, .observe, .cancel, .delete]

end InfrastructureAction

/-- `operationActions[operation]`. -/
def infrastructureAction : InfrastructureOperation → InfrastructureAction
  | .plan => .plan
  | .reconcile => .reconcile
  | .observe => .observe
  | .cancel => .cancel
  | .delete => .delete

inductive InfrastructureEnvironmentClass
  | nonproduction | preproduction | production
deriving DecidableEq

def InfrastructureEnvironmentClass.text : InfrastructureEnvironmentClass → String
  | .nonproduction => "nonproduction"
  | .preproduction => "preproduction"
  | .production => "production"

inductive AuthenticationMethod
  | oidc | mtls
deriving DecidableEq

def AuthenticationMethod.text : AuthenticationMethod → String
  | .oidc => "oidc"
  | .mtls => "mtls"

/-- `JSON.stringify` of a string. -/
def jsonText (s : String) : String := jsonStringify (.string s)

/-- A list whose items have different keys, compared by their JSON texts. -/
abbrev UniqueBy {α : Type} (key : α → String) :=
  {l : List α // (l.map fun a => jsonText (key a)).Nodup}

abbrev NonEmptyUniqueBy {α : Type} (key : α → String) :=
  {l : List α // (l.map fun a => jsonText (key a)).Nodup ∧ l ≠ []}

structure InfrastructureActor where
  principalId : Identifier
  organizationId : Identifier
  tenantId : Identifier
  authenticationMethods : NonEmptyUniqueBy AuthenticationMethod.text

structure InfrastructureClaimTarget where
  claimId : Identifier
  tenantId : Identifier
  contextId : Identifier
  generation : PositiveInteger
  desiredStateDigest : Sha256

structure InfrastructurePluginPermission where
  action : InfrastructureAction
  resourcePrefix : ResourcePrefix

def InfrastructurePluginPermission.key (p : InfrastructurePluginPermission) : String :=
  p.action.text ++ "|" ++ p.resourcePrefix

structure InfrastructureSandbox where
  network : {s : String // s = "broker-only"}
  providerCredentials : {b : Bool // b = false}
  pulumiBackendAccess : {b : Bool // b = false}
  kubernetesAdminAccess : {b : Bool // b = false}
  hostAccess : {b : Bool // b = false}
  unixSockets : {b : Bool // b = false}

structure InfrastructureRequestPlugin where
  pluginId : Identifier
  kind : {s : String // s = "infrastructure-request"}
  sandbox : InfrastructureSandbox
  permissions : NonEmptyUniqueBy InfrastructurePluginPermission.key

structure InfrastructureRoleGrant where
  grantId : Identifier
  subjectId : Identifier
  organizationId : Identifier
  tenantId : Identifier
  actions : NonEmptyUniqueBy InfrastructureAction.text
  resourcePrefixes : NonEmptyUniqueBy (fun p : ResourcePrefix => p.1)
  expiresAtEpochSeconds : PositiveInteger

structure InfrastructureCapability where
  capabilityId : Identifier
  format : {s : String // s = "v2-ed25519"}
  issuer : String
  subjectId : Identifier
  audience : Identifier
  organizationId : Identifier
  tenantId : Identifier
  action : InfrastructureAction
  resource : ExactResource
  claimGeneration : PositiveInteger
  desiredStateDigest : Sha256
  planDigest : Option Sha256
  issuedAtEpochSeconds : PositiveInteger
  notBeforeEpochSeconds : PositiveInteger
  expiresAtEpochSeconds : PositiveInteger
  oneUse : Bool
  cryptographicallyVerified : Bool

structure InfrastructurePlanBinding where
  planDigest : Sha256
  desiredStateDigest : Sha256
  controllerVersion : Version
  providerId : Identifier
  providerVersion : Version
  createdAtEpochSeconds : PositiveInteger
  expiresAtEpochSeconds : PositiveInteger
  policyChecksPassed : Bool
  destructive : Bool

structure InfrastructureApproval where
  approvalId : Identifier
  approverPrincipalId : Identifier
  planDigest : Sha256
  approvedAtEpochSeconds : PositiveInteger

structure InfrastructureControllerRequest where
  apiVersion : {s : String // s = infrastructureControllerApiVersion}
  kind : {s : String // s = "InfrastructureControllerRequest"}
  requestId : Identifier
  operation : InfrastructureOperation
  environmentClass : InfrastructureEnvironmentClass
  actor : InfrastructureActor
  claim : InfrastructureClaimTarget
  plugin : InfrastructureRequestPlugin
  grant : InfrastructureRoleGrant
  capability : InfrastructureCapability
  plan : Option InfrastructurePlanBinding
  approvals : UniqueBy fun a : InfrastructureApproval => a.approverPrincipalId.1
  idempotencyKey : Option Identifier
  deadlineEpochSeconds : PositiveInteger

/-! ## Field checks -/

variable (rt : Runtime)

abbrev Parser (α : Type) := Check String α

def identifier : Parser Identifier := fun value path =>
  match value with
  | .string s =>
    if h : isIdentifier s = true then .ok ⟨s, h⟩
    else if isIdentifierText s then
      .error (path ++ " must not contain wildcard or traversal syntax.")
    else .error (path ++ " must be an exact identifier.")
  | _ => .error (path ++ " must be a string.")

def exactResource : Parser ExactResource :=
  checkedText isExactResource (· ++ " must be an exact infrastructure resource.")

def resourcePrefix : Parser ResourcePrefix :=
  checkedText isResourcePrefix (· ++ " must be an exact tenant/context claim prefix.")

def sha256 : Parser Sha256 := checkedText isHexDigest (· ++ " must be a lowercase SHA-256 digest.")

def version : Parser Version := checkedText isVersion (· ++ " must be an exact semantic version.")

def positiveInteger : Parser PositiveInteger :=
  checkedInteger (fun n => decide (0 < n)) (· ++ " must be a positive integer.")

def booleanValue : Parser Bool := checkedBoolean (· ++ " must be boolean.")

/-- The URL is `https:` and has no credentials, query or fragment. -/
def Url.isCredentialFreeHttps (url : Url) : Bool :=
  url.protocol == "https:" && url.username == "" && url.password == "" && url.search == "" &&
    url.hash == ""

def credentialFreeHttpsUrl : Parser String := fun value path =>
  match value with
  | .string s =>
    match rt.parseUrl s with
    | none => .error (path ++ " must be a valid HTTPS URL.")
    | some url =>
      if Url.isCredentialFreeHttps url then .ok s
      else .error (path ++ " must be a credential-free HTTPS URL.")
  | _ => .error (path ++ " must be a URL.")

def parseAction : Parser InfrastructureAction :=
  enumeration id InfrastructureAction.text InfrastructureAction.all

/-! ## The parser -/

def parsePluginPermission : Parser InfrastructurePluginPermission := fun value path => do
  let input ← exactObject id value path ["action", "resourcePrefix"]
  let action ← parseAction (Value.get input "action") (path ++ ".action")
  let resourcePrefix ← resourcePrefix (Value.get input "resourcePrefix") (path ++ ".resourcePrefix")
  pure { action, resourcePrefix }

def parsePlan : Parser InfrastructurePlanBinding := fun value path => do
  let input ← exactObject id value path ["planDigest", "desiredStateDigest", "controllerVersion",
    "providerId", "providerVersion", "createdAtEpochSeconds", "expiresAtEpochSeconds",
    "policyChecksPassed", "destructive"]
  let planDigest ← sha256 (Value.get input "planDigest") (path ++ ".planDigest")
  let desiredStateDigest ← sha256 (Value.get input "desiredStateDigest") (path ++ ".desiredStateDigest")
  let controllerVersion ← version (Value.get input "controllerVersion") (path ++ ".controllerVersion")
  let providerId ← identifier (Value.get input "providerId") (path ++ ".providerId")
  let providerVersion ← version (Value.get input "providerVersion") (path ++ ".providerVersion")
  let createdAtEpochSeconds ← positiveInteger (Value.get input "createdAtEpochSeconds")
    (path ++ ".createdAtEpochSeconds")
  let expiresAtEpochSeconds ← positiveInteger (Value.get input "expiresAtEpochSeconds")
    (path ++ ".expiresAtEpochSeconds")
  let policyChecksPassed ← booleanValue (Value.get input "policyChecksPassed")
    (path ++ ".policyChecksPassed")
  let destructive ← booleanValue (Value.get input "destructive") (path ++ ".destructive")
  pure { planDigest, desiredStateDigest, controllerVersion, providerId, providerVersion,
         createdAtEpochSeconds, expiresAtEpochSeconds, policyChecksPassed, destructive }

def parseApproval : Parser InfrastructureApproval := fun value path => do
  let input ← exactObject id value path ["approvalId", "approverPrincipalId", "planDigest",
    "approvedAtEpochSeconds"]
  let approvalId ← identifier (Value.get input "approvalId") (path ++ ".approvalId")
  let approverPrincipalId ← identifier (Value.get input "approverPrincipalId")
    (path ++ ".approverPrincipalId")
  let planDigest ← sha256 (Value.get input "planDigest") (path ++ ".planDigest")
  let approvedAtEpochSeconds ← positiveInteger (Value.get input "approvedAtEpochSeconds")
    (path ++ ".approvedAtEpochSeconds")
  pure { approvalId, approverPrincipalId, planDigest, approvedAtEpochSeconds }

/-! The sub-objects of `parseInfrastructureControllerRequest`, from their own properties. -/

def parseActor (actor : List (String × Value)) : Except String InfrastructureActor := do
  let principalId ← identifier (Value.get actor "principalId") "request.actor.principalId"
  let organizationId ← identifier (Value.get actor "organizationId") "request.actor.organizationId"
  let tenantId ← identifier (Value.get actor "tenantId") "request.actor.tenantId"
  let authenticationMethods ← nonEmptyUniqueArray id
    (enumeration id AuthenticationMethod.text [.oidc, .mtls])
    (fun a => jsonText a.text) (Value.get actor "authenticationMethods")
    "request.actor.authenticationMethods"
  pure { principalId, organizationId, tenantId, authenticationMethods }

def parseClaim (claim : List (String × Value)) : Except String InfrastructureClaimTarget := do
  let claimId ← identifier (Value.get claim "claimId") "request.claim.claimId"
  let tenantId ← identifier (Value.get claim "tenantId") "request.claim.tenantId"
  let contextId ← identifier (Value.get claim "contextId") "request.claim.contextId"
  let generation ← positiveInteger (Value.get claim "generation") "request.claim.generation"
  let desiredStateDigest ← sha256 (Value.get claim "desiredStateDigest")
    "request.claim.desiredStateDigest"
  pure { claimId, tenantId, contextId, generation, desiredStateDigest }

def parsePlugin (plugin sandbox : List (String × Value)) :
    Except String InfrastructureRequestPlugin := do
  let off := fun key => literalBoolean id false (Value.get sandbox key) ("request.plugin.sandbox." ++ key)
  let pluginId ← identifier (Value.get plugin "pluginId") "request.plugin.pluginId"
  let kind ← literal id "infrastructure-request" (Value.get plugin "kind") "request.plugin.kind"
  let network ← literal id "broker-only" (Value.get sandbox "network") "request.plugin.sandbox.network"
  let providerCredentials ← off "providerCredentials"
  let pulumiBackendAccess ← off "pulumiBackendAccess"
  let kubernetesAdminAccess ← off "kubernetesAdminAccess"
  let hostAccess ← off "hostAccess"
  let unixSockets ← off "unixSockets"
  let permissions ← nonEmptyUniqueArray id parsePluginPermission (fun p => jsonText p.key)
    (Value.get plugin "permissions") "request.plugin.permissions"
  pure { pluginId, kind, sandbox := { network, providerCredentials, pulumiBackendAccess,
                                      kubernetesAdminAccess, hostAccess, unixSockets }, permissions }

def parseGrant (grant : List (String × Value)) : Except String InfrastructureRoleGrant := do
  let grantId ← identifier (Value.get grant "grantId") "request.grant.grantId"
  let subjectId ← identifier (Value.get grant "subjectId") "request.grant.subjectId"
  let organizationId ← identifier (Value.get grant "organizationId") "request.grant.organizationId"
  let tenantId ← identifier (Value.get grant "tenantId") "request.grant.tenantId"
  let actions ← nonEmptyUniqueArray id parseAction (fun a => jsonText a.text)
    (Value.get grant "actions") "request.grant.actions"
  let resourcePrefixes ← nonEmptyUniqueArray id resourcePrefix (fun p => jsonText p.1)
    (Value.get grant "resourcePrefixes") "request.grant.resourcePrefixes"
  let expiresAtEpochSeconds ← positiveInteger (Value.get grant "expiresAtEpochSeconds")
    "request.grant.expiresAtEpochSeconds"
  pure { grantId, subjectId, organizationId, tenantId, actions, resourcePrefixes,
         expiresAtEpochSeconds }

def parseCapability (capability : List (String × Value)) : Except String InfrastructureCapability := do
  let get := Value.get capability
  let capabilityId ← identifier (get "capabilityId") "request.capability.capabilityId"
  let format ← literal id "v2-ed25519" (get "format") "request.capability.format"
  let issuer ← credentialFreeHttpsUrl rt (get "issuer") "request.capability.issuer"
  let subjectId ← identifier (get "subjectId") "request.capability.subjectId"
  let audience ← identifier (get "audience") "request.capability.audience"
  let organizationId ← identifier (get "organizationId") "request.capability.organizationId"
  let tenantId ← identifier (get "tenantId") "request.capability.tenantId"
  let action ← parseAction (get "action") "request.capability.action"
  let resource ← exactResource (get "resource") "request.capability.resource"
  let claimGeneration ← positiveInteger (get "claimGeneration") "request.capability.claimGeneration"
  let desiredStateDigest ← sha256 (get "desiredStateDigest") "request.capability.desiredStateDigest"
  let planDigest ← nullable sha256 (get "planDigest") "request.capability.planDigest"
  let issuedAtEpochSeconds ← positiveInteger (get "issuedAtEpochSeconds")
    "request.capability.issuedAtEpochSeconds"
  let notBeforeEpochSeconds ← positiveInteger (get "notBeforeEpochSeconds")
    "request.capability.notBeforeEpochSeconds"
  let expiresAtEpochSeconds ← positiveInteger (get "expiresAtEpochSeconds")
    "request.capability.expiresAtEpochSeconds"
  let oneUse ← booleanValue (get "oneUse") "request.capability.oneUse"
  let cryptographicallyVerified ← booleanValue (get "cryptographicallyVerified")
    "request.capability.cryptographicallyVerified"
  pure { capabilityId, format, issuer, subjectId, audience, organizationId, tenantId, action,
         resource, claimGeneration, desiredStateDigest, planDigest, issuedAtEpochSeconds,
         notBeforeEpochSeconds, expiresAtEpochSeconds, oneUse, cryptographicallyVerified }

def parseInfrastructureControllerRequest (value : Value) :
    Except String InfrastructureControllerRequest := do
  let root ← exactObject id value "request" ["apiVersion", "kind", "requestId", "operation",
    "environmentClass", "actor", "claim", "plugin", "grant", "capability", "plan", "approvals",
    "idempotencyKey", "deadlineEpochSeconds"]
  let actor ← exactObject id (Value.get root "actor") "request.actor" ["principalId",
    "organizationId", "tenantId", "authenticationMethods"]
  let claim ← exactObject id (Value.get root "claim") "request.claim" ["claimId", "tenantId",
    "contextId", "generation", "desiredStateDigest"]
  let plugin ← exactObject id (Value.get root "plugin") "request.plugin" ["pluginId", "kind",
    "sandbox", "permissions"]
  let sandbox ← exactObject id (Value.get plugin "sandbox") "request.plugin.sandbox" ["network",
    "providerCredentials", "pulumiBackendAccess", "kubernetesAdminAccess", "hostAccess", "unixSockets"]
  let grant ← exactObject id (Value.get root "grant") "request.grant" ["grantId", "subjectId",
    "organizationId", "tenantId", "actions", "resourcePrefixes", "expiresAtEpochSeconds"]
  let capability ← exactObject id (Value.get root "capability") "request.capability" ["capabilityId",
    "format", "issuer", "subjectId", "audience", "organizationId", "tenantId", "action", "resource",
    "claimGeneration", "desiredStateDigest", "planDigest", "issuedAtEpochSeconds",
    "notBeforeEpochSeconds", "expiresAtEpochSeconds", "oneUse", "cryptographicallyVerified"]
  let apiVersion ← literal id infrastructureControllerApiVersion (Value.get root "apiVersion")
    "request.apiVersion"
  let kind ← literal id "InfrastructureControllerRequest" (Value.get root "kind") "request.kind"
  let requestId ← identifier (Value.get root "requestId") "request.requestId"
  let operation ← enumeration id InfrastructureOperation.text InfrastructureOperation.all
    (Value.get root "operation") "request.operation"
  let environmentClass ← enumeration id InfrastructureEnvironmentClass.text
    [.nonproduction, .preproduction, .production] (Value.get root "environmentClass")
    "request.environmentClass"
  let actor ← parseActor actor
  let claim ← parseClaim claim
  let plugin ← parsePlugin plugin sandbox
  let grant ← parseGrant grant
  let capability ← parseCapability rt capability
  let plan ← nullable parsePlan (Value.get root "plan") "request.plan"
  let approvals ← uniqueArray id parseApproval (fun a => jsonText a.approverPrincipalId)
    (Value.get root "approvals") "request.approvals"
  let idempotencyKey ← nullable identifier (Value.get root "idempotencyKey") "request.idempotencyKey"
  let deadlineEpochSeconds ← positiveInteger (Value.get root "deadlineEpochSeconds")
    "request.deadlineEpochSeconds"
  pure { apiVersion, kind, requestId, operation, environmentClass, actor, claim, plugin, grant,
         capability, plan, approvals, idempotencyKey, deadlineEpochSeconds }

/-! ## The reference request (`createReferenceInfrastructureControllerRequest`) -/

def repeated (c : Char) (n : ℕ) : String := String.ofList (List.replicate n c)

/-- The object the reference request is parsed from, for a capability of one or more uses. -/
def referenceRequestInput (operation : InfrastructureOperation)
    (environmentClass : InfrastructureEnvironmentClass) (oneUse : Bool) : Value :=
  let now : ℤ := 1800000000
  let int := fun n : ℤ => Value.number (.int n)
  let contextId := match environmentClass with
    | .production => "aws-platform-production"
    | .preproduction => "aws-platform-staging"
    | .nonproduction => "aws-platform-dev"
  let desiredStateDigest := Value.string (repeated 'a' 64)
  let planDigest := Value.string (repeated 'b' 64)
  let action := Value.string (infrastructureAction operation).text
  let resourcePrefix := "organization/org-deus/tenant/warden/context/" ++ contextId ++ "/claim/"
  let requiresPlan := operation == .reconcile || operation == .delete
  let approval := fun index : ℤ => Value.object [
    ("approvalId", .string s!"approval-{index + 1}"),
    ("approverPrincipalId", .string s!"approver-{index + 1}"),
    ("planDigest", planDigest), ("approvedAtEpochSeconds", int (now - 5 + index))]
  let approvals := match operation, environmentClass with
    | .delete, _ => [approval 0, approval 1]
    | .reconcile, .production => [approval 0]
    | _, _ => []
  .object [
    ("apiVersion", .string infrastructureControllerApiVersion),
    ("kind", .string "InfrastructureControllerRequest"),
    ("requestId", .string s!"request-{operation.text}-1"),
    ("operation", .string operation.text),
    ("environmentClass", .string environmentClass.text),
    ("actor", .object [
      ("principalId", .string "operator-1"), ("organizationId", .string "org-deus"),
      ("tenantId", .string "warden"),
      ("authenticationMethods", .array [.string "oidc", .string "mtls"])]),
    ("claim", .object [
      ("claimId", .string "postgres-warden"), ("tenantId", .string "warden"),
      ("contextId", .string contextId), ("generation", int 1),
      ("desiredStateDigest", desiredStateDigest)]),
    ("plugin", .object [
      ("pluginId", .string "infrastructure-request-adapter"),
      ("kind", .string "infrastructure-request"),
      ("sandbox", .object [
        ("network", .string "broker-only"), ("providerCredentials", .bool false),
        ("pulumiBackendAccess", .bool false), ("kubernetesAdminAccess", .bool false),
        ("hostAccess", .bool false), ("unixSockets", .bool false)]),
      ("permissions", .array [.object [("action", action), ("resourcePrefix", .string resourcePrefix)]])]),
    ("grant", .object [
      ("grantId", .string s!"grant-{operation.text}-1"), ("subjectId", .string "operator-1"),
      ("organizationId", .string "org-deus"), ("tenantId", .string "warden"),
      ("actions", .array [action]), ("resourcePrefixes", .array [.string resourcePrefix]),
      ("expiresAtEpochSeconds", int (now + 600))]),
    ("capability", .object [
      ("capabilityId", .string s!"cap-{operation.text}-1"), ("format", .string "v2-ed25519"),
      ("issuer", .string "https://auth.infrastructure.invalid"), ("subjectId", .string "operator-1"),
      ("audience", .string "infrastructure-controller"), ("organizationId", .string "org-deus"),
      ("tenantId", .string "warden"), ("action", action),
      ("resource", .string (resourcePrefix ++ "postgres-warden")), ("claimGeneration", int 1),
      ("desiredStateDigest", desiredStateDigest),
      ("planDigest", if requiresPlan then planDigest else .null),
      ("issuedAtEpochSeconds", int (now - 10)), ("notBeforeEpochSeconds", int (now - 10)),
      ("expiresAtEpochSeconds", int (now + 300)), ("oneUse", .bool oneUse),
      ("cryptographicallyVerified", .bool true)]),
    ("plan", if requiresPlan then .object [
      ("planDigest", planDigest), ("desiredStateDigest", desiredStateDigest),
      ("controllerVersion", .string "1.0.0"), ("providerId", .string "aws-managed-postgres"),
      ("providerVersion", .string "1.0.0"), ("createdAtEpochSeconds", int (now - 60)),
      ("expiresAtEpochSeconds", int (now + 300)), ("policyChecksPassed", .bool true),
      ("destructive", .bool (operation == .delete))] else .null),
    ("approvals", .array approvals),
    ("idempotencyKey", if operation.isMutation then .string s!"idempotency-{operation.text}-1" else .null),
    ("deadlineEpochSeconds", int (now + 120))]

def createReferenceInfrastructureControllerRequest (operation : InfrastructureOperation)
    (environmentClass : InfrastructureEnvironmentClass) : Except String InfrastructureControllerRequest :=
  parseInfrastructureControllerRequest rt
    (referenceRequestInput operation environmentClass operation.isMutation)

end SecureSaas.Controller
