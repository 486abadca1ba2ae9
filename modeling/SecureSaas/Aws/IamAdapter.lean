import SecureSaas.Aws.PolicyDocuments
import SecureSaas.Blueprint.Access
import SecureSaas.Js.Collect
import SecureSaas.Js.Members

/-!
# The AWS IAM adapter (`AwsIamAdapter.compile`)

Each grant of a blueprint is compiled three times: into the policy of its identity, into the policy
of the bucket and into that of the key. A statement is kept with the grant, the identity and the
resource it was compiled for until its document is made. Names that a JavaScript object inherits are
no bindings.

* `compile_ok`: what the adapter accepts compiles for every policy.
* `plan_statements`: **the policies of a plan hold exactly the compiled statements**.
* `mem_identityCompiled`, `mem_s3Compiled`, `mem_kmsCompiled`: which statements are compiled.
-/

namespace SecureSaas.Aws

open Js
open Blueprint (Identity IdentityGrant PlatformBlueprint identitiesById truthy)

/-! ## Data -/

structure AwsDataResourceBinding where
  bucketArn : String
  keyArnByTenant : Record String
  prefixByTenant : Record String

structure AwsGenericResourceBinding where
  resourceArns : List String
  actionMap : Record (List String)

inductive AwsResourceBinding
  | data (binding : AwsDataResourceBinding)
  | generic (binding : AwsGenericResourceBinding)

structure AwsPodIdentity where
  kubernetesNamespace : String
  serviceAccount : String

structure AwsIdentityBinding where
  roleArn : String
  principalArn : Option String
  externalId : Option String
  sourceAccount : Option String
  sourceArn : Option String
  maxSessionDurationSeconds : Option ℤ
  oidcProviderArn : Option String
  oidcIssuerHost : Option String
  oidcSubject : Option String
  audience : Option String
  sourceIdentityPattern : Option String
  podIdentity : Option AwsPodIdentity

structure AwsIamProviderExtensions where
  accountId : String
  organizationId : String
  awsPartition : Option String
  identities : Record AwsIdentityBinding
  resources : Record AwsResourceBinding

structure AwsNamedPolicy where
  semanticId : String
  document : AwsPolicyDocument
  canonicalJson : String

structure AwsIdentityPolicyPlan extends AwsNamedPolicy where
  identityId : String
  roleArn : String
  resourceIds : List String

structure AwsTrustPolicyPlan extends AwsNamedPolicy where
  identityId : String
  maxSessionDurationSeconds : ℤ

structure AwsWorkloadIdentityAssociation where
  identityId : String
  roleArn : String
  kubernetesNamespace : String
  serviceAccount : String

structure AwsIamPlan where
  identityPolicies : List AwsIdentityPolicyPlan
  trustPolicies : List AwsTrustPolicyPlan
  s3ResourcePolicies : List AwsNamedPolicy
  kmsKeyPolicies : List AwsNamedPolicy
  workloadIdentityAssociations : List AwsWorkloadIdentityAssociation

/-- A statement with what it was compiled for. -/
structure CompiledStatement where
  grant : IdentityGrant
  identity : Identity
  resourceId : String
  statement : AwsPolicyStatement

/-! ## Formats -/

/-- `/^…/.test(s)`. -/
def matchesStart (pattern : Pattern) (s : String) : Bool := !(pattern s.toList).isEmpty

/-- `/^arn:[^:]+:iam::\d{12}:role\/.+/` -/
def isRoleArn (s : String) : Bool :=
  matchesStart (.seq (.lit "arn:") (.seq (.many1 (· != ':')) (.seq (.lit ":iam::")
    (.seq (.exactly isDecimal 12) (.seq (.lit ":role/") (.cls isDot)))))) s

/-- `/^[a-z0-9](?:[a-z0-9.-]*[a-z0-9])?$/` -/
def isDnsName (s : String) : Bool :=
  Pattern.fullMatch (.seq (.cls isLowerAlnum)
    (.opt (.seq (.many fun c => isLowerAlnum c || c == '.' || c == '-') (.cls isLowerAlnum)))) s

/-- `/^\d{12}$/` -/
def isAccountId (s : String) : Bool := Pattern.fullMatch (.exactly isDecimal 12) s

/-- `/^o-[a-z0-9]{10,32}$/` -/
def isOrganizationId (s : String) : Bool :=
  Pattern.fullMatch (.seq (.lit "o-") (.seq (.exactly isLowerAlnum 10) (.upTo isLowerAlnum 22))) s

def effect (grant : IdentityGrant) : AwsEffect :=
  match grant.effect with
  | .allow => .allow
  | .deny => .deny

/-- `parts.join("-").replace(/[^A-Za-z0-9]/g, "").slice(0, 128)` -/
def sid (parts : List String) : String :=
  String.ofList ((("-".intercalate parts).toList.filter isAlnum).take 128)

def objectArn (bucketArn initial : String) : String := bucketArn ++ "/" ++ initial ++ "*"

/-! ## Required bindings -/

variable (extensions : AwsIamProviderExtensions)

/-- A text that is there and not blank. -/
def requiredText (value : Option String) (label : String) : Except String String :=
  match value.filter hasText with
  | some text => .ok text
  | none => .error s!"AWS {label} is required."

def requiredTenantValue (values : Record String) (tenantId label : String) : Except String String :=
  requiredText (values.get? tenantId) s!"{label} for tenant '{tenantId}'"

def requiredIdentityBinding (identityId : String) : Except String AwsIdentityBinding :=
  match (extensions.identities.get? identityId).filter fun binding => isRoleArn binding.roleArn with
  | some binding => .ok binding
  | none => .error s!"AWS identity '{identityId}' requires an explicit role ARN binding."

def requiredResourceBinding (resourceId : String) : Except String AwsResourceBinding :=
  match extensions.resources.get? resourceId with
  | some binding => .ok binding
  | none => .error s!"AWS resource '{resourceId}' has no provider binding."

def requiredTenantId (identity : Identity) (grant : IdentityGrant) : Except String String :=
  match truthy (grant.tenantId.or identity.tenantId) with
  | none => .error s!"AWS grant '{grant.id}' requires one matching tenant context."
  | some tenantId =>
    if (truthy identity.tenantId).any fun own => own != tenantId then
      .error s!"AWS grant '{grant.id}' requires one matching tenant context."
    else .ok tenantId

def requiredPodIdentity (identityId : String) (binding : AwsIdentityBinding) : Except String AwsPodIdentity :=
  match binding.podIdentity.filter fun pod => isDnsName pod.kubernetesNamespace && isDnsName pod.serviceAccount with
  | some pod => .ok pod
  | none => .error s!"AWS workload identity '{identityId}' requires one exact EKS Pod Identity namespace and ServiceAccount."

/-! ## Grants -/

def privilegeEscalationActions : List String :=
  ["iam:AttachRolePolicy", "iam:CreatePolicyVersion", "iam:PassRole", "iam:PutRolePolicy", "kms:PutKeyPolicy",
    "sts:AssumeRole"]

def mappedActions (grant : IdentityGrant) (actionMap : Record (List String)) : Except String (List String) := do
  let actions ← collect (fun action =>
    match actionMap.get? action with
    | some (mapped :: rest) => .ok (mapped :: rest)
    | _ => .error s!"AWS grant '{grant.id}' has no managed action mapping for '{action}'.") grant.actions
  throwUnless (!actions.any fun action => includes action "*")
    s!"AWS grant '{grant.id}' contains an unmanaged wildcard action."
  return actions.eraseDups.insertionSort (· ≤ ·)

def validatePrivilegeScope (grant : IdentityGrant) (actions arns : List String) : Except String Unit :=
  throwUnless ((!actions.any privilegeEscalationActions.contains) ||
      !(arns.isEmpty || (arns.any fun arn => includes arn "*") ||
        (grant.conditions.all fun conditions => conditions.properties.isEmpty)))
    s!"AWS privilege-escalation grant '{grant.id}' requires explicit resource and condition scopes."

def sortedArns (arns : List String) (grantId : String) : Except String (List String) := do
  throwUnless (!(arns.isEmpty || arns.any fun arn => !startsWith arn "arn:" || arn == "*"))
    s!"AWS grant '{grantId}' requires explicit resource ARNs."
  return arns.eraseDups.insertionSort (· ≤ ·)

def rejectUnknownDataActions (grant : IdentityGrant) : Except String Unit :=
  let unknown := grant.actions.filter fun action => action != "data:read" && action != "data:write"
  throwUnless unknown.isEmpty
    (s!"AWS data grant '{grant.id}' contains unmanaged actions: " ++ ", ".intercalate unknown ++ ".")

def tenantTag : String := "aws:PrincipalTag/deus-tenant-id"

def brokeredTag : String := "aws:PrincipalTag/deus-brokered"

/-- The context key that a condition of a grant is about. -/
def conditionKey (key : String) : Option String :=
  if key = "brokered" then some brokeredTag else if startsWith key "aws:" then some key else none

/-- The conditions of a grant on top of others; a later key overrides an earlier one. -/
def addConditions (grant : IdentityGrant) :
    List (String × String) → Record (OneOrMany AwsPolicyScalar) → Except String (Record (OneOrMany AwsPolicyScalar))
  | [], stringEquals => .ok stringEquals
  | (key, value) :: rest, stringEquals =>
    match conditionKey key with
    | some contextKey => addConditions grant rest (stringEquals.set contextKey (.one (.text value)))
    | none => .error s!"AWS grant '{grant.id}' contains unmanaged condition '{key}'."

def tenantCondition (identity : Identity) : Record (OneOrMany AwsPolicyScalar) :=
  match truthy identity.tenantId with
  | some tenantId => Record.empty.set tenantTag (.one (.text tenantId))
  | none => Record.empty

/-- One operator with its keys. -/
def operatorCondition (operator : String) (values : Record (OneOrMany AwsPolicyScalar)) : AwsCondition :=
  Record.empty.set operator values

def grantConditions (identity : Identity) (grant : IdentityGrant) : Except String (Option AwsCondition) := do
  let stringEquals ← addConditions grant ((grant.conditions.map (·.entries)).getD []) (tenantCondition identity)
  return if stringEquals.properties.isEmpty then none else some (operatorCondition "StringEquals" stringEquals)

/-- The operators of `source` on top of those of `result`. -/
def mergeInto (result source : AwsCondition) : AwsCondition :=
  source.entries.foldl (fun result p => result.set p.1 (((result.get? p.1).getD Record.empty).spread p.2)) result

def mergeConditions (left : Option AwsCondition) (right : AwsCondition) : AwsCondition :=
  mergeInto (mergeInto Record.empty (left.getD Record.empty)) right

/-- `{ StringLike: { [key]: [pattern] } }`. -/
def stringLike (key pattern : String) : AwsCondition :=
  operatorCondition "StringLike" (Record.empty.set key (.many [.text pattern]))

def s3Arn : String := "kms:EncryptionContext:aws:s3:arn"

def reads (grant : IdentityGrant) : Bool := grant.actions.contains "data:read"

def writes (grant : IdentityGrant) : Bool := grant.actions.contains "data:write"

def kmsActions (grant : IdentityGrant) : List String :=
  (if reads grant then ["kms:Decrypt"] else []) ++
    if writes grant then ["kms:Encrypt", "kms:GenerateDataKey"] else []

/-! ## Identity policies -/

/-- The statements of a grant for tenant data. -/
def dataStatements (grant : IdentityGrant) (resourceId : String) (resource : AwsDataResourceBinding)
    (initial keyArn : String) (common : Option AwsCondition) : List AwsPolicyStatement :=
  (if reads grant then
    [{ sid := sid [grant.id, resourceId, "ListTenantPrefix"], effect := effect grant,
       action := .one "s3:ListBucket", resource := some (.one resource.bucketArn), principal := none,
       condition := some (mergeConditions common (stringLike "s3:prefix" (initial ++ "*"))) },
     { sid := sid [grant.id, resourceId, "ReadTenantObjects"], effect := effect grant,
       action := .one "s3:GetObject", resource := some (.one (objectArn resource.bucketArn initial)),
       principal := none, condition := common }]
  else []) ++
  (if writes grant then
    [{ sid := sid [grant.id, resourceId, "WriteTenantObjects"], effect := effect grant,
       action := .many ["s3:DeleteObject", "s3:PutObject"],
       resource := some (.one (objectArn resource.bucketArn initial)), principal := none, condition := common }]
  else []) ++
  if (kmsActions grant).isEmpty then []
  else
    [{ sid := sid [grant.id, resourceId, "TenantKey"], effect := effect grant, action := .many (kmsActions grant),
       resource := some (.one keyArn), principal := none,
       condition := some (mergeConditions common (stringLike s3Arn (objectArn resource.bucketArn initial))) }]

def identityStatements (identity : Identity) (grant : IdentityGrant) (resourceId : String) :
    Except String (List AwsPolicyStatement) := do
  match ← requiredResourceBinding extensions resourceId with
  | .generic resource =>
    let actions ← mappedActions grant resource.actionMap
    validatePrivilegeScope grant actions resource.resourceArns
    let arns ← sortedArns resource.resourceArns grant.id
    let condition ← grantConditions identity grant
    return [{ sid := sid [grant.id, resourceId, "Resource"], effect := effect grant, action := .many actions,
              resource := some (.many arns), principal := none, condition }]
  | .data resource =>
    let tenantId ← requiredTenantId identity grant
    let initial ← requiredTenantValue resource.prefixByTenant tenantId s!"prefix for '{resourceId}'"
    let keyArn ← requiredTenantValue resource.keyArnByTenant tenantId s!"KMS key for '{resourceId}'"
    rejectUnknownDataActions grant
    let common ← grantConditions identity grant
    return dataStatements grant resourceId resource initial keyArn common

variable (rt : Runtime) (blueprint : PlatformBlueprint)

/-- `blueprint.grants.filter(…).sort(…)` by id. -/
def sortedGrants (keep : IdentityGrant → Bool) : List IdentityGrant :=
  rt.sortByKey (fun grant => grant.id) (blueprint.grants.filter keep)

/-- The statements of an identity's policy. -/
def identityCompiled (identity : Identity) : Except String (List CompiledStatement) :=
  collect (fun grant => collect (fun resourceId => do
      let statements ← identityStatements extensions identity grant resourceId
      return statements.map (CompiledStatement.mk grant identity resourceId)) grant.resourceIds)
    (sortedGrants rt blueprint fun grant => grant.identityId == identity.id)

def namedPolicy (semanticId : String) (document : AwsPolicyDocument) : AwsNamedPolicy :=
  { semanticId, document, canonicalJson := canonicalPolicyJson rt document }

def compileIdentityPolicy (identity : Identity) : Except String (List AwsIdentityPolicyPlan) := do
  let binding ← requiredIdentityBinding extensions identity.id
  let grants := sortedGrants rt blueprint fun grant => grant.identityId == identity.id
  if grants.isEmpty then return []
  else
    let compiled ← identityCompiled extensions rt blueprint identity
    let document := policyDocument rt (compiled.map (·.statement))
    return [{ namedPolicy rt s!"aws:iam:identity:{identity.id}" document with
              identityId := identity.id
              roleArn := binding.roleArn
              resourceIds := (grants.flatMap (·.resourceIds)).eraseDups.insertionSort (· ≤ ·) }]

/-! ## Trust policies -/

def textCondition (values : List (String × String)) : Record (OneOrMany AwsPolicyScalar) :=
  Record.fromEntries (values.map fun p => (p.1, .one (.text p.2)))

def workloadTrust (identity : Identity) (binding : AwsIdentityBinding) : Except String AwsPolicyStatement := do
  let podIdentity ← requiredPodIdentity identity.id binding
  throwUnless ((truthy binding.oidcProviderArn).isNone && (truthy binding.oidcIssuerHost).isNone &&
      (truthy binding.oidcSubject).isNone && (truthy binding.audience).isNone)
    s!"AWS workload identity '{identity.id}' must use EKS Pod Identity only; IRSA/OIDC fields are not accepted by the Auto Mode baseline."
  return { sid := "TrustEksPodIdentity", effect := .allow, action := .many ["sts:AssumeRole", "sts:TagSession"],
           resource := none, principal := some (Record.empty.set "Service" (.one "pods.eks.amazonaws.com")),
           condition := some (operatorCondition "StringEquals" (textCondition
             [("aws:SourceOrgId", extensions.organizationId),
              ("aws:RequestTag/kubernetes-namespace", podIdentity.kubernetesNamespace),
              ("aws:RequestTag/kubernetes-service-account", podIdentity.serviceAccount)])) }

def vendorTrust (identity : Identity) (binding : AwsIdentityBinding) : Except String AwsPolicyStatement := do
  let principalArn ← requiredText binding.principalArn s!"vendor role principal for '{identity.id}'"
  throwUnless (isRoleArn principalArn)
    s!"AWS vendor identity '{identity.id}' must trust an IAM role principal."
  let externalId ← requiredText binding.externalId s!"external ID for '{identity.id}'"
  let sourceAccount ← requiredText binding.sourceAccount s!"source account for '{identity.id}'"
  let sourceArn ← requiredText binding.sourceArn s!"source ARN for '{identity.id}'"
  let sourceIdentity ← requiredText binding.sourceIdentityPattern s!"source identity pattern for '{identity.id}'"
  return { sid := "TrustVendorRole", effect := .allow, action := .one "sts:AssumeRole", resource := none,
           principal := some (Record.empty.set "AWS" (.one principalArn)),
           condition := some (Record.fromEntries
             [("StringEquals", textCondition [("sts:ExternalId", externalId), ("aws:SourceAccount", sourceAccount)]),
              ("ArnEquals", textCondition [("aws:SourceArn", sourceArn)]),
              ("StringLike", textCondition [("sts:SourceIdentity", sourceIdentity)])]) }

/-- The trust of a workload or a vendor; other identities have none. -/
def trustStatement (identity : Identity) (binding : AwsIdentityBinding) :
    Except String (Option AwsPolicyStatement) :=
  match identity.kind with
  | .workload => (workloadTrust extensions identity binding).map some
  | .vendor => (vendorTrust identity binding).map some
  | _ => .ok none

def compileTrustPolicy (identity : Identity) : Except String (List AwsTrustPolicyPlan) := do
  let binding ← requiredIdentityBinding extensions identity.id
  match ← trustStatement extensions identity binding with
  | none => return []
  | some statement =>
    let maxSessionDurationSeconds := binding.maxSessionDurationSeconds.getD 3600
    throwUnless (decide (900 ≤ maxSessionDurationSeconds) && decide (maxSessionDurationSeconds ≤ 3600))
      s!"AWS identity '{identity.id}' must use a session duration between 900 and 3600 seconds."
    return [{ namedPolicy rt s!"aws:iam:trust:{identity.id}" (policyDocument rt [statement]) with
              identityId := identity.id
              maxSessionDurationSeconds }]

/-! ## Resource policies -/

/-- The identity of a grant is that of its id which is declared last; without one the code
fails on `undefined`. -/
def grantsForResource (resourceId : String) : Except String (List (IdentityGrant × Identity)) :=
  collect (fun grant =>
    match (identitiesById blueprint).get? grant.identityId with
    | some identity => .ok [(grant, identity)]
    | none => .error "Cannot read properties of undefined (reading 'tenantId')")
    (sortedGrants rt blueprint fun grant => grant.resourceIds.contains resourceId)

def s3Statements (resource : AwsDataResourceBinding) (grant : IdentityGrant) (identity : Identity)
    (initial roleArn : String) : List AwsPolicyStatement :=
  let principal := some (Record.empty.set "AWS" (.one roleArn))
  let objectActions := (if reads grant then ["s3:GetObject"] else []) ++
    if writes grant then ["s3:DeleteObject", "s3:PutObject"] else []
  (if reads grant then
    [{ sid := sid [grant.id, identity.id, "AllowList"], effect := effect grant, action := .one "s3:ListBucket",
       resource := some (.one resource.bucketArn), principal,
       condition := some (stringLike "s3:prefix" (initial ++ "*")) }]
  else []) ++
  if objectActions.isEmpty then []
  else
    [{ sid := sid [grant.id, identity.id, "AllowObjects"], effect := effect grant, action := .many objectActions,
       resource := some (.one (objectArn resource.bucketArn initial)), principal, condition := none }]

/-- The statements of a bucket's policy. -/
def s3Compiled (resourceId : String) (resource : AwsDataResourceBinding) :
    Except String (List CompiledStatement) := do
  let granted ← grantsForResource rt blueprint resourceId
  collect (fun (grant, identity) => do
    let tenantId ← requiredTenantId identity grant
    let initial ← requiredTenantValue resource.prefixByTenant tenantId s!"prefix for '{resourceId}'"
    let binding ← requiredIdentityBinding extensions identity.id
    return (s3Statements resource grant identity initial binding.roleArn).map
      (CompiledStatement.mk grant identity resourceId)) granted

/-- `entry[1].kind === "data"`. -/
def dataBindings (entries : List (String × AwsResourceBinding)) : List (String × AwsDataResourceBinding) :=
  entries.filterMap fun p => match p.2 with
    | .data resource => some (p.1, resource)
    | .generic _ => none

def compileS3ResourcePolicies : Except String (List AwsNamedPolicy) :=
  (rt.sortByKey Prod.fst (dataBindings extensions.resources.entries)).mapM fun (resourceId, resource) => do
    let compiled ← s3Compiled extensions rt blueprint resourceId resource
    return namedPolicy rt s!"aws:s3:policy:{resourceId}" (policyDocument rt (compiled.map (·.statement)))

def kmsStatements (resource : AwsDataResourceBinding) (grant : IdentityGrant) (identity : Identity)
    (initial roleArn : String) : List AwsPolicyStatement :=
  if (kmsActions grant).isEmpty then []
  else
    [{ sid := sid [grant.id, identity.id, "UseTenantKey"], effect := effect grant, action := .many (kmsActions grant),
       resource := some (.one "*"), principal := some (Record.empty.set "AWS" (.one roleArn)),
       condition := some (stringLike s3Arn (objectArn resource.bucketArn initial)) }]

/-- The statements of the key policies, each with its key. -/
def kmsCompiled : Except String (List (String × CompiledStatement)) :=
  collect (fun (resourceId, resource) => do
    let granted ← grantsForResource rt blueprint resourceId
    collect (fun (grant, identity) => do
      let tenantId ← requiredTenantId identity grant
      let keyArn ← requiredTenantValue resource.keyArnByTenant tenantId s!"KMS key for '{resourceId}'"
      let initial ← requiredTenantValue resource.prefixByTenant tenantId s!"prefix for '{resourceId}'"
      if (kmsActions grant).isEmpty then return []
      else
        let binding ← requiredIdentityBinding extensions identity.id
        return (kmsStatements resource grant identity initial binding.roleArn).map fun statement =>
          (keyArn, ⟨grant, identity, resourceId, statement⟩)) granted)
    (dataBindings extensions.resources.entries)

def rootKeyAdministration : AwsPolicyStatement :=
  let awsPartition := extensions.awsPartition.getD "aws"
  { sid := "RootKeyAdministration"
    effect := .allow
    action := .one "kms:*"
    resource := some (.one "*")
    principal := some (Record.empty.set "AWS" (.one s!"arn:{awsPartition}:iam::{extensions.accountId}:root"))
    condition := none }

/-- The statements of one key. -/
def keyPolicy (compiled : List (String × CompiledStatement)) (keyArn : String) : AwsNamedPolicy :=
  namedPolicy rt s!"aws:kms:policy:{keyArn}" (policyDocument rt (rootKeyAdministration extensions ::
    (compiled.filter fun p => p.1 == keyArn).map (·.2.statement)))

def compileKmsKeyPolicies : Except String (List AwsNamedPolicy) := do
  let compiled ← kmsCompiled extensions rt blueprint
  return (rt.sortByKey id (compiled.map Prod.fst).eraseDups).map (keyPolicy extensions rt compiled)

/-! ## The adapter -/

def validatePrefix (resourceId initial : String) : Except String Unit :=
  throwUnless (!(initial == "" || startsWith initial "/" || includes initial ".." || includes initial "*"))
    s!"AWS data resource '{resourceId}' has an unmanaged tenant prefix."

def validateDataBinding (resourceId : String) (binding : AwsDataResourceBinding) : Except String Unit := do
  let prefixes := binding.prefixByTenant.values
  throwUnless (decide prefixes.Nodup) s!"AWS data resource '{resourceId}' has overlapping tenant prefixes."
  prefixes.forM (validatePrefix resourceId)

def validateExtensions : Except String Unit := do
  throwUnless (isAccountId extensions.accountId) "AWS IAM accountId must contain 12 digits."
  throwUnless (isOrganizationId extensions.organizationId)
    "AWS IAM organizationId must be one exact AWS Organizations ID."
  blueprint.identities.forM fun identity => do let _ ← requiredIdentityBinding extensions identity.id
  blueprint.grants.forM fun grant => grant.resourceIds.forM fun resourceId => do
    let _ ← requiredResourceBinding extensions resourceId
  (dataBindings extensions.resources.entries).forM fun (resourceId, binding) =>
    validateDataBinding resourceId binding

def workloadAssociation (identity : Identity) : Except String AwsWorkloadIdentityAssociation := do
  let binding ← requiredIdentityBinding extensions identity.id
  let podIdentity ← requiredPodIdentity identity.id binding
  return { identityId := identity.id, roleArn := binding.roleArn,
           kubernetesNamespace := podIdentity.kubernetesNamespace, serviceAccount := podIdentity.serviceAccount }

def compile : Except String AwsIamPlan := do
  validateExtensions extensions blueprint
  let identityPolicies ← collect (compileIdentityPolicy extensions rt blueprint) blueprint.identities
  let trustPolicies ← collect (compileTrustPolicy extensions rt) blueprint.identities
  let s3ResourcePolicies ← compileS3ResourcePolicies extensions rt blueprint
  let kmsKeyPolicies ← compileKmsKeyPolicies extensions rt blueprint
  let associations ← (blueprint.identities.filter fun identity => identity.kind == .workload).mapM
    (workloadAssociation extensions)
  return { identityPolicies := rt.sortByKey (fun policy => policy.semanticId) identityPolicies
           trustPolicies := rt.sortByKey (fun policy => policy.semanticId) trustPolicies
           s3ResourcePolicies
           kmsKeyPolicies
           workloadIdentityAssociations := rt.sortByKey (fun association => association.identityId) associations }

/-! ## What is compiled -/

inductive PolicyKind
  | identity | bucket | key
deriving DecidableEq

/-- The statement is one of those compiled for the policies of a kind. -/
def Compiles (kind : PolicyKind) (c : CompiledStatement) : Prop :=
  match kind with
  | .identity => ∃ identity ∈ blueprint.identities, ∃ cs,
      identityCompiled extensions rt blueprint identity = .ok cs ∧ c ∈ cs
  | .bucket => ∃ p ∈ dataBindings extensions.resources.entries, ∃ cs,
      s3Compiled extensions rt blueprint p.1 p.2 = .ok cs ∧ c ∈ cs
  | .key => ∃ cs, kmsCompiled extensions rt blueprint = .ok cs ∧ ∃ keyArn, (keyArn, c) ∈ cs

/-- The tenant and the prefix with which a data resource is compiled for a grant. -/
structure DataGranted (resource : AwsDataResourceBinding) (grant : IdentityGrant) (identity : Identity)
    (resourceId tenantId initial : String) : Prop where
  bound : extensions.resources.get? resourceId = some (.data resource)
  tenant : requiredTenantId identity grant = .ok tenantId
  initial : resource.prefixByTenant.get? tenantId = some initial

variable {extensions rt blueprint}
variable {plan : AwsIamPlan} {c : CompiledStatement} {identity : Identity} {grant : IdentityGrant}
  {resourceId : String}

theorem mem_sortedGrants {keep : IdentityGrant → Bool} :
    grant ∈ sortedGrants rt blueprint keep ↔ grant ∈ blueprint.grants ∧ keep grant = true := by
  unfold sortedGrants
  rw [Runtime.mem_sortByKey, List.mem_filter]

theorem mem_dataBindings {entries : List (String × AwsResourceBinding)} {resource : AwsDataResourceBinding} :
    (resourceId, resource) ∈ dataBindings entries ↔ (resourceId, .data resource) ∈ entries := by
  unfold dataBindings
  rw [List.mem_filterMap]
  constructor
  · rintro ⟨⟨key, binding⟩, hmem, heq⟩
    cases binding with
    | generic binding => simp at heq
    | data binding =>
      obtain ⟨rfl, rfl⟩ := Prod.mk.inj (Option.some.inj heq)
      exact hmem
  · intro hmem
    exact ⟨_, hmem, rfl⟩

theorem mem_resourceData {resource : AwsDataResourceBinding} :
    (resourceId, resource) ∈ dataBindings extensions.resources.entries ↔
      extensions.resources.get? resourceId = some (.data resource) := by
  rw [mem_dataBindings, Record.mem_entries]

theorem requiredResourceBinding_ok {binding : AwsResourceBinding} :
    requiredResourceBinding extensions resourceId = .ok binding ↔
      extensions.resources.get? resourceId = some binding := by
  unfold requiredResourceBinding
  cases extensions.resources.get? resourceId <;> simp

theorem requiredText_ok {value : Option String} {label text : String} (h : requiredText value label = .ok text) :
    value = some text := by
  unfold requiredText at h
  cases hv : value.filter hasText with
  | none => simp [hv] at h
  | some found =>
    obtain rfl : found = text := by simpa [hv] using h
    exact (Option.filter_eq_some_iff.1 hv).1

/-- An identity that is found by an id has the id. -/
theorem identity_of_id {id : String} (h : (identitiesById blueprint).get? id = some identity) :
    identity ∈ blueprint.identities ∧ id = identity.id := by
  obtain ⟨found, hmem, heq⟩ := List.mem_map.1 (Record.mem_of_fromEntries_get? h)
  obtain ⟨rfl, rfl⟩ := Prod.mk.inj heq
  exact ⟨hmem, rfl⟩

/-- **The rounds of an identity's policy**: one for each of its grants and each resource of it. -/
theorem mem_identityCompiled {cs : List CompiledStatement}
    (h : identityCompiled extensions rt blueprint identity = .ok cs) : c ∈ cs ↔
      c.identity = identity ∧ c.grant ∈ blueprint.grants ∧ c.grant.identityId = identity.id ∧
        c.resourceId ∈ c.grant.resourceIds ∧
        ∃ statements, identityStatements extensions identity c.grant c.resourceId = .ok statements ∧
          c.statement ∈ statements := by
  rw [mem_collect h]
  constructor
  · rintro ⟨grant, hgrant, round, hround, hc⟩
    obtain ⟨hmem, hid⟩ := mem_sortedGrants.1 hgrant
    obtain ⟨resourceId, hresource, inner, hinner, hc⟩ := (mem_collect hround).1 hc
    obtain ⟨statements, hstatements, hinner⟩ := bind_ok.1 hinner
    obtain rfl := pure_ok.1 hinner
    obtain ⟨statement, hstatement, rfl⟩ := List.mem_map.1 hc
    exact ⟨rfl, hmem, beq_iff_eq.1 hid, hresource, statements, hstatements, hstatement⟩
  · rintro ⟨hidentity, hgrant, hid, hresource, statements, hstatements, hstatement⟩
    have hsorted : c.grant ∈ sortedGrants rt blueprint fun grant => grant.identityId == identity.id :=
      mem_sortedGrants.2 ⟨hgrant, beq_iff_eq.2 hid⟩
    obtain ⟨round, hround, -⟩ := collect_round h hsorted
    refine ⟨c.grant, hsorted, round, hround, (mem_collect hround).2 ⟨c.resourceId, hresource, _,
      bind_ok.2 ⟨statements, hstatements, pure_ok.2 rfl⟩, List.mem_map.2 ⟨c.statement, hstatement, ?_⟩⟩⟩
    rw [← hidentity]

theorem mem_grantsForResource {granted : List (IdentityGrant × Identity)}
    (h : grantsForResource rt blueprint resourceId = .ok granted) : (grant, identity) ∈ granted ↔
      grant ∈ blueprint.grants ∧ resourceId ∈ grant.resourceIds ∧
        (identitiesById blueprint).get? grant.identityId = some identity := by
  rw [mem_collect h]
  constructor
  · rintro ⟨grant', hgrant, round, hround, hc⟩
    obtain ⟨hmem, hresource⟩ := mem_sortedGrants.1 hgrant
    cases hi : (identitiesById blueprint).get? grant'.identityId with
    | none => simp [hi] at hround
    | some found =>
      obtain rfl : [(grant', found)] = round := by simpa [hi] using hround
      obtain ⟨rfl, rfl⟩ := Prod.mk.inj (List.mem_singleton.1 hc)
      exact ⟨hmem, List.contains_iff_mem.1 hresource, hi⟩
  · rintro ⟨hgrant, hresource, hi⟩
    exact ⟨grant, mem_sortedGrants.2 ⟨hgrant, List.contains_iff_mem.2 hresource⟩, [(grant, identity)],
      by simp [hi], List.mem_singleton.2 rfl⟩

/-- **The rounds of a bucket's policy.** -/
theorem mem_s3Compiled {resource : AwsDataResourceBinding} {cs : List CompiledStatement}
    (hbound : extensions.resources.get? resourceId = some (.data resource))
    (h : s3Compiled extensions rt blueprint resourceId resource = .ok cs) : c ∈ cs ↔
      c.resourceId = resourceId ∧ c.grant ∈ blueprint.grants ∧ resourceId ∈ c.grant.resourceIds ∧
        (identitiesById blueprint).get? c.grant.identityId = some c.identity ∧
        ∃ tenantId initial binding, DataGranted extensions resource c.grant c.identity resourceId tenantId initial ∧
          requiredIdentityBinding extensions c.identity.id = .ok binding ∧
          c.statement ∈ s3Statements resource c.grant c.identity initial binding.roleArn := by
  obtain ⟨granted, hgranted, h⟩ := bind_ok.1 h
  rw [mem_collect h]
  constructor
  · rintro ⟨⟨grant, identity⟩, hmem, round, hround, hc⟩
    obtain ⟨hgrant, hresource, hi⟩ := (mem_grantsForResource hgranted).1 hmem
    simp only [bind_ok, pure_ok] at hround
    obtain ⟨tenantId, htenant, initial, hinitial, binding, hbinding, rfl⟩ := hround
    obtain ⟨statement, hstatement, rfl⟩ := List.mem_map.1 hc
    exact ⟨rfl, hgrant, hresource, hi, tenantId, initial, binding, ⟨hbound, htenant, requiredText_ok hinitial⟩,
      hbinding, hstatement⟩
  · rintro ⟨hid, hgrant, hresource, hi, tenantId, initial, binding, hdata, hbinding, hstatement⟩
    have hmem : (c.grant, c.identity) ∈ granted := (mem_grantsForResource hgranted).2 ⟨hgrant, hresource, hi⟩
    obtain ⟨round, hround, -⟩ := collect_round h hmem
    refine ⟨_, hmem, round, hround, ?_⟩
    simp only [bind_ok, pure_ok] at hround
    obtain ⟨tenantId', htenant, initial', hinitial, binding', hbinding', rfl⟩ := hround
    -- each part is a function of the round's grant and identity
    obtain rfl : tenantId' = tenantId := Except.ok.inj (htenant.symm.trans hdata.tenant)
    obtain rfl : initial' = initial := Option.some.inj ((requiredText_ok hinitial).symm.trans hdata.initial)
    obtain rfl : binding' = binding := Except.ok.inj (hbinding'.symm.trans hbinding)
    refine List.mem_map.2 ⟨c.statement, hstatement, ?_⟩
    rw [← hid]

/-- **The rounds of the key policies.** -/
theorem mem_kmsCompiled {cs : List (String × CompiledStatement)} {keyArn : String}
    (h : kmsCompiled extensions rt blueprint = .ok cs) (hc : (keyArn, c) ∈ cs) :
    c.grant ∈ blueprint.grants ∧ c.resourceId ∈ c.grant.resourceIds ∧
      (identitiesById blueprint).get? c.grant.identityId = some c.identity ∧
      ∃ resource tenantId initial binding,
        DataGranted extensions resource c.grant c.identity c.resourceId tenantId initial ∧
          c.statement ∈ kmsStatements resource c.grant c.identity initial binding := by
  obtain ⟨⟨resourceId, resource⟩, hbound, round, hround, hc⟩ := (mem_collect h).1 hc
  obtain ⟨granted, hgranted, hround⟩ := bind_ok.1 hround
  obtain ⟨⟨grant, identity⟩, hmem, inner, hinner, hc⟩ := (mem_collect hround).1 hc
  obtain ⟨hgrant, hresource, hi⟩ := (mem_grantsForResource hgranted).1 hmem
  simp only [bind_ok] at hinner
  obtain ⟨tenantId, htenant, keyArn', -, initial, hinitial, hinner⟩ := hinner
  have hdata : DataGranted extensions resource grant identity resourceId tenantId initial :=
    ⟨mem_resourceData.1 hbound, htenant, requiredText_ok hinitial⟩
  split at hinner
  · obtain rfl := pure_ok.1 hinner
    exact absurd hc List.not_mem_nil
  · obtain ⟨binding, -, hinner⟩ := bind_ok.1 hinner
    obtain rfl := pure_ok.1 hinner
    obtain ⟨statement, hstatement, heq⟩ := List.mem_map.1 hc
    obtain ⟨-, rfl⟩ := Prod.mk.inj heq
    exact ⟨hgrant, hresource, hi, resource, tenantId, initial, binding.roleArn, hdata, hstatement⟩

/-- The statements of an identity's policy compile where the policy does. -/
theorem compileIdentityPolicy_ok {policies : List AwsIdentityPolicyPlan}
    (h : compileIdentityPolicy extensions rt blueprint identity = .ok policies) :
    ∃ cs, identityCompiled extensions rt blueprint identity = .ok cs ∧
      policies.flatMap (fun policy => policy.document.statement) =
        (policyDocument rt (cs.map (·.statement))).statement := by
  obtain ⟨binding, -, h⟩ := bind_ok.1 h
  by_cases hgrants : (sortedGrants rt blueprint fun grant => grant.identityId == identity.id).isEmpty = true
  · rw [if_pos hgrants] at h
    obtain rfl := pure_ok.1 h
    refine ⟨[], ?_, rfl⟩
    rw [identityCompiled, List.isEmpty_iff.1 hgrants]
    rfl
  · rw [if_neg hgrants] at h
    obtain ⟨cs, hcs, h⟩ := bind_ok.1 h
    obtain rfl := pure_ok.1 h
    exact ⟨cs, hcs, List.append_nil _⟩

/-- **What the adapter accepts compiles for every policy.** -/
theorem compile_ok (h : compile extensions rt blueprint = .ok plan) :
    (∀ identity ∈ blueprint.identities, ∃ cs, identityCompiled extensions rt blueprint identity = .ok cs) ∧
      (∀ resourceId resource, extensions.resources.get? resourceId = some (.data resource) →
        ∃ cs, s3Compiled extensions rt blueprint resourceId resource = .ok cs) ∧
      ∃ cs, kmsCompiled extensions rt blueprint = .ok cs := by
  simp only [compile, bind_ok] at h
  obtain ⟨-, -, identityPolicies, hidentity, -, -, bucketPolicies, hbucket, keyPolicies, hkey, -⟩ := h
  refine ⟨fun identity hmem => ?_, fun resourceId resource hbound => ?_, ?_⟩
  · obtain ⟨policies, hpolicies, -⟩ := collect_round hidentity hmem
    obtain ⟨cs, hcs, -⟩ := compileIdentityPolicy_ok hpolicies
    exact ⟨cs, hcs⟩
  · have hmem : (resourceId, resource) ∈
        rt.sortByKey Prod.fst (dataBindings extensions.resources.entries) :=
      Runtime.mem_sortByKey.2 (mem_resourceData.2 hbound)
    obtain ⟨policy, -, hpolicy⟩ := mapM_ok hbucket _ hmem
    obtain ⟨cs, hcs, -⟩ := bind_ok.1 hpolicy
    exact ⟨cs, hcs⟩
  · obtain ⟨cs, hcs, -⟩ := bind_ok.1 hkey
    exact ⟨cs, hcs⟩

/-- The statements of a plan's policies of a kind. -/
def AwsIamPlan.statements (plan : AwsIamPlan) : PolicyKind → List AwsPolicyStatement
  | .identity => plan.identityPolicies.flatMap (·.document.statement)
  | .bucket => plan.s3ResourcePolicies.flatMap (·.document.statement)
  | .key => plan.kmsKeyPolicies.flatMap (·.document.statement)

theorem mem_documentOf {cs : List CompiledStatement} {statement : AwsPolicyStatement} :
    statement ∈ (policyDocument rt (cs.map (·.statement))).statement ↔
      ∃ c ∈ cs, normalizeStatement rt c.statement = statement := by
  rw [mem_policyDocument]
  constructor
  · rintro ⟨original, hmem, heq⟩
    obtain ⟨c, hc, rfl⟩ := List.mem_map.1 hmem
    exact ⟨c, hc, heq⟩
  · rintro ⟨c, hc, heq⟩
    exact ⟨c.statement, List.mem_map_of_mem hc, heq⟩

/-- **The policies of a plan hold exactly the compiled statements, normalised**; a key's policy
also has the statement for its administration. -/
theorem plan_statements (h : compile extensions rt blueprint = .ok plan) (statement : AwsPolicyStatement) :
    (statement ∈ plan.statements .identity ↔ ∃ c, Compiles extensions rt blueprint .identity c ∧
      normalizeStatement rt c.statement = statement) ∧
    (statement ∈ plan.statements .bucket ↔ ∃ c, Compiles extensions rt blueprint .bucket c ∧
      normalizeStatement rt c.statement = statement) ∧
    (statement ∈ plan.statements .key → statement = normalizeStatement rt (rootKeyAdministration extensions) ∨
      ∃ c, Compiles extensions rt blueprint .key c ∧ normalizeStatement rt c.statement = statement) := by
  simp only [compile, bind_ok, pure_ok] at h
  obtain ⟨-, -, identityPolicies, hidentity, -, -, bucketPolicies, hbucket, keyPolicies, hkey, -, -, rfl⟩ := h
  refine ⟨?_, ?_, ?_⟩
  · simp only [AwsIamPlan.statements, List.mem_flatMap, Runtime.mem_sortByKey]
    constructor
    · rintro ⟨policy, hpolicy, hstatement⟩
      obtain ⟨identity, hmem, round, hround, hpolicy⟩ := (mem_collect hidentity).1 hpolicy
      obtain ⟨cs, hcs, hall⟩ := compileIdentityPolicy_ok hround
      have hin : statement ∈ round.flatMap fun policy => policy.document.statement :=
        List.mem_flatMap.2 ⟨policy, hpolicy, hstatement⟩
      rw [hall] at hin
      obtain ⟨c, hc, heq⟩ := mem_documentOf.1 hin
      exact ⟨c, ⟨identity, hmem, cs, hcs, hc⟩, heq⟩
    · rintro ⟨c, ⟨identity, hmem, cs, hcs, hc⟩, heq⟩
      obtain ⟨round, hround, hin⟩ := collect_round hidentity hmem
      obtain ⟨cs', hcs', hall⟩ := compileIdentityPolicy_ok hround
      obtain rfl : cs = cs' := Except.ok.inj (hcs.symm.trans hcs')
      obtain ⟨policy, hpolicy, hstatement⟩ := List.mem_flatMap.1 (hall ▸ mem_documentOf.2 ⟨c, hc, heq⟩)
      exact ⟨policy, hin policy hpolicy, hstatement⟩
  · simp only [AwsIamPlan.statements, List.mem_flatMap]
    constructor
    · rintro ⟨policy, hpolicy, hstatement⟩
      obtain ⟨⟨resourceId, resource⟩, hmem, hround⟩ := mapM_source hbucket hpolicy
      obtain ⟨cs, hcs, hround⟩ := bind_ok.1 hround
      obtain rfl := pure_ok.1 hround
      obtain ⟨c, hc, heq⟩ := mem_documentOf.1 hstatement
      exact ⟨c, ⟨(resourceId, resource), Runtime.mem_sortByKey.1 hmem, cs, hcs, hc⟩, heq⟩
    · rintro ⟨c, ⟨⟨resourceId, resource⟩, hmem, cs, hcs, hc⟩, heq⟩
      obtain ⟨policy, hpolicy, hround⟩ := mapM_ok hbucket _ (Runtime.mem_sortByKey.2 hmem)
      obtain ⟨cs', hcs', hround⟩ := bind_ok.1 hround
      obtain rfl : cs = cs' := Except.ok.inj (hcs.symm.trans hcs')
      obtain rfl := pure_ok.1 hround
      exact ⟨_, hpolicy, mem_documentOf.2 ⟨c, hc, heq⟩⟩
  · intro hmem
    obtain ⟨cs, hcs, hkey⟩ := bind_ok.1 hkey
    obtain rfl := pure_ok.1 hkey
    simp only [AwsIamPlan.statements, List.mem_flatMap, List.mem_map] at hmem
    obtain ⟨policy, ⟨keyArn, -, rfl⟩, hstatement⟩ := hmem
    obtain ⟨original, horiginal, rfl⟩ := mem_policyDocument.1 hstatement
    rcases List.mem_cons.1 horiginal with rfl | horiginal
    · exact Or.inl rfl
    · obtain ⟨⟨keyArn', c⟩, hc, rfl⟩ := List.mem_map.1 horiginal
      exact Or.inr ⟨c, ⟨cs, hcs, keyArn', (List.mem_filter.1 hc).1⟩, rfl⟩

end SecureSaas.Aws
