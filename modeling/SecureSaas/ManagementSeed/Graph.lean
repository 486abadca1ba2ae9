import SecureSaas.Core.CanonicalJson
import SecureSaas.Js.Conversion
import SecureSaas.Js.Host
import SecureSaas.Js.Label
import SecureSaas.Js.TextOrder

/-!
# The policies of the management seed (`policy/managementSeed.ts`)

The seed creates one organization with its units, accounts, policies and attachments. A policy pack looks at every
resource by itself, and at the stack as a whole: its resources must be those of one expected graph.

* `expectedResourceGraph`: the resources by name, with their properties and dependencies.
* `validateStack`: what the policy about the graph reports.
* `managementSeedReport`: what all policies report.
-/

namespace SecureSaas.ManagementSeed

open Js

/-! ## Resources -/

/-- What a resource is known by. -/
structure ResourceId where
  urn : String
  type : String
  name : String
deriving DecidableEq

/-- A resource of a stack. Its inputs come from the engine as JSON; a dependency is a resource as well, known here by
what identifies it. -/
structure PolicyResource where
  id : ResourceId
  protect : Bool
  ignoreChanges : List String
  props : Record Value
  json : ∀ p ∈ props.properties, Core.IsStrict p.2 ∧ UniqueKeys p.2
  dependencies : List ResourceId
  propertyDependencies : Record (List ResourceId)

def providerType : String := "pulumi:providers:aws"
def organizationType : String := "aws:organizations/organization:Organization"
def accountType : String := "aws:organizations/account:Account"
def policyType : String := "aws:organizations/policy:Policy"
def serviceAccessType : String := "aws:organizations/awsServiceAccess:AwsServiceAccess"
def unitType : String := "aws:organizations/organizationalUnit:OrganizationalUnit"
def attachmentType : String := "aws:organizations/policyAttachment:PolicyAttachment"
def sharingType : String := "aws:ram/sharingWithOrganization:SharingWithOrganization"

def admittedTypes : List String :=
  [accountType, serviceAccessType, organizationType, unitType, policyType, attachmentType, sharingType, providerType]

/-- `resource.props[property]`. -/
def PolicyResource.prop (resource : PolicyResource) (property : String) : Value :=
  (resource.props.get? property).getD .undefined

/-! ## The reviewed model -/

structure SeedAccount where
  name : String
  unit : String
  kind : String
  modular : Bool

structure SeedUnit where
  name : String
  parent : Option String

def serviceAccessPrincipals : List String :=
  ["cloudtrail.amazonaws.com", "config.amazonaws.com", "config-multiaccountsetup.amazonaws.com",
    "guardduty.amazonaws.com", "securityhub.amazonaws.com", "inspector2.amazonaws.com"]

def organizationalUnits : List SeedUnit :=
  [⟨"Security", none⟩, ⟨"Infrastructure", none⟩, ⟨"Workloads", none⟩, ⟨"NonProd", some "Workloads"⟩,
    ⟨"PreProd", some "Workloads"⟩, ⟨"Prod", some "Workloads"⟩, ⟨"Suspended", none⟩]

def accountBaseline : List SeedAccount :=
  [⟨"security-tooling", "Security", "security", false⟩, ⟨"log-archive", "Security", "log-archive", false⟩,
    ⟨"network", "Infrastructure", "network", false⟩, ⟨"shared-services", "Infrastructure", "shared-services", false⟩,
    ⟨"platform-dev", "NonProd", "workload", false⟩, ⟨"execution-dev", "NonProd", "execution", false⟩,
    ⟨"platform-staging", "PreProd", "workload", true⟩, ⟨"execution-staging", "PreProd", "execution", true⟩,
    ⟨"platform-prod", "Prod", "workload", false⟩, ⟨"execution-prod", "Prod", "execution", false⟩]

/-- The accounts that every seed has. -/
def seedAccounts : List SeedAccount := accountBaseline.filter fun account => !account.modular

def textItems (texts : List String) : Value := .array (texts.map .string)

/-- A statement that denies actions on everything. -/
def denyStatement (sid : String) (action : Value) : Value :=
  .object [("Sid", .string sid), ("Effect", .string "Deny"), ("Action", action), ("Resource", .string "*")]

def policyDocument (statements : List Value) : Value :=
  .object [("Version", .string "2012-10-17"), ("Statement", .array statements)]

def baselineScpDocument : Value :=
  policyDocument [
    denyStatement "DenyLeaveOrganization" (textItems ["organizations:LeaveOrganization"]),
    denyStatement "DenyDisableAuditAndDetection" (textItems ["cloudtrail:DeleteTrail", "cloudtrail:StopLogging",
      "cloudtrail:UpdateTrail", "config:DeleteConfigRule", "config:DeleteConfigurationRecorder",
      "config:DeleteDeliveryChannel", "config:StopConfigurationRecorder", "guardduty:DeleteDetector",
      "guardduty:DisassociateFromAdministratorAccount", "guardduty:DisassociateFromMasterAccount",
      "guardduty:DisassociateMembers", "guardduty:StopMonitoringMembers", "securityhub:DisableSecurityHub",
      "securityhub:DisassociateFromAdministratorAccount", "securityhub:DisassociateMembers", "inspector2:Disable"]),
    denyStatement "DenyIamUserAndAccessKeyCreation" (textItems ["iam:CreateUser", "iam:CreateAccessKey",
      "iam:UpdateAccessKey", "iam:CreateLoginProfile", "iam:UpdateLoginProfile"]),
    denyStatement "DenyKmsRotationDisable" (textItems ["kms:DisableKeyRotation", "kms:ScheduleKeyDeletion"]),
    denyStatement "DenyEbsDefaultEncryptionDisable" (textItems ["ec2:DisableEbsEncryptionByDefault"]),
    denyStatement "DenyCloudTrailMutations" (textItems ["cloudtrail:DeleteTrail", "cloudtrail:StopLogging",
      "cloudtrail:UpdateTrail", "cloudtrail:PutEventSelectors", "cloudtrail:PutInsightSelectors"])]

def suspendedScpDocument : Value := policyDocument [denyStatement "DenyAllSuspendedAccountActions" (.string "*")]

def s3PublicAccessBlockDocument : Value :=
  .object [("s3_attributes", .object [("public_access_block_configuration", .object [("@@assign", .string "all")])])]

/-! ## Texts -/

/-- `canonicalJson(value)`: `undefined` has none. -/
def canonicalJson (rt : Runtime) (value : Value) : Option (List Char) :=
  Core.InfrastructureController.stableText rt value

/-- `value.toLowerCase().replace(/[^a-z0-9]+/g, "-").replace(/^-|-$/g, "")`. -/
def slug (value : String) : String := String.ofList (trimDash (dashRuns isLowerAlnum false (lowerCased value)))

def endsWith (value ending : String) : Bool := ending.toList.isSuffixOf value.toList

def stripSuffix (value ending : String) : Option String :=
  if endsWith value ending && decide (ending.toList.length < value.toList.length) then
    some (String.ofList (value.toList.take (value.toList.length - ending.toList.length)))
  else none

/-- The text of a value, parsed if it is one; `undefined` for what is no JSON. -/
def canonicalPolicy (host : Host) (value : Value) : Option (List Char) :=
  match value with
  | .string text => (host.jsonParse text).bind (canonicalJson host.toRuntime)
  | _ => canonicalJson host.toRuntime value

/-! ## The expected graph -/

structure ExpectedSeedResource where
  type : String
  props : Record Value
  allowedProps : List String
  dependencies : List String
  propertyDependencies : Record (List String)

/-- The entries in the order of their keys, each with its names in order. -/
def normalizedDependencyMap (rt : Runtime) (value : Record (List String)) : Record (List String) :=
  Record.fromEntries ((rt.sortByKey Prod.fst value.entries).map fun p => (p.1, sortTexts p.2))

/-- `add(suffix, type, props, dependencies, propertyDependencies)`. -/
def expectedResource (rt : Runtime) (seedPrefix suffix type : String) (props : List (String × Value))
    (dependencies : List String) (propertyDependencies : List (String × List String)) : String × ExpectedSeedResource :=
  (seedPrefix ++ "-" ++ suffix,
    { type
      props := Record.fromEntries props
      allowedProps := sortTexts (distinct ((Record.fromEntries props).keys ++ (Record.fromEntries propertyDependencies).keys))
      dependencies := sortTexts dependencies
      propertyDependencies := normalizedDependencyMap rt (Record.fromEntries propertyDependencies) })

def seedTags (seedPrefix suffix : String) (extra : List (String × Value)) : Value :=
  .object ([
    ("Project", .string "secure-saas-infra"), ("Stack", .string "management"),
    ("Organization", .string ((stripSuffix seedPrefix "-management").getD "")),
    ("Environment", .string "management"), ("ManagedBy", .string "pulumi"),
    ("Name", .string (seedPrefix ++ "-" ++ suffix))] ++ extra)

def localPartMark : String := "__local-part-must-equal__:"

def expectedAccountEmail (name : String) : String := localPartMark ++ name

def policyDescription (suffix : String) : String :=
  if suffix = "scp-baseline-deny-guardrails" then "Consolidated deny-only baseline for governed member-account OUs."
  else if suffix = "s3-policy-enforce-public-access-block" then
    "Enforces all four S3 Block Public Access settings through the native Organizations policy type."
  else "Denies every member-account action in the Suspended OU."

/-- The policies: suffix, name and document. -/
def seedPolicies : List (String × String × Value) :=
  [("scp-baseline-deny-guardrails", "baseline-deny-guardrails", baselineScpDocument),
    ("s3-policy-enforce-public-access-block", "enforce-s3-public-access-block", s3PublicAccessBlockDocument),
    ("scp-suspended-deny-all", "suspended-deny-all", suspendedScpDocument)]

/-- The attachments: suffix, policy and target. -/
def seedAttachments : List (String × String × String) :=
  [("policy-baseline-deny-guardrails-security-attachment", "scp-baseline-deny-guardrails", "ou-security"),
    ("policy-baseline-deny-guardrails-infrastructure-attachment", "scp-baseline-deny-guardrails", "ou-infrastructure"),
    ("policy-baseline-deny-guardrails-workloads-attachment", "scp-baseline-deny-guardrails", "ou-workloads"),
    ("policy-enforce-s3-public-access-block-root-attachment", "s3-policy-enforce-public-access-block", "organization"),
    ("policy-suspended-deny-all-suspended-attachment", "scp-suspended-deny-all", "ou-suspended")]

section
variable (rt : Runtime) (seedPrefix : String)

def expectedOrganization : String × ExpectedSeedResource :=
  expectedResource rt seedPrefix "organization" organizationType
    [("featureSet", .string "ALL"), ("enabledPolicyTypes", textItems ["SERVICE_CONTROL_POLICY", "S3_POLICY"])] [] []

def expectedSharing : String × ExpectedSeedResource :=
  expectedResource rt seedPrefix "ram-sharing-with-organization" sharingType [] [seedPrefix ++ "-organization"] []

def expectedUnit (unit : SeedUnit) : String × ExpectedSeedResource :=
  let suffix := "ou-" ++ slug unit.name
  let parent := match unit.parent with
    | some parent => seedPrefix ++ "-ou-" ++ slug parent
    | none => seedPrefix ++ "-organization"
  expectedResource rt seedPrefix suffix unitType
    [("name", .string unit.name), ("tags", seedTags seedPrefix suffix [])] [parent] [("parentId", [parent])]

/-- Accounts are created in three lanes: each waits for the one three places before it. -/
def expectedAccount (index : ℕ) (account : SeedAccount) : String × ExpectedSeedResource :=
  let suffix := "account-" ++ slug account.name
  let parent := seedPrefix ++ "-ou-" ++ slug account.unit
  let lanePredecessor := if 3 ≤ index then
      (seedAccounts[index - 3]?).toList.map fun earlier => seedPrefix ++ "-account-" ++ slug earlier.name
    else []
  expectedResource rt seedPrefix suffix accountType
    [("name", .string account.name), ("email", .string (expectedAccountEmail account.name)),
      ("roleName", .string "DeusOrganizationBootstrap"), ("closeOnDeletion", .bool false),
      ("iamUserAccessToBilling", .string "DENY"),
      ("tags", seedTags seedPrefix suffix
        [("AccountKind", .string account.kind), ("OrganizationalUnit", .string account.unit)])]
    (parent :: lanePredecessor) [("parentId", [parent])]

def expectedServiceAccess (principal : String) : String × ExpectedSeedResource :=
  expectedResource rt seedPrefix ("service-access-" ++ slug principal) serviceAccessType
    [("servicePrincipal", .string principal)] [seedPrefix ++ "-organization"] []

def expectedPolicy (policy : String × String × Value) : String × ExpectedSeedResource :=
  let (suffix, name, content) := policy
  let kind := if startsWith suffix "s3-policy-" then "S3_POLICY" else "SERVICE_CONTROL_POLICY"
  expectedResource rt seedPrefix suffix policyType
    [("name", .string (seedPrefix ++ "-" ++ name)), ("description", .string (policyDescription suffix)),
      ("type", .string kind), ("content", content), ("tags", seedTags seedPrefix suffix [])]
    [seedPrefix ++ "-organization"] []

def expectedAttachment (attachment : String × String × String) : String × ExpectedSeedResource :=
  let (suffix, policySuffix, targetSuffix) := attachment
  let policy := seedPrefix ++ "-" ++ policySuffix
  let target := seedPrefix ++ "-" ++ targetSuffix
  expectedResource rt seedPrefix suffix attachmentType [] [policy, target] [("policyId", [policy]), ("targetId", [target])]

/-- The entries of the graph in the order in which they are added. -/
def expectedEntries : List (String × ExpectedSeedResource) :=
  expectedOrganization rt seedPrefix :: expectedSharing rt seedPrefix ::
    (organizationalUnits.map (expectedUnit rt seedPrefix) ++
      (seedAccounts.zipIdx.map fun entry => expectedAccount rt seedPrefix entry.2 entry.1) ++
      serviceAccessPrincipals.map (expectedServiceAccess rt seedPrefix) ++
      seedPolicies.map (expectedPolicy rt seedPrefix) ++ seedAttachments.map (expectedAttachment rt seedPrefix))

def expectedResourceGraph : Record ExpectedSeedResource := Record.fromEntries (expectedEntries rt seedPrefix)

end

/-- The names before the prefix is put in front of them. -/
def seedSuffixes : List String :=
  "organization" :: "ram-sharing-with-organization" ::
    (organizationalUnits.map (fun unit => "ou-" ++ slug unit.name) ++
      seedAccounts.map (fun account => "account-" ++ slug account.name) ++
      serviceAccessPrincipals.map (fun principal => "service-access-" ++ slug principal) ++
      seedPolicies.map (·.1) ++ seedAttachments.map (·.1))

def expectedResourceNames (seedPrefix : String) : List String :=
  sortTexts (seedSuffixes.map fun suffix => seedPrefix ++ "-" ++ suffix)

end SecureSaas.ManagementSeed
