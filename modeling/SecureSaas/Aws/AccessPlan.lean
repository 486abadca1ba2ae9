import SecureSaas.Aws.ActionSets
import SecureSaas.Aws.IamAdapter
import SecureSaas.Js.Parse

/-!
# Bootstrap access plans (`src/adapters/aws/bootstrapAccess.ts`)

Untrusted values are parsed and then checked as a whole. Every text of a parsed plan carries its
format; the members that the types fix are checked and dropped.

* `parse_asserted`: what is parsed has passed the checks.
* `assertPlan_ok`: **the accounts of a checked plan have different names.**
* `parse_written`: **a checked plan is parsed back from its value.**
-/

namespace SecureSaas.Aws

open Js

/-! ## Formats -/

/-- `/^[A-Za-z0-9][A-Za-z0-9._:-]{0,127}$/`, without `*` and `..`. -/
def isIdentifier (s : String) : Bool :=
  Pattern.fullMatch (.seq (.cls isAlnum)
    (.upTo (fun c => isAlnum c || c == '.' || c == '_' || c == ':' || c == '-') 127)) s &&
    !includes s "*" && !includes s ".."

/-- `[A-Za-z0-9+=,.@_-]`. -/
def isIamNameChar (c : Char) : Bool :=
  isAlnum c || c == '+' || c == '=' || c == ',' || c == '.' || c == '@' || c == '_' || c == '-'

/-- `/^[A-Za-z0-9+=,.@_-]{1,64}$/`. -/
def isIamName (s : String) : Bool := Pattern.fullMatch (.seq (.cls isIamNameChar) (.upTo isIamNameChar 63)) s

/-- `/^arn:aws(?:-[a-z]+)?:iam::\d{12}:role\/[A-Za-z0-9+=,.@_\-\/]+$/`, without `*`, a user or the
root. -/
def isExactRoleArn (s : String) : Bool :=
  Pattern.fullMatch (.seq (.lit "arn:aws") (.seq (.opt (.seq (.lit "-") (.many1 isLowerLetter)))
    (.seq (.lit ":iam::") (.seq (.exactly isDecimal 12) (.seq (.lit ":role/")
      (.many1 fun c => isIamNameChar c || c == '/')))))) s &&
    !includes s "*" && !":root".toList.isSuffixOf s.toList && !includes s ":user/"

/-- `/^[a-z]{2}(?:-gov)?-[a-z]+-\d$/`. -/
def isAwsRegion (s : String) : Bool :=
  Pattern.fullMatch (.seq (.exactly isLowerLetter 2) (.seq (.opt (.lit "-gov")) (.seq (.lit "-")
    (.seq (.many1 isLowerLetter) (.seq (.lit "-") (.cls isDecimal)))))) s

/-- `/^[a-z0-9](?:[a-z0-9.-]{0,251}[a-z0-9])?$/`. -/
def isKubernetesName (s : String) : Bool :=
  Pattern.fullMatch (.seq (.cls isLowerAlnum)
    (.opt (.seq (.upTo (fun c => isLowerAlnum c || c == '.' || c == '-') 251) (.cls isLowerAlnum)))) s

abbrev Identifier := {s : String // isIdentifier s = true}
abbrev IamName := {s : String // isIamName s = true}
abbrev AccountId := {s : String // isAccountId s = true}
abbrev RoleArn := {s : String // isExactRoleArn s = true}
abbrev AwsRegion := {s : String // isAwsRegion s = true}
abbrev KubernetesName := {s : String // isKubernetesName s = true}

/-- Between 900 and 3600 seconds. -/
def isSessionDuration (n : ℤ) : Bool := decide (900 ≤ n) && decide (n ≤ 3600)

abbrev SessionDuration := {n : ℤ // n ≤ maxSafeInteger ∧ isSessionDuration n = true}

/-! ## Data -/

inductive AwsBootstrapAccountKind
  | securityTooling | logArchive | network | sharedServices | platform | execution
deriving DecidableEq

def AwsBootstrapAccountKind.text : AwsBootstrapAccountKind → String
  | .securityTooling => "security-tooling"
  | .logArchive => "log-archive"
  | .network => "network"
  | .sharedServices => "shared-services"
  | .platform => "platform"
  | .execution => "execution"

inductive AwsEnvironmentClass
  | nonproduction | preproduction | production
deriving DecidableEq

def AwsEnvironmentClass.text : AwsEnvironmentClass → String
  | .nonproduction => "nonproduction"
  | .preproduction => "preproduction"
  | .production => "production"

inductive LandingZoneOwner
  | organizations | controlTower
deriving DecidableEq

def LandingZoneOwner.text : LandingZoneOwner → String
  | .organizations => "organizations"
  | .controlTower => "control-tower"

structure AwsBootstrapRoles where
  planRoleName : IamName
  applyRoleName : IamName
  planPermissionsBoundaryName : IamName
  applyPermissionsBoundaryName : IamName

structure AwsBootstrapAccessAccount where
  accountName : Identifier
  accountId : AccountId
  kind : AwsBootstrapAccountKind
  environmentClass : AwsEnvironmentClass
  allowedRegions : List AwsRegion
  allowedRegions_nodup : allowedRegions.Nodup
  allowedRegions_ne : allowedRegions ≠ []
  resourceNamePrefix : Identifier
  actionSets : List AwsInfrastructureActionSet
  actionSets_nodup : actionSets.Nodup
  allowControllerPlan : Bool
  allowControllerApply : Bool
  productionApprovalRequired : Bool
  roles : AwsBootstrapRoles

structure AwsBootstrapManagement where
  accountId : AccountId
  accessInstallerRoleArn : RoleArn
  maxSessionDurationSeconds : SessionDuration

structure AwsBootstrapController where
  roleArn : RoleArn
  hostAccountId : AccountId
  kubernetesNamespace : KubernetesName
  kubernetesServiceAccount : KubernetesName
  maxSessionDurationSeconds : SessionDuration

structure AwsBootstrapAccessPlan where
  name : Identifier
  landingZoneOwner : LandingZoneOwner
  organizationName : Identifier
  management : AwsBootstrapManagement
  handoffRoleName : IamName
  controller : AwsBootstrapController
  accounts : List AwsBootstrapAccessAccount
  accounts_nodup : (accounts.map (·.accountId)).Nodup

def apiVersion : String := "security.deus.dev/aws-bootstrap-access/v1alpha1"

def accountKindActionSets : AwsBootstrapAccountKind → List AwsInfrastructureActionSet
  | .securityTooling => [.observability, .security]
  | .logArchive => [.audit, .data, .observability]
  | .network => [.dns, .network, .observability]
  | .sharedServices => [.data, .dns, .observability]
  | .platform => [.backup, .data, .database, .dns, .network, .observability, .workload]
  | .execution => [.backup, .data, .database, .network, .observability, .workload]

/-! ## Written plans -/

def texts (values : List String) : Value := .array (values.map .string)

def AwsBootstrapRoles.properties (roles : AwsBootstrapRoles) : List (String × Value) :=
  [("planRoleName", .string roles.planRoleName.1), ("applyRoleName", .string roles.applyRoleName.1),
    ("planPermissionsBoundaryName", .string roles.planPermissionsBoundaryName.1),
    ("applyPermissionsBoundaryName", .string roles.applyPermissionsBoundaryName.1)]

def AwsBootstrapAccessAccount.properties (account : AwsBootstrapAccessAccount) : List (String × Value) :=
  [("accountName", .string account.accountName.1), ("accountId", .string account.accountId.1),
    ("kind", .string account.kind.text), ("environmentClass", .string account.environmentClass.text),
    ("allowedRegions", texts (account.allowedRegions.map Subtype.val)),
    ("resourceNamePrefix", .string account.resourceNamePrefix.1),
    ("actionSets", texts (account.actionSets.map AwsInfrastructureActionSet.text)),
    ("allowControllerPlan", .bool account.allowControllerPlan),
    ("allowControllerApply", .bool account.allowControllerApply),
    ("productionApprovalRequired", .bool account.productionApprovalRequired),
    ("roles", .object account.roles.properties)]

def AwsBootstrapAccessAccount.toValue (account : AwsBootstrapAccessAccount) : Value := .object account.properties

def rootAccessProperties : List (String × Value) :=
  [("programmaticAccess", .bool false), ("mfaRequired", .bool true), ("multiPersonRecovery", .bool true),
    ("centralizedMemberRootAccess", .bool true), ("usedByAutomation", .bool false), ("usedByPulumi", .bool false)]

def AwsBootstrapManagement.properties (management : AwsBootstrapManagement) : List (String × Value) :=
  [("accountId", .string management.accountId.1), ("workforceAccess", .string "iam-identity-center"),
    ("accessInstallerRoleArn", .string management.accessInstallerRoleArn.1), ("humanFederationOnly", .bool true),
    ("automationAccess", .bool false),
    ("maxSessionDurationSeconds", .number (.int management.maxSessionDurationSeconds.1)),
    ("root", .object rootAccessProperties)]

def handoffProperties (roleName : IamName) : List (String × Value) :=
  [("roleName", .string roleName.1), ("purpose", .string "install-scoped-access-roles"),
    ("humanApprovalRequired", .bool true), ("automationAssumable", .bool false),
    ("retireAfterScopedRolesReady", .bool true)]

def AwsBootstrapController.properties (controller : AwsBootstrapController) : List (String × Value) :=
  [("roleArn", .string controller.roleArn.1), ("hostAccountId", .string controller.hostAccountId.1),
    ("identityMode", .string "eks-pod-identity"), ("kubernetesNamespace", .string controller.kubernetesNamespace.1),
    ("kubernetesServiceAccount", .string controller.kubernetesServiceAccount.1),
    ("temporaryCredentials", .bool true),
    ("maxSessionDurationSeconds", .number (.int controller.maxSessionDurationSeconds.1)),
    ("managementAccountAccess", .bool false)]

def deletionProperties : List (String × Value) :=
  [("ordinaryApplyRoleAllowed", .bool false), ("dedicatedRoleProvisioned", .bool false),
    ("minimumApprovals", .number (.int 2))]

def AwsBootstrapAccessPlan.properties (plan : AwsBootstrapAccessPlan) : List (String × Value) :=
  [("apiVersion", .string apiVersion), ("kind", .string "AwsBootstrapAccessPlan"), ("name", .string plan.name.1),
    ("landingZoneOwner", .string plan.landingZoneOwner.text), ("organizationName", .string plan.organizationName.1),
    ("management", .object plan.management.properties),
    ("initialMemberHandoff", .object (handoffProperties plan.handoffRoleName)),
    ("controller", .object plan.controller.properties),
    ("accounts", .array (plan.accounts.map (·.toValue))), ("deletion", .object deletionProperties)]

def AwsBootstrapAccessPlan.toValue (plan : AwsBootstrapAccessPlan) : Value := .object plan.properties

/-! ## Names of lanes -/

/-- Every part that dashes separate with its first letter in upper case, the dashes dropped. -/
def capitalizedParts : Bool → List Char → List Char
  | _, [] => []
  | start, c :: cs =>
    if c = '-' then capitalizedParts true cs
    else (if start then c.toUpper else c) :: capitalizedParts false cs

def laneName (base : String) (actionSet : AwsInfrastructureActionSet) : String :=
  base ++ "-" ++ String.ofList (capitalizedParts true actionSet.text.toList)

/-- `value.split(":")[4] ?? ""`. -/
def accountFromArn (value : String) : String := String.ofList (((value.toList.splitOn ':')[4]?).getD [])

/-! ## Values -/

def identifier : Check String Identifier := checkedText isIdentifier (· ++ " must be an exact identifier.")

def iamName : Check String IamName := checkedText isIamName (· ++ " must be an exact IAM name.")

def accountId : Check String AccountId := checkedText isAccountId (· ++ " must be a 12-digit AWS account ID.")

def roleArn : Check String RoleArn := checkedText isExactRoleArn (· ++ " must be an exact IAM role ARN.")

def awsRegion : Check String AwsRegion := checkedText isAwsRegion (· ++ " must be an exact AWS region.")

def kubernetesName : Check String KubernetesName :=
  checkedText isKubernetesName (· ++ " must be an exact Kubernetes name.")

def sessionDuration : Check String SessionDuration :=
  checkedInteger isSessionDuration (· ++ " must be between 900 and 3600 seconds.")

def booleanValue : Check String Bool := checkedBoolean (· ++ " must be boolean.")

/-- `literal` for a number. -/
def literalNumber (expected : ℤ) : Check String Unit := fun value path =>
  match value with
  | .number (.int n) => ensure (n == expected) s!"{path} must be '{expected}'."
  | _ => .error s!"{path} must be '{expected}'."

variable {α : Type}

theorem parseEntries_ne {parse : Check String α} {path : String} {index : ℕ} {v : Value} {rest : List Value}
    {parsed : List α} (h : parseEntries parse path index (v :: rest) = .ok parsed) : parsed ≠ [] := by
  obtain ⟨a, -, h⟩ := bind_ok.1 h
  obtain ⟨entries, -, h⟩ := bind_ok.1 h
  rw [← pure_ok.1 h]
  exact List.cons_ne_nil a entries

/-- An array with an item at least whose parsed items have pairwise different keys. -/
def uniqueArray (parse : Check String α) (key : α → String) :
    Check String {l : List α // (l.map key).Nodup ∧ l ≠ []} := fun value path =>
  match value with
  | .array (entry :: rest) =>
    match hparsed : parseEntries parse path 0 (entry :: rest) with
    | .error e => .error e
    | .ok parsed =>
      if h : (parsed.map fun a => jsonStringify (.string (key a))).Nodup then
        .ok ⟨parsed, List.Nodup.of_map (fun s => jsonStringify (.string s)) (by rw [List.map_map]; exact h),
          parseEntries_ne hparsed⟩
      else .error s!"{path} must not contain duplicates."
  | _ => .error s!"{path} must be a non-empty array."

def actionSet : Check String AwsInfrastructureActionSet :=
  enumeration id AwsInfrastructureActionSet.text AwsInfrastructureActionSet.all

/-! ## Parsing -/

/-- The members of an account's roles. -/
def parseRoles (roles : List (String × Value)) (path : String) : Except String AwsBootstrapRoles := do
  let planRoleName ← iamName (Value.get roles "planRoleName") s!"{path}.planRoleName"
  let applyRoleName ← iamName (Value.get roles "applyRoleName") s!"{path}.applyRoleName"
  let planPermissionsBoundaryName ←
    iamName (Value.get roles "planPermissionsBoundaryName") s!"{path}.planPermissionsBoundaryName"
  let applyPermissionsBoundaryName ←
    iamName (Value.get roles "applyPermissionsBoundaryName") s!"{path}.applyPermissionsBoundaryName"
  return { planRoleName, applyRoleName, planPermissionsBoundaryName, applyPermissionsBoundaryName }

/-- The members of an account. -/
def accountMembers (input roles : List (String × Value)) (path : String) :
    Except String AwsBootstrapAccessAccount := do
  let accountName ← identifier (Value.get input "accountName") s!"{path}.accountName"
  let accountId ← accountId (Value.get input "accountId") s!"{path}.accountId"
  let kind ← enumeration id AwsBootstrapAccountKind.text
    [.securityTooling, .logArchive, .network, .sharedServices, .platform, .execution]
    (Value.get input "kind") s!"{path}.kind"
  let environmentClass ← enumeration id AwsEnvironmentClass.text [.nonproduction, .preproduction, .production]
    (Value.get input "environmentClass") s!"{path}.environmentClass"
  let allowedRegions ← uniqueArray awsRegion Subtype.val (Value.get input "allowedRegions") s!"{path}.allowedRegions"
  let resourceNamePrefix ← identifier (Value.get input "resourceNamePrefix") s!"{path}.resourceNamePrefix"
  let actionSets ← uniqueArray actionSet AwsInfrastructureActionSet.text (Value.get input "actionSets")
    s!"{path}.actionSets"
  let allowControllerPlan ← booleanValue (Value.get input "allowControllerPlan") s!"{path}.allowControllerPlan"
  let allowControllerApply ← booleanValue (Value.get input "allowControllerApply") s!"{path}.allowControllerApply"
  let productionApprovalRequired ←
    booleanValue (Value.get input "productionApprovalRequired") s!"{path}.productionApprovalRequired"
  let roles ← parseRoles roles s!"{path}.roles"
  return { accountName, accountId, kind, environmentClass, allowedRegions := allowedRegions.1,
           allowedRegions_nodup := allowedRegions.2.1.of_map _, allowedRegions_ne := allowedRegions.2.2,
           resourceNamePrefix, actionSets := actionSets.1, actionSets_nodup := actionSets.2.1.of_map _, allowControllerPlan, allowControllerApply,
           productionApprovalRequired, roles }

def parseAccount : Check String AwsBootstrapAccessAccount := fun value path => do
  let input ← exactObject id value path
    ["accountName", "accountId", "kind", "environmentClass", "allowedRegions", "resourceNamePrefix", "actionSets",
      "allowControllerPlan", "allowControllerApply", "productionApprovalRequired", "roles"]
  let roles ← exactObject id (Value.get input "roles") s!"{path}.roles"
    ["planRoleName", "applyRoleName", "planPermissionsBoundaryName", "applyPermissionsBoundaryName"]
  accountMembers input roles path

/-! ## Checks of a whole plan -/

/-- The checks of one account. -/
def assertAccount (plan : AwsBootstrapAccessPlan) (account : AwsBootstrapAccessAccount) : Except String Unit := do
  throwUnless (account.accountId != plan.management.accountId)
    "Management account must not be a target access account."
  throwUnless (!(account.environmentClass == .production && !account.productionApprovalRequired))
    s!"Production account '{account.accountName.1}' requires approval."
  throwUnless (!account.allowControllerApply)
    s!"Account '{account.accountName.1}' must not grant direct controller apply authority until a separately reviewed execution identity and broker are installed."
  throwUnless (!account.allowControllerPlan)
    s!"Account '{account.accountName.1}' must not trust the controller plan identity until its member-account role and EKS Pod Identity association have been independently materialized and verified."
  throwUnless (!(account.environmentClass != .production && account.productionApprovalRequired))
    s!"Nonproduction account '{account.accountName.1}' must not claim production approval."
  account.actionSets.forM fun actionSet =>
    throwUnless ((accountKindActionSets account.kind).contains actionSet)
      s!"Account '{account.accountName.1}' cannot use action set '{actionSet.text}'."
  throwUnless (!account.actionSets.isEmpty) s!"Account '{account.accountName.1}' needs action sets."
  throwUnless (account.roles.planRoleName != account.roles.applyRoleName)
    s!"Account '{account.accountName.1}' must separate plan and apply roles."
  account.actionSets.forM fun actionSet => do
    let _ ← iamName (.string (laneName account.roles.applyRoleName.1 actionSet))
      s!"accounts.{account.accountName.1}.roles.applyRoleName({actionSet.text})"
    let _ ← iamName (.string (laneName account.roles.applyPermissionsBoundaryName.1 actionSet))
      s!"accounts.{account.accountName.1}.roles.applyPermissionsBoundaryName({actionSet.text})"
  account.allowedRegions.zipIdx.forM fun (region, index) => do
    let _ ← awsRegion (.string region.1) s!"accounts.{account.accountName.1}.allowedRegions[{index}]"

/-- The loop over the accounts, with the names that it has seen. -/
def assertAccounts (plan : AwsBootstrapAccessPlan) :
    List Identifier → List AwsBootstrapAccessAccount → Except String Unit
  | _, [] => .ok ()
  | accountNames, account :: rest => do
    throwUnless (!accountNames.contains account.accountName) s!"Duplicate account name '{account.accountName.1}'."
    assertAccount plan account
    assertAccounts plan (account.accountName :: accountNames) rest

def assertAwsBootstrapAccessPlan (plan : AwsBootstrapAccessPlan) : Except String Unit := do
  throwUnless (accountFromArn plan.management.accessInstallerRoleArn.1 == plan.management.accountId.1)
    "Management access-installer role must belong to the management account."
  throwUnless (plan.controller.hostAccountId != plan.management.accountId)
    "Infrastructure controller must not run in the management account."
  throwUnless (accountFromArn plan.controller.roleArn.1 == plan.controller.hostAccountId.1)
    "Infrastructure controller role account does not match host account."
  throwUnless (!plan.accounts.isEmpty) "AWS bootstrap access plan requires target accounts."
  assertAccounts plan [] plan.accounts

/-! ## The whole plan -/

/-- The members of the root user's settings are all fixed. -/
def parseRootAccess (rootAccess : List (String × Value)) (path : String) : Except String Unit := do
  let _ ← literalBoolean id false (Value.get rootAccess "programmaticAccess") s!"{path}.programmaticAccess"
  let _ ← literalBoolean id true (Value.get rootAccess "mfaRequired") s!"{path}.mfaRequired"
  let _ ← literalBoolean id true (Value.get rootAccess "multiPersonRecovery") s!"{path}.multiPersonRecovery"
  let _ ← literalBoolean id true (Value.get rootAccess "centralizedMemberRootAccess")
    s!"{path}.centralizedMemberRootAccess"
  let _ ← literalBoolean id false (Value.get rootAccess "usedByAutomation") s!"{path}.usedByAutomation"
  let _ ← literalBoolean id false (Value.get rootAccess "usedByPulumi") s!"{path}.usedByPulumi"

def parseManagement (management rootAccess : List (String × Value)) (path : String) :
    Except String AwsBootstrapManagement := do
  let accountId ← accountId (Value.get management "accountId") s!"{path}.accountId"
  let _ ← literal id "iam-identity-center" (Value.get management "workforceAccess") s!"{path}.workforceAccess"
  let accessInstallerRoleArn ←
    roleArn (Value.get management "accessInstallerRoleArn") s!"{path}.accessInstallerRoleArn"
  let _ ← literalBoolean id true (Value.get management "humanFederationOnly") s!"{path}.humanFederationOnly"
  let _ ← literalBoolean id false (Value.get management "automationAccess") s!"{path}.automationAccess"
  let maxSessionDurationSeconds ←
    sessionDuration (Value.get management "maxSessionDurationSeconds") s!"{path}.maxSessionDurationSeconds"
  parseRootAccess rootAccess s!"{path}.root"
  return { accountId, accessInstallerRoleArn, maxSessionDurationSeconds }

def parseHandoff (handoff : List (String × Value)) (path : String) : Except String IamName := do
  let roleName ← iamName (Value.get handoff "roleName") s!"{path}.roleName"
  let _ ← literal id "install-scoped-access-roles" (Value.get handoff "purpose") s!"{path}.purpose"
  let _ ← literalBoolean id true (Value.get handoff "humanApprovalRequired") s!"{path}.humanApprovalRequired"
  let _ ← literalBoolean id false (Value.get handoff "automationAssumable") s!"{path}.automationAssumable"
  let _ ← literalBoolean id true (Value.get handoff "retireAfterScopedRolesReady")
    s!"{path}.retireAfterScopedRolesReady"
  return roleName

def parseController (controller : List (String × Value)) (path : String) : Except String AwsBootstrapController := do
  let roleArn ← roleArn (Value.get controller "roleArn") s!"{path}.roleArn"
  let hostAccountId ← accountId (Value.get controller "hostAccountId") s!"{path}.hostAccountId"
  let _ ← literal id "eks-pod-identity" (Value.get controller "identityMode") s!"{path}.identityMode"
  let kubernetesNamespace ←
    kubernetesName (Value.get controller "kubernetesNamespace") s!"{path}.kubernetesNamespace"
  let kubernetesServiceAccount ←
    kubernetesName (Value.get controller "kubernetesServiceAccount") s!"{path}.kubernetesServiceAccount"
  let _ ← literalBoolean id true (Value.get controller "temporaryCredentials") s!"{path}.temporaryCredentials"
  let maxSessionDurationSeconds ←
    sessionDuration (Value.get controller "maxSessionDurationSeconds") s!"{path}.maxSessionDurationSeconds"
  let _ ← literalBoolean id false (Value.get controller "managementAccountAccess") s!"{path}.managementAccountAccess"
  return { roleArn, hostAccountId, kubernetesNamespace, kubernetesServiceAccount, maxSessionDurationSeconds }

def parseDeletion (deletion : List (String × Value)) (path : String) : Except String Unit := do
  let _ ← literalBoolean id false (Value.get deletion "ordinaryApplyRoleAllowed") s!"{path}.ordinaryApplyRoleAllowed"
  let _ ← literalBoolean id false (Value.get deletion "dedicatedRoleProvisioned")
    s!"{path}.dedicatedRoleProvisioned"
  literalNumber 2 (Value.get deletion "minimumApprovals") s!"{path}.minimumApprovals"

/-- The members of a plan. -/
def planMembers (root management rootAccess handoff controller deletion : List (String × Value)) :
    Except String AwsBootstrapAccessPlan := do
  let _ ← literal id apiVersion (Value.get root "apiVersion") "accessPlan.apiVersion"
  let _ ← literal id "AwsBootstrapAccessPlan" (Value.get root "kind") "accessPlan.kind"
  let name ← identifier (Value.get root "name") "accessPlan.name"
  let landingZoneOwner ← enumeration id LandingZoneOwner.text [.organizations, .controlTower]
    (Value.get root "landingZoneOwner") "accessPlan.landingZoneOwner"
  let organizationName ← identifier (Value.get root "organizationName") "accessPlan.organizationName"
  let management ← parseManagement management rootAccess "accessPlan.management"
  let handoffRoleName ← parseHandoff handoff "accessPlan.initialMemberHandoff"
  let controller ← parseController controller "accessPlan.controller"
  let accounts ← uniqueArray parseAccount (fun account => account.accountId.1) (Value.get root "accounts")
    "accessPlan.accounts"
  parseDeletion deletion "accessPlan.deletion"
  return { name, landingZoneOwner, organizationName, management, handoffRoleName, controller, accounts := accounts.1,
           accounts_nodup := List.Nodup.of_map Subtype.val (by rw [List.map_map]; exact accounts.2.1) }

/-- The plan before it is checked as a whole. -/
def parsedPlan (value : Value) : Except String AwsBootstrapAccessPlan := do
  let root ← exactObject id value "accessPlan"
    ["apiVersion", "kind", "name", "landingZoneOwner", "organizationName", "management", "initialMemberHandoff",
      "controller", "accounts", "deletion"]
  let management ← exactObject id (Value.get root "management") "accessPlan.management"
    ["accountId", "workforceAccess", "accessInstallerRoleArn", "humanFederationOnly", "automationAccess",
      "maxSessionDurationSeconds", "root"]
  let rootAccess ← exactObject id (Value.get management "root") "accessPlan.management.root"
    ["programmaticAccess", "mfaRequired", "multiPersonRecovery", "centralizedMemberRootAccess", "usedByAutomation",
      "usedByPulumi"]
  let handoff ← exactObject id (Value.get root "initialMemberHandoff") "accessPlan.initialMemberHandoff"
    ["roleName", "purpose", "humanApprovalRequired", "automationAssumable", "retireAfterScopedRolesReady"]
  let controller ← exactObject id (Value.get root "controller") "accessPlan.controller"
    ["roleArn", "hostAccountId", "identityMode", "kubernetesNamespace", "kubernetesServiceAccount",
      "temporaryCredentials", "maxSessionDurationSeconds", "managementAccountAccess"]
  let deletion ← exactObject id (Value.get root "deletion") "accessPlan.deletion"
    ["ordinaryApplyRoleAllowed", "dedicatedRoleProvisioned", "minimumApprovals"]
  planMembers root management rootAccess handoff controller deletion

def parseAwsBootstrapAccessPlan (value : Value) : Except String AwsBootstrapAccessPlan := do
  let parsed ← parsedPlan value
  assertAwsBootstrapAccessPlan parsed
  return parsed

variable {plan : AwsBootstrapAccessPlan}

theorem parse_asserted {value : Value} (h : parseAwsBootstrapAccessPlan value = .ok plan) :
    assertAwsBootstrapAccessPlan plan = .ok () := by
  obtain ⟨parsed, -, h⟩ := bind_ok.1 h
  obtain ⟨⟨⟩, hasserted, h⟩ := bind_ok.1 h
  obtain rfl := pure_ok.1 h
  exact hasserted

/-- No account's name is one that the loop has seen before. -/
theorem assertAccounts_ok {seen : List Identifier} {accounts : List AwsBootstrapAccessAccount}
    (h : assertAccounts plan seen accounts = .ok ()) :
    (accounts.map (·.accountName)).Nodup ∧ (∀ account ∈ accounts, account.accountName ∉ seen) ∧
      ∀ account ∈ accounts, assertAccount plan account = .ok () := by
  induction accounts generalizing seen with
  | nil => simp
  | cons account rest ih =>
    obtain ⟨⟨⟩, hnew, h⟩ := bind_ok.1 h
    obtain ⟨⟨⟩, haccount, h⟩ := bind_ok.1 h
    obtain ⟨hnodup, hlater, hall⟩ := ih h
    have hfresh : account.accountName ∉ seen := by simpa using throwUnless_ok.1 hnew
    refine ⟨List.nodup_cons.2 ⟨fun hmem => ?_, hnodup⟩, List.forall_mem_cons.2 ⟨hfresh, fun a ha hin => ?_⟩,
      List.forall_mem_cons.2 ⟨haccount, hall⟩⟩
    · obtain ⟨a, ha, heq⟩ := List.mem_map.1 hmem
      exact hlater a ha (heq ▸ List.mem_cons_self)
    · exact hlater a ha (List.mem_cons_of_mem _ hin)

/-- **The accounts of a checked plan have different names**, and each has passed its checks. -/
theorem assertPlan_ok (h : assertAwsBootstrapAccessPlan plan = .ok ()) :
    (plan.accounts.map (·.accountName)).Nodup ∧ ∀ account ∈ plan.accounts, assertAccount plan account = .ok () := by
  obtain ⟨-, -, h⟩ := bind_ok.1 h
  obtain ⟨-, -, h⟩ := bind_ok.1 h
  obtain ⟨-, -, h⟩ := bind_ok.1 h
  obtain ⟨-, -, h⟩ := bind_ok.1 h
  obtain ⟨hnodup, -, hall⟩ := assertAccounts_ok h
  exact ⟨hnodup, hall⟩

/-! ## Parsing a written plan -/

theorem identifier_written (s : Identifier) (path : String) : identifier (.string s.1) path = .ok s :=
  checkedText_ok.2 rfl

theorem iamName_written (s : IamName) (path : String) : iamName (.string s.1) path = .ok s := checkedText_ok.2 rfl

theorem accountId_written (s : AccountId) (path : String) : accountId (.string s.1) path = .ok s :=
  checkedText_ok.2 rfl

theorem roleArn_written (s : RoleArn) (path : String) : roleArn (.string s.1) path = .ok s := checkedText_ok.2 rfl

theorem awsRegion_written (s : AwsRegion) (path : String) : awsRegion (.string s.1) path = .ok s :=
  checkedText_ok.2 rfl

theorem kubernetesName_written (s : KubernetesName) (path : String) : kubernetesName (.string s.1) path = .ok s :=
  checkedText_ok.2 rfl

theorem sessionDuration_written (n : SessionDuration) (path : String) :
    sessionDuration (.number (.int n.1)) path = .ok n := by
  refine checkedInteger_ok.2 ⟨rfl, ?_⟩
  have hrange := n.2.2
  unfold isSessionDuration at hrange
  rw [Bool.and_eq_true, decide_eq_true_eq] at hrange
  unfold maxSafeInteger
  omega

theorem literal_written (expected path : String) :
    literal (id : String → String) expected (.string expected) path = .ok ⟨expected, rfl⟩ := literal_ok.2 rfl

theorem literalBoolean_written (expected : Bool) (path : String) :
    literalBoolean (id : String → String) expected (.bool expected) path = .ok ⟨expected, rfl⟩ := by
  simp [literalBoolean]

theorem enumeration_written {text : α → String} (hinj : Function.Injective text) {allowed : List α} {a : α}
    (ha : a ∈ allowed) (path : String) : enumeration (id : String → String) text allowed (.string (text a)) path = .ok a :=
  (enumeration_ok hinj).2 ⟨rfl, ha⟩

theorem parseEntries_written {parse : Check String α} {g : α → Value} {l : List α}
    (hf : ∀ a ∈ l, ∀ path, parse (g a) path = .ok a) (path : String) :
    ∀ index, parseEntries parse path index (l.map g) = .ok l := by
  induction l with
  | nil => exact fun _ => rfl
  | cons a l ih =>
    intro index
    have hrest := ih (fun b hb => hf b (List.mem_cons_of_mem _ hb)) (index + 1)
    simp only [List.map_cons, parseEntries, bind_ok, pure_ok]
    exact ⟨a, hf a List.mem_cons_self _, l, hrest, rfl⟩

theorem uniqueArray_written {parse : Check String α} {key : α → String} {g : α → Value} {l : List α}
    (hf : ∀ a ∈ l, ∀ path, parse (g a) path = .ok a) (hnodup : (l.map key).Nodup) (hne : l ≠ []) (path : String) :
    uniqueArray parse key (.array (l.map g)) path = .ok ⟨l, hnodup, hne⟩ := by
  have hentries := parseEntries_written hf path 0
  have hkeys : (l.map fun a => jsonStringify (.string (key a))).Nodup := by
    have := hnodup.map jsonStringify_string_inj
    rw [List.map_map] at this
    exact this
  cases l with
  | nil => exact absurd rfl hne
  | cons a l =>
    unfold uniqueArray
    rw [List.map_cons] at hentries ⊢
    simp only []
    split
    · rename_i e he
      rw [hentries] at he
      exact absurd he (by simp)
    · rename_i parsed hparsed
      obtain rfl := Except.ok.inj (hentries.symm.trans hparsed)
      rw [dif_pos hkeys]

theorem parseRoles_written (roles : AwsBootstrapRoles) (path : String) : parseRoles roles.properties path = .ok roles := by
  simp [parseRoles, AwsBootstrapRoles.properties, Value.get_cons, iamName_written]

theorem AwsBootstrapAccountKind.text_injective : Function.Injective AwsBootstrapAccountKind.text := by
  intro a b h
  cases a <;> cases b <;> first | rfl | exact absurd h (by decide)

theorem AwsEnvironmentClass.text_injective : Function.Injective AwsEnvironmentClass.text := by
  intro a b h
  cases a <;> cases b <;> first | rfl | exact absurd h (by decide)

theorem LandingZoneOwner.text_injective : Function.Injective LandingZoneOwner.text := by
  intro a b h
  cases a <;> cases b <;> first | rfl | exact absurd h (by decide)

theorem texts_map {β : Type} (l : List β) (f : β → String) : texts (l.map f) = .array (l.map fun b => .string (f b)) := by
  rw [texts, List.map_map]
  rfl

theorem accountMembers_written (account : AwsBootstrapAccessAccount) (hsets : account.actionSets ≠ []) (path : String) :
    accountMembers account.properties account.roles.properties path = .ok account := by
  have hregions : ∀ path, uniqueArray awsRegion Subtype.val
      (.array (account.allowedRegions.map fun region => .string region.1)) path =
        .ok ⟨account.allowedRegions, account.allowedRegions_nodup.map Subtype.val_injective,
          account.allowedRegions_ne⟩ :=
    uniqueArray_written (fun region _ => awsRegion_written region)
      (account.allowedRegions_nodup.map Subtype.val_injective) account.allowedRegions_ne
  have hactions : ∀ path, uniqueArray actionSet AwsInfrastructureActionSet.text
      (.array (account.actionSets.map fun set => .string set.text)) path =
        .ok ⟨account.actionSets, account.actionSets_nodup.map AwsInfrastructureActionSet.text_injective, hsets⟩ :=
    uniqueArray_written (fun set _ => enumeration_written AwsInfrastructureActionSet.text_injective set.mem_all)
      (account.actionSets_nodup.map AwsInfrastructureActionSet.text_injective) hsets
  have hkind : ∀ path, enumeration id AwsBootstrapAccountKind.text
      [.securityTooling, .logArchive, .network, .sharedServices, .platform, .execution] (.string account.kind.text) path =
        .ok account.kind :=
    enumeration_written AwsBootstrapAccountKind.text_injective (by cases account.kind <;> decide)
  have hclass : ∀ path, enumeration id AwsEnvironmentClass.text [.nonproduction, .preproduction, .production]
      (.string account.environmentClass.text) path = .ok account.environmentClass :=
    enumeration_written AwsEnvironmentClass.text_injective (by cases account.environmentClass <;> decide)
  simp only [accountMembers, AwsBootstrapAccessAccount.properties, Value.get_cons, String.reduceEq, reduceIte,
    identifier_written, accountId_written, hkind, hclass, texts_map, hregions, hactions, booleanValue,
    checkedBoolean_ok, parseRoles_written, bind_ok, pure_ok]
  simp

theorem parseAccount_written (account : AwsBootstrapAccessAccount) (hsets : account.actionSets ≠ []) (path : String) :
    parseAccount account.toValue path = .ok account := by
  unfold parseAccount AwsBootstrapAccessAccount.toValue
  exact bind_ok.2 ⟨account.properties, exactObject_keys rfl, bind_ok.2 ⟨account.roles.properties,
    exactObject_keys rfl, accountMembers_written account hsets path⟩⟩

theorem parseManagement_written (management : AwsBootstrapManagement) (path : String) :
    parseManagement management.properties rootAccessProperties path = .ok management := by
  simp [parseManagement, parseRootAccess, AwsBootstrapManagement.properties, rootAccessProperties, Value.get_cons,
    accountId_written, literal_written, literalBoolean_written, roleArn_written, sessionDuration_written]

theorem parseHandoff_written (roleName : IamName) (path : String) :
    parseHandoff (handoffProperties roleName) path = .ok roleName := by
  simp [parseHandoff, handoffProperties, Value.get_cons, iamName_written, literal_written, literalBoolean_written]

theorem parseController_written (controller : AwsBootstrapController) (path : String) :
    parseController controller.properties path = .ok controller := by
  simp [parseController, AwsBootstrapController.properties, Value.get_cons, roleArn_written, accountId_written,
    literal_written, literalBoolean_written, kubernetesName_written, sessionDuration_written]

theorem parseDeletion_written (path : String) : parseDeletion deletionProperties path = .ok () := by
  simp [parseDeletion, deletionProperties, Value.get_cons, literalBoolean_written, literalNumber]

/-- **A checked plan is parsed back from its value.** -/
theorem parse_written (h : assertAwsBootstrapAccessPlan plan = .ok ()) :
    parseAwsBootstrapAccessPlan plan.toValue = .ok plan := by
  have hsets : ∀ account ∈ plan.accounts, account.actionSets ≠ [] := by
    intro account hmem hnil
    have hchecked := (assertPlan_ok h).2 account hmem
    simp [assertAccount, hnil] at hchecked
  have hne : plan.accounts ≠ [] := by
    intro hnil
    simp [assertAwsBootstrapAccessPlan, hnil] at h
  have hids : (plan.accounts.map fun account => account.accountId.1).Nodup := by
    have := plan.accounts_nodup.map Subtype.val_injective
    rw [List.map_map] at this
    exact this
  have haccounts : ∀ path, uniqueArray parseAccount (fun account => account.accountId.1)
      (.array (plan.accounts.map (·.toValue))) path = .ok ⟨plan.accounts, hids, hne⟩ :=
    uniqueArray_written (fun account hmem => parseAccount_written account (hsets account hmem)) hids hne
  have howner : ∀ path, enumeration id LandingZoneOwner.text [.organizations, .controlTower]
      (.string plan.landingZoneOwner.text) path = .ok plan.landingZoneOwner :=
    enumeration_written LandingZoneOwner.text_injective (by cases plan.landingZoneOwner <;> decide)
  have hmembers : planMembers plan.properties plan.management.properties rootAccessProperties
      (handoffProperties plan.handoffRoleName) plan.controller.properties deletionProperties = .ok plan := by
    simp only [planMembers, AwsBootstrapAccessPlan.properties, Value.get_cons, String.reduceEq, reduceIte,
      literal_written, identifier_written, howner, parseManagement_written, parseHandoff_written,
      parseController_written, haccounts, parseDeletion_written, bind_ok, pure_ok]
    simp
  refine bind_ok.2 ⟨plan, ?_, bind_ok.2 ⟨(), h, rfl⟩⟩
  unfold parsedPlan AwsBootstrapAccessPlan.toValue
  refine bind_ok.2 ⟨_, exactObject_keys rfl, bind_ok.2 ⟨plan.management.properties, exactObject_keys rfl,
    bind_ok.2 ⟨rootAccessProperties, exactObject_keys rfl, bind_ok.2 ⟨handoffProperties plan.handoffRoleName,
      exactObject_keys rfl, bind_ok.2 ⟨plan.controller.properties, exactObject_keys rfl,
        bind_ok.2 ⟨deletionProperties, exactObject_keys rfl, hmembers⟩⟩⟩⟩⟩⟩

end SecureSaas.Aws
