import SecureSaas.Js.TextSize
import SecureSaas.Aws.AccessPlan

/-!
# The access roles of a bootstrap plan (`compileAwsBootstrapAccessPlan`)

An account has one plan role and one apply role for each of its action sets. A lane is the action
set of an apply role; the plan role has none.

* `compileRole_ok`: the names and the policy of a compiled role.
* `compile_roles`: **the roles of a compiled plan are those of the lanes of its accounts.**
-/

namespace SecureSaas.Aws

open Js

abbrev Lane := Option AwsInfrastructureActionSet

/-! ## Data -/

structure DelegatedRoleBoundary where
  name : String
  arn : String
  policy : AwsPolicyDocument
  canonicalPolicy : String

structure AwsAccessRolePolicyPlan where
  accountName : String
  accountId : String
  environmentClass : AwsEnvironmentClass
  lane : Lane
  roleName : String
  roleArn : String
  permissionsBoundaryName : String
  permissionsBoundaryArn : String
  trustedPrincipalArns : List String
  externalId : String
  sourceIdentityPattern : String
  maxSessionDurationSeconds : ℤ
  productionApprovalRequired : Bool
  cloudMutation : Bool
  trustPolicy : AwsPolicyDocument
  permissionsPolicy : AwsPolicyDocument
  permissionsBoundary : AwsPolicyDocument
  delegatedRoleBoundary : Option DelegatedRoleBoundary
  canonicalTrustPolicy : String
  canonicalPermissionsPolicy : String
  canonicalPermissionsBoundary : String

structure CompiledAwsBootstrapAccessPlan where
  sourceDigest : String
  landingZoneOwner : LandingZoneOwner
  managementAccountId : AccountId
  handoffRoleName : IamName
  roles : List AwsAccessRolePolicyPlan

/-! ## Names -/

def modeText : Lane → String
  | none => "plan"
  | some _ => "apply"

/-- `actionSet ?? "all"`. -/
def actionSetText : Lane → String
  | none => "all"
  | some actionSet => actionSet.text

def accessExternalId (organizationName accountName : String) (lane : Lane) : String :=
  organizationName ++ ":" ++ accountName ++ ":" ++ modeText lane ++ ":" ++ actionSetText lane ++ ":v1"

def sourceIdentityPattern (organizationName accountName : String) (lane : Lane) : String :=
  organizationName ++ "-" ++ accountName ++ "-" ++ modeText lane ++ "-" ++ actionSetText lane ++ "-*"

def roleArnOf (accountId roleName : String) : String := "arn:aws:iam::" ++ accountId ++ ":role/" ++ roleName

def policyArn (accountId policyName : String) : String := "arn:aws:iam::" ++ accountId ++ ":policy/" ++ policyName

variable (plan : AwsBootstrapAccessPlan) (account : AwsBootstrapAccessAccount)

def roleNameOf : Lane → String
  | none => account.roles.planRoleName.1
  | some actionSet => laneName account.roles.applyRoleName.1 actionSet

def boundaryNameOf : Lane → String
  | none => account.roles.planPermissionsBoundaryName.1
  | some actionSet => laneName account.roles.applyPermissionsBoundaryName.1 actionSet

def delegatedName (applyBoundaryName : String) : String := applyBoundaryName ++ "DelegatedRoles"

def managedRoleArn (actionSet : AwsInfrastructureActionSet) : String :=
  roleArnOf account.accountId.1 (account.resourceNamePrefix.1 ++ "-" ++ actionSet.text ++ "-") ++ "*"

def managedOidcArn : String := "arn:aws:iam::" ++ account.accountId.1 ++ ":oidc-provider/*"

/-! ## Policies -/

/-- One key with a list of values. -/
def listCondition (key : String) (values : List String) : Record (OneOrMany AwsPolicyScalar) :=
  Record.empty.set key (.many (values.map .text))

def forbiddenStatement : AwsPolicyStatement :=
  { sid := "DenyCriticalDestruction", effect := .deny, action := .many forbiddenActions, resource := some (.one "*"),
    principal := none, condition := none }

def sortedRegions : List String := (account.allowedRegions.map Subtype.val).insertionSort (· ≤ ·)

def denyOutsideRegions : AwsPolicyStatement :=
  { sid := "DenyOutsideRegions", effect := .deny, action := .one "*", resource := some (.one "*"), principal := none,
    condition := some (operatorCondition "StringNotEquals" (listCondition "aws:RequestedRegion" (sortedRegions account))) }

variable (rt : Runtime)

def planPermissionsPolicy : AwsPolicyDocument :=
  policyDocument rt
    [{ sid := "AllowExactInfrastructureObservation", effect := .allow,
       action := .many ((readActions ++ readActionsFor account.actionSets).eraseDups.insertionSort (· ≤ ·)),
       resource := some (.one "*"), principal := none, condition := none },
     forbiddenStatement]

def organizationTags (kind : String) : List (String × String) :=
  [(s!"aws:{kind}Tag/ManagedBy", "pulumi"), (s!"aws:{kind}Tag/Organization", plan.organizationName.1)]

def ownerTagKeys : Record (OneOrMany AwsPolicyScalar) := listCondition "aws:TagKeys" ["ManagedBy", "Organization"]

def managedRdsPolicyStatements : List AwsPolicyStatement :=
  let accountResources := "arn:aws:rds:*:" ++ account.accountId.1 ++ ":*"
  [{ sid := "AllowRdsCreate", effect := .allow,
     action := .many ["rds:CreateDBCluster", "rds:CreateDBClusterParameterGroup", "rds:CreateDBInstance",
       "rds:CreateDBProxy", "rds:CreateDBSubnetGroup"],
     resource := some (.one "*"), principal := none,
     condition := some (Record.fromEntries
       [("StringEquals", textCondition (organizationTags plan "Request")),
        ("StringLike", textCondition [("aws:RequestTag/Name", account.resourceNamePrefix.1 ++ "-*")])]) },
   { sid := "AllowRdsMutation", effect := .allow,
     action := .many ["rds:AddTagsToResource", "rds:ModifyDBCluster", "rds:ModifyDBClusterParameterGroup",
       "rds:ModifyDBInstance", "rds:ModifyDBProxy", "rds:ModifyDBProxyTargetGroup", "rds:ModifyDBSubnetGroup",
       "rds:RegisterDBProxyTargets", "rds:RemoveTagsFromResource"],
     resource := some (.one accountResources), principal := none,
     condition := some (Record.fromEntries
       [("StringEquals", textCondition (organizationTags plan "Resource")),
        ("ForAllValues:StringNotEquals", ownerTagKeys)]) },
   { sid := "DenyRdsOwnerTagRemoval", effect := .deny, action := .one "rds:RemoveTagsFromResource",
     resource := some (.one accountResources), principal := none,
     condition := some (operatorCondition "ForAnyValue:StringEquals" ownerTagKeys) }]

/-- A statement for an action, if the lane has it. -/
def sensitiveStatement (actionSet : AwsInfrastructureActionSet) (sid action resource : String)
    (condition : Option AwsCondition) : List AwsPolicyStatement :=
  if (actionsBySet actionSet).contains action then
    [{ sid, effect := .allow, action := .one action, resource := some (.one resource), principal := none, condition }]
  else []

def sensitivePolicyStatements (actionSet : AwsInfrastructureActionSet) : List AwsPolicyStatement :=
  let accountId := account.accountId.1
  let initial := account.resourceNamePrefix.1
  let resourceTags := textCondition (organizationTags plan "Resource")
  sensitiveStatement actionSet "AllowManagedBackupVaultPolicy" "backup:PutBackupVaultAccessPolicy"
      ("arn:aws:backup:*:" ++ accountId ++ ":backup-vault:" ++ initial ++ "-*") none ++
    sensitiveStatement actionSet "AllowManagedEcrRepositoryPolicy" "ecr:SetRepositoryPolicy"
      ("arn:aws:ecr:*:" ++ accountId ++ ":repository/" ++ initial ++ "-*") none ++
    sensitiveStatement actionSet "AllowManagedKmsGrantForAwsResources" "kms:CreateGrant"
      ("arn:aws:kms:*:" ++ accountId ++ ":key/*")
      (some (Record.fromEntries [("Bool", Record.empty.set "kms:GrantIsForAWSResource" (.one (.flag true))),
        ("StringEquals", resourceTags)])) ++
    sensitiveStatement actionSet "AllowManagedKmsKeyPolicy" "kms:PutKeyPolicy"
      ("arn:aws:kms:*:" ++ accountId ++ ":key/*") (some (operatorCondition "StringEquals" resourceTags)) ++
    (if actionSet = .database then managedRdsPolicyStatements plan account else []) ++
    sensitiveStatement actionSet "AllowManagedS3BucketPolicy" "s3:PutBucketPolicy"
      ("arn:aws:s3:::" ++ initial ++ "-*") none ++
    sensitiveStatement actionSet "AllowManagedSecretResourcePolicy" "secretsmanager:PutResourcePolicy"
      ("arn:aws:secretsmanager:*:" ++ accountId ++ ":secret:" ++ initial ++ "-*") none ++
    sensitiveStatement actionSet "AllowManagedSnsTopicPolicy" "sns:SetTopicAttributes"
      ("arn:aws:sns:*:" ++ accountId ++ ":" ++ initial ++ "-*") none

/-- The statements about the roles and the identity providers that a lane manages. -/
def roleStatements (childRoleBoundaryArn : String) (actionSet : AwsInfrastructureActionSet) :
    List AwsPolicyStatement :=
  [{ sid := "AllowBoundedRoleCreate", effect := .allow,
     action := .many ["iam:CreateRole", "iam:PutRolePermissionsBoundary"],
     resource := some (.one (managedRoleArn account actionSet)), principal := none,
     condition := some (operatorCondition "ArnEquals"
       (textCondition [("iam:PermissionsBoundary", childRoleBoundaryArn)])) },
   { sid := "AllowRoleLifecycle", effect := .allow, action := .many managedRoleLifecycleActions,
     resource := some (.one (managedRoleArn account actionSet)), principal := none, condition := none },
   { sid := "AllowScopedPassRole", effect := .allow, action := .one "iam:PassRole",
     resource := some (.one (managedRoleArn account actionSet)), principal := none,
     condition := some (operatorCondition "StringEquals" (listCondition "iam:PassedToService"
       ["backup.amazonaws.com", "ec2.amazonaws.com", "eks.amazonaws.com", "rds.amazonaws.com",
         "vpc-flow-logs.amazonaws.com"])) },
   { sid := "AllowManagedOidcProviderLifecycle", effect := .allow, action := .many managedOidcActions,
     resource := some (.one (managedOidcArn account)), principal := none, condition := none }]

def allowServices (actionSet : AwsInfrastructureActionSet) : AwsPolicyStatement :=
  { sid := "AllowServices", effect := .allow, action := .many (serviceActions actionSet), resource := some (.one "*"),
    principal := none, condition := none }

def denyAccessLaneMutation (childRoleBoundaryArn : String) : AwsPolicyStatement :=
  { sid := "DenyAccessLaneMutation", effect := .deny,
    action := .many ["iam:DeletePolicy", "iam:DeletePolicyVersion", "iam:DeleteRole",
      "iam:DeleteRolePermissionsBoundary", "iam:SetDefaultPolicyVersion", "iam:UpdateAssumeRolePolicy"],
    resource := some (.many [roleArnOf account.accountId.1 account.roles.planRoleName.1,
      roleArnOf account.accountId.1 account.roles.applyRoleName.1,
      policyArn account.accountId.1 account.roles.planPermissionsBoundaryName.1,
      policyArn account.accountId.1 account.roles.applyPermissionsBoundaryName.1, childRoleBoundaryArn]),
    principal := none, condition := none }

def applyStatements (childRoleBoundaryArn : String) (actionSet : AwsInfrastructureActionSet) :
    List AwsPolicyStatement :=
  allowServices actionSet :: (roleStatements account childRoleBoundaryArn actionSet ++
    sensitivePolicyStatements plan account actionSet ++
    [denyOutsideRegions account, denyAccessLaneMutation account childRoleBoundaryArn, forbiddenStatement])

def applyPermissionsPolicy (childRoleBoundaryArn : String) (actionSet : AwsInfrastructureActionSet) :
    Except String AwsPolicyDocument := do
  throwUnless (account.accountId != plan.management.accountId)
    "Apply policy compiler refuses the management account."
  return policyDocument rt (applyStatements plan account childRoleBoundaryArn actionSet)

def delegatedStatements : List AwsPolicyStatement :=
  let secretArn := "arn:aws:secretsmanager:*:" ++ account.accountId.1 ++ ":secret:rds!cluster-*"
  let logGroups := "arn:aws:logs:*:" ++ account.accountId.1 ++ ":log-group:RDS*"
  [{ sid := "AllowExactRdsMonitoringLogs", effect := .allow,
     action := .many ["logs:CreateLogGroup", "logs:CreateLogStream", "logs:DescribeLogStreams", "logs:GetLogEvents",
       "logs:PutLogEvents", "logs:PutRetentionPolicy"],
     resource := some (.many [logGroups, logGroups ++ ":log-stream:*"]), principal := none, condition := none },
   { sid := "AllowDatabaseIamConnectCeiling", effect := .allow, action := .one "rds-db:connect",
     resource := some (.one ("arn:aws:rds-db:*:" ++ account.accountId.1 ++ ":dbuser:*/*")), principal := none,
     condition := none },
   { sid := "AllowRdsManagedSecretReadCeiling", effect := .allow, action := .one "secretsmanager:GetSecretValue",
     resource := some (.one secretArn), principal := none, condition := none },
   { sid := "AllowRdsManagedSecretDecryptCeiling", effect := .allow, action := .one "kms:Decrypt",
     resource := some (.one ("arn:aws:kms:*:" ++ account.accountId.1 ++ ":key/*")), principal := none,
     condition := some (Record.fromEntries
       [("StringEquals", listCondition "kms:ViaService"
          ((account.allowedRegions.map fun region => s!"secretsmanager.{region.1}.amazonaws.com").insertionSort (· ≤ ·))),
        ("StringLike", textCondition [("kms:EncryptionContext:SecretARN", secretArn)])]) },
   forbiddenStatement, denyOutsideRegions account]

def compileDatabaseDelegatedRoleBoundary (applyBoundaryName : String) : Except String DelegatedRoleBoundary := do
  let name ← iamName (.string (delegatedName applyBoundaryName))
    s!"{account.accountName.1}.databaseDelegatedRoleBoundaryName"
  let policy := policyDocument rt (delegatedStatements account)
  return { name := name.1, arn := policyArn account.accountId.1 name.1, policy,
           canonicalPolicy := canonicalPolicyJson rt policy }

def assertManagedPolicySize (document : AwsPolicyDocument) (description : String) : Except String Unit :=
  let size := stringLength (canonicalPolicyJson rt document)
  throwUnless (decide (size ≤ 6144))
    s!"IAM managed policy '{description}' is {size} characters; maximum is 6144. Split the capability lane instead of adding wildcard authority."

/-! ## Roles -/

def trustPolicyOf (trustedPrincipalArns : List String) (lane : Lane) : AwsPolicyDocument :=
  policyDocument rt
    [{ sid := "TrustExactFederatedOperatorAndControllerRoles", effect := .allow,
       action := .many ["sts:AssumeRole", "sts:SetSourceIdentity"], resource := none,
       principal := some (Record.empty.set "AWS" (.many trustedPrincipalArns)),
       condition := some (Record.fromEntries
         [("StringEquals", textCondition [("sts:ExternalId",
            accessExternalId plan.organizationName.1 account.accountName.1 lane)]),
          ("StringLike", textCondition [("sts:SourceIdentity",
            sourceIdentityPattern plan.organizationName.1 account.accountName.1 lane)])]) }]

/-- Whether the controller is trusted with the lane. -/
def trustsController (lane : Lane) : Bool :=
  match lane with
  | none => account.allowControllerPlan
  | some _ => account.allowControllerApply

/-- The boundary for the roles that the database lane creates; other lanes have none. -/
def delegatedBoundary (lane : Lane) : Except String (Option DelegatedRoleBoundary) :=
  if lane = some .database then
    (compileDatabaseDelegatedRoleBoundary account rt (boundaryNameOf account lane)).map some
  else .ok none

/-- The policy of a lane, which is also its boundary. -/
def permissionsPolicyOf (childRoleBoundaryArn : String) : Lane → Except String AwsPolicyDocument
  | none => .ok (planPermissionsPolicy account rt)
  | some actionSet => applyPermissionsPolicy plan account rt childRoleBoundaryArn actionSet

/-- The mode of a role is that of its lane. -/
def compileRole (lane : Lane) : Except String AwsAccessRolePolicyPlan := do
  let roleName := roleNameOf account lane
  let boundaryName := boundaryNameOf account lane
  let boundaryArn := policyArn account.accountId.1 boundaryName
  let delegatedRoleBoundary ← delegatedBoundary account rt lane
  let childRoleBoundaryArn := (delegatedRoleBoundary.map (·.arn)).getD boundaryArn
  let trustedPrincipalArns := (plan.management.accessInstallerRoleArn.1 ::
    if trustsController account lane then [plan.controller.roleArn.1] else []).insertionSort (· ≤ ·)
  let trustPolicy := trustPolicyOf plan account rt trustedPrincipalArns lane
  let permissionsPolicy ← permissionsPolicyOf plan account rt childRoleBoundaryArn lane
  let permissionsBoundary ← permissionsPolicyOf plan account rt childRoleBoundaryArn lane
  let description := account.accountName.1 ++ "/" ++ modeText lane ++ "/" ++ actionSetText lane
  assertManagedPolicySize rt permissionsPolicy description
  assertManagedPolicySize rt permissionsBoundary (description ++ " boundary")
  delegatedRoleBoundary.toList.forM fun delegated =>
    assertManagedPolicySize rt delegated.policy
      (account.accountName.1 ++ "/" ++ actionSetText lane ++ "/delegated-role boundary")
  return { accountName := account.accountName.1, accountId := account.accountId.1,
           environmentClass := account.environmentClass, lane, roleName,
           roleArn := roleArnOf account.accountId.1 roleName, permissionsBoundaryName := boundaryName,
           permissionsBoundaryArn := boundaryArn, trustedPrincipalArns,
           externalId := accessExternalId plan.organizationName.1 account.accountName.1 lane,
           sourceIdentityPattern := sourceIdentityPattern plan.organizationName.1 account.accountName.1 lane,
           maxSessionDurationSeconds := min plan.controller.maxSessionDurationSeconds.1 3600,
           productionApprovalRequired := lane.isSome && account.productionApprovalRequired,
           cloudMutation := lane.isSome, trustPolicy, permissionsPolicy, permissionsBoundary, delegatedRoleBoundary,
           canonicalTrustPolicy := canonicalPolicyJson rt trustPolicy,
           canonicalPermissionsPolicy := canonicalPolicyJson rt permissionsPolicy,
           canonicalPermissionsBoundary := canonicalPolicyJson rt permissionsBoundary }

/-! ## The compiled plan -/

/-- The roles of an account: its plan role, then one for each action set. -/
def accountRoles : Except String (List AwsAccessRolePolicyPlan) := do
  let planRole ← compileRole plan account rt none
  let applyRoles ← account.actionSets.mapM fun actionSet => compileRole plan account rt (some actionSet)
  return planRole :: applyRoles

def roleKey (role : AwsAccessRolePolicyPlan) : String :=
  role.accountName ++ ":" ++ modeText role.lane ++ ":" ++ (role.lane.map AwsInfrastructureActionSet.text).getD ""

def compileAwsBootstrapAccessPlan (value : Value) : Except String CompiledAwsBootstrapAccessPlan := do
  let plan ← parseAwsBootstrapAccessPlan value
  let roles ← collect (fun account => accountRoles plan account rt) plan.accounts
  return { sourceDigest := rt.sha256 (String.ofList (textWith rt.sortedStyle plan.toValue))
           landingZoneOwner := plan.landingZoneOwner
           managementAccountId := plan.management.accountId
           handoffRoleName := plan.handoffRoleName
           roles := rt.sortByKey roleKey roles }

/-! ## What is compiled -/

/-- The lanes of an account. -/
def AwsBootstrapAccessAccount.lanes : List Lane := none :: account.actionSets.map some

/-- The accounts of a plan with their lanes. -/
def AwsBootstrapAccessPlan.lanes : List (AwsBootstrapAccessAccount × Lane) :=
  plan.accounts.flatMap fun account => account.lanes.map (account, ·)

/-- The boundary that the roles of a lane create other roles with. -/
def childBoundaryName (lane : Lane) : String :=
  if lane = some .database then delegatedName (boundaryNameOf account lane) else boundaryNameOf account lane

/-- The names of the boundaries of a lane. -/
def boundaryNames (lane : Lane) : List String :=
  if lane = some .database then [boundaryNameOf account lane, delegatedName (boundaryNameOf account lane)]
  else [boundaryNameOf account lane]

/-- The boundaries of a role, with that for the roles it creates. -/
def AwsAccessRolePolicyPlan.boundaryArns (role : AwsAccessRolePolicyPlan) : List String :=
  role.permissionsBoundaryArn :: role.delegatedRoleBoundary.toList.map (·.arn)

/-- The role is that of a lane. -/
structure CompiledFor (entry : AwsBootstrapAccessAccount × Lane) (role : AwsAccessRolePolicyPlan) : Prop where
  accountId : role.accountId = entry.1.accountId.1
  lane : role.lane = entry.2
  roleArn : role.roleArn = roleArnOf entry.1.accountId.1 (roleNameOf entry.1 entry.2)
  boundaryArn : role.permissionsBoundaryArn = policyArn entry.1.accountId.1 (boundaryNameOf entry.1 entry.2)
  boundaryArns : role.boundaryArns = (boundaryNames entry.1 entry.2).map (policyArn entry.1.accountId.1)
  externalId : role.externalId = accessExternalId plan.organizationName.1 entry.1.accountName.1 entry.2
  sourceIdentity :
    role.sourceIdentityPattern = sourceIdentityPattern plan.organizationName.1 entry.1.accountName.1 entry.2
  policy : permissionsPolicyOf plan entry.1 rt (policyArn entry.1.accountId.1 (childBoundaryName entry.1 entry.2)) entry.2 =
    .ok role.permissionsPolicy

variable {plan account rt}

theorem delegatedBoundary_ok {lane : Lane} {delegated : Option DelegatedRoleBoundary}
    (h : delegatedBoundary account rt lane = .ok delegated) :
    (delegated.map (·.arn)).getD (policyArn account.accountId.1 (boundaryNameOf account lane)) =
        policyArn account.accountId.1 (childBoundaryName account lane) ∧
      policyArn account.accountId.1 (boundaryNameOf account lane) :: delegated.toList.map (·.arn) =
        (boundaryNames account lane).map (policyArn account.accountId.1) := by
  unfold delegatedBoundary at h
  unfold childBoundaryName boundaryNames
  split at h
  · rename_i hdatabase
    rw [if_pos hdatabase, if_pos hdatabase]
    cases hc : compileDatabaseDelegatedRoleBoundary account rt (boundaryNameOf account lane) with
    | error e => simp [hc, Except.map] at h
    | ok boundary =>
      obtain rfl : some boundary = delegated := by simpa [hc, Except.map] using h
      obtain ⟨name, hname, hc⟩ := bind_ok.1 hc
      obtain rfl := pure_ok.1 hc
      have htext : name.1 = delegatedName (boundaryNameOf account lane) := by
        have := checkedText_ok.1 hname
        exact (Value.string.inj this).symm
      exact ⟨congrArg (policyArn account.accountId.1) htext, by simp [htext]⟩
  · rename_i hdatabase
    rw [if_neg hdatabase, if_neg hdatabase]
    obtain rfl := Except.ok.inj h
    exact ⟨rfl, rfl⟩

/-- **The names and the policy of a compiled role.** -/
theorem compileRole_ok {lane : Lane} {role : AwsAccessRolePolicyPlan} (h : compileRole plan account rt lane = .ok role) :
    CompiledFor plan rt (account, lane) role := by
  simp only [compileRole, bind_ok, pure_ok] at h
  obtain ⟨delegated, hdelegated, policy, hpolicy, boundary, -, -, -, -, -, -, -, rfl⟩ := h
  obtain ⟨hchild, harns⟩ := delegatedBoundary_ok hdelegated
  exact ⟨rfl, rfl, rfl, rfl, harns, rfl, rfl, hchild ▸ hpolicy⟩

theorem mapM_forall₂ {α β ε : Type} {f : α → Except ε β} {R : α → β → Prop} (hf : ∀ a b, f a = .ok b → R a b) :
    ∀ {as : List α} {bs : List β}, as.mapM f = .ok bs → List.Forall₂ R as bs := by
  intro as
  induction as with
  | nil =>
    intro bs h
    obtain rfl := pure_ok.1 h
    exact .nil
  | cons a as ih =>
    intro bs h
    rw [List.mapM_cons] at h
    obtain ⟨b, hb, h⟩ := bind_ok.1 h
    obtain ⟨rest, hrest, h⟩ := bind_ok.1 h
    obtain rfl := pure_ok.1 h
    exact .cons (hf a b hb) (ih hrest)

/-- The roles of an account, lane by lane. -/
theorem accountRoles_ok {roles : List AwsAccessRolePolicyPlan} (h : accountRoles plan account rt = .ok roles) :
    List.Forall₂ (fun entry role => compileRole plan entry.1 rt entry.2 = .ok role) (account.lanes.map (account, ·))
      roles := by
  obtain ⟨planRole, hplan, h⟩ := bind_ok.1 h
  obtain ⟨applyRoles, happly, h⟩ := bind_ok.1 h
  obtain rfl := pure_ok.1 h
  refine .cons hplan ?_
  rw [List.map_map, List.forall₂_map_left_iff]
  exact mapM_forall₂ (fun _ _ hrole => hrole) happly

/-- Every role of a compiled plan is compiled for a lane of an account. -/
theorem compile_lanes {value : Value} {compiled : CompiledAwsBootstrapAccessPlan}
    (hparse : parseAwsBootstrapAccessPlan value = .ok plan) (h : compileAwsBootstrapAccessPlan rt value = .ok compiled) :
    ∃ roles, compiled.roles.Perm roles ∧
      List.Forall₂ (fun entry role => compileRole plan entry.1 rt entry.2 = .ok role) plan.lanes roles := by
  obtain ⟨plan', hplan, h⟩ := bind_ok.1 h
  obtain rfl : plan = plan' := Except.ok.inj (hparse.symm.trans hplan)
  obtain ⟨roles, hroles, h⟩ := bind_ok.1 h
  obtain rfl := pure_ok.1 h
  refine ⟨roles, rt.sortByKey_perm roleKey roles, ?_⟩
  have hall : ∀ {accounts : List AwsBootstrapAccessAccount} {found : List AwsAccessRolePolicyPlan},
      collect (fun account => accountRoles plan account rt) accounts = .ok found →
        List.Forall₂ (fun entry role => compileRole plan entry.1 rt entry.2 = .ok role)
          (accounts.flatMap fun account => account.lanes.map (account, ·)) found := by
    intro accounts
    induction accounts with
    | nil =>
      intro found hfound
      obtain rfl := Except.ok.inj hfound
      exact .nil
    | cons account accounts ih =>
      intro found hfound
      obtain ⟨first, others, hfirst, hothers, rfl⟩ := collect_cons_ok.1 hfound
      exact List.rel_append (accountRoles_ok hfirst) (ih hothers)
  exact hall hroles

/-- **The roles of a compiled plan are those of the lanes of its accounts.** -/
theorem compile_roles {value : Value} {compiled : CompiledAwsBootstrapAccessPlan}
    (hparse : parseAwsBootstrapAccessPlan value = .ok plan) (h : compileAwsBootstrapAccessPlan rt value = .ok compiled) :
    ∃ roles, compiled.roles.Perm roles ∧ List.Forall₂ (CompiledFor plan rt) plan.lanes roles := by
  obtain ⟨roles, hperm, hroles⟩ := compile_lanes hparse h
  exact ⟨roles, hperm, hroles.imp fun _ _ => compileRole_ok⟩

/-- Every lane has its role, and every role its lane. -/
theorem forall₂_mem {α β : Type} {R : α → β → Prop} {as : List α} {bs : List β} (h : List.Forall₂ R as bs) :
    (∀ a ∈ as, ∃ b ∈ bs, R a b) ∧ ∀ b ∈ bs, ∃ a ∈ as, R a b := by
  induction h with
  | nil => simp
  | cons hab _ ih =>
    constructor
    · refine List.forall_mem_cons.2 ⟨⟨_, List.mem_cons_self, hab⟩, fun a ha => ?_⟩
      obtain ⟨b, hb, hr⟩ := ih.1 a ha
      exact ⟨b, List.mem_cons_of_mem _ hb, hr⟩
    · refine List.forall_mem_cons.2 ⟨⟨_, List.mem_cons_self, hab⟩, fun b hb => ?_⟩
      obtain ⟨a, ha, hr⟩ := ih.2 b hb
      exact ⟨a, List.mem_cons_of_mem _ ha, hr⟩

/-- The accounts and lanes are all different. -/
theorem lanes_nodup : plan.lanes.Nodup := by
  unfold AwsBootstrapAccessPlan.lanes
  refine List.nodup_flatMap.2 ⟨fun account _ => ?_, ?_⟩
  · refine List.Nodup.map (fun _ _ h => (Prod.mk.inj h).2) (List.nodup_cons.2 ⟨by simp, ?_⟩)
    exact account.actionSets_nodup.map (Option.some_injective _)
  · refine (List.pairwise_map.1 plan.accounts_nodup).imp fun {account other} hne => ?_
    rintro ⟨account', lane⟩ hmem hother
    obtain ⟨_, -, heq⟩ := List.mem_map.1 hmem
    obtain ⟨_, -, heq'⟩ := List.mem_map.1 hother
    obtain ⟨rfl, -⟩ := Prod.mk.inj heq
    obtain ⟨rfl, -⟩ := Prod.mk.inj heq'
    exact hne rfl

theorem mem_lanes {lane : AwsBootstrapAccessAccount × Lane} :
    lane ∈ plan.lanes ↔ lane.1 ∈ plan.accounts ∧ lane.2 ∈ lane.1.lanes := by
  obtain ⟨account, lane⟩ := lane
  simp [AwsBootstrapAccessPlan.lanes, List.mem_flatMap]

theorem mem_accountLanes {lane : Lane} :
    lane ∈ account.lanes ↔ lane = none ∨ ∃ actionSet ∈ account.actionSets, lane = some actionSet := by
  simp [AwsBootstrapAccessAccount.lanes, eq_comm]

/-! ## Roles that compile -/

/-- The size of a document, from its characters. -/
def documentSize (rt : Runtime) (document : AwsPolicyDocument) : ℕ :=
  ((textWith rt.sortedStyle document.toValue).map fun c => if c.toNat < 65536 then 1 else 2).sum

/-- The order of the actions of a statement does not count. -/
theorem documentBound_action {st : TextStyle} {sid : String} {effect : AwsEffect} {actions actions' : List String}
    {resource : Option (OneOrMany String)} {principal : Option (Record (OneOrMany String))}
    {condition : Option AwsCondition} {rest : List AwsPolicyStatement} (h : actions.Perm actions') :
    textBound st (AwsPolicyDocument.mk (⟨sid, effect, .many actions, resource, principal, condition⟩ :: rest)).toValue =
      textBound st
        (AwsPolicyDocument.mk (⟨sid, effect, .many actions', resource, principal, condition⟩ :: rest)).toValue := by
  simp only [AwsPolicyDocument.toValue, AwsPolicyStatement.toValue, OneOrMany.toValue, List.map_cons, textBound,
    entriesBound, itemsBound, itemsBound_perm (h.map Value.string)]

/-- The bound of a property whose value is there. -/
theorem entryBound_oneOrMany (st : TextStyle) (k : String) (v : OneOrMany String) (rest : List (String × Value)) :
    entriesBound st ((k, v.toValue .string) :: rest) =
      2 + quoteBound k + textBound st (v.toValue .string) + entriesBound st rest := by
  cases v <;> rfl

theorem sortedBound (st : TextStyle) (v : OneOrMany String) :
    textBound st ((sortedValue v).toValue .string) = textBound st (v.toValue .string) := by
  cases v with
  | one value => rfl
  | many values =>
    simp only [sortedValue, OneOrMany.toValue, textBound,
      itemsBound_perm ((List.perm_insertionSort (· ≤ ·) values).map Value.string)]

theorem normalizedBound {st : TextStyle} {statement : AwsPolicyStatement} (hprincipal : statement.principal = none) :
    textBound st (normalizeStatement rt statement).toValue = textBound st statement.toValue := by
  obtain ⟨sid, effect, action, resource, principal, condition⟩ := statement
  obtain rfl : principal = none := hprincipal
  cases resource with
  | none =>
    simp only [normalizeStatement, AwsPolicyStatement.toValue, textBound, entriesBound, entryBound_oneOrMany,
      sortedBound, Option.map_none, Option.getD_none]
  | some resource =>
    simp only [normalizeStatement, AwsPolicyStatement.toValue, textBound, entriesBound, entryBound_oneOrMany,
      sortedBound, Option.map_some, Option.getD_some, Option.map_none, Option.getD_none]

/-- **The size of a document is bounded by its statements**, before they are normalised and sorted. -/
theorem documentSize_statements {statements : List AwsPolicyStatement}
    (hprincipal : ∀ statement ∈ statements, statement.principal = none) :
    documentSize rt (policyDocument rt statements) ≤
      textBound rt.sortedStyle (AwsPolicyDocument.mk statements).toValue := by
  refine (textSize_le rt.sortedStyle _).trans_eq ?_
  have hperm := (rt.sortByKey_perm (fun statement => statement.sid) (statements.map (normalizeStatement rt))).map
    AwsPolicyStatement.toValue
  have hitems : itemsBound rt.sortedStyle ((statements.map (normalizeStatement rt)).map AwsPolicyStatement.toValue) =
      itemsBound rt.sortedStyle (statements.map AwsPolicyStatement.toValue) := by
    rw [itemsBound_eq, itemsBound_eq, List.map_map, List.map_map, List.map_map]
    exact congrArg List.sum (List.map_congr_left fun statement hmem =>
      congrArg (1 + ·) (normalizedBound (hprincipal statement hmem)))
  simp only [policyDocument, AwsPolicyDocument.toValue, textBound, entriesBound, itemsBound_perm hperm, hitems]

theorem assertManagedPolicySize_ok {document : AwsPolicyDocument} (hsize : documentSize rt document ≤ 6144)
    (description : String) : assertManagedPolicySize rt document description = .ok () := by
  have heq : stringLength (canonicalPolicyJson rt document) = documentSize rt document := by
    rw [stringLength, canonicalPolicyJson, String.toList_ofList, documentSize]
  unfold assertManagedPolicySize
  rw [heq]
  simp [hsize]

/-- A lane without delegated roles compiles when its policy is small enough. -/
theorem compileRole_of_size {lane : Lane} (hlane : lane ≠ some .database) {policy : AwsPolicyDocument}
    (hpolicy : permissionsPolicyOf plan account rt (policyArn account.accountId.1 (boundaryNameOf account lane)) lane =
      .ok policy) (hsize : documentSize rt policy ≤ 6144) : ∃ role, compileRole plan account rt lane = .ok role := by
  have hdelegated : delegatedBoundary account rt lane = .ok none := by
    unfold delegatedBoundary
    rw [if_neg hlane]
  refine ⟨_, bind_ok.2 ⟨none, hdelegated, bind_ok.2 ⟨policy, hpolicy, bind_ok.2 ⟨policy, hpolicy,
    bind_ok.2 ⟨(), assertManagedPolicySize_ok hsize _, bind_ok.2 ⟨(), assertManagedPolicySize_ok hsize _,
      bind_ok.2 ⟨(), rfl, rfl⟩⟩⟩⟩⟩⟩⟩

end SecureSaas.Aws
