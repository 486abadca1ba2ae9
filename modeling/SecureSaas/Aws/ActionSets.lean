import SecureSaas.Aws.PolicyDocuments

/-!
# The actions of an infrastructure lane

The tables of the bootstrap access compiler: the actions of each set, the ones every role may read
with, those that provision roles, and those that are denied to every role.

* `actions_exact`: no action of a table contains a wildcard.
-/

namespace SecureSaas.Aws

open Js

inductive AwsInfrastructureActionSet
  | audit | backup | cost | data | database | dns | network | observability | security | workload
deriving DecidableEq

def AwsInfrastructureActionSet.text : AwsInfrastructureActionSet → String
  | .audit => "audit"
  | .backup => "backup"
  | .cost => "cost"
  | .data => "data"
  | .database => "database"
  | .dns => "dns"
  | .network => "network"
  | .observability => "observability"
  | .security => "security"
  | .workload => "workload"

def AwsInfrastructureActionSet.all : List AwsInfrastructureActionSet :=
  [.audit, .backup, .cost, .data, .database, .dns, .network, .observability, .security, .workload]

theorem AwsInfrastructureActionSet.mem_all : ∀ actionSet, actionSet ∈ all := by
  intro actionSet
  cases actionSet <;> decide

theorem AwsInfrastructureActionSet.text_injective : Function.Injective text := by
  intro a b h
  cases a <;> cases b <;> first | rfl | exact absurd h (by decide)

def auditActions : List String :=
  ["cloudtrail:AddTags", "cloudtrail:CreateTrail", "cloudtrail:DescribeTrails",
   "cloudtrail:GetEventSelectors", "cloudtrail:GetInsightSelectors", "cloudtrail:GetTrail",
   "cloudtrail:GetTrailStatus", "cloudtrail:ListTags", "cloudtrail:ListTrails",
   "cloudtrail:PutEventSelectors", "cloudtrail:PutInsightSelectors", "cloudtrail:RemoveTags",
   "cloudtrail:StartLogging"]

def backupActions : List String :=
  ["backup:CreateBackupPlan", "backup:CreateBackupSelection", "backup:CreateBackupVault",
   "backup:CreateFramework", "backup:CreateRestoreTestingPlan", "backup:CreateRestoreTestingSelection",
   "backup:DeleteBackupPlan", "backup:DeleteBackupSelection", "backup:DeleteFramework",
   "backup:DeleteRestoreTestingPlan", "backup:DeleteRestoreTestingSelection", "backup:DescribeBackupVault",
   "backup:GetBackupPlan", "backup:GetBackupSelection", "backup:GetBackupVaultAccessPolicy",
   "backup:GetBackupVaultLockConfiguration", "backup:GetRestoreTestingPlan",
   "backup:GetRestoreTestingSelection", "backup:ListBackupPlans", "backup:ListBackupSelections",
   "backup:ListBackupVaults", "backup:ListRestoreTestingPlans", "backup:ListTags",
   "backup:PutBackupVaultAccessPolicy", "backup:PutBackupVaultLockConfiguration", "backup:TagResource",
   "backup:UntagResource", "backup:UpdateBackupPlan", "backup:UpdateFramework",
   "backup:UpdateRestoreTestingPlan"]

def costActions : List String :=
  ["budgets:CreateBudget", "budgets:DeleteBudget", "budgets:DescribeBudget", "budgets:DescribeBudgets",
   "budgets:UpdateBudget", "ce:CreateAnomalyMonitor", "ce:CreateAnomalySubscription",
   "ce:DeleteAnomalyMonitor", "ce:DeleteAnomalySubscription", "ce:GetAnomalyMonitors",
   "ce:GetAnomalySubscriptions", "ce:UpdateAnomalyMonitor", "ce:UpdateAnomalySubscription"]

def dataActions : List String :=
  ["kms:CreateAlias", "kms:CreateKey", "kms:CreateGrant", "kms:DescribeKey", "kms:EnableKeyRotation",
   "kms:GetKeyPolicy", "kms:GetKeyRotationStatus", "kms:ListAliases", "kms:ListGrants",
   "kms:ListResourceTags", "kms:PutKeyPolicy", "kms:ReplicateKey", "kms:RetireGrant", "kms:TagResource",
   "kms:UntagResource", "kms:UpdateAlias", "kms:UpdateKeyDescription", "s3:CreateBucket",
   "s3:DeleteBucketLifecycle", "s3:DeleteBucketPolicy", "s3:GetBucketAcl", "s3:GetBucketLocation",
   "s3:GetBucketLogging", "s3:GetBucketObjectLockConfiguration", "s3:GetBucketOwnershipControls",
   "s3:GetBucketPolicy", "s3:GetBucketPublicAccessBlock", "s3:GetBucketTagging", "s3:GetBucketVersioning",
   "s3:GetEncryptionConfiguration", "s3:GetLifecycleConfiguration", "s3:ListAllMyBuckets", "s3:ListBucket",
   "s3:PutBucketLifecycleConfiguration", "s3:PutBucketLogging", "s3:PutBucketObjectLockConfiguration",
   "s3:PutBucketOwnershipControls", "s3:PutBucketPolicy", "s3:PutBucketPublicAccessBlock",
   "s3:PutBucketTagging", "s3:PutBucketVersioning", "s3:PutEncryptionConfiguration",
   "secretsmanager:CreateSecret", "secretsmanager:DeleteResourcePolicy", "secretsmanager:DescribeSecret",
   "secretsmanager:GetResourcePolicy", "secretsmanager:ListSecrets", "secretsmanager:ListSecretVersionIds",
   "secretsmanager:PutResourcePolicy", "secretsmanager:TagResource", "secretsmanager:UntagResource",
   "secretsmanager:UpdateSecret"]

def databaseActions : List String :=
  ["ec2:AuthorizeSecurityGroupEgress", "ec2:AuthorizeSecurityGroupIngress", "ec2:CreateSecurityGroup",
   "ec2:CreateTags", "ec2:DeleteSecurityGroup", "ec2:DeleteTags", "ec2:DescribeSecurityGroupRules",
   "ec2:DescribeSecurityGroups", "ec2:DescribeTags", "ec2:DescribeVpcs", "ec2:ModifySecurityGroupRules",
   "ec2:RevokeSecurityGroupEgress", "ec2:RevokeSecurityGroupIngress",
   "ec2:UpdateSecurityGroupRuleDescriptionsEgress", "ec2:UpdateSecurityGroupRuleDescriptionsIngress",
   "kms:CreateAlias", "kms:CreateGrant", "kms:CreateKey", "kms:DescribeKey", "kms:EnableKeyRotation",
   "kms:GetKeyPolicy", "kms:GetKeyRotationStatus", "kms:ListAliases", "kms:ListGrants",
   "kms:ListResourceTags", "kms:PutKeyPolicy", "kms:RetireGrant", "kms:TagResource", "kms:UntagResource",
   "kms:UpdateAlias", "kms:UpdateKeyDescription", "rds:AddTagsToResource", "rds:CreateDBCluster",
   "rds:CreateDBClusterParameterGroup", "rds:CreateDBInstance", "rds:CreateDBProxy",
   "rds:CreateDBSubnetGroup", "rds:DeleteDBClusterParameterGroup", "rds:DeleteDBProxy",
   "rds:DeleteDBSubnetGroup", "rds:DeregisterDBProxyTargets", "rds:DescribeDBClusterParameterGroups",
   "rds:DescribeDBClusters", "rds:DescribeDBInstances", "rds:DescribeDBProxies",
   "rds:DescribeDBProxyTargetGroups", "rds:DescribeDBProxyTargets", "rds:DescribeDBSubnetGroups",
   "rds:ListTagsForResource", "rds:ModifyDBCluster", "rds:ModifyDBClusterParameterGroup",
   "rds:ModifyDBInstance", "rds:ModifyDBProxy", "rds:ModifyDBProxyTargetGroup", "rds:ModifyDBSubnetGroup",
   "rds:RegisterDBProxyTargets", "rds:RemoveTagsFromResource"]

def dnsActions : List String :=
  ["route53:AssociateVPCWithHostedZone", "route53:ChangeResourceRecordSets", "route53:CreateHostedZone",
   "route53:DeleteHostedZone", "route53:GetChange", "route53:GetHostedZone", "route53:ListHostedZones",
   "route53:ListResourceRecordSets", "route53:ListTagsForResource", "route53:UpdateHostedZoneComment",
   "route53resolver:AssociateResolverQueryLogConfig", "route53resolver:CreateResolverQueryLogConfig",
   "route53resolver:DeleteResolverQueryLogConfig", "route53resolver:DisassociateResolverQueryLogConfig",
   "route53resolver:GetResolverQueryLogConfig", "route53resolver:ListResolverQueryLogConfigAssociations",
   "route53resolver:ListResolverQueryLogConfigs", "route53resolver:ListTagsForResource",
   "route53resolver:TagResource", "route53resolver:UntagResource"]

def networkActions : List String :=
  ["ec2:AcceptTransitGatewayVpcAttachment", "ec2:AllocateAddress", "ec2:AssociateRouteTable",
   "ec2:AssociateTransitGatewayRouteTable", "ec2:AttachInternetGateway", "ec2:CreateFlowLogs",
   "ec2:CreateInternetGateway", "ec2:CreateNatGateway", "ec2:CreateRoute", "ec2:CreateRouteTable",
   "ec2:CreateSecurityGroup", "ec2:CreateSubnet", "ec2:CreateTags", "ec2:CreateTransitGateway",
   "ec2:CreateTransitGatewayRoute", "ec2:CreateTransitGatewayRouteTable",
   "ec2:CreateTransitGatewayVpcAttachment", "ec2:CreateVpc", "ec2:CreateVpcEndpoint", "ec2:DeleteFlowLogs",
   "ec2:DeleteInternetGateway", "ec2:DeleteNatGateway", "ec2:DeleteRoute", "ec2:DeleteRouteTable",
   "ec2:DeleteSecurityGroup", "ec2:DeleteSubnet", "ec2:DeleteTransitGatewayRoute",
   "ec2:DeleteTransitGatewayRouteTable", "ec2:DeleteTransitGatewayVpcAttachment", "ec2:DeleteVpc",
   "ec2:DeleteVpcEndpoints", "ec2:DescribeAddresses", "ec2:DescribeAvailabilityZones", "ec2:DescribeFlowLogs",
   "ec2:DescribeInternetGateways", "ec2:DescribeNatGateways", "ec2:DescribeRouteTables",
   "ec2:DescribeSecurityGroups", "ec2:DescribeSubnets", "ec2:DescribeTags",
   "ec2:DescribeTransitGatewayAttachments", "ec2:DescribeTransitGatewayRouteTables",
   "ec2:DescribeTransitGatewayVpcAttachments", "ec2:DescribeTransitGateways", "ec2:DescribeVpcAttribute",
   "ec2:DescribeVpcEndpoints", "ec2:DescribeVpcs", "ec2:DetachInternetGateway",
   "ec2:DisableTransitGatewayRouteTablePropagation", "ec2:DisassociateRouteTable",
   "ec2:DisassociateTransitGatewayRouteTable", "ec2:EnableTransitGatewayRouteTablePropagation",
   "ec2:ModifySubnetAttribute", "ec2:ModifyTransitGateway", "ec2:ModifyVpcAttribute", "ec2:ModifyVpcEndpoint",
   "ec2:ReleaseAddress", "ec2:ReplaceRoute", "ec2:RevokeSecurityGroupEgress",
   "ec2:RevokeSecurityGroupIngress", "ram:AssociateResourceShare", "ram:CreateResourceShare",
   "ram:DeleteResourceShare", "ram:DisassociateResourceShare", "ram:GetResourcePolicies",
   "ram:GetResourceShares", "ram:ListPrincipals", "ram:ListResources", "ram:TagResource", "ram:UntagResource",
   "ram:UpdateResourceShare"]

def observabilityActions : List String :=
  ["events:DeleteRule", "events:DescribeRule", "events:DisableRule", "events:EnableRule", "events:ListRules",
   "events:ListTagsForResource", "events:ListTargetsByRule", "events:PutRule", "events:PutTargets",
   "events:RemoveTargets", "events:TagResource", "events:UntagResource", "logs:CreateLogGroup",
   "logs:DeleteLogGroup", "logs:DeleteResourcePolicy", "logs:DescribeLogGroups",
   "logs:DescribeResourcePolicies", "logs:ListTagsForResource", "logs:PutResourcePolicy",
   "logs:PutRetentionPolicy", "logs:TagResource", "logs:UntagResource", "sns:CreateTopic", "sns:DeleteTopic",
   "sns:GetSubscriptionAttributes", "sns:GetTopicAttributes", "sns:ListSubscriptionsByTopic",
   "sns:ListTagsForResource", "sns:SetSubscriptionAttributes", "sns:SetTopicAttributes", "sns:Subscribe",
   "sns:TagResource", "sns:Unsubscribe", "sns:UntagResource"]

def securityActions : List String :=
  ["config:DeleteConfigurationAggregator", "config:DeleteConformancePack",
   "config:DescribeConfigurationAggregators", "config:DescribeConformancePackStatus",
   "config:DescribeConformancePacks", "config:PutConfigurationAggregator", "config:PutConformancePack",
   "guardduty:CreateDetector", "guardduty:DescribeOrganizationConfiguration", "guardduty:GetDetector",
   "guardduty:ListDetectors", "guardduty:ListTagsForResource", "guardduty:TagResource",
   "guardduty:UntagResource", "guardduty:UpdateOrganizationConfiguration", "inspector2:Enable",
   "inspector2:GetDelegatedAdminAccount", "inspector2:ListAccountPermissions", "inspector2:ListMembers",
   "inspector2:UpdateOrganizationConfiguration", "macie2:CreateClassificationJob",
   "macie2:DescribeClassificationJob", "macie2:EnableMacie", "macie2:GetMacieSession",
   "macie2:ListClassificationJobs", "macie2:ListTagsForResource", "macie2:TagResource",
   "macie2:UntagResource", "securityhub:CreateFindingAggregator", "securityhub:DescribeHub",
   "securityhub:DescribeOrganizationConfiguration", "securityhub:EnableSecurityHub",
   "securityhub:GetFindingAggregator", "securityhub:ListFindingAggregators",
   "securityhub:ListTagsForResource", "securityhub:TagResource", "securityhub:UntagResource",
   "securityhub:UpdateOrganizationConfiguration"]

def workloadActions : List String :=
  ["acm:AddTagsToCertificate", "acm:DeleteCertificate", "acm:DescribeCertificate", "acm:ListCertificates",
   "acm:ListTagsForCertificate", "acm:RemoveTagsFromCertificate", "acm:RequestCertificate",
   "cloudfront:CreateDistribution", "cloudfront:CreateResponseHeadersPolicy", "cloudfront:CreateVpcOrigin",
   "cloudfront:DeleteDistribution", "cloudfront:DeleteResponseHeadersPolicy", "cloudfront:DeleteVpcOrigin",
   "cloudfront:GetDistribution", "cloudfront:GetDistributionConfig", "cloudfront:GetResponseHeadersPolicy",
   "cloudfront:GetVpcOrigin", "cloudfront:ListDistributions", "cloudfront:ListResponseHeadersPolicies",
   "cloudfront:ListTagsForResource", "cloudfront:ListVpcOrigins", "cloudfront:TagResource",
   "cloudfront:UntagResource", "cloudfront:UpdateDistribution", "cloudfront:UpdateResponseHeadersPolicy",
   "cloudfront:UpdateVpcOrigin", "ecr:CreateRepository", "ecr:DeleteLifecyclePolicy", "ecr:DeleteRepository",
   "ecr:DeleteRepositoryPolicy", "ecr:DescribeRepositories", "ecr:GetLifecyclePolicy",
   "ecr:GetRepositoryPolicy", "ecr:ListTagsForResource", "ecr:PutLifecyclePolicy", "ecr:SetRepositoryPolicy",
   "ecr:TagResource", "ecr:UntagResource", "eks:AssociateAccessPolicy", "eks:CreateAccessEntry",
   "eks:CreateAddon", "eks:CreateCluster", "eks:DeleteAccessEntry", "eks:DeleteAddon", "eks:DeleteCluster",
   "eks:DescribeAccessEntry", "eks:DescribeAddon", "eks:DescribeCluster", "eks:DescribeUpdate",
   "eks:DisassociateAccessPolicy", "eks:ListAccessEntries", "eks:ListAccessPolicies", "eks:ListAddons",
   "eks:ListAssociatedAccessPolicies", "eks:ListClusters", "eks:ListTagsForResource", "eks:TagResource",
   "eks:UntagResource", "eks:UpdateAccessEntry", "eks:UpdateAddon", "eks:UpdateClusterConfig",
   "eks:UpdateClusterVersion", "elasticloadbalancing:AddTags", "elasticloadbalancing:CreateListener",
   "elasticloadbalancing:CreateLoadBalancer", "elasticloadbalancing:CreateTargetGroup",
   "elasticloadbalancing:DeleteListener", "elasticloadbalancing:DeleteLoadBalancer",
   "elasticloadbalancing:DeleteTargetGroup", "elasticloadbalancing:DescribeListeners",
   "elasticloadbalancing:DescribeLoadBalancerAttributes", "elasticloadbalancing:DescribeLoadBalancers",
   "elasticloadbalancing:DescribeTags", "elasticloadbalancing:DescribeTargetGroupAttributes",
   "elasticloadbalancing:DescribeTargetGroups", "elasticloadbalancing:ModifyLoadBalancerAttributes",
   "elasticloadbalancing:ModifyTargetGroupAttributes", "elasticloadbalancing:RemoveTags",
   "wafv2:CreateWebACL", "wafv2:DeleteLoggingConfiguration", "wafv2:DeleteWebACL",
   "wafv2:GetLoggingConfiguration", "wafv2:GetWebACL", "wafv2:ListResourcesForWebACL",
   "wafv2:ListTagsForResource", "wafv2:ListWebACLs", "wafv2:PutLoggingConfiguration", "wafv2:TagResource",
   "wafv2:UntagResource", "wafv2:UpdateWebACL"]

def actionsBySet : AwsInfrastructureActionSet → List String
  | .audit => auditActions
  | .backup => backupActions
  | .cost => costActions
  | .data => dataActions
  | .database => databaseActions
  | .dns => dnsActions
  | .network => networkActions
  | .observability => observabilityActions
  | .security => securityActions
  | .workload => workloadActions

def readActions : List String :=
  ["access-analyzer:ValidatePolicy", "account:GetAccountInformation", "iam:GetRole", "iam:GetRolePolicy",
   "iam:ListAttachedRolePolicies", "iam:ListOpenIDConnectProviders", "iam:ListRolePolicies",
   "iam:ListRoleTags", "iam:ListRoles", "organizations:DescribeAccount", "organizations:DescribeOrganization",
   "organizations:ListAccounts", "organizations:ListParents", "tag:GetResources"]

def iamProvisioningActions : List String :=
  ["iam:AttachRolePolicy", "iam:CreateOpenIDConnectProvider", "iam:CreateRole",
   "iam:DeleteOpenIDConnectProvider", "iam:DeleteRole", "iam:DeleteRolePolicy", "iam:DetachRolePolicy",
   "iam:GetOpenIDConnectProvider", "iam:GetRole", "iam:GetRolePolicy", "iam:ListAttachedRolePolicies",
   "iam:ListOpenIDConnectProviders", "iam:ListRolePolicies", "iam:ListRoleTags", "iam:PassRole",
   "iam:PutRolePermissionsBoundary", "iam:PutRolePolicy", "iam:TagOpenIDConnectProvider", "iam:TagRole",
   "iam:UntagOpenIDConnectProvider", "iam:UntagRole", "iam:UpdateOpenIDConnectProviderThumbprint"]

def sensitiveResourcePolicyActions : List String :=
  ["backup:PutBackupVaultAccessPolicy", "ecr:SetRepositoryPolicy", "kms:CreateGrant", "kms:PutKeyPolicy",
   "rds:CreateDBProxy", "s3:PutBucketPolicy", "secretsmanager:PutResourcePolicy", "sns:SetTopicAttributes"]

def forbiddenActions : List String :=
  ["account:CloseAccount", "cloudtrail:DeleteTrail", "cloudtrail:StopLogging",
   "config:DeleteConfigurationRecorder", "config:DeleteDeliveryChannel", "config:StopConfigurationRecorder",
   "guardduty:DeleteDetector", "iam:CreateAccessKey", "iam:CreateLoginProfile", "iam:CreateUser",
   "iam:DeleteAccountPasswordPolicy", "iam:DeleteRolePermissionsBoundary",
   "iam:EnableOrganizationsRootCredentialsManagement", "iam:EnableOrganizationsRootSessions",
   "iam:UpdateAccessKey", "inspector2:Disable", "kms:DisableKey", "kms:DisableKeyRotation",
   "kms:ScheduleKeyDeletion", "organizations:CreateAccount", "organizations:CreateOrganization",
   "organizations:DeleteOrganization", "organizations:LeaveOrganization", "organizations:MoveAccount",
   "organizations:RemoveAccountFromOrganization", "securityhub:DisableSecurityHub", "sts:AssumeRoot"]

/-- `action.split(":", 2)[1] ?? ""`. -/
def operationOf (action : String) : List Char := ((action.toList.splitOn ':')[1]?).getD []

/-- `/^(a|b|…)/.test(operation)`. -/
def operationStarts (verbs : List String) (action : String) : Bool :=
  verbs.any fun verb => verb.toList.isPrefixOf (operationOf action)

def isDirectDestructiveAction : String → Bool :=
  operationStarts ["BatchDelete", "Close", "Delete", "Deregister", "Detach", "Disable", "Disassociate", "Leave", "Release",
    "Remove", "Retire", "Revoke", "ScheduleKeyDeletion", "Stop", "Unsubscribe"]

/-- `/^(BatchGet|Describe|Get|List|Lookup|Search)/` on the operation of an action. -/
def isReadAction : String → Bool := operationStarts ["BatchGet", "Describe", "Get", "List", "Lookup", "Search"]

/-- `/^rds:(?:Describe|List)/`. -/
def rdsReadActionPattern (action : String) : Bool := startsWith action "rds:Describe" || startsWith action "rds:List"

def readActionsFor (sets : List AwsInfrastructureActionSet) : List String :=
  (sets.flatMap actionsBySet).filter isReadAction

/-- The actions of a lane that it has on every resource. -/
def serviceActions (actionSet : AwsInfrastructureActionSet) : List String :=
  ((actionsBySet actionSet).eraseDups.filter fun action =>
    !startsWith action "iam:" && (!startsWith action "rds:" || rdsReadActionPattern action) &&
      !sensitiveResourcePolicyActions.contains action && !isDirectDestructiveAction action).insertionSort (· ≤ ·)

def includesOidcProvider (action : String) : Bool := includes action "OpenIDConnectProvider"

def managedRoleLifecycleActions : List String :=
  iamProvisioningActions.filter fun action => !includesOidcProvider action &&
    !(["iam:CreateRole", "iam:PassRole", "iam:PutRolePermissionsBoundary"].contains action) &&
    !isDirectDestructiveAction action

def managedOidcActions : List String :=
  iamProvisioningActions.filter fun action => includesOidcProvider action && !isDirectDestructiveAction action

/-! ## What the tables have -/

/-- The bytes of the actions, the patterns of the denied ones and the texts of the sets, decided together. -/
theorem tables_decided :
    (∀ actionSet ∈ AwsInfrastructureActionSet.all, ∀ action ∈ actionsBySet actionSet,
        action.toByteArray.data.toList.all (· != 42) = true) ∧
      (∀ pattern ∈ forbiddenActions, matchesPattern pattern "iam:AttachRolePolicy" = false) ∧
      "iam:AttachRolePolicy" ∈ managedRoleLifecycleActions ∧
      ∀ actionSet ∈ AwsInfrastructureActionSet.all, (actionSet.text.toList.all isAlnum) = true := by
  decide +kernel

theorem star_byte {s : String} (h : '*' ∈ s.toList) : (42 : UInt8) ∈ s.toByteArray.data.toList := by
  rw [← String.utf8Encode_toList, List.utf8Encode, List.data_toByteArray, List.mem_flatMap]
  exact ⟨'*', h, by decide⟩

/-- **No action of a table contains a wildcard.** -/
theorem actions_exact {actionSet : AwsInfrastructureActionSet} {action : String}
    (h : action ∈ actionsBySet actionSet) : '*' ∉ action.toList := by
  intro hstar
  have hbyte := List.all_eq_true.1 (tables_decided.1 actionSet actionSet.mem_all action h) 42 (star_byte hstar)
  exact absurd hbyte (by decide)

theorem forbidden_attach : ∀ pattern ∈ forbiddenActions, matchesPattern pattern "iam:AttachRolePolicy" = false :=
  tables_decided.2.1

theorem attach_managed : "iam:AttachRolePolicy" ∈ managedRoleLifecycleActions := tables_decided.2.2.1

/-- The text of an action set is a word of letters. -/
theorem actionSet_alnum (actionSet : AwsInfrastructureActionSet) : ∀ c ∈ actionSet.text.toList, isAlnum c = true :=
  List.all_eq_true.1 (tables_decided.2.2.2 actionSet actionSet.mem_all)

end SecureSaas.Aws
