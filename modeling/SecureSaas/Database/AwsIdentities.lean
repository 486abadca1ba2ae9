import SecureSaas.Database.BrokerContract
import SecureSaas.Database.PostgresTenants

/-!
# The database users of a claim (`compileAwsManagedPostgresIdentityPolicies`)

A workload identity becomes a database user by a name in which every other character is an underscore, and an IAM policy
lets the identity connect as that user through one proxy.

* `compileBinding_identities`: the users of a compiled claim are the names of its binding's identities.
* `identities_separated_iff`: **the plans whose runtime and migration users are apart.**
* `identities_not_separated`: two identities with one database user.
-/

namespace SecureSaas.Database

open Js Blueprint

/-! ## Policies -/

structure AwsManagedPostgresIamTarget where
  kind : String
  resourceId : String

structure RdsDbConnectStatement where
  sid : String
  effect : String
  action : String
  resource : String

structure AwsRdsDbConnectPolicyDocument where
  version : String
  statement : List RdsDbConnectStatement

structure AwsManagedPostgresIdentityPolicies where
  runtime : AwsRdsDbConnectPolicyDocument
  migration : AwsRdsDbConnectPolicyDocument

/-- `/^prx-[A-Za-z0-9]{1,255}$/`. -/
def isProxyResourceId (value : String) : Bool :=
  open Pattern in
  fullMatch (seq (lit "prx-") (seq (cls isAlnum) (upTo isAlnum 254))) value

/-- `/^[a-z_][a-z0-9_]{0,62}$/`. -/
def isDatabaseUser (value : String) : Bool :=
  open Pattern in
  fullMatch (seq (cls fun c => isLowerLetter c || c == '_') (upTo (fun c => isLowerAlnum c || c == '_') 62)) value

def DatabaseRole.sid : DatabaseRole → String
  | .runtime => "RuntimeDatabaseConnect"
  | .migration => "MigrationDatabaseConnect"

/-- The ARN of a database user behind a proxy. -/
def dbUserArn (partition region accountId proxyResourceId databaseUser : String) : String :=
  s!"arn:{partition}:rds-db:{region}:{accountId}:dbuser:{proxyResourceId}/" ++ databaseUser

def compileAwsRdsProxyConnectPolicy (partition region accountId proxyResourceId databaseUser : String)
    (role : DatabaseRole) : Except String AwsRdsDbConnectPolicyDocument := do
  throwUnless (regionValue region && isAccountId accountId && isProxyResourceId proxyResourceId &&
      isDatabaseUser databaseUser)
    "AWS RDS Proxy IAM connection policy requires an exact Region, account, Proxy resource ID, and PostgreSQL user."
  pure {
    version := "2012-10-17"
    statement := [{
      sid := role.sid
      effect := "Allow"
      action := "rds-db:connect"
      resource := dbUserArn partition region accountId proxyResourceId databaseUser }] }

def connectPolicy (claim : AwsManagedPostgresClaimPlan) (proxyResourceId : String)
    (identity : AwsManagedPostgresIdentityPlan) : Except String AwsRdsDbConnectPolicyDocument :=
  compileAwsRdsProxyConnectPolicy claim.provider.partition claim.provider.region claim.provider.accountId
    proxyResourceId identity.databaseUser identity.role

def compileAwsManagedPostgresIdentityPolicies (claim : AwsManagedPostgresClaimPlan)
    (target : AwsManagedPostgresIamTarget) : Except String AwsManagedPostgresIdentityPolicies := do
  throwUnless (target.kind == "rds-proxy" && isProxyResourceId target.resourceId)
    "AWS Managed Postgres requires one exact RDS Proxy resource ID for Proxy endpoint authentication."
  throwUnless (claim.runtimeIdentity.identityId != claim.migrationIdentity.identityId &&
      claim.runtimeIdentity.databaseUser != claim.migrationIdentity.databaseUser)
    s!"AWS Managed Postgres claim '{claim.claimId}' must separate runtime and migration database identities."
  let runtime ← connectPolicy claim target.resourceId claim.runtimeIdentity
  let migration ← connectPolicy claim target.resourceId claim.migrationIdentity
  return { runtime, migration }

/-- What a document lets connect. -/
def AwsRdsDbConnectPolicyDocument.resources (document : AwsRdsDbConnectPolicyDocument) : List String :=
  (document.statement.filter fun statement => statement.effect = "Allow" ∧ statement.action = "rds-db:connect").map
    (·.resource)

/-! ## Users -/

variable {rt : Runtime} {dates : Dates} {intent : ManagedPostgresIntent} {blueprint : PlatformBlueprint}
  {extensions : AwsManagedPostgresProviderExtensions} {claimGenerations : Record Number} {plan : AwsManagedPostgresPlan}
  {binding : ManagedPostgresBinding} {claim : AwsManagedPostgresClaimPlan}

/-- The name of an identity as a database user. -/
def userName (identityId : String) : String := String.ofList (identityId.toList.flatMap userChars)

theorem awsManagedPostgresDatabaseUser_ok {identityId databaseUser : String}
    (h : awsManagedPostgresDatabaseUser identityId = .ok databaseUser) :
    databaseUser = userName identityId ∧ isDatabaseUser databaseUser = true := by
  unfold awsManagedPostgresDatabaseUser at h
  dsimp only at h
  split at h
  · rename_i hname
    obtain rfl := Except.ok.inj h
    exact ⟨rfl, hname⟩
  · cases h

/-- What the policies of a claim are made from. -/
structure IdentitiesOf (binding : ManagedPostgresBinding) (extensions : AwsManagedPostgresProviderExtensions)
    (claim : AwsManagedPostgresClaimPlan) : Prop where
  runtimeId : claim.runtimeIdentity.identityId = binding.access.runtimeIdentityId
  migrationId : claim.migrationIdentity.identityId = binding.access.migrationIdentityId
  runtimeUser : claim.runtimeIdentity.databaseUser = userName binding.access.runtimeIdentityId
  migrationUser : claim.migrationIdentity.databaseUser = userName binding.access.migrationIdentityId
  runtimeName : isDatabaseUser claim.runtimeIdentity.databaseUser = true
  migrationName : isDatabaseUser claim.migrationIdentity.databaseUser = true
  region : claim.provider.region = extensions.region
  accountId : claim.provider.accountId = extensions.accountId

/-- **The users of a compiled claim** are the names of its binding's identities. -/
theorem compileBinding_identities {databasePlans : Record AwsDatabasePlan}
    (h : compileBinding rt dates intent databasePlans extensions claimGenerations binding = .ok claim) :
    IdentitiesOf binding extensions claim := by
  unfold compileBinding at h
  split at h
  · cases h
  split at h
  · cases h
  simp only [compileClaim, identityPlan, bind_ok, pure_ok] at h
  obtain ⟨digest, -, _, ⟨runtimeUser, hruntime, rfl⟩, _, ⟨migrationUser, hmigration, rfl⟩, rfl⟩ := h
  obtain ⟨hruntimeUser, hruntimeName⟩ := awsManagedPostgresDatabaseUser_ok hruntime
  obtain ⟨hmigrationUser, hmigrationName⟩ := awsManagedPostgresDatabaseUser_ok hmigration
  exact ⟨rfl, rfl, hruntimeUser, hmigrationUser, hruntimeName, hmigrationName, rfl, rfl⟩

/-! ## Plans -/

/-- The claim's users differ, and for every proxy it has policies that let them connect to different resources. -/
structure SeparateUsers (claim : AwsManagedPostgresClaimPlan) : Prop where
  users : claim.runtimeIdentity.databaseUser ≠ claim.migrationIdentity.databaseUser
  policies : ∀ resourceId, isProxyResourceId resourceId = true → ∃ policies,
    compileAwsManagedPostgresIdentityPolicies claim ⟨"rds-proxy", resourceId⟩ = .ok policies ∧
      policies.runtime.resources ≠ [] ∧ policies.migration.resources ≠ [] ∧
        policies.runtime.resources.Disjoint policies.migration.resources

/-- The policies of a claim with two users. -/
theorem policies_ok (hof : IdentitiesOf binding extensions claim)
    (hids : binding.access.runtimeIdentityId ≠ binding.access.migrationIdentityId)
    (hregion : regionValue extensions.region = true) (haccount : isAccountId extensions.accountId = true)
    (husers : claim.runtimeIdentity.databaseUser ≠ claim.migrationIdentity.databaseUser) : SeparateUsers claim := by
  refine ⟨husers, fun resourceId hproxy => ?_⟩
  have hdifferent : claim.runtimeIdentity.identityId ≠ claim.migrationIdentity.identityId := by
    rwa [hof.runtimeId, hof.migrationId]
  have hpolicy : ∀ identity : AwsManagedPostgresIdentityPlan, isDatabaseUser identity.databaseUser = true →
      ∃ document, connectPolicy claim resourceId identity = .ok document ∧ document.resources =
        [dbUserArn claim.provider.partition claim.provider.region claim.provider.accountId resourceId
          identity.databaseUser] := by
    intro identity hname
    have hvalid : (regionValue claim.provider.region && isAccountId claim.provider.accountId &&
        isProxyResourceId resourceId && isDatabaseUser identity.databaseUser) = true := by
      rw [hof.region, hof.accountId, hregion, haccount, hproxy, hname]
      rfl
    unfold connectPolicy compileAwsRdsProxyConnectPolicy
    simp only [bind_ok, throwUnless_ok, exists_unit, pure_ok, hvalid, true_and, exists_eq_left']
    rfl
  obtain ⟨runtime, hruntime, hruntimeResources⟩ := hpolicy claim.runtimeIdentity hof.runtimeName
  obtain ⟨migration, hmigration, hmigrationResources⟩ := hpolicy claim.migrationIdentity hof.migrationName
  refine ⟨⟨runtime, migration⟩, ?_, by simp [hruntimeResources], by simp [hmigrationResources], ?_⟩
  · unfold compileAwsManagedPostgresIdentityPolicies
    rw [hproxy, bne_iff_ne.2 hdifferent, bne_iff_ne.2 husers, hruntime, hmigration]
    rfl
  · -- the user is the last part of the resource
    rw [hruntimeResources, hmigrationResources, List.disjoint_singleton, List.mem_singleton]
    intro heq
    exact husers (append_injective _ heq.symm)

/-- **The plans whose runtime and migration users are apart**: no binding has two identities with one name. -/
theorem identities_separated_iff
    (h : compileAwsManagedPostgres rt dates intent blueprint extensions claimGenerations = .ok plan) :
    (∀ claim ∈ plan.claims, SeparateUsers claim) ↔
      ∀ binding ∈ intent.bindings, userName binding.access.runtimeIdentityId ≠ userName binding.access.migrationIdentityId := by
  unfold compileAwsManagedPostgres at h
  simp only [bind_ok, pure_ok] at h
  obtain ⟨_, hassert, _, hextensions, databases, -, intentDigest, -, claims, hclaims, rfl⟩ := h
  simp only [assertManagedPostgresIntent, bind_ok, throwUnless_ok, exists_unit] at hassert
  obtain ⟨-, hbindings, -⟩ := hassert
  simp only [validateExtensions, bind_ok, throwUnless_ok, exists_unit, Bool.and_eq_true] at hextensions
  obtain ⟨⟨-, haccount⟩, ⟨hregion, -⟩, -⟩ := hextensions
  have hsound := assertBindings_each hbindings
  constructor
  · intro hseparate binding hbinding heq
    obtain ⟨claim, hclaim, hone⟩ := mapM_ok hclaims binding (Runtime.mem_sortByKey.2 hbinding)
    have hof := compileBinding_identities hone
    refine (hseparate claim hclaim).users ?_
    rw [hof.runtimeUser, hof.migrationUser, heq]
  · intro hnames claim hclaim
    obtain ⟨binding, hbinding, hone⟩ := mapM_source hclaims hclaim
    have hin := Runtime.mem_sortByKey.1 hbinding
    have hof := compileBinding_identities hone
    refine policies_ok hof (hsound binding hin).identities hregion haccount ?_
    rw [hof.runtimeUser, hof.migrationUser]
    exact hnames binding hin

theorem identities_separated_sample : ∃ plan, samplePostgresPlan 1 = .ok plan ∧
    ((∀ claim ∈ plan.claims, SeparateUsers claim) ↔ ∀ binding ∈ samplePostgresIntent.bindings,
      userName binding.access.runtimeIdentityId ≠ userName binding.access.migrationIdentityId) := by
  obtain ⟨plan, hplan⟩ := samplePostgresPlan_ok (Or.inl rfl)
  exact ⟨plan, hplan, identities_separated_iff hplan⟩

/-! ## Two identities with one name -/

/-- A blueprint whose service and whose migrations differ in a dot. -/
def dottedBlueprint : PlatformBlueprint :=
  { samplePostgresBlueprint with
    applications := samplePostgresBlueprint.applications.map fun application =>
      { application with
        components := application.components.map fun component =>
          { component with serviceIdentityId := "orders-app" } }
    identities := [⟨"shop-identity", .workload, none, true⟩, ⟨"orders-app", .workload, none, true⟩,
      ⟨"orders.app", .automation, none, true⟩] }

def dottedIntent : ManagedPostgresIntent :=
  { samplePostgresIntent with
    bindings := samplePostgresIntent.bindings.map fun binding =>
      { binding with access := ⟨"orders-app", "orders.app", binding.access.networkAccess⟩ } }

/-- **Two identities that differ in a dot** connect as one user, and have no policies. -/
theorem identities_not_separated : ¬ ∀ (rt : Runtime) (dates : Dates) (intent : ManagedPostgresIntent)
    (blueprint : PlatformBlueprint) (extensions : AwsManagedPostgresProviderExtensions) (claimGenerations : Record Number)
    (plan : AwsManagedPostgresPlan),
      compileAwsManagedPostgres rt dates intent blueprint extensions claimGenerations = .ok plan →
        ∀ claim ∈ plan.claims, SeparateUsers claim := by
  intro hclaim
  have haccepted : (compileAwsManagedPostgres samplePostgresRuntime sampleDates dottedIntent dottedBlueprint
      samplePostgresExtensions (Record.fromEntries [("orders-db", .int 1)])).isOk = true := by decide +kernel
  obtain ⟨plan, hplan⟩ := exists_of_isOk haccepted
  have hseparate := hclaim _ _ _ _ _ _ plan hplan
  unfold compileAwsManagedPostgres at hplan
  simp only [bind_ok, pure_ok] at hplan
  obtain ⟨_, -, _, -, databases, -, intentDigest, -, claims, hclaims, rfl⟩ := hplan
  have hbinding : ∃ binding ∈ dottedIntent.bindings, binding.access.runtimeIdentityId = "orders-app" ∧
      binding.access.migrationIdentityId = "orders.app" := ⟨_, List.mem_cons_self, rfl, rfl⟩
  obtain ⟨binding, hin, hruntime, hmigration⟩ := hbinding
  obtain ⟨claim, hclaim, hone⟩ := mapM_ok hclaims binding (Runtime.mem_sortByKey.2 hin)
  have hof := compileBinding_identities hone
  refine (hseparate claim hclaim).users ?_
  rw [hof.runtimeUser, hof.migrationUser, hruntime, hmigration]
  decide +kernel

end SecureSaas.Database
