import SecureSaas.Aws.AccessSeparation

/-!
# What an apply lane can do to the access roles

A lane manages the roles whose names start with its own prefix. The policy denies a few actions on
the roles and boundaries under their base names; a role of the account whose name starts with the
prefix of a lane is managed by the lane.

* `allows_iff`: what a document allows, from the statements it was made of.
* `lane_mutation`: the only resources that a lane may change by IAM.
* `access_lanes_kept_iff`: **when no lane can change an access role**.
-/

namespace SecureSaas.Aws

open Js

/-- An action of IAM that is none of those that read. -/
def isMutatingIamAction (action : String) : Bool := startsWith action "iam:" && !isReadAction action

/-- The start of the names of the roles that a lane manages. -/
def managedPrefix (account : AwsBootstrapAccessAccount) (actionSet : AwsInfrastructureActionSet) : String :=
  account.resourceNamePrefix.1 ++ "-" ++ actionSet.text ++ "-"

/-- No role of an account has a name that a lane of the account manages. -/
def LanesKeepOut (plan : AwsBootstrapAccessPlan) : Prop :=
  ∀ account ∈ plan.accounts, ∀ actionSet ∈ account.actionSets, ∀ lane ∈ account.lanes,
    startsWith (roleNameOf account lane) (managedPrefix account actionSet) = false

variable {plan : AwsBootstrapAccessPlan} {account : AwsBootstrapAccessAccount} {rt : Runtime}
  {actionSet : AwsInfrastructureActionSet} {childArn arn action : String} {statement : AwsPolicyStatement}
  {request : AwsRequest}

/-! ## Documents -/

/-- **What a document allows, from the statements it was made of.** -/
theorem allows_iff {statements : List AwsPolicyStatement} : (policyDocument rt statements).allows request = true ↔
    (∃ statement ∈ statements, statement.effect = .allow ∧ applies statement request = true) ∧
      ∀ statement ∈ statements, statement.effect = .deny → applies statement request = false := by
  unfold AwsPolicyDocument.allows
  rw [Bool.and_eq_true, Bool.not_eq_true', List.any_eq_true, List.any_eq_false]
  constructor
  · rintro ⟨⟨found, hmem, hfound⟩, hdeny⟩
    obtain ⟨statement, hstatement, rfl⟩ := mem_policyDocument.1 hmem
    rw [Bool.and_eq_true, beq_iff_eq, applies_normalized] at hfound
    refine ⟨⟨statement, hstatement, hfound⟩, fun other hother heffect => ?_⟩
    have hnot := hdeny _ (mem_policyDocument.2 ⟨other, hother, rfl⟩)
    rw [applies_normalized] at hnot
    simpa [normalizeStatement, heffect] using hnot
  · rintro ⟨⟨statement, hstatement, heffect, happlies⟩, hdeny⟩
    refine ⟨⟨_, mem_policyDocument.2 ⟨statement, hstatement, rfl⟩, ?_⟩, fun found hmem => ?_⟩
    · rw [Bool.and_eq_true, beq_iff_eq, applies_normalized]
      exact ⟨heffect, happlies⟩
    · obtain ⟨other, hother, rfl⟩ := mem_policyDocument.1 hmem
      rw [applies_normalized]
      intro hboth
      obtain ⟨hdenied, hother'⟩ := Bool.and_eq_true_iff.1 hboth
      rw [hdeny other hother (beq_iff_eq.1 hdenied)] at hother'
      exact absurd hother' Bool.false_ne_true

/-- The parts of a statement without a principal that applies. -/
theorem applies_parts (h : applies statement request = true) :
    (∃ pattern ∈ statement.action.values, matchesPattern pattern request.action = true) ∧
      ∀ arns, statement.resource = some arns → ∃ pattern ∈ arns.values, matchesPattern pattern request.resource = true := by
  unfold applies at h
  simp only [Bool.and_eq_true, List.any_eq_true] at h
  obtain ⟨⟨⟨-, haction⟩, hresource⟩, -⟩ := h
  refine ⟨haction, fun arns harns => ?_⟩
  rw [harns, Option.all_some, List.any_eq_true] at hresource
  exact hresource

/-! ## Exact actions -/

/-- A lane's actions on every resource are none of IAM. -/
theorem serviceActions_iam {pattern : String} (hmem : pattern ∈ serviceActions actionSet)
    (hmatch : matchesPattern pattern action = true) : startsWith action "iam:" = false := by
  unfold serviceActions at hmem
  rw [List.mem_insertionSort, List.mem_filter, List.mem_eraseDups] at hmem
  obtain ⟨htable, hfilter⟩ := hmem
  rw [matchesPattern_literal (actions_exact htable)] at hmatch
  rw [hmatch]
  simp only [Bool.and_eq_true, Bool.not_eq_true'] at hfilter
  exact hfilter.1.1.1

/-! ## Resources -/

theorem roleArnOf_starts {id : AccountId} {name initial : String} :
    startsWith (roleArnOf id.1 name) (roleArnOf id.1 initial) = startsWith name initial := by
  unfold startsWith roleArnOf
  rw [Bool.eq_iff_iff, List.isPrefixOf_iff_prefix, List.isPrefixOf_iff_prefix]
  simp only [String.toList_append, List.append_assoc]
  rw [List.prefix_append_right_inj, List.prefix_append_right_inj, List.prefix_append_right_inj]

theorem accountId_star (id : AccountId) : '*' ∉ id.1.toList := by
  have hmatch := id.2
  unfold isAccountId at hmatch
  rw [Pattern.fullMatch_iff, Pattern.mem_exactly] at hmatch
  obtain ⟨w, -, hw, heq⟩ := hmatch
  rw [heq, List.append_nil]
  exact fun hmem => absurd (hw '*' hmem) (by decide)

theorem actionSet_star (actionSet : AwsInfrastructureActionSet) : '*' ∉ actionSet.text.toList :=
  fun hmem => absurd (actionSet_alnum actionSet '*' hmem) (by decide)

/-- The roles that a lane manages are those whose names start with its prefix. -/
theorem managedRoleArn_matches : matchesPattern (managedRoleArn account actionSet) arn = true ↔
    startsWith arn (roleArnOf account.accountId.1 (managedPrefix account actionSet)) = true := by
  have hstar : '*' ∉ (roleArnOf account.accountId.1 (managedPrefix account actionSet)).toList := by
    simp only [roleArnOf, managedPrefix, String.toList_append, List.mem_append, not_or]
    exact ⟨⟨⟨by decide, accountId_star _⟩, by decide⟩,
      ⟨⟨identifier_star _, by decide⟩, actionSet_star actionSet⟩, by decide⟩
  exact matchesPattern_initial hstar

theorem managedOidcArn_matches : matchesPattern (managedOidcArn account) arn = true ↔
    startsWith arn ("arn:aws:iam::" ++ account.accountId.1 ++ ":oidc-provider/") = true := by
  have hstar : '*' ∉ ("arn:aws:iam::" ++ account.accountId.1 ++ ":oidc-provider/").toList := by
    simp only [String.toList_append, List.mem_append, not_or]
    exact ⟨⟨by decide, accountId_star _⟩, by decide⟩
  have heq : managedOidcArn account = "arn:aws:iam::" ++ account.accountId.1 ++ ":oidc-provider/" ++ "*" := by
    have hstop : ":oidc-provider/*" = ":oidc-provider/" ++ "*" := by decide
    rw [managedOidcArn, hstop, ← String.append_assoc]
  rw [heq]
  exact matchesPattern_initial hstar

/-! ## What a lane may change -/

theorem exact_not_iam {pattern : String} (hstar : '*' ∉ pattern.toList) (hiam : startsWith pattern "iam:" = false)
    (hmatch : matchesPattern pattern action = true) : startsWith action "iam:" = false := by
  rw [matchesPattern_literal hstar] at hmatch
  rw [hmatch]
  exact hiam

theorem rds_exact (hmem : statement ∈ managedRdsPolicyStatements plan account) :
    ∀ pattern ∈ statement.action.values, '*' ∉ pattern.toList ∧ startsWith pattern "iam:" = false ∧
      pattern ≠ "iam:AttachRolePolicy" := by
  unfold managedRdsPolicyStatements at hmem
  simp only [List.mem_cons, List.not_mem_nil, or_false] at hmem
  rcases hmem with rfl | rfl | rfl
  · show ∀ pattern ∈ ["rds:CreateDBCluster", "rds:CreateDBClusterParameterGroup", "rds:CreateDBInstance",
      "rds:CreateDBProxy", "rds:CreateDBSubnetGroup"], _
    decide +kernel
  · show ∀ pattern ∈ ["rds:AddTagsToResource", "rds:ModifyDBCluster", "rds:ModifyDBClusterParameterGroup",
      "rds:ModifyDBInstance", "rds:ModifyDBProxy", "rds:ModifyDBProxyTargetGroup", "rds:ModifyDBSubnetGroup",
      "rds:RegisterDBProxyTargets", "rds:RemoveTagsFromResource"], _
    decide +kernel
  · show ∀ pattern ∈ ["rds:RemoveTagsFromResource"], _
    decide +kernel

/-- A statement about one sensitive action. -/
theorem sensitiveStatement_exact {name resource : String} {condition : Option AwsCondition}
    (hmem : statement ∈ sensitiveStatement actionSet name action resource condition) :
    statement.effect = .allow ∧ action ∈ actionsBySet actionSet ∧ statement.action = .one action := by
  unfold sensitiveStatement at hmem
  split at hmem
  · rename_i hlane
    obtain rfl := List.mem_singleton.1 hmem
    exact ⟨rfl, List.contains_iff_mem.1 hlane, rfl⟩
  · exact absurd hmem List.not_mem_nil

/-- **The sensitive statements are about exact actions that are none of IAM.** -/
theorem sensitive_exact (hmem : statement ∈ sensitivePolicyStatements plan account actionSet) :
    ∀ pattern ∈ statement.action.values, '*' ∉ pattern.toList ∧ startsWith pattern "iam:" = false := by
  have hone : ∀ name action resource condition, startsWith action "iam:" = false →
      statement ∈ sensitiveStatement actionSet name action resource condition →
        ∀ pattern ∈ statement.action.values, '*' ∉ pattern.toList ∧ startsWith pattern "iam:" = false := by
    intro name action resource condition hiam hin pattern hpattern
    obtain ⟨-, htable, haction⟩ := sensitiveStatement_exact hin
    rw [haction] at hpattern
    obtain rfl := List.mem_singleton.1 hpattern
    exact ⟨actions_exact htable, hiam⟩
  unfold sensitivePolicyStatements at hmem
  simp only [List.mem_append, or_assoc] at hmem
  rcases hmem with h | h | h | h | h | h | h | h
  · exact hone _ _ _ _ (by decide) h
  · exact hone _ _ _ _ (by decide) h
  · exact hone _ _ _ _ (by decide) h
  · exact hone _ _ _ _ (by decide) h
  · split at h
    · exact fun pattern hpattern => ⟨(rds_exact h pattern hpattern).1, (rds_exact h pattern hpattern).2.1⟩
    · exact absurd h List.not_mem_nil
  · exact hone _ _ _ _ (by decide) h
  · exact hone _ _ _ _ (by decide) h
  · exact hone _ _ _ _ (by decide) h

/-- **The only resources that a lane may change by IAM**: the roles it manages and the identity
providers. -/
theorem lane_mutation (hmem : statement ∈ applyStatements plan account childArn actionSet)
    (hallow : statement.effect = .allow) (happlies : applies statement request = true)
    (hiam : startsWith request.action "iam:" = true) :
    startsWith request.resource (roleArnOf account.accountId.1 (managedPrefix account actionSet)) = true ∨
      startsWith request.resource ("arn:aws:iam::" ++ account.accountId.1 ++ ":oidc-provider/") = true := by
  obtain ⟨⟨pattern, hpattern, hmatch⟩, hresource⟩ := applies_parts happlies
  have hmanaged : ∀ arn : String, statement.resource = some (.one arn) → matchesPattern arn request.resource = true := by
    intro arn harn
    obtain ⟨found, hfound, hmatches⟩ := hresource _ harn
    obtain rfl := List.mem_singleton.1 hfound
    exact hmatches
  unfold applyStatements at hmem
  simp only [List.mem_cons, List.mem_append, List.not_mem_nil, or_false, or_assoc] at hmem
  rcases hmem with rfl | hroles | hsensitive | rfl | rfl | rfl
  · rw [serviceActions_iam hpattern hmatch] at hiam
    exact absurd hiam Bool.false_ne_true
  · unfold roleStatements at hroles
    simp only [List.mem_cons, List.not_mem_nil, or_false] at hroles
    rcases hroles with rfl | rfl | rfl | rfl
    · exact Or.inl (managedRoleArn_matches.1 (hmanaged _ rfl))
    · exact Or.inl (managedRoleArn_matches.1 (hmanaged _ rfl))
    · exact Or.inl (managedRoleArn_matches.1 (hmanaged _ rfl))
    · exact Or.inr (managedOidcArn_matches.1 (hmanaged _ rfl))
  · obtain ⟨hstar, hnot⟩ := sensitive_exact hsensitive pattern hpattern
    rw [exact_not_iam hstar hnot hmatch] at hiam
    exact absurd hiam Bool.false_ne_true
  · exact absurd hallow (by simp [denyOutsideRegions])
  · exact absurd hallow (by simp [denyAccessLaneMutation])
  · exact absurd hallow (by simp [forbiddenStatement])

/-! ## Attaching a policy to a managed role -/

/-- The context of a request in a region. -/
def regionContext (region : String) (key : String) : List String :=
  if key = "aws:RequestedRegion" then [region] else []

theorem denyOutsideRegions_holds {region : AwsRegion} (hregion : region ∈ account.allowedRegions)
    (hcontext : request.context = regionContext region.1) : applies (denyOutsideRegions account) request = false := by
  have hmem : region.1 ∈ sortedRegions account :=
    (List.mem_insertionSort _).2 (List.mem_map_of_mem hregion)
  have hcondition : conditionHolds (operatorCondition "StringNotEquals"
      (listCondition "aws:RequestedRegion" (sortedRegions account))) request.context = false := by
    have hproperties : (operatorCondition "StringNotEquals" (listCondition "aws:RequestedRegion"
        (sortedRegions account))).properties = [("StringNotEquals", listCondition "aws:RequestedRegion"
          (sortedRegions account))] := rfl
    have hkeys : (listCondition "aws:RequestedRegion" (sortedRegions account)).properties =
        [("aws:RequestedRegion", .many ((sortedRegions account).map .text))] := rfl
    rw [conditionHolds, hproperties]
    simp only [List.all_cons, List.all_nil, Bool.and_true, hkeys, hcontext]
    have hvalues : ((OneOrMany.many ((sortedRegions account).map AwsPolicyScalar.text)).values.map
        AwsPolicyScalar.spelling) = sortedRegions account := by
      simp [OneOrMany.values, Function.comp_def, AwsPolicyScalar.spelling]
    rw [hvalues]
    simp [operatorHolds, regionContext, hmem]
  unfold applies denyOutsideRegions
  simp only [Option.all_some, hcondition, Bool.and_false]

/-- An action that no pattern of a statement matches. -/
theorem applies_none (h : ∀ pattern ∈ statement.action.values, matchesPattern pattern request.action = false) :
    applies statement request = false := by
  rw [Bool.eq_false_iff]
  intro happlies
  obtain ⟨⟨pattern, hpattern, hmatch⟩, -⟩ := applies_parts happlies
  rw [h pattern hpattern] at hmatch
  exact absurd hmatch Bool.false_ne_true

/-- **Nothing denies a lane to attach policies in its regions.** -/
theorem deny_attach {region : AwsRegion} (hregion : region ∈ account.allowedRegions)
    (hcontext : request.context = regionContext region.1) (haction : request.action = "iam:AttachRolePolicy")
    (hmem : statement ∈ applyStatements plan account childArn actionSet) (hdeny : statement.effect = .deny) :
    applies statement request = false := by
  unfold applyStatements at hmem
  simp only [List.mem_cons, List.mem_append, List.not_mem_nil, or_false, or_assoc] at hmem
  rcases hmem with rfl | hroles | hsensitive | rfl | rfl | rfl
  · exact absurd hdeny (by simp [allowServices])
  · unfold roleStatements at hroles
    simp only [List.mem_cons, List.not_mem_nil, or_false] at hroles
    rcases hroles with rfl | rfl | rfl | rfl <;> exact absurd hdeny (by simp)
  · refine applies_none fun pattern hpattern => ?_
    obtain ⟨hstar, hnot⟩ := sensitive_exact hsensitive pattern hpattern
    rw [Bool.eq_false_iff]
    intro hmatch
    have hiam := exact_not_iam hstar hnot hmatch
    rw [haction] at hiam
    exact absurd hiam (by decide)
  · exact denyOutsideRegions_holds hregion hcontext
  · refine applies_none ?_
    rw [haction]
    show ∀ pattern ∈ ["iam:DeletePolicy", "iam:DeletePolicyVersion", "iam:DeleteRole",
      "iam:DeleteRolePermissionsBoundary", "iam:SetDefaultPolicyVersion", "iam:UpdateAssumeRolePolicy"], _
    decide +kernel
  · refine applies_none ?_
    rw [haction]
    exact forbidden_attach

/-- A lane attaches policies to the roles it manages. -/
theorem attach_applies (hresource : request.resource = roleArnOf account.accountId.1 arn)
    (harn : startsWith arn (managedPrefix account actionSet) = true)
    (haction : request.action = "iam:AttachRolePolicy") :
    ∃ statement ∈ applyStatements plan account childArn actionSet, statement.effect = .allow ∧
      applies statement request = true := by
  refine ⟨_, List.mem_cons_of_mem _ (List.mem_append_left _ (List.mem_append_left _
    (List.mem_cons_of_mem _ List.mem_cons_self))), rfl, ?_⟩
  have hmatches : matchesPattern (managedRoleArn account actionSet) request.resource = true := by
    rw [managedRoleArn_matches, hresource, roleArnOf_starts]
    exact harn
  unfold applies
  simp only [Option.all_some, Option.all_none, Bool.and_true, Bool.and_eq_true, List.any_eq_true]
  exact ⟨⟨rfl, "iam:AttachRolePolicy", attach_managed, by rw [haction]; exact wildcard_self _⟩,
    _, List.mem_singleton.2 rfl, hmatches⟩

/-! ## Access roles -/

/-- The kind of a resource decides how its ARN goes on after the account. -/
theorem arn_starts {id : AccountId} {kind name other : String}
    (h : startsWith ("arn:aws:iam::" ++ id.1 ++ kind ++ name) ("arn:aws:iam::" ++ id.1 ++ other) = true) :
    other.toList <+: kind.toList ++ name.toList := by
  unfold startsWith at h
  rw [List.isPrefixOf_iff_prefix] at h
  simpa only [String.toList_append, List.append_assoc, List.prefix_append_right_inj] using h

theorem roleArn_not_oidc {id : AccountId} {name : String} :
    startsWith (roleArnOf id.1 name) ("arn:aws:iam::" ++ id.1 ++ ":oidc-provider/") = false := by
  rw [Bool.eq_false_iff]
  intro hstarts
  have hkind := arn_starts hstarts
  simp at hkind

theorem policyArn_not_oidc {id : AccountId} {name : String} :
    startsWith (policyArn id.1 name) ("arn:aws:iam::" ++ id.1 ++ ":oidc-provider/") = false := by
  rw [Bool.eq_false_iff]
  intro hstarts
  have hkind := arn_starts hstarts
  simp at hkind

theorem policyArn_not_managed {id : AccountId} {name initial : String} :
    startsWith (policyArn id.1 name) (roleArnOf id.1 initial) = false := by
  have hsplit : roleArnOf id.1 initial = "arn:aws:iam::" ++ id.1 ++ (":role/" ++ initial) := String.append_assoc
  rw [Bool.eq_false_iff, hsplit]
  intro hstarts
  have hkind := arn_starts hstarts
  simp at hkind

/-- **Access lanes are kept.** No apply role of an accepted plan may change an access role of its
account, or the boundary of one, by IAM exactly when no access role has a name that a lane manages. -/
theorem access_lanes_kept_iff (rt : Runtime) (value : Value) (plan : AwsBootstrapAccessPlan)
    (compiled : CompiledAwsBootstrapAccessPlan) (hparse : parseAwsBootstrapAccessPlan value = .ok plan)
    (h : compileAwsBootstrapAccessPlan rt value = .ok compiled) :
    (∀ role ∈ compiled.roles, role.lane ≠ none → ∀ other ∈ compiled.roles, other.accountId = role.accountId →
      ∀ arn ∈ [other.roleArn, other.permissionsBoundaryArn], ∀ principal action context,
        isMutatingIamAction action = true → role.permissionsPolicy.allows ⟨principal, action, arn, context⟩ = false) ↔
      LanesKeepOut plan := by
  obtain ⟨roles, hperm, hroles⟩ := compile_roles hparse h
  constructor
  · intro hkept account haccount actionSet hset lane hlane
    rw [Bool.eq_false_iff]
    intro hstarts
    obtain ⟨role, hrole, hcompiled⟩ := (forall₂_mem hroles).1 (account, some actionSet)
      (mem_lanes.2 ⟨haccount, mem_accountLanes.2 (Or.inr ⟨actionSet, hset, rfl⟩)⟩)
    obtain ⟨other, hother, hcompiled'⟩ := (forall₂_mem hroles).1 (account, lane)
      (mem_lanes.2 ⟨haccount, hlane⟩)
    obtain ⟨region, hregion⟩ := List.exists_mem_of_ne_nil _ account.allowedRegions_ne
    have hpolicy := hcompiled.policy
    obtain ⟨⟨⟩, -, hpolicy⟩ := bind_ok.1 hpolicy
    have hallows : role.permissionsPolicy.allows ⟨"", "iam:AttachRolePolicy", other.roleArn, regionContext region.1⟩ =
        true := by
      rw [← pure_ok.1 hpolicy, allows_iff]
      exact ⟨attach_applies hcompiled'.roleArn hstarts rfl, fun statement hmem hdeny => deny_attach hregion rfl rfl hmem hdeny⟩
    rw [hkept role (hperm.mem_iff.2 hrole) (by simp [hcompiled.lane]) other (hperm.mem_iff.2 hother)
      (hcompiled'.accountId.trans hcompiled.accountId.symm) other.roleArn List.mem_cons_self "" _ _ (by decide)] at hallows
    exact absurd hallows Bool.false_ne_true
  · intro hapart role hrole hlane other hother hid arn harn principal action context hmutating
    obtain ⟨⟨account, lane⟩, hentry, hcompiled⟩ := (forall₂_mem hroles).2 role (hperm.mem_iff.1 hrole)
    obtain ⟨⟨account', lane'⟩, hentry', hcompiled'⟩ := (forall₂_mem hroles).2 other (hperm.mem_iff.1 hother)
    obtain ⟨haccount, hin⟩ := mem_lanes.1 hentry
    obtain ⟨haccount', hin'⟩ := mem_lanes.1 hentry'
    -- accounts with one id are one account
    have hsame : account'.accountId = account.accountId :=
      Subtype.ext (hcompiled'.accountId.symm.trans (hid.trans hcompiled.accountId))
    obtain rfl := List.inj_on_of_nodup_map plan.accounts_nodup haccount' haccount hsame
    obtain ⟨actionSet, hset, rfl⟩ : ∃ actionSet ∈ account'.actionSets, lane = some actionSet := by
      rcases mem_accountLanes.1 hin with heq | hsome
      · exact absurd (hcompiled.lane.trans heq) hlane
      · exact hsome
    have hpolicy := hcompiled.policy
    obtain ⟨⟨⟩, -, hpolicy⟩ := bind_ok.1 hpolicy
    rw [Bool.eq_false_iff, ← pure_ok.1 hpolicy]
    intro hallows
    obtain ⟨⟨statement, hmem, hallow, happlies⟩, -⟩ := allows_iff.1 hallows
    have hmanaged := lane_mutation hmem hallow happlies (Bool.and_eq_true_iff.1 hmutating).1
    rcases List.mem_cons.1 harn with rfl | harn
    · simp only [hcompiled'.roleArn, roleArnOf_starts, roleArn_not_oidc, or_false, Bool.false_eq_true] at hmanaged
      rw [hapart account' haccount' actionSet hset lane' hin'] at hmanaged
      exact absurd hmanaged Bool.false_ne_true
    · obtain rfl := List.mem_singleton.1 harn
      rw [hcompiled'.boundaryArn] at hmanaged
      rcases hmanaged with hm | hm
      · exact absurd (policyArn_not_managed.symm.trans hm) Bool.false_ne_true
      · exact absurd (policyArn_not_oidc.symm.trans hm) Bool.false_ne_true

/-- The instance of the characterisation. -/
theorem logs_lanes_kept_iff : ∃ compiled, compileAwsBootstrapAccessPlan plainRuntime logsPlan.toValue = .ok compiled ∧
    ((∀ role ∈ compiled.roles, role.lane ≠ none → ∀ other ∈ compiled.roles, other.accountId = role.accountId →
      ∀ arn ∈ [other.roleArn, other.permissionsBoundaryArn], ∀ principal action context,
        isMutatingIamAction action = true → role.permissionsPolicy.allows ⟨principal, action, arn, context⟩ = false) ↔
      LanesKeepOut logsPlan) := by
  obtain ⟨compiled, h⟩ := logs_compiled
  exact ⟨compiled, h, access_lanes_kept_iff plainRuntime logsPlan.toValue logsPlan compiled logs_parsed h⟩

/-- The lane for auditing may attach a policy to its own role. -/
theorem lane_attaches_to_itself : ¬ ∀ (rt : Runtime) (value : Value) (compiled : CompiledAwsBootstrapAccessPlan),
    compileAwsBootstrapAccessPlan rt value = .ok compiled →
      ∀ role ∈ compiled.roles, role.lane ≠ none → ∀ other ∈ compiled.roles, other.accountId = role.accountId →
        ∀ arn ∈ [other.roleArn, other.permissionsBoundaryArn], ∀ principal action context,
          isMutatingIamAction action = true →
            role.permissionsPolicy.allows ⟨principal, action, arn, context⟩ = false := by
  intro h
  obtain ⟨compiled, hcompiled⟩ := logs_compiled
  obtain ⟨roles, hperm, hroles⟩ := compile_roles logs_parsed hcompiled
  obtain ⟨role, hrole, hfor⟩ := (forall₂_mem hroles).1 (logsAccount, some .audit)
    (by simp [AwsBootstrapAccessPlan.lanes, AwsBootstrapAccessAccount.lanes, logsPlan, logsAccount])
  have hin := hperm.mem_iff.2 hrole
  obtain ⟨⟨⟩, -, hpolicy⟩ := bind_ok.1 hfor.policy
  have hregion : (⟨"us-east-1", by decide⟩ : AwsRegion) ∈ logsAccount.allowedRegions := List.mem_cons_self
  have hallows : role.permissionsPolicy.allows
      ⟨"", "iam:AttachRolePolicy", role.roleArn, regionContext "us-east-1"⟩ = true := by
    rw [← pure_ok.1 hpolicy, allows_iff]
    exact ⟨attach_applies hfor.roleArn (by decide +kernel) rfl,
      fun statement hmem hdeny => deny_attach hregion rfl rfl hmem hdeny⟩
  rw [h plainRuntime logsPlan.toValue compiled hcompiled role hin (by simp [hfor.lane]) role hin rfl role.roleArn
    List.mem_cons_self "" _ _ (by decide)] at hallows
  exact absurd hallows Bool.false_ne_true

end SecureSaas.Aws
