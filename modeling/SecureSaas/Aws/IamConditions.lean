import SecureSaas.Aws.IamIsolation

/-!
# The conditions of a grant in its three policies

An identity's policy asks for the tags that a grant names and for the tenant of its identity; the
policies of the bucket and of the key ask for neither, and are enough by themselves for a role of
the same account.

* `imposes_common`, `imposes_merged`: the statements of an identity's policy ask for every tag that
  is left after keys have overridden each other.
* `conditions_survive_iff`: **when no compiled statement applies beyond the conditions of its
  grant**.
-/

namespace SecureSaas.Aws

open Js
open Blueprint (Identity IdentityGrant PlatformBlueprint identitiesById truthy)

/-! ## What a grant asks for -/

/-- The conditions of a grant. -/
def conditionsOf (grant : IdentityGrant) : Record String := grant.conditions.getD Record.empty

/-- The context has the tag of the identity's tenant and every tag that the grant names. -/
structure Satisfied (identity : Identity) (grant : IdentityGrant) (context : String → List String) : Prop where
  tenant : ∀ t, truthy identity.tenantId = some t → t ∈ context tenantTag
  named : ∀ key value contextKey, (conditionsOf grant).get? key = some value →
    conditionKey key = some contextKey → value ∈ context contextKey

/-- The grant asks for nothing. -/
def Unconditional (identity : Identity) (grant : IdentityGrant) : Prop :=
  truthy identity.tenantId = none ∧ ∀ key, (conditionsOf grant).get? key = none

/-- No two of the values that are asked for are different values of one tag. -/
structure Consistent (identity : Identity) (grant : IdentityGrant) : Prop where
  tenant : ∀ t value, truthy identity.tenantId = some t → (conditionsOf grant).get? tenantTag = some value → value = t
  brokered : ∀ value other, (conditionsOf grant).get? "brokered" = some value →
    (conditionsOf grant).get? brokeredTag = some other → value = other

variable {extensions : AwsIamProviderExtensions} {rt : Runtime} {blueprint : PlatformBlueprint}
variable {plan : AwsIamPlan} {c : CompiledStatement} {identity : Identity} {grant : IdentityGrant}
  {resourceId : String} {resource : AwsDataResourceBinding} {context : String → List String}

theorem Unconditional.satisfied (h : Unconditional identity grant) : Satisfied identity grant context :=
  ⟨fun t ht => by simp [h.1] at ht, fun key value contextKey hvalue => by simp [h.2 key] at hvalue⟩

theorem conditionKey_some {key contextKey : String} (h : conditionKey key = some contextKey) :
    (key = "brokered" ∧ contextKey = brokeredTag) ∨ key = contextKey := by
  unfold conditionKey at h
  split at h
  · rename_i hb
    exact Or.inl ⟨hb, (Option.some.inj h).symm⟩
  · split at h
    · exact Or.inr (Option.some.inj h)
    · exact absurd h (by simp)

/-- Two conditions about one tag have one key, or are the two spellings of the brokered tag. -/
theorem Consistent.same_tag (h : Consistent identity grant) {key other contextKey value value' : String}
    (hkey : conditionKey key = some contextKey) (hother : conditionKey other = some contextKey)
    (hvalue : (conditionsOf grant).get? key = some value) (hvalue' : (conditionsOf grant).get? other = some value') :
    value = value' := by
  rcases conditionKey_some hkey with ⟨rfl, rfl⟩ | rfl
  · rcases conditionKey_some hother with ⟨rfl, -⟩ | rfl
    · exact Option.some.inj (hvalue.symm.trans hvalue')
    · exact h.brokered value value' hvalue hvalue'
  · rcases conditionKey_some hother with ⟨rfl, rfl⟩ | rfl
    · exact (h.brokered value' value hvalue' hvalue).symm
    · exact Option.some.inj (hvalue.symm.trans hvalue')

/-! ## What a statement asks for -/

/-- **Where the value of a tag comes from**: from some condition about it, or from before. -/
theorem addConditions_get? : ∀ {entries : List (String × String)} {before tags : Record (OneOrMany AwsPolicyScalar)},
    addConditions grant entries before = .ok tags → (∀ p ∈ entries, conditionKey p.1 ≠ none) ∧
      ∀ contextKey, (∃ key value, (key, value) ∈ entries ∧ conditionKey key = some contextKey ∧
          tags.get? contextKey = some (.one (.text value))) ∨
        ((∀ p ∈ entries, conditionKey p.1 ≠ some contextKey) ∧ tags.get? contextKey = before.get? contextKey) := by
  intro entries
  induction entries with
  | nil =>
    intro before tags h
    obtain rfl : before = tags := Except.ok.inj h
    exact ⟨by simp, fun contextKey => Or.inr ⟨by simp, rfl⟩⟩
  | cons p rest ih =>
    obtain ⟨key, value⟩ := p
    intro before tags h
    unfold addConditions at h
    cases hk : conditionKey key with
    | none => simp [hk] at h
    | some tag =>
      rw [hk] at h
      obtain ⟨hmanaged, hsource⟩ := ih h
      refine ⟨List.forall_mem_cons.2 ⟨by simp [hk], hmanaged⟩, fun contextKey => ?_⟩
      rcases hsource contextKey with ⟨key', value', hmem, hkey', hget⟩ | ⟨hnone, hget⟩
      · exact Or.inl ⟨key', value', List.mem_cons_of_mem _ hmem, hkey', hget⟩
      · rw [Record.get?_set] at hget
        by_cases ht : contextKey = tag
        · rw [if_pos ht] at hget
          exact Or.inl ⟨key, value, List.mem_cons_self, ht ▸ hk, hget⟩
        · rw [if_neg ht] at hget
          refine Or.inr ⟨List.forall_mem_cons.2 ⟨?_, hnone⟩, hget⟩
          rw [hk]
          exact fun he => ht (Option.some.inj he).symm

/-- The tags that are asked for once every key has been added. -/
def GrantTags (identity : Identity) (grant : IdentityGrant) (tags : Record (OneOrMany AwsPolicyScalar)) : Prop :=
  addConditions grant (conditionsOf grant).entries (tenantCondition identity) = .ok tags

/-- The condition that asks for the tags and nothing else. -/
def commonCondition (tags : Record (OneOrMany AwsPolicyScalar)) : Option AwsCondition :=
  if tags.properties.isEmpty then none else some (operatorCondition "StringEquals" tags)

theorem grantConditions_ok {condition : Option AwsCondition} (h : grantConditions identity grant = .ok condition) :
    ∃ tags, GrantTags identity grant tags ∧
      condition = commonCondition tags := by
  obtain ⟨tags, htags, h⟩ := bind_ok.1 h
  refine ⟨tags, ?_, (pure_ok.1 h).symm⟩
  unfold GrantTags conditionsOf
  rw [← htags]
  cases grant.conditions with
  | none => rfl
  | some conditions => rfl

/-- Every tag has one value. -/
theorem GrantTags.single {tags : Record (OneOrMany AwsPolicyScalar)} (h : GrantTags identity grant tags)
    {contextKey : String} {v : OneOrMany AwsPolicyScalar} (hv : tags.get? contextKey = some v) :
    ∃ value, v = .one (.text value) := by
  rcases (addConditions_get? h).2 contextKey with ⟨key, value, -, -, hget⟩ | ⟨-, hget⟩
  · exact ⟨value, Option.some.inj (hv.symm.trans hget)⟩
  · rw [hget] at hv
    unfold tenantCondition at hv
    cases ht : truthy identity.tenantId with
    | none => simp [ht] at hv
    | some t =>
      rw [ht, Record.get?_set] at hv
      by_cases hk : contextKey = tenantTag
      · rw [if_pos hk] at hv
        exact ⟨t, (Option.some.inj hv).symm⟩
      · rw [if_neg hk] at hv
        exact absurd hv (by simp)

/-- Every tag that a grant asks for has some value. -/
theorem GrantTags.tagged {tags : Record (OneOrMany AwsPolicyScalar)} (h : GrantTags identity grant tags) :
    (∀ t, truthy identity.tenantId = some t → ∃ value, tags.get? tenantTag = some (.one (.text value))) ∧
      ∀ key value contextKey, (conditionsOf grant).get? key = some value → conditionKey key = some contextKey →
        ∃ value, tags.get? contextKey = some (.one (.text value)) := by
  constructor
  · intro t ht
    rcases (addConditions_get? h).2 tenantTag with ⟨key, value, -, -, hget⟩ | ⟨-, hget⟩
    · exact ⟨value, hget⟩
    · refine ⟨t, ?_⟩
      rw [hget, tenantCondition, ht]
      simp [Record.get?_set]
  · intro key value contextKey hvalue hkey
    rcases (addConditions_get? h).2 contextKey with ⟨key', value', -, -, hget⟩ | ⟨hnone, -⟩
    · exact ⟨value', hget⟩
    · exact absurd hkey (hnone _ (Record.mem_entries.2 hvalue))

/-- The context that has exactly the tags. -/
def tagContext (tags : Record (OneOrMany AwsPolicyScalar)) (contextKey : String) : List String :=
  match tags.get? contextKey with
  | some v => v.values.map AwsPolicyScalar.spelling
  | none => []

theorem tagContext_one {tags : Record (OneOrMany AwsPolicyScalar)} {contextKey value : String}
    (h : tags.get? contextKey = some (.one (.text value))) : tagContext tags contextKey = [value] := by
  unfold tagContext
  rw [h]
  rfl

theorem equals_one {actual : List String} {value : String} :
    operatorHolds "StringEquals" actual ((OneOrMany.one (AwsPolicyScalar.text value)).values.map
      AwsPolicyScalar.spelling) = true ↔ value ∈ actual := by
  simp [operatorHolds, OneOrMany.values, AwsPolicyScalar.spelling]

/-- A context with the tags satisfies a grant whose values are consistent. -/
theorem GrantTags.satisfied {tags : Record (OneOrMany AwsPolicyScalar)} (h : GrantTags identity grant tags)
    (hconsistent : Consistent identity grant)
    (hholds : ∀ contextKey value, tags.get? contextKey = some (.one (.text value)) → value ∈ context contextKey) :
    Satisfied identity grant context := by
  constructor
  · intro t ht
    rcases (addConditions_get? h).2 tenantTag with ⟨key, value, hmem, hkey, hget⟩ | ⟨-, hget⟩
    · -- the tenant's tag was overridden, by the same value
      rcases conditionKey_some hkey with ⟨-, hbrokered⟩ | rfl
      · exact absurd hbrokered (by decide)
      · rw [← hconsistent.tenant t value ht (Record.mem_entries.1 hmem)]
        exact hholds _ _ hget
    · refine hholds _ _ ?_
      rw [hget, tenantCondition, ht]
      simp [Record.get?_set]
  · intro key value contextKey hvalue hkey
    rcases (addConditions_get? h).2 contextKey with ⟨key', value', hmem, hkey', hget⟩ | ⟨hnone, -⟩
    · rw [hconsistent.same_tag hkey hkey' hvalue (Record.mem_entries.1 hmem)]
      exact hholds _ _ hget
    · exact absurd hkey (hnone _ (Record.mem_entries.2 hvalue))

/-- Where the tags by themselves satisfy the grant, no value was overridden by another. -/
theorem GrantTags.consistent {tags : Record (OneOrMany AwsPolicyScalar)} (h : GrantTags identity grant tags)
    (hsatisfied : Satisfied identity grant (tagContext tags)) : Consistent identity grant := by
  constructor
  · intro t value ht hvalue
    obtain ⟨found, hfound⟩ := h.tagged.1 t ht
    have htenant := hsatisfied.tenant t ht
    have hnamed := hsatisfied.named tenantTag value tenantTag hvalue (by decide)
    rw [tagContext_one hfound, List.mem_singleton] at htenant hnamed
    rw [hnamed, htenant]
  · intro value other hvalue hother
    obtain ⟨found, hfound⟩ := h.tagged.2 "brokered" value brokeredTag hvalue (by decide)
    have hfirst := hsatisfied.named "brokered" value brokeredTag hvalue (by decide)
    have hsecond := hsatisfied.named brokeredTag other brokeredTag hother (by decide)
    rw [tagContext_one hfound, List.mem_singleton] at hfirst hsecond
    rw [hfirst, hsecond]

/-- The condition asks for each of the tags. -/
def Imposes (condition : Option AwsCondition) (tags : Record (OneOrMany AwsPolicyScalar)) : Prop :=
  ∀ context : String → List String, (condition.all fun condition => conditionHolds condition context) = true →
    ∀ contextKey value, tags.get? contextKey = some (.one (.text value)) → value ∈ context contextKey

/-- Asking for tags under `StringEquals`, whatever else is asked for. -/
theorem imposes_of_get? {condition : AwsCondition} {tags asked : Record (OneOrMany AwsPolicyScalar)}
    (hoperator : condition.get? "StringEquals" = some asked)
    (hasked : ∀ contextKey v, tags.get? contextKey = some v → asked.get? contextKey = some v) :
    Imposes (some condition) tags := by
  intro context hholds contextKey value hget
  rw [Option.all_some, conditionHolds, List.all_eq_true] at hholds
  have hclause := hholds _ (Record.get?_eq_some_iff.1 hoperator)
  have hkey := List.all_eq_true.1 hclause _ (Record.get?_eq_some_iff.1 (hasked contextKey _ hget))
  exact equals_one.1 hkey

theorem imposes_common (tags : Record (OneOrMany AwsPolicyScalar)) : Imposes (commonCondition tags) tags := by
  unfold commonCondition
  split
  · rename_i hempty
    intro context _ contextKey value hget
    have hmem := Record.get?_eq_some_iff.1 hget
    rw [List.isEmpty_iff.1 hempty] at hmem
    exact absurd hmem List.not_mem_nil
  · exact imposes_of_get? rfl fun _ _ hget => hget

theorem entries_operator {operator : String} (h : arrayIndex operator = none)
    (values : Record (OneOrMany AwsPolicyScalar)) :
    (operatorCondition operator values).entries = [(operator, values)] := by
  show ownOrder [(operator, values)] = _
  simp [ownOrder, h]

/-- **Merging with a pattern keeps what is asked for.** -/
theorem imposes_merged (tags : Record (OneOrMany AwsPolicyScalar)) (key pattern : String) :
    Imposes (some (mergeConditions (commonCondition tags) (stringLike key pattern))) tags := by
  have hlike : ∀ result : AwsCondition, (mergeInto result (stringLike key pattern)).get? "StringEquals" =
      result.get? "StringEquals" := fun result => by
    unfold mergeInto stringLike
    rw [entries_operator (by decide)]
    exact Record.get?_set_ne (show "StringEquals" ≠ "StringLike" by decide)
  unfold mergeConditions commonCondition
  split
  · rename_i hempty
    intro context _ contextKey value hget
    have hmem := Record.get?_eq_some_iff.1 hget
    rw [List.isEmpty_iff.1 hempty] at hmem
    exact absurd hmem List.not_mem_nil
  · have hasked : (mergeInto (mergeInto Record.empty (operatorCondition "StringEquals" tags))
        (stringLike key pattern)).get? "StringEquals" = some (Record.empty.spread tags) := by
      rw [hlike, mergeInto, entries_operator (by decide)]
      rfl
    refine imposes_of_get? hasked fun contextKey v hget => ?_
    rw [Record.get?_spread, hget]
    rfl

/-- The tags by themselves are enough for the condition that asks for them. -/
theorem common_holds {tags : Record (OneOrMany AwsPolicyScalar)} (h : GrantTags identity grant tags) :
    ((commonCondition tags).all fun condition => conditionHolds condition (tagContext tags)) = true := by
  unfold commonCondition
  split
  · rfl
  · show (conditionHolds (operatorCondition "StringEquals" tags) (tagContext tags)) = true
    have hproperties : (operatorCondition "StringEquals" tags).properties = [("StringEquals", tags)] := rfl
    rw [conditionHolds, hproperties, List.all_cons, List.all_nil, Bool.and_true, List.all_eq_true]
    rintro ⟨contextKey, v⟩ hmem
    have hget : tags.get? contextKey = some v := Record.get?_eq_some_iff.2 hmem
    obtain ⟨value, rfl⟩ := h.single hget
    exact equals_one.2 (tagContext_one hget ▸ List.mem_singleton.2 rfl)

/-! ## The three policies -/

/-- A request in a statement's own words is one that it applies to. -/
theorem applies_own {statement : AwsPolicyStatement} {principal action arn : String} {arns : OneOrMany String}
    (hprincipal : principalMatches statement.principal principal = true) (haction : action ∈ statement.action.values)
    (hresource : statement.resource = some arns) (harn : arn ∈ arns.values)
    (hcondition : (statement.condition.all fun condition => conditionHolds condition context) = true) :
    applies (normalizeStatement rt statement) ⟨principal, action, arn, context⟩ = true := by
  rw [applies_normalized]
  unfold applies
  rw [hresource]
  simp only [Option.all_some, Bool.and_eq_true, List.any_eq_true]
  exact ⟨⟨⟨hprincipal, action, haction, wildcard_self _⟩, arn, harn, wildcard_self _⟩, hcondition⟩

theorem applies_condition {statement : AwsPolicyStatement} {request : AwsRequest}
    (h : applies (normalizeStatement rt statement) request = true) :
    (∃ action, action ∈ statement.action.values) ∧
      (statement.condition.all fun condition => conditionHolds condition request.context) = true := by
  rw [applies_normalized] at h
  unfold applies at h
  simp only [Bool.and_eq_true, List.any_eq_true] at h
  obtain ⟨⟨⟨-, action, haction, -⟩, -⟩, hcondition⟩ := h
  exact ⟨⟨action, haction⟩, hcondition⟩

/-- The one statement of a grant for a generic resource. -/
theorem identityStatements_generic {binding : AwsGenericResourceBinding} {statements : List AwsPolicyStatement}
    (hbound : extensions.resources.get? resourceId = some (.generic binding))
    (h : identityStatements extensions identity grant resourceId = .ok statements) :
    ∃ actions arns condition, mappedActions grant binding.actionMap = .ok actions ∧
      sortedArns binding.resourceArns grant.id = .ok arns ∧ grantConditions identity grant = .ok condition ∧
      statements = [{ sid := sid [grant.id, resourceId, "Resource"], effect := effect grant, action := .many actions,
                      resource := some (.many arns), principal := none, condition }] := by
  obtain ⟨found, hfound, h⟩ := bind_ok.1 h
  obtain rfl : .generic binding = found := Option.some.inj (hbound.symm.trans (requiredResourceBinding_ok.1 hfound))
  simp only [bind_ok, pure_ok] at h
  obtain ⟨actions, hactions, -, -, arns, harns, condition, hcondition, rfl⟩ := h
  exact ⟨actions, arns, condition, hactions, harns, hcondition, rfl⟩

/-- The actions of a grant that has some are mapped to some, and to none where it has none. -/
theorem mappedActions_ok {actionMap : Record (List String)} {actions : List String}
    (h : mappedActions grant actionMap = .ok actions) : actions = [] ↔ grant.actions = [] := by
  obtain ⟨collected, hcollected, h⟩ := bind_ok.1 h
  obtain ⟨-, -, h⟩ := bind_ok.1 h
  obtain rfl := pure_ok.1 h
  have hsame : collected.eraseDups.insertionSort (· ≤ ·) = [] ↔ collected = [] := by
    constructor
    · intro hnil
      refine List.eq_nil_iff_forall_not_mem.2 fun a ha => ?_
      have : a ∈ collected.eraseDups.insertionSort (· ≤ ·) :=
        (List.mem_insertionSort _).2 (List.mem_eraseDups.2 ha)
      rw [hnil] at this
      exact absurd this List.not_mem_nil
    · rintro rfl
      rfl
  rw [hsame]
  constructor
  · intro hnil
    cases hg : grant.actions with
    | nil => rfl
    | cons action rest =>
      obtain ⟨found, hfound, hin⟩ := collect_round hcollected (hg ▸ List.mem_cons_self : action ∈ grant.actions)
      cases hm : actionMap.get? action with
      | none => simp [hm] at hfound
      | some mapped =>
        cases mapped with
        | nil => simp [hm] at hfound
        | cons first others =>
          obtain rfl : first :: others = found := by simpa [hm] using hfound
          have := hin first List.mem_cons_self
          rw [hnil] at this
          exact absurd this List.not_mem_nil
  · intro hg
    rw [hg] at hcollected
    exact (Except.ok.inj hcollected).symm

/-- **Every statement of an identity's policy asks for the tags of its grant.** -/
theorem identity_imposes {statements : List AwsPolicyStatement}
    (h : identityStatements extensions identity grant resourceId = .ok statements) :
    ∃ tags, GrantTags identity grant tags ∧ ∀ statement ∈ statements, Imposes statement.condition tags := by
  obtain ⟨binding, hbinding, -⟩ := bind_ok.1 h
  have hbound := requiredResourceBinding_ok.1 hbinding
  cases binding with
  | generic binding =>
    obtain ⟨actions, arns, condition, -, -, hcondition, rfl⟩ := identityStatements_generic hbound h
    obtain ⟨tags, htags, rfl⟩ := grantConditions_ok hcondition
    refine ⟨tags, htags, fun statement hmem => ?_⟩
    obtain rfl := List.mem_singleton.1 hmem
    exact imposes_common tags
  | data resource =>
    obtain ⟨tenantId, initial, keyArn, condition, -, hcondition, rfl⟩ := identityStatements_data hbound h
    obtain ⟨tags, htags, rfl⟩ := grantConditions_ok hcondition
    refine ⟨tags, htags, fun statement hmem => ?_⟩
    unfold dataStatements at hmem
    simp only [List.mem_append, or_assoc] at hmem
    rcases hmem with hread | hwrite | hkey
    · split at hread
      · rcases List.mem_cons.1 hread with rfl | hread
        · exact imposes_merged tags _ _
        · obtain rfl := List.mem_singleton.1 hread
          exact imposes_common tags
      · exact absurd hread List.not_mem_nil
    · split at hwrite
      · obtain rfl := List.mem_singleton.1 hwrite
        exact imposes_common tags
      · exact absurd hwrite List.not_mem_nil
    · split at hkey
      · exact absurd hkey List.not_mem_nil
      · obtain rfl := List.mem_singleton.1 hkey
        exact imposes_merged tags _ _

/-- The round of a grant and one of its resources in the policy of the bucket. -/
theorem bucket_round (h : compile extensions rt blueprint = .ok plan) (hgrant : grant ∈ blueprint.grants)
    (hresource : resourceId ∈ grant.resourceIds)
    (hi : (identitiesById blueprint).get? grant.identityId = some identity)
    (hbound : extensions.resources.get? resourceId = some (.data resource)) :
    ∃ initial roleArn, ∀ statement ∈ s3Statements resource grant identity initial roleArn,
      Compiles extensions rt blueprint .bucket ⟨grant, identity, resourceId, statement⟩ := by
  obtain ⟨cs, hcs⟩ := (compile_ok h).2.1 resourceId resource hbound
  obtain ⟨granted, hgranted, hrounds⟩ := bind_ok.1 hcs
  obtain ⟨round, hround, -⟩ := collect_round hrounds ((mem_grantsForResource hgranted).2 ⟨hgrant, hresource, hi⟩)
  simp only [bind_ok, pure_ok] at hround
  obtain ⟨tenantId, htenant, initial, hinitial, binding, hbinding, -⟩ := hround
  exact ⟨initial, binding.roleArn, fun statement hmem => ⟨(resourceId, resource), mem_resourceData.2 hbound, cs, hcs,
    (mem_s3Compiled hbound hcs).2 ⟨rfl, hgrant, hresource, hi, tenantId, initial, binding,
      ⟨hbound, htenant, requiredText_ok hinitial⟩, hbinding, hmem⟩⟩⟩

/-- A grant that reads or writes opens the objects in the bucket's policy under no condition. -/
theorem s3Statements_opens (resource : AwsDataResourceBinding) (identity : Identity) (initial roleArn : String)
    (huse : reads grant = true ∨ writes grant = true) :
    ∃ statement ∈ s3Statements resource grant identity initial roleArn,
      (∃ action, action ∈ statement.action.values) ∧
        statement.resource = some (.one (objectArn resource.bucketArn initial)) ∧
        principalMatches statement.principal roleArn = true ∧ statement.condition = none := by
  have hprincipal : principalMatches (some (Record.empty.set "AWS" (.one roleArn))) roleArn = true := by
    simp [principalMatches, Record.set, Record.empty, Record.assign, OneOrMany.values]
  unfold s3Statements
  cases hr : reads grant with
  | true => exact ⟨_, List.mem_append_right _ List.mem_cons_self, ⟨"s3:GetObject", List.mem_cons_self⟩, rfl, hprincipal, rfl⟩
  | false =>
    cases hw : writes grant with
    | true => exact ⟨_, List.mem_append_right _ List.mem_cons_self, ⟨"s3:DeleteObject", List.mem_cons_self⟩, rfl, hprincipal, rfl⟩
    | false => simp [hr, hw] at huse

/-- Only a grant that reads or writes has statements about tenant data. -/
theorem dataStatements_use {initial keyArn : String} {common : Option AwsCondition} {statement : AwsPolicyStatement}
    (h : statement ∈ dataStatements grant resourceId resource initial keyArn common) :
    reads grant = true ∨ writes grant = true := by
  unfold dataStatements kmsActions at h
  cases hr : reads grant with
  | true => exact Or.inl rfl
  | false =>
    cases hw : writes grant with
    | true => exact Or.inr rfl
    | false => simp [hr, hw] at h

theorem s3Statements_use {initial roleArn : String} {statement : AwsPolicyStatement}
    (h : statement ∈ s3Statements resource grant identity initial roleArn) :
    reads grant = true ∨ writes grant = true := by
  unfold s3Statements at h
  cases hr : reads grant with
  | true => exact Or.inl rfl
  | false =>
    cases hw : writes grant with
    | true => exact Or.inr rfl
    | false => simp [hr, hw] at h

theorem kmsStatements_use {initial roleArn : String} {statement : AwsPolicyStatement}
    (h : statement ∈ kmsStatements resource grant identity initial roleArn) :
    reads grant = true ∨ writes grant = true := by
  unfold kmsStatements kmsActions at h
  cases hr : reads grant with
  | true => exact Or.inl rfl
  | false =>
    cases hw : writes grant with
    | true => exact Or.inr rfl
    | false => simp [hr, hw] at h

theorem sortedArns_ok {arns sorted : List String} {grantId : String} (h : sortedArns arns grantId = .ok sorted) :
    ∃ arn, arn ∈ sorted := by
  obtain ⟨⟨⟩, hcheck, h⟩ := bind_ok.1 h
  obtain rfl := pure_ok.1 h
  cases arns with
  | nil => exact absurd (throwUnless_ok.1 hcheck) (by simp)
  | cons arn rest => exact ⟨arn, (List.mem_insertionSort _).2 (List.mem_eraseDups.2 List.mem_cons_self)⟩

/-- What has to be so about a grant for a resource for its conditions to survive: the identity's
policy asks for the values that are left after overriding, the bucket and the key for none. -/
def Survives (blueprint : PlatformBlueprint) (identity : Identity) (grant : IdentityGrant) :
    AwsResourceBinding → Prop
  | .generic _ => grant.actions ≠ [] → Consistent identity grant
  | .data _ => reads grant = true ∨ writes grant = true →
    Consistent identity grant ∧
      ((identitiesById blueprint).get? grant.identityId = some identity → Unconditional identity grant)

/-- An identity's statements are enough for the tags alone. -/
theorem consistent_of_survival (h : compile extensions rt blueprint = .ok plan) (hgrant : grant ∈ blueprint.grants)
    (hidentity : identity ∈ blueprint.identities) (hid : grant.identityId = identity.id)
    (hresource : resourceId ∈ grant.resourceIds)
    (hsurvive : ∀ c, Compiles extensions rt blueprint .identity c → c.grant = grant → c.identity = identity →
      ∀ request, applies (normalizeStatement rt c.statement) request = true →
        Satisfied identity grant request.context) :
    (∀ binding, extensions.resources.get? resourceId = some (.generic binding) → grant.actions ≠ [] →
        Consistent identity grant) ∧
      ∀ resource, extensions.resources.get? resourceId = some (.data resource) →
        reads grant = true ∨ writes grant = true → Consistent identity grant := by
  obtain ⟨statements, hstatements, hcompiles⟩ := identity_round h hgrant hidentity hid hresource
  constructor
  · intro binding hbound hactions
    obtain ⟨actions, arns, condition, hmapped, harns, hcondition, rfl⟩ := identityStatements_generic hbound hstatements
    obtain ⟨tags, htags, rfl⟩ := grantConditions_ok hcondition
    obtain ⟨action, haction⟩ := List.exists_mem_of_ne_nil _ fun hnil => hactions ((mappedActions_ok hmapped).1 hnil)
    obtain ⟨arn, harn⟩ := sortedArns_ok harns
    exact htags.consistent (hsurvive _ (hcompiles _ List.mem_cons_self) rfl rfl ⟨"", action, arn, tagContext tags⟩
      (applies_own rfl haction rfl harn (common_holds htags)))
  · intro resource hbound huse
    obtain ⟨tenantId, initial, keyArn, common, -, hcondition, rfl⟩ := identityStatements_data hbound hstatements
    obtain ⟨tags, htags, rfl⟩ := grantConditions_ok hcondition
    obtain ⟨statement, hmem, -, ⟨action, haction, -⟩, harn, hprincipal, hown⟩ :=
      dataStatements_opens resource resourceId initial keyArn (commonCondition tags) huse
    refine htags.consistent (hsurvive _ (hcompiles _ hmem) rfl rfl ⟨"", action, _, tagContext tags⟩
      (applies_own ?_ haction harn (List.mem_singleton.2 rfl) ?_))
    · rw [hprincipal]
      rfl
    · rw [hown]
      exact common_holds htags

/-- **Grant conditions survive compilation.** No Allow statement of the three kinds of policies
applies beyond the conditions of its grant exactly when every allow grant survives for each of its
resources. -/
theorem conditions_survive_iff (extensions : AwsIamProviderExtensions) (rt : Runtime)
    (blueprint : PlatformBlueprint) (plan : AwsIamPlan) (h : compile extensions rt blueprint = .ok plan) :
    (∀ kind c, Compiles extensions rt blueprint kind c → c.grant.effect = .allow → ∀ request,
      applies (normalizeStatement rt c.statement) request = true → Satisfied c.identity c.grant request.context) ↔
    ∀ grant ∈ blueprint.grants, grant.effect = .allow → ∀ identity ∈ blueprint.identities,
      grant.identityId = identity.id → ∀ resourceId ∈ grant.resourceIds, ∀ binding,
        extensions.resources.get? resourceId = some binding → Survives blueprint identity grant binding := by
  constructor
  · intro hsurvive grant hgrant hallow identity hidentity hid resourceId hresource binding hbound
    have hconsistent := consistent_of_survival h hgrant hidentity hid hresource
      fun c hc hown hwho request happlies => by
        rw [← hown, ← hwho]
        exact hsurvive .identity c hc (hown ▸ hallow) request happlies
    cases binding with
    | generic binding => exact hconsistent.1 binding hbound
    | data resource =>
      intro huse
      refine ⟨hconsistent.2 resource hbound huse, fun hi => ?_⟩
      -- the bucket's policy opens the objects to the role with no context at all
      obtain ⟨initial, roleArn, hcompiles⟩ := bucket_round h hgrant hresource hi hbound
      obtain ⟨statement, hmem, ⟨action, haction⟩, harn, hprincipal, hnone⟩ :=
        s3Statements_opens resource identity initial roleArn huse
      have hsatisfied := hsurvive .bucket _ (hcompiles statement hmem) hallow ⟨roleArn, action, _, fun _ => []⟩
        (applies_own hprincipal haction harn (List.mem_singleton.2 rfl) (by rw [hnone]; rfl))
      obtain ⟨statements, hstatements, -⟩ := identity_round h hgrant hidentity hid hresource
      obtain ⟨tags, htags, -⟩ := identity_imposes hstatements
      constructor
      · cases ht : truthy identity.tenantId with
        | none => rfl
        | some t => exact absurd (hsatisfied.tenant t ht) List.not_mem_nil
      · intro key
        cases hvalue : (conditionsOf grant).get? key with
        | none => rfl
        | some value =>
          obtain ⟨contextKey, hkey⟩ := Option.ne_none_iff_exists'.1
            ((addConditions_get? htags).1 (key, value) (Record.mem_entries.2 hvalue))
          exact absurd (hsatisfied.named key value contextKey hvalue hkey) List.not_mem_nil
  · intro hcondition kind c hc hallow request happlies
    cases kind with
    | identity =>
      obtain ⟨identity, hidentity, cs, hcs, hmem⟩ := hc
      obtain ⟨rfl, hgrant, hid, hresource, statements, hstatements, hstatement⟩ := (mem_identityCompiled hcs).1 hmem
      obtain ⟨tags, htags, himposes⟩ := identity_imposes hstatements
      obtain ⟨⟨action, haction⟩, hholds⟩ := applies_condition happlies
      refine htags.satisfied ?_ (himposes _ hstatement _ hholds)
      obtain ⟨binding, hbinding, -⟩ := bind_ok.1 hstatements
      have hbound := requiredResourceBinding_ok.1 hbinding
      have hsurvives := hcondition c.grant hgrant hallow c.identity hidentity hid c.resourceId hresource binding hbound
      cases binding with
      | generic binding =>
        obtain ⟨actions, arns, condition, hmapped, -, -, rfl⟩ := identityStatements_generic hbound hstatements
        refine hsurvives fun hnone => ?_
        rw [List.mem_singleton.1 hstatement, OneOrMany.values, (mappedActions_ok hmapped).2 hnone] at haction
        exact absurd haction List.not_mem_nil
      | data resource =>
        obtain ⟨tenantId, initial, keyArn, common, -, -, rfl⟩ := identityStatements_data hbound hstatements
        exact (hsurvives (dataStatements_use hstatement)).1
    | bucket =>
      obtain ⟨⟨resourceId, resource⟩, hmem, cs, hcs, hc⟩ := hc
      obtain ⟨rfl, hgrant, hresource, hi, tenantId, initial, binding, hdata, -, hstatement⟩ :=
        (mem_s3Compiled (mem_resourceData.1 hmem) hcs).1 hc
      obtain ⟨hidentity, hid⟩ := identity_of_id hi
      exact ((hcondition c.grant hgrant hallow c.identity hidentity hid c.resourceId hresource _ hdata.bound
        (s3Statements_use hstatement)).2 hi).satisfied
    | key =>
      obtain ⟨cs, hcs, keyArn, hc⟩ := hc
      obtain ⟨hgrant, hresource, hi, resource, tenantId, initial, roleArn, hdata, hstatement⟩ := mem_kmsCompiled hcs hc
      obtain ⟨hidentity, hid⟩ := identity_of_id hi
      exact ((hcondition c.grant hgrant hallow c.identity hidentity hid c.resourceId hresource _ hdata.bound
        (kmsStatements_use hstatement)).2 hi).satisfied

/-- The instance of the characterisation for two readers of one bucket. -/
theorem readers_survive_iff : ∃ plan,
    compile (readersExtensions closedInitials) plainRuntime (readersBlueprint ["acme", "acme-eu"]) = .ok plan ∧
      ((∀ kind c, Compiles (readersExtensions closedInitials) plainRuntime (readersBlueprint ["acme", "acme-eu"]) kind c →
        c.grant.effect = .allow → ∀ request, applies (normalizeStatement plainRuntime c.statement) request = true →
          Satisfied c.identity c.grant request.context) ↔
      ∀ grant ∈ (readersBlueprint ["acme", "acme-eu"]).grants, grant.effect = .allow →
        ∀ identity ∈ (readersBlueprint ["acme", "acme-eu"]).identities, grant.identityId = identity.id →
          ∀ resourceId ∈ grant.resourceIds, ∀ binding,
            (readersExtensions closedInitials).resources.get? resourceId = some binding →
              Survives (readersBlueprint ["acme", "acme-eu"]) identity grant binding) := by
  obtain ⟨plan, hplan⟩ := readers_compile closedInitials (by simp)
  exact ⟨plan, hplan, conditions_survive_iff _ _ _ plan hplan⟩

/-- The reader of a tenant needs no tag of the tenant for the bucket's policy. -/
theorem bucket_drops_tenant_tag : ¬ ∀ (extensions : AwsIamProviderExtensions) (rt : Runtime)
    (blueprint : PlatformBlueprint) (plan : AwsIamPlan), compile extensions rt blueprint = .ok plan →
      ∀ kind c, Compiles extensions rt blueprint kind c → c.grant.effect = .allow → ∀ request,
        applies (normalizeStatement rt c.statement) request = true →
          Satisfied c.identity c.grant request.context := by
  intro h
  obtain ⟨plan, hplan⟩ := readers_compile closedInitials (by simp)
  have hgrant : readerGrant "acme" ∈ (readersBlueprint ["acme", "acme-eu"]).grants := List.mem_cons_self
  have hi : (identitiesById (readersBlueprint ["acme", "acme-eu"])).get? (readerGrant "acme").identityId =
      some (tenantReader "acme") := by rfl
  obtain ⟨initial, roleArn, hcompiles⟩ := bucket_round hplan hgrant
    (List.mem_singleton.2 rfl : "tenant-data" ∈ (readerGrant "acme").resourceIds) hi
    (rfl : (readersExtensions closedInitials).resources.get? "tenant-data" = some (.data (tenantData closedInitials)))
  obtain ⟨statement, hmem, ⟨action, haction⟩, harn, hprincipal, hnone⟩ :=
    s3Statements_opens (tenantData closedInitials) (tenantReader "acme") initial roleArn
      (Or.inl (by decide) : reads (readerGrant "acme") = true ∨ writes (readerGrant "acme") = true)
  have hsatisfied := h _ _ _ plan hplan .bucket _ (hcompiles statement hmem) rfl ⟨roleArn, action, _, fun _ => []⟩
    (applies_own hprincipal haction harn (List.mem_singleton.2 rfl) (by rw [hnone]; rfl))
  exact absurd (hsatisfied.tenant "acme" (show truthy (tenantReader "acme").tenantId = some "acme" by decide)) List.not_mem_nil

end SecureSaas.Aws
