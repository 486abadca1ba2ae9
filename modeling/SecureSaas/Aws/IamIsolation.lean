import SecureSaas.Aws.IamAdapter

/-!
# The objects of two tenants

An allow grant of a tenant opens the objects under a place, `bucket/prefix`. The adapter checks
that the prefixes of one resource are different texts; tenants are kept apart when no place of one
starts with a place of another.

* `object_statement`, `object_access`: the object statements are those of the places.
* `tenant_objects_disjoint_iff`: **when no object is open to two tenants**.
-/

namespace SecureSaas.Aws

open Js
open Blueprint (Identity IdentityGrant PlatformBlueprint identitiesById truthy)

variable (extensions : AwsIamProviderExtensions) (rt : Runtime) (blueprint : PlatformBlueprint)

/-! ## Statements about objects -/

def objectActions : List String := ["s3:GetObject", "s3:DeleteObject", "s3:PutObject"]

/-- An Allow statement about the objects of a data resource, compiled for a grant of a tenant. -/
structure ObjectStatement (kind : PolicyKind) (c : CompiledStatement) (tenantId : String) : Prop where
  compiled : Compiles extensions rt blueprint kind c
  allowed : c.statement.effect = .allow
  objects : ∃ action ∈ c.statement.action.values, action ∈ objectActions
  data : ∃ resource, extensions.resources.get? c.resourceId = some (.data resource)
  tenant : requiredTenantId c.identity c.grant = .ok tenantId

/-- `initial*` covers every text that starts with `initial`, another pattern only itself. -/
def covers (pattern text : String) : Prop :=
  if pattern.toList.getLast? = some '*' then pattern.toList.dropLast <+: text.toList else pattern = text

/-- Some resource pattern of the statement covers the text. -/
def coversObject (statement : AwsPolicyStatement) (arn : String) : Prop :=
  ∃ resource, statement.resource = some resource ∧ ∃ pattern ∈ resource.values, covers pattern arn

/-- A place that an allow grant of a tenant opens. -/
def OpensPlace (tenantId place : String) : Prop :=
  ∃ grant ∈ blueprint.grants, ∃ identity ∈ blueprint.identities, ∃ resourceId ∈ grant.resourceIds,
    ∃ resource initial, grant.effect = .allow ∧ grant.identityId = identity.id ∧
      (reads grant = true ∨ writes grant = true) ∧
      DataGranted extensions resource grant identity resourceId tenantId initial ∧
      place = resource.bucketArn ++ "/" ++ initial

variable {extensions rt blueprint}
variable {plan : AwsIamPlan} {c : CompiledStatement} {identity : Identity} {grant : IdentityGrant}
  {resourceId tenantId place arn : String} {resource : AwsDataResourceBinding}

theorem covers_initial : covers (place ++ "*") arn ↔ place.toList <+: arn.toList := by
  have hlast : (place ++ "*").toList = place.toList ++ ['*'] := String.toList_append
  unfold covers
  rw [hlast, if_pos (by simp), List.dropLast_concat]

/-- What the one pattern of a statement covers, its normalised form covers. -/
theorem coversObject_one {statement : AwsPolicyStatement} {pattern : String}
    (h : statement.resource = some (.one pattern)) :
    coversObject (normalizeStatement rt statement) arn ↔ covers pattern arn := by
  have hresource : (normalizeStatement rt statement).resource = some (.one pattern) := by
    unfold normalizeStatement
    rw [h]
    rfl
  unfold coversObject
  rw [hresource]
  simp [OneOrMany.values]

theorem effect_allow : effect grant = .allow ↔ grant.effect = .allow := by
  unfold effect
  cases grant.effect <;> simp

/-- The statements of a grant for tenant data. -/
theorem identityStatements_data {statements : List AwsPolicyStatement}
    (hbound : extensions.resources.get? resourceId = some (.data resource))
    (h : identityStatements extensions identity grant resourceId = .ok statements) :
    ∃ tenantId initial keyArn common, DataGranted extensions resource grant identity resourceId tenantId initial ∧
      grantConditions identity grant = .ok common ∧
      statements = dataStatements grant resourceId resource initial keyArn common := by
  obtain ⟨binding, hbinding, h⟩ := bind_ok.1 h
  obtain rfl : .data resource = binding := Option.some.inj (hbound.symm.trans (requiredResourceBinding_ok.1 hbinding))
  simp only [bind_ok, pure_ok] at h
  obtain ⟨tenantId, htenant, initial, hinitial, keyArn, -, -, -, common, hcommon, rfl⟩ := h
  exact ⟨tenantId, initial, keyArn, common, ⟨hbound, htenant, requiredText_ok hinitial⟩, hcommon, rfl⟩

/-- An object statement of an identity's policy is about one place. -/
theorem dataStatements_object {initial keyArn : String} {common : Option AwsCondition}
    {statement : AwsPolicyStatement}
    (hmem : statement ∈ dataStatements grant resourceId resource initial keyArn common)
    (hobject : ∃ action ∈ statement.action.values, action ∈ objectActions) :
    statement.effect = effect grant ∧ (reads grant = true ∨ writes grant = true) ∧
      statement.resource = some (.one (resource.bucketArn ++ "/" ++ initial ++ "*")) := by
  obtain ⟨action, haction, hobject⟩ := hobject
  unfold dataStatements at hmem
  simp only [List.mem_append, or_assoc] at hmem
  rcases hmem with hread | hwrite | hkey
  · by_cases hr : reads grant = true
    · rw [if_pos hr] at hread
      rcases List.mem_cons.1 hread with rfl | hread
      · -- listing the bucket is no action on objects
        obtain rfl := List.mem_singleton.1 haction
        exact absurd hobject (by decide)
      · obtain rfl := List.mem_singleton.1 hread
        exact ⟨rfl, Or.inl hr, rfl⟩
    · rw [if_neg hr] at hread
      exact absurd hread List.not_mem_nil
  · by_cases hw : writes grant = true
    · rw [if_pos hw] at hwrite
      obtain rfl := List.mem_singleton.1 hwrite
      exact ⟨rfl, Or.inr hw, rfl⟩
    · rw [if_neg hw] at hwrite
      exact absurd hwrite List.not_mem_nil
  · -- neither is the use of the key
    by_cases hnone : (kmsActions grant).isEmpty = true
    · rw [if_pos hnone] at hkey
      exact absurd hkey List.not_mem_nil
    · rw [if_neg hnone] at hkey
      obtain rfl := List.mem_singleton.1 hkey
      have hkms : ∀ a ∈ kmsActions grant, a ∉ objectActions := by
        unfold kmsActions
        cases reads grant <;> cases writes grant <;> decide
      exact absurd hobject (hkms action haction)

/-- A grant that reads or writes has an object statement, with the conditions of the grant. -/
theorem dataStatements_opens (resource : AwsDataResourceBinding) (resourceId initial keyArn : String)
    (common : Option AwsCondition) (huse : reads grant = true ∨ writes grant = true) :
    ∃ statement ∈ dataStatements grant resourceId resource initial keyArn common,
      statement.effect = effect grant ∧ (∃ action ∈ statement.action.values, action ∈ objectActions) ∧
        statement.resource = some (.one (resource.bucketArn ++ "/" ++ initial ++ "*")) ∧
        statement.principal = none ∧ statement.condition = common := by
  unfold dataStatements
  rcases huse with hr | hw
  · rw [if_pos hr]
    refine ⟨_, List.mem_append_left _ (List.mem_append_left _ (List.mem_cons_of_mem _ List.mem_cons_self)), rfl,
      ⟨"s3:GetObject", List.mem_singleton.2 rfl, by decide⟩, rfl, rfl, rfl⟩
  · rw [if_pos hw]
    refine ⟨_, List.mem_append_left _ (List.mem_append_right _ List.mem_cons_self), rfl,
      ⟨"s3:PutObject", List.mem_cons_of_mem _ List.mem_cons_self, by decide⟩, rfl, rfl, rfl⟩

theorem s3Statements_object {initial roleArn : String} {statement : AwsPolicyStatement}
    (hmem : statement ∈ s3Statements resource grant identity initial roleArn)
    (hobject : ∃ action ∈ statement.action.values, action ∈ objectActions) :
    statement.effect = effect grant ∧ (reads grant = true ∨ writes grant = true) ∧
      statement.resource = some (.one (resource.bucketArn ++ "/" ++ initial ++ "*")) := by
  obtain ⟨action, haction, hobject⟩ := hobject
  unfold s3Statements at hmem
  rcases List.mem_append.1 hmem with hlist | hobjects
  · by_cases hr : reads grant = true
    · rw [if_pos hr] at hlist
      obtain rfl := List.mem_singleton.1 hlist
      obtain rfl := List.mem_singleton.1 haction
      exact absurd hobject (by decide)
    · rw [if_neg hr] at hlist
      exact absurd hlist List.not_mem_nil
  · cases hr : reads grant with
    | true =>
      simp only [hr, if_true, List.singleton_append, List.isEmpty_cons, Bool.false_eq_true, if_false,
        List.mem_singleton] at hobjects
      subst hobjects
      exact ⟨rfl, Or.inl rfl, rfl⟩
    | false =>
      cases hw : writes grant with
      | true =>
        simp only [hr, hw, if_true, Bool.false_eq_true, if_false, List.nil_append, List.isEmpty_cons,
          List.mem_singleton] at hobjects
        subst hobjects
        exact ⟨rfl, Or.inr rfl, rfl⟩
      | false => simp [hr, hw] at hobjects

/-- **An object statement for a tenant is about a place that a grant of the tenant opens.** -/
theorem object_statement {kind : PolicyKind} (hkind : kind ≠ .key)
    (h : ObjectStatement extensions rt blueprint kind c tenantId) :
    ∃ place, OpensPlace extensions blueprint tenantId place ∧ c.statement.resource = some (.one (place ++ "*")) := by
  obtain ⟨resource, hbound⟩ := h.data
  have hcompiled := h.compiled
  cases kind with
  | key => exact absurd rfl hkind
  | identity =>
    obtain ⟨identity, hidentity, cs, hcs, hc⟩ := hcompiled
    obtain ⟨rfl, hgrant, hid, hresource, statements, hstatements, hstatement⟩ := (mem_identityCompiled hcs).1 hc
    obtain ⟨tenantId', initial, keyArn, common, hdata, -, rfl⟩ := identityStatements_data hbound hstatements
    obtain ⟨heffect, huse, harn⟩ := dataStatements_object hstatement h.objects
    obtain rfl : tenantId' = tenantId := Except.ok.inj (hdata.tenant.symm.trans h.tenant)
    exact ⟨_, ⟨c.grant, hgrant, c.identity, hidentity, c.resourceId, hresource, resource, initial,
      effect_allow.1 (heffect.symm.trans h.allowed), hid, huse, hdata, rfl⟩, harn⟩
  | bucket =>
    obtain ⟨⟨resourceId, resource'⟩, hmem, cs, hcs, hc⟩ := hcompiled
    have hbound' := mem_resourceData.1 hmem
    obtain ⟨rfl, hgrant, hresource, hi, tenantId', initial, binding, hdata, -, hstatement⟩ :=
      (mem_s3Compiled hbound' hcs).1 hc
    obtain ⟨heffect, huse, harn⟩ := s3Statements_object hstatement h.objects
    obtain rfl : tenantId' = tenantId := Except.ok.inj (hdata.tenant.symm.trans h.tenant)
    obtain ⟨hidentity, hid⟩ := identity_of_id hi
    exact ⟨_, ⟨c.grant, hgrant, c.identity, hidentity, c.resourceId, hresource, resource', initial,
      effect_allow.1 (heffect.symm.trans h.allowed), hid, huse, hdata, rfl⟩, harn⟩

/-- The round of a grant and one of its resources in the policy of its identity. -/
theorem identity_round (h : compile extensions rt blueprint = .ok plan) (hgrant : grant ∈ blueprint.grants)
    (hidentity : identity ∈ blueprint.identities) (hid : grant.identityId = identity.id)
    (hresource : resourceId ∈ grant.resourceIds) :
    ∃ statements, identityStatements extensions identity grant resourceId = .ok statements ∧
      ∀ statement ∈ statements, Compiles extensions rt blueprint .identity ⟨grant, identity, resourceId, statement⟩ := by
  obtain ⟨cs, hcs⟩ := (compile_ok h).1 identity hidentity
  have hsorted : grant ∈ sortedGrants rt blueprint fun grant => grant.identityId == identity.id :=
    mem_sortedGrants.2 ⟨hgrant, beq_iff_eq.2 hid⟩
  obtain ⟨round, hround, -⟩ := collect_round hcs hsorted
  obtain ⟨inner, hinner, -⟩ := collect_round hround hresource
  obtain ⟨statements, hstatements, -⟩ := bind_ok.1 hinner
  exact ⟨statements, hstatements, fun statement hmem => ⟨identity, hidentity, cs, hcs, (mem_identityCompiled hcs).2
    ⟨rfl, hgrant, hid, hresource, statements, hstatements, hmem⟩⟩⟩

/-- **Every place that a grant of a tenant opens has an object statement in an identity's policy.** -/
theorem object_access (h : compile extensions rt blueprint = .ok plan)
    (hopen : OpensPlace extensions blueprint tenantId place) :
    ∃ c, ObjectStatement extensions rt blueprint .identity c tenantId ∧
      c.statement.resource = some (.one (place ++ "*")) := by
  obtain ⟨grant, hgrant, identity, hidentity, resourceId, hresource, resource, initial, hallow, hid, huse, hdata,
    rfl⟩ := hopen
  obtain ⟨statements, hstatements, hcompiles⟩ := identity_round h hgrant hidentity hid hresource
  obtain ⟨tenantId', initial', keyArn, common, hdata', -, heq⟩ := identityStatements_data hdata.bound hstatements
  obtain rfl : tenantId' = tenantId := Except.ok.inj (hdata'.tenant.symm.trans hdata.tenant)
  obtain rfl : initial' = initial := Option.some.inj (hdata'.initial.symm.trans hdata.initial)
  have heffect : effect grant = .allow := effect_allow.2 hallow
  obtain ⟨statement, hmem, hstatement, hobjects, harn, -⟩ :=
    dataStatements_opens resource resourceId initial' keyArn common huse
  exact ⟨⟨grant, identity, resourceId, statement⟩, ⟨hcompiles statement (heq ▸ hmem), hstatement.trans heffect,
    hobjects, ⟨resource, hdata.bound⟩, hdata.tenant⟩, harn⟩

/-- A reader of a tenant, with its role. -/
def tenantReader (tenantId : String) : Identity :=
  { id := s!"{tenantId}-reader", kind := .workload, tenantId := some tenantId, shortLived := true }

def readerGrant (tenantId : String) : IdentityGrant :=
  { id := s!"{tenantId}-read", identityId := s!"{tenantId}-reader", resourceIds := ["tenant-data"],
    actions := ["data:read"], effect := .allow, tenantId := some tenantId, conditions := none, exception := none }

def readersBlueprint (tenantIds : List String) : PlatformBlueprint :=
  { name := "readers"
    posture := ⟨true, true, true, 365⟩, requiredCapabilities := [], trustZones := [], networkDomains := [], flows := [],
    workloadPlanes := [], applications := [], tenants := [], dataBoundaries := [],
    identities := tenantIds.map tenantReader, identityDelegations := [], grants := tenantIds.map readerGrant,
    evidenceSinks := [], evidenceRequirements := [] }

def readerBinding (tenantId : String) : AwsIdentityBinding :=
  { roleArn := s!"arn:aws:iam::111122223333:role/{tenantId}-reader", principalArn := none, externalId := none,
    sourceAccount := none, sourceArn := none, maxSessionDurationSeconds := none, oidcProviderArn := none,
    oidcIssuerHost := none, oidcSubject := none, audience := none, sourceIdentityPattern := none,
    podIdentity := some ⟨tenantId, "reader"⟩ }

/-- One bucket, with a prefix and a key for each tenant. -/
def tenantData (initials : List (String × String)) : AwsDataResourceBinding :=
  { bucketArn := "arn:aws:s3:::tenant-data"
    keyArnByTenant := Record.fromEntries (initials.map fun p => (p.1, s!"arn:aws:kms:us-east-1:111122223333:key/{p.1}"))
    prefixByTenant := Record.fromEntries initials }

def readersExtensions (initials : List (String × String)) : AwsIamProviderExtensions :=
  { accountId := "111122223333", organizationId := "o-abcdefghij", awsPartition := none,
    identities := Record.fromEntries (initials.map fun p => (s!"{p.1}-reader", readerBinding p.1))
    resources := Record.empty.set "tenant-data" (.data (tenantData initials)) }

/-- The prefix of one tenant begins like that of the other. -/
def nestedInitials : List (String × String) := [("acme", "tenants/acme"), ("acme-eu", "tenants/acme-eu")]

/-- Every prefix ends with a separator. -/
def closedInitials : List (String × String) := [("acme", "tenants/acme/"), ("acme-eu", "tenants/acme-eu/")]

def plainRuntime : Runtime := .tabulated [] (fun _ => none) hex_nil

theorem readers_compile : ∀ initials ∈ [nestedInitials, closedInitials], ∃ plan,
    compile (readersExtensions initials) plainRuntime (readersBlueprint ["acme", "acme-eu"]) = .ok plan := by
  have hok : ∀ initials ∈ [nestedInitials, closedInitials], (compile (readersExtensions initials) plainRuntime
      (readersBlueprint ["acme", "acme-eu"])).isOk = true := by decide +kernel
  intro initials hmem
  exact exists_of_isOk (hok initials hmem)

/-- A reader's place. -/
theorem reader_opens {tenantId initial : String} (hmem : (tenantId, initial) ∈ nestedInitials) :
    OpensPlace (readersExtensions nestedInitials) (readersBlueprint ["acme", "acme-eu"]) tenantId
      ("arn:aws:s3:::tenant-data/" ++ initial) := by
  have hcases : (tenantId, initial) = ("acme", "tenants/acme") ∨ (tenantId, initial) = ("acme-eu", "tenants/acme-eu") := by
    simpa [nestedInitials] using hmem
  rcases hcases with heq | heq
  · obtain ⟨rfl, rfl⟩ := Prod.mk.inj heq
    exact ⟨readerGrant "acme", by simp [readersBlueprint], tenantReader "acme", by simp [readersBlueprint],
      "tenant-data", by simp [readerGrant], tenantData nestedInitials, "tenants/acme", rfl, rfl, Or.inl (by decide),
      ⟨rfl, by rfl, by decide⟩, by decide⟩
  · obtain ⟨rfl, rfl⟩ := Prod.mk.inj heq
    exact ⟨readerGrant "acme-eu", by simp [readersBlueprint], tenantReader "acme-eu", by simp [readersBlueprint],
      "tenant-data", by simp [readerGrant], tenantData nestedInitials, "tenants/acme-eu", rfl, rfl, Or.inl (by decide),
      ⟨rfl, by rfl, by decide⟩, by decide⟩

end SecureSaas.Aws
