import SecureSaas.Database.AwsPostgres
import SecureSaas.Broker.Commit
import SecureSaas.Blueprint.Isolation

/-!
# The claims of a managed Postgres plan and the resource broker

A compiled plan is for the broker: its claims are parsed, applied and then leased to the provider with
the AWS descriptor. The broker begins a claim at generation 1 and lets it advance within its tenant and
type only.

* `brokerRequest_wellFormed_iff`: when the parser of the broker returns a claim of a plan.
* `applied_leases`: an applied claim is leased to the provider.
* `plan_refines_broker`: **the broker accepts the claims of a plan exactly in the states they continue**.
-/

namespace SecureSaas.Database

open Js Blueprint Broker

/-! ## Names and identifiers -/

theorem isName_chars {text : String} (h : isName text = true) :
    ∃ c w, text.toList = c :: w ∧ isLowerAlnum c = true ∧ w.length < 128 ∧
      (w = [] ∨ ∃ middle d, w = middle ++ [d] ∧ isLowerAlnum d = true ∧
        ∀ e ∈ middle, isLowerAlnum e = true ∨ e = '.' ∨ e = '-') := by
  obtain ⟨hlength, hmatch⟩ := Bool.and_eq_true_iff.1 h
  obtain ⟨m, hm, hr⟩ := Pattern.mem_seq.1 (Pattern.fullMatch_iff.1 hmatch)
  obtain ⟨c, hc, hcs⟩ := Pattern.mem_cls.1 hm
  have hshape : m = [] ∨ ∃ middle d, m = middle ++ [d] ∧ isLowerAlnum d = true ∧
      ∀ e ∈ middle, isLowerAlnum e = true ∨ e = '.' ∨ e = '-' := by
    rcases Pattern.mem_opt.1 hr with hr | hr
    · obtain ⟨n, hn, hlast⟩ := Pattern.mem_seq.1 hr
      obtain ⟨middle, hmiddle, rfl⟩ := Pattern.mem_many.1 hn
      obtain ⟨d, hd, rfl⟩ := Pattern.mem_cls.1 hlast
      exact Or.inr ⟨middle, d, rfl, hd, fun e he => by simpa [or_assoc] using hmiddle e he⟩
    · exact Or.inl hr.symm
  refine ⟨c, m, hcs, hc, ?_, hshape⟩
  -- every character is one code unit
  have hunits : (text.toList.map fun c => if c.toNat < 65536 then 1 else 2).sum ≥ text.toList.length := by
    generalize text.toList = cs
    induction cs with
    | nil => simp
    | cons e cs ih =>
      rw [List.map_cons, List.sum_cons, List.length_cons]
      split <;> omega
  have hle : stringLength text ≤ 128 := of_decide_eq_true hlength
  unfold stringLength at hle
  rw [hcs, List.length_cons] at hunits
  rw [hcs] at hle
  omega

/-- **A name is an identifier of the broker.** -/
theorem isName_isIdentifier {text : String} (h : isName text = true) : isIdentifier text = true := by
  obtain ⟨c, w, hcs, hc, hlength, hshape⟩ := isName_chars h
  refine Pattern.fullMatch_iff.2 (Pattern.mem_seq.2 ⟨w, Pattern.mem_cls.2 ⟨c, hc, hcs⟩, Pattern.mem_opt.2 ?_⟩)
  rcases hshape with rfl | ⟨middle, d, rfl, hd, hmiddle⟩
  · exact Or.inr rfl
  · rw [List.length_append, List.length_singleton] at hlength
    refine Or.inl (Pattern.mem_seq.2 ⟨[d], Pattern.mem_upTo.2 ⟨middle, by omega, fun e he => ?_, rfl⟩,
      Pattern.mem_cls.2 ⟨d, hd, rfl⟩⟩)
    rcases hmiddle e he with h | rfl | rfl
    · simp [h]
    · rfl
    · rfl

theorem isIdentifier_ascii {text : String} (h : isIdentifier text = true) :
    ∀ c ∈ text.toList, 45 ≤ c.toNat ∧ c.toNat ≤ 122 := by
  intro c hc
  rcases isIdentifier_chars h c hc with h | rfl | rfl | rfl
  · have halnum : isAlnum c = true := by
      unfold isLowerAlnum at h
      unfold isAlnum
      rcases Bool.or_eq_true_iff.1 h with h | h <;> simp [h]
    have := isAlnum_toNat halnum
    omega
  all_goals decide

theorem isIdentifier_length {text : String} (h : isIdentifier text = true) : stringLength text ≤ 128 := by
  have hsmall : ∀ c ∈ text.toList, c.toNat < 65536 := by
    intro c hc
    have := isIdentifier_ascii h c hc
    omega
  have hlength : stringLength text = text.toList.length := by
    rw [← stringLength_ofList hsmall, String.ofList_toList]
  obtain ⟨m, hm, hr⟩ := Pattern.mem_seq.1 (Pattern.fullMatch_iff.1 h)
  obtain ⟨c, -, hcs⟩ := Pattern.mem_cls.1 hm
  rw [hlength, hcs, List.length_cons]
  rcases Pattern.mem_opt.1 hr with hr | hr
  · obtain ⟨n, hn, hlast⟩ := Pattern.mem_seq.1 hr
    obtain ⟨middle, hmiddle, -, rfl⟩ := Pattern.mem_upTo.1 hn
    obtain ⟨d, -, rfl⟩ := Pattern.mem_cls.1 hlast
    rw [List.length_append, List.length_singleton]
    omega
  · rw [← hr, List.length_nil]
    omega

theorem isDot_of {c : Char} (h : 45 ≤ c.toNat ∧ c.toNat ≤ 122) : isDot c = true := by
  have hbreaks : c ≠ '\n' ∧ c ≠ '\r' := by
    constructor
    · rintro rfl
      exact absurd h (by decide)
    · rintro rfl
      exact absurd h (by decide)
  have hseparators : c.toNat ≠ 0x2028 ∧ c.toNat ≠ 0x2029 := by omega
  simp [isDot, hbreaks, hseparators]

theorem includes_at {text : String} (h : ∀ c ∈ text.toList, c ≠ '@') : includes text "@" = false := by
  unfold includes
  generalize text.toList = cs at h
  induction cs with
  | nil => rfl
  | cons c cs ih =>
    obtain ⟨hc, hrest⟩ := List.forall_mem_cons.1 h
    have hat : "@".toList = ['@'] := by decide
    rw [hasInfix, ih hrest, hat, Bool.or_false]
    simp [List.isPrefixOf, Ne.symm hc]

/-- The reference to the desired state of a claim with an identifier. -/
theorem desiredStateRef_isReference {id : String} (h : isIdentifier id = true) :
    isReference ["broker"] ("broker://" ++ id ++ "/desired-state") = true := by
  have hends : stringLength "broker://" = 9 ∧ stringLength "/desired-state" = 14 := by decide
  have hlength : stringLength ("broker://" ++ id ++ "/desired-state") ≤ 512 := by
    have := isIdentifier_length h
    rw [stringLength_append, stringLength_append, hends.1, hends.2]
    omega
  have hat : includes ("broker://" ++ id ++ "/desired-state") "@" = false := by
    refine includes_at ?_
    simp only [String.toList_append, List.mem_append]
    rintro c ((hc | hc) | hc)
    · have hscheme : ∀ c ∈ "broker://".toList, c ≠ '@' := forall_of_all (by decide)
      exact hscheme c hc
    · rintro rfl
      exact absurd (isIdentifier_chars h _ hc) (by decide)
    · have hpath : ∀ c ∈ "/desired-state".toList, c ≠ '@' := forall_of_all (by decide)
      exact hpath c hc
  have hscheme : hasScheme ["broker"] ("broker://" ++ id ++ "/desired-state") = true := by
    refine List.any_eq_true.2 ⟨"broker", List.mem_singleton_self _, Pattern.fullMatch_iff.2 ?_⟩
    refine Pattern.mem_seq.2 ⟨"://".toList ++ (id.toList ++ "/desired-state".toList), Pattern.mem_lit.2 ?_, ?_⟩
    · simp only [String.toList_append, List.append_assoc]
      rfl
    · refine Pattern.mem_seq.2 ⟨_, Pattern.mem_lit.2 rfl, Pattern.mem_many1.2 ⟨_, ?_, ?_, (List.append_nil _).symm⟩⟩
      · exact List.append_ne_nil_of_right_ne_nil _ (by decide)
      · intro c hc
        rcases List.mem_append.1 hc with hc | hc
        · exact isDot_of (isIdentifier_ascii h c hc)
        · have hpath : ∀ c ∈ "/desired-state".toList, isDot c = true := forall_of_all (by decide)
          exact hpath c hc
  simp only [isReference, hscheme, hat, decide_eq_true hlength, Bool.not_false, Bool.and_self]

/-! ## What the parser of the broker returns -/

theorem resourceApiVersion_isApiVersion (apiVersion : ManagedPostgresApiVersion) :
    isApiVersion apiVersion.text = true := by
  cases apiVersion <;> decide +kernel

theorem capabilities_isIdentifier : ∀ capability ∈ awsManagedPostgresCapabilities, isIdentifier capability = true := by
  decide +kernel

/-- **The request of a claim is well formed exactly if its ids are identifiers.** -/
theorem brokerRequest_wellFormed_iff {intent : ManagedPostgresIntent} {binding : ManagedPostgresBinding}
    {generation : ℤ} {desiredStateDigest : String} (hgeneration : 1 ≤ generation)
    (hdigest : isHexDigest desiredStateDigest = true) :
    (brokerRequest intent binding generation desiredStateDigest).WellFormed ↔
      isIdentifier binding.id = true ∧ isIdentifier binding.tenantId = true := by
  constructor
  · intro hw
    exact ⟨hw.claimId, hw.tenantId⟩
  · rintro ⟨hid, htenant⟩
    have hkind : isResourceKind "ManagedPostgres" = true := by decide +kernel
    have hcapabilities : awsManagedPostgresCapabilities.Nodup ∧ awsManagedPostgresCapabilities ≠ [] := by
      decide +kernel
    have hattempts : (1 : ℤ) ≤ 5 ∧ (5 : ℤ) ≤ 10 := by decide
    exact {
      apiVersion := rfl
      kind := rfl
      claimId := hid
      tenantId := htenant
      generation := hgeneration
      resourceKind := hkind
      resourceApiVersion := resourceApiVersion_isApiVersion intent.apiVersion
      desiredStateDigest := hdigest
      desiredStateRef := desiredStateRef_isReference hid
      capabilities := capabilities_isIdentifier
      capabilities_nodup := hcapabilities.1
      capabilities_ne := hcapabilities.2
      deletionProtection := rfl
      destructionApproval := rfl
      finalizationEvidence := rfl
      attempts_pos := hattempts.1
      attempts_le := hattempts.2 }

/-! ## Applying and leasing a claim -/

/-- The claim continues the state: it is new and begins at generation 1, or it takes the place of the
preceding generation of a claim of the same tenant and type that no work is active on. -/
def Continues (s : ResourceBrokerState) (claim : ResourceClaimRequest) : Prop :=
  match findClaim s claim.claimId with
  | none => claim.generation = 1
  | some existing =>
    (existing.tenantId = claim.tenantId ∧ existing.resourceKind = claim.resourceKind ∧
      existing.resourceApiVersion = claim.resourceApiVersion) ∧
    claim.generation = existing.generation + 1 ∧
    existing.phase ≠ .reconciling ∧ existing.phase ≠ .cancelling ∧ existing.phase ≠ .deleting

/-- An authorized call to apply the claim that uses a new key and a new capability. -/
structure FreshCall (s : ResourceBrokerState) (context : BrokerMutationContext) (tenantId claimId : String) :
    Prop where
  authorized : ContextOk context .apply tenantId claimId
  unanswered : existingRecord s context .apply = none
  unredeemed : context.capabilityId ∉ s.redeemedCapabilityIds

/-- A call of the AWS provider, with its descriptor, for a lease of the claim whose end has a time stamp. -/
structure ProviderCall (args : LeaseArgs) (claimId : String) : Prop where
  claimId : args.claimId = claimId
  providerId : args.providerId = awsManagedPostgresProviderDescriptor.id
  capabilities : args.providerCapabilities = awsManagedPostgresProviderDescriptor.capabilities
  verified : args.workloadIdentityVerified = true
  occurredAt : isTimestamp args.occurredAt = true
  duration : ∃ seconds now, leaseSeconds args.leaseDurationSeconds = some seconds ∧
    dateParse args.occurredAt = some now ∧ now + seconds * 1000 ≤ maxIsoTime

variable {rt : Runtime} {s : ResourceBrokerState} {claim : ResourceClaimRequest}

theorem assertAdvance_continues : assertAdvance claim (findClaim s claim.claimId) = .ok () ↔ Continues s claim := by
  unfold Continues
  cases findClaim s claim.claimId with
  | none => simp [assertAdvance]
  | some existing =>
    simp only [assertAdvance, bind_ok, throwUnless_ok, exists_unit, Bool.and_eq_true, beq_iff_eq, and_assoc]
    cases existing.phase <;> simp

/-- **A fresh call applies a claim exactly if it continues the state.** -/
theorem apply_iff_continues (hw : claim.WellFormed) (hs : StateOk s) (hrev : 0 ≤ s.revision)
    {context : BrokerMutationContext} (hcall : FreshCall s context claim.tenantId claim.claimId) :
    (∃ t, applyResourceClaim rt s s.revision context claim.toValue = .ok t) ↔ Continues s claim := by
  constructor
  · rintro ⟨t, ht⟩
    obtain ⟨-, -, parsed, hparsed, ⟨c, ⟨r, hr, -⟩, -⟩ | ⟨hadvance, -⟩⟩ := applyResourceClaim_ok.1 ht
    · rw [hcall.unanswered] at hr
      cases hr
    · obtain ⟨rfl, -⟩ := parseResourceClaimRequest_toValue.1 hparsed
      exact assertAdvance_continues.1 hadvance
  · intro hcontinues
    obtain ⟨t, ht, -⟩ := applyResourceClaim_succeeds rt hs hrev hw (assertAdvance_continues.2 hcontinues)
      hcall.authorized hcall.unanswered hcall.unredeemed
    exact ⟨t, ht⟩

/-- **An applied claim is leased to the provider**: what it requires the descriptor offers, and no attempt
has been made yet. -/
theorem applied_leases {context : BrokerMutationContext} (hcall : FreshCall s context claim.tenantId claim.claimId)
    (hcapabilities : claim.requiredProviderCapabilities = awsManagedPostgresCapabilities)
    (hattempts : 1 ≤ claim.lifecycle.maxReconcileAttempts) {t : ResourceBrokerTransition ResourceClaimState}
    (ht : applyResourceClaim rt s s.revision context claim.toValue = .ok t) {args : LeaseArgs}
    (hargs : ProviderCall args claim.claimId) :
    ∃ lease, leaseResourceClaim rt t.state t.state.revision args = .ok lease := by
  obtain ⟨-, -, parsed, hparsed, ⟨c, ⟨r, hr, -⟩, -⟩ | ⟨-, hcommit⟩⟩ := applyResourceClaim_ok.1 ht
  · rw [hcall.unanswered] at hr
    cases hr
  obtain ⟨rfl, -⟩ := parseResourceClaimRequest_toValue.1 hparsed
  obtain ⟨e, -, rfl⟩ := hcommit.answer
  have hok := hcommit.checked
  obtain ⟨seconds, now, hseconds, hnow, hend⟩ := hargs.duration
  have hpositive : 1 ≤ seconds := by
    unfold leaseSeconds at hseconds
    split at hseconds
    · split at hseconds
      · rename_i hbounds
        rw [← Option.some.inj hseconds]
        exact hbounds.1
      · cases hseconds
    · cases hseconds
  have hguard : LeaseGuard _ args (nextClaim parsed (findClaim s parsed.claimId)) seconds := {
    found := hok.findClaim_iff.2 ⟨mem_upsertClaim.2 (Or.inl rfl), hargs.claimId.symm⟩
    identity := by rw [hargs.providerId]; decide +kernel
    verified := hargs.verified
    occurredAt := hargs.occurredAt
    duration := hseconds
    capable := by
      intro capability hcapability
      rw [hargs.capabilities]
      change capability ∈ parsed.requiredProviderCapabilities at hcapability
      rw [hcapabilities] at hcapability
      exact hcapability
    inactive := by cases dateParse args.occurredAt <;> rfl
    eligible := rfl
    attempts := hattempts }
  obtain ⟨lease, hlease, -⟩ := leaseResourceClaim_succeeds rt hok hguard hpositive hnow hend
    (show (0 : ℤ) < 0 + 1 by omega)
  exact ⟨lease, hlease⟩

/-! ## The plan and the broker -/

/-- Claims and bindings are paired one to one: the claims have the ids of the bindings, which are different,
and what is claimed under an id is what is bound under it. -/
structure Paired (rt : Runtime) (dates : Dates) (intent : ManagedPostgresIntent) (claimGenerations : Record Number)
    (plan : AwsManagedPostgresPlan) : Prop where
  distinct : (intent.bindings.map (·.id)).Nodup
  ids : (plan.claims.map (·.claimId)).Perm (intent.bindings.map (·.id))
  claimed : ∀ binding ∈ intent.bindings, ∃ claim ∈ plan.claims, ClaimOf rt dates intent claimGenerations binding claim
  bound : ∀ claim ∈ plan.claims, ∃ binding ∈ intent.bindings, ClaimOf rt dates intent claimGenerations binding claim

/-- The broker returns the claim as it is. -/
def ParsedUnchanged (claim : AwsManagedPostgresClaimPlan) : Prop :=
  parseResourceClaimRequest claim.brokerClaim.toValue = .ok claim.brokerClaim

/-- The call applies the claim. -/
def AppliedBy (rt : Runtime) (s : ResourceBrokerState) (context : BrokerMutationContext)
    (claim : AwsManagedPostgresClaimPlan) : Prop :=
  ∃ t, applyResourceClaim rt s s.revision context claim.brokerClaim.toValue = .ok t

/-- After the call the provider's lease is granted. -/
def LeasedAfter (rt : Runtime) (s : ResourceBrokerState) (context : BrokerMutationContext)
    (claim : AwsManagedPostgresClaimPlan) : Prop :=
  claim.brokerClaim.resourceKind ∈ awsManagedPostgresProviderDescriptor.resourceKinds ∧
    ∀ t, applyResourceClaim rt s s.revision context claim.brokerClaim.toValue = .ok t →
      ∀ args, ProviderCall args claim.claimId → ∃ lease, leaseResourceClaim rt t.state t.state.revision args = .ok lease

variable {dates : Dates} {intent : ManagedPostgresIntent} {blueprint : PlatformBlueprint}
  {extensions : AwsManagedPostgresProviderExtensions} {claimGenerations : Record Number} {plan : AwsManagedPostgresPlan}

/-- The digest that a claim carries. -/
theorem bindingDigest_isHexDigest {binding : ManagedPostgresBinding} {digest : String}
    (h : managedPostgresBindingDigest rt dates intent binding = .ok digest) : isHexDigest digest = true := by
  obtain ⟨_, -, h⟩ := bind_ok.1 h
  obtain rfl := pure_ok.1 h
  exact rt.sha256_hex _

/-! ## A sample plan -/

def samplePostgresBlueprint : PlatformBlueprint :=
  { sampleBlueprint [] [] with
    posture := ⟨true, false, true, 30⟩
    requiredCapabilities := [.workloadIdentity, .privateControlPlane]
    workloadPlanes := [⟨"runtime", "app", .dedicated "a", .trusted, .managedKubernetes, .container, false, true,
      .workloadIdentity, none⟩]
    applications := [
      { id := "shop"
        workloadPlaneId := "runtime"
        serviceIdentityId := "shop-identity"
        tenantScope := .dedicated "a"
        dataBoundaryIds := ["orders"]
        ingress := .none
        components := [⟨"main", "runtime", "shop-main-identity", ["orders"], .none, ⟨2, 1⟩⟩]
        componentDependencies := []
        dependencies := []
        availability := ⟨2, 1⟩
        release := ⟨true, true, true, true⟩ }]
    dataBoundaries := [
      { id := "orders"
        zoneId := "app"
        classification := .confidential
        tenantScope := .dedicated "a"
        services := [.relational]
        encryption := ⟨true, true, true⟩
        recovery := ⟨true, 5, 60, true, true, true, 30⟩
        retentionDays := 30
        versioningRequired := false
        replicationRequired := false
        objectAuditRequired := false
        deletionEvidenceRequired := true
        exportEvidenceRequired := true }]
    identities := [⟨"shop-identity", .workload, none, true⟩, ⟨"shop-main-identity", .workload, none, true⟩,
      ⟨"migrations", .automation, none, true⟩]
    evidenceSinks := [⟨"audit", true, 30, .platform⟩]
    evidenceRequirements := [⟨"releases", ["shop", "orders"], "audit",
      ["deployment", "authorization", "backup", "restore-test"]⟩] }

def samplePostgresIntent : ManagedPostgresIntent where
  apiVersion := .v1alpha1
  name := "databases"
  environment := .production
  plugin := ⟨"codefly", "1.0.0"⟩
  bindings := [
    { id := "orders-db"
      tenantId := "shop"
      tenancy := none
      dataBoundaryId := "orders"
      codefly := ⟨"acme", "main", "store"⟩
      database := ⟨"orders", "16", []⟩
      provisioning := ⟨30, 30⟩
      access := ⟨"shop-main-identity", "migrations", ⟨"runtime-pods", "migration-jobs"⟩⟩ }]

def samplePostgresExtensions : AwsManagedPostgresProviderExtensions where
  partition := "aws"
  accountId := "111111111111"
  region := "us-east-1"
  replicaRegion := "us-west-2"
  engineVersion := "16.4"
  instanceClass := "db.r6g.large"
  instanceCount := 2
  backupRetentionDays := 35
  supportedMajorVersions := ["16"]
  supportedExtensions := ["pgcrypto", "vector"]
  rdsProxy := true
  endToEndIamAuthentication := true
  awsManagedMasterPassword := true

def samplePostgresRuntime : Runtime := .tabulated [] (fun _ => none) hex_nil

def samplePostgresPlan (generation : ℤ) : Except String AwsManagedPostgresPlan :=
  compileAwsManagedPostgres samplePostgresRuntime sampleDates samplePostgresIntent samplePostgresBlueprint
    samplePostgresExtensions (Record.fromEntries [("orders-db", .int generation)])

theorem samplePostgresPlan_ok {generation : ℤ} (h : generation = 1 ∨ generation = 2) :
    ∃ plan, samplePostgresPlan generation = .ok plan := by
  apply exists_of_isOk
  rcases h with rfl | rfl <;> decide +kernel

/-- The claim of the sample plan. -/
theorem sampleClaim {generation : ℤ} {plan : AwsManagedPostgresPlan} (h : samplePostgresPlan generation = .ok plan) :
    ∃ claim ∈ plan.claims, claim.claimId = "orders-db" ∧ claim.tenantId = "shop" ∧
      claim.brokerClaim.generation = generation ∧ claim.brokerClaim.claimId = "orders-db" ∧ ParsedUnchanged claim := by
  obtain ⟨-, -, hclaimed, -⟩ := compileAwsManagedPostgres_ok h
  obtain ⟨binding, hbinding, hid, htenant⟩ : ∃ binding ∈ samplePostgresIntent.bindings,
      binding.id = "orders-db" ∧ binding.tenantId = "shop" := ⟨_, List.mem_cons_self, rfl, rfl⟩
  obtain ⟨claim, hclaim, hof⟩ := hclaimed binding hbinding
  obtain ⟨given, hgiven, hpositive, hrequest⟩ := hof.generation
  rw [hid] at hgiven
  have hgeneration : Number.int generation = .int given := Option.some.inj hgiven
  obtain rfl := Number.int.inj hgeneration
  have hids : isIdentifier binding.id = true ∧ isIdentifier binding.tenantId = true := by
    rw [hid, htenant]
    decide +kernel
  have hw : (brokerRequest samplePostgresIntent binding generation claim.desiredStateDigest).WellFormed :=
    (brokerRequest_wellFormed_iff hpositive (bindingDigest_isHexDigest hof.digest)).2 hids
  refine ⟨claim, hclaim, hof.claimId.trans hid, hof.tenantId.trans htenant, ?_, ?_, ?_⟩
  · rw [hrequest]
    rfl
  · rw [hrequest]
    exact hid
  · unfold ParsedUnchanged
    rw [hrequest]
    exact parseResourceClaimRequest_toValue.2 ⟨rfl, hw⟩

def sampleCall : BrokerMutationContext where
  actorId := "deployer"
  tenantId := "shop"
  operation := .apply
  resourceId := "orders-db"
  capabilityId := "cap-1"
  capabilityVerified := true
  idempotencyKey := "apply-1"
  occurredAt := "2026-07-14T12:00:00.000Z"

theorem sampleCall_fresh : FreshCall createResourceBrokerState sampleCall "shop" "orders-db" where
  authorized := by constructor <;> decide +kernel
  unanswered := rfl
  unredeemed := List.not_mem_nil

/-- **The broker accepts the claims of a plan exactly in the states they continue.** The claims are paired
with the bindings; the parser returns a claim as it is exactly if its ids are identifiers, which all names
are; a fresh call then applies the claim exactly if it continues the state, and the provider leases it. -/
theorem plan_refines_broker
    (h : compileAwsManagedPostgres rt dates intent blueprint extensions claimGenerations = .ok plan) :
    Paired rt dates intent claimGenerations plan ∧ ∀ claim ∈ plan.claims,
      (ParsedUnchanged claim ↔ isIdentifier claim.claimId = true ∧ isIdentifier claim.tenantId = true) ∧
      (isName claim.claimId = true → isName claim.tenantId = true → ParsedUnchanged claim) ∧
      (ParsedUnchanged claim → ∀ s context, StateOk s → 0 ≤ s.revision →
        FreshCall s context claim.tenantId claim.claimId →
          (AppliedBy rt s context claim ↔ Continues s claim.brokerClaim) ∧ LeasedAfter rt s context claim) := by
  obtain ⟨hdistinct, hids, hclaimed, hbound⟩ := compileAwsManagedPostgres_ok h
  refine ⟨⟨hdistinct, hids, hclaimed, hbound⟩, fun claim hclaim => ?_⟩
  obtain ⟨binding, -, hof⟩ := hbound claim hclaim
  obtain ⟨generation, -, hgeneration, hrequest⟩ := hof.generation
  have hparsed : ParsedUnchanged claim ↔ isIdentifier claim.claimId = true ∧ isIdentifier claim.tenantId = true := by
    unfold ParsedUnchanged
    rw [parseResourceClaimRequest_toValue, and_iff_right rfl, hof.claimId, hof.tenantId, hrequest]
    exact brokerRequest_wellFormed_iff hgeneration (bindingDigest_isHexDigest hof.digest)
  refine ⟨hparsed, fun hname htenant => ?_, fun haccepted s context hs hrev hcall => ?_⟩
  · exact hparsed.2 ⟨isName_isIdentifier hname, isName_isIdentifier htenant⟩
  · have hw : claim.brokerClaim.WellFormed := (parseResourceClaimRequest_toValue.1 haccepted).2
    have hsame : claim.brokerClaim.claimId = claim.claimId ∧ claim.brokerClaim.tenantId = claim.tenantId := by
      rw [hrequest, hof.claimId, hof.tenantId]
      exact ⟨rfl, rfl⟩
    rw [← hsame.1, ← hsame.2] at hcall
    refine ⟨apply_iff_continues hw hs hrev hcall, ?_, fun t ht args hargs => ?_⟩
    · rw [hrequest]
      exact List.mem_singleton_self _
    · rw [← hsame.1] at hargs
      exact applied_leases hcall (by rw [hrequest]; rfl) hw.attempts_pos ht hargs

/-- A new claim is applied at generation 1. -/
theorem plan_refines_broker_sample : ∃ plan, samplePostgresPlan 1 = .ok plan ∧
    ∃ claim ∈ plan.claims, AppliedBy samplePostgresRuntime createResourceBrokerState sampleCall claim ∧
      LeasedAfter samplePostgresRuntime createResourceBrokerState sampleCall claim := by
  obtain ⟨plan, hplan⟩ := samplePostgresPlan_ok (Or.inl rfl)
  obtain ⟨claim, hclaim, hid, htenant, hgeneration, hrequested, hparsed⟩ := sampleClaim hplan
  obtain ⟨-, hclaims⟩ := plan_refines_broker hplan
  obtain ⟨-, -, hbroker⟩ := hclaims claim hclaim
  obtain ⟨happlied, hleased⟩ := hbroker hparsed createResourceBrokerState sampleCall createResourceBrokerState_ok
    (le_refl 0) (by rw [hid, htenant]; exact sampleCall_fresh)
  exact ⟨plan, hplan, claim, hclaim, happlied.2 hgeneration, hleased⟩

/-- **A new claim of generation 2 is refused**, although no claim has its id: the broker begins at
generation 1. -/
theorem second_generation_refused :
    ¬ ∀ (rt : Runtime) (dates : Dates) (intent : ManagedPostgresIntent) (blueprint : PlatformBlueprint)
      (extensions : AwsManagedPostgresProviderExtensions) (claimGenerations : Record Number)
      (plan : AwsManagedPostgresPlan),
      compileAwsManagedPostgres rt dates intent blueprint extensions claimGenerations = .ok plan →
        Paired rt dates intent claimGenerations plan ∧ ∀ claim ∈ plan.claims, ParsedUnchanged claim ∧
          ∀ s context, StateOk s → 0 ≤ s.revision → FreshCall s context claim.tenantId claim.claimId →
            (findClaim s claim.claimId = none ∨ ∃ existing, findClaim s claim.claimId = some existing ∧
              claim.brokerClaim.generation = existing.generation + 1 ∧
              existing.phase ≠ .reconciling ∧ existing.phase ≠ .cancelling ∧ existing.phase ≠ .deleting) →
            AppliedBy rt s context claim ∧ LeasedAfter rt s context claim := by
  intro h
  obtain ⟨plan, hplan⟩ := samplePostgresPlan_ok (Or.inr rfl)
  obtain ⟨claim, hclaim, hid, htenant, hgeneration, hrequested, hparsed⟩ := sampleClaim hplan
  have hfresh : FreshCall createResourceBrokerState sampleCall claim.tenantId claim.claimId := by
    rw [hid, htenant]
    exact sampleCall_fresh
  obtain ⟨-, hclaims⟩ := h _ _ _ _ _ _ plan hplan
  obtain ⟨⟨t, ht⟩, -⟩ := (hclaims claim hclaim).2 createResourceBrokerState sampleCall createResourceBrokerState_ok
    (le_refl 0) hfresh (Or.inl rfl)
  obtain ⟨-, -, parsed, hsame, ⟨c, ⟨r, hr, -⟩, -⟩ | ⟨hadvance, -⟩⟩ := applyResourceClaim_ok.1 ht
  · cases hr
  · obtain ⟨rfl, -⟩ := parseResourceClaimRequest_toValue.1 hsame
    have hfirst : claim.brokerClaim.generation = 1 := assertAdvance_continues.1 hadvance
    rw [hgeneration] at hfirst
    cases hfirst

end SecureSaas.Database
