import SecureSaas.Database.PostgresIntent
import SecureSaas.Js.Collect

/-!
# Tenants of managed Postgres

The parser looks at one binding at a time; only ids, services, data boundaries and the pairing of applications with
platform tenants are compared across bindings. Two bindings of different tenants can share a migration identity or a
network boundary, and without a blueprint a runtime identity too.

* `assertBindings_each`: what every binding of an accepted intent has.
* `assertBindings_pairs`: **applications and platform tenants are paired one to one.**
* `runtime_apart`: a blueprint keeps the runtime identities of different tenants apart.
* `tenants_separated_iff`: when the tenants of an accepted intent are separated.
* `tenants_not_separated`: **two tenants that migrate with one identity are accepted.**
-/

namespace SecureSaas.Database

open Js Blueprint

def ManagedPostgresAccess.identityIds (access : ManagedPostgresAccess) : List String :=
  [access.runtimeIdentityId, access.migrationIdentityId]

def ManagedPostgresAccess.boundaryIds (access : ManagedPostgresAccess) : List String :=
  [access.networkAccess.runtimeBoundaryId, access.networkAccess.migrationBoundaryId]

/-- No tenant can come in as another one, and no workload with the rights of a migration. -/
structure Separated (intent : ManagedPostgresIntent) : Prop where
  identities : ∀ b ∈ intent.bindings, ∀ c ∈ intent.bindings, b.tenantId ≠ c.tenantId →
    ∀ id ∈ b.access.identityIds, id ∉ c.access.identityIds
  boundaries : ∀ b ∈ intent.bindings, ∀ c ∈ intent.bindings, b.tenantId ≠ c.tenantId →
    ∀ id ∈ b.access.boundaryIds, id ∉ c.access.boundaryIds
  identityKinds : ∀ b ∈ intent.bindings, ∀ c ∈ intent.bindings,
    b.access.runtimeIdentityId ≠ c.access.migrationIdentityId
  boundaryKinds : ∀ b ∈ intent.bindings, ∀ c ∈ intent.bindings,
    b.access.networkAccess.runtimeBoundaryId ≠ c.access.networkAccess.migrationBoundaryId
  tenancies : intent.apiVersion = .v1alpha2 → ∀ b ∈ intent.bindings, ∀ c ∈ intent.bindings, ∃ t u,
    b.tenancy = some t ∧ c.tenancy = some u ∧ (t.applicationId = u.applicationId ↔
      t.organizationId = u.organizationId ∧ t.platformTenantId = u.platformTenantId)

/-- What nothing compares across two bindings. -/
structure Unshared (blueprint : Option PlatformBlueprint) (intent : ManagedPostgresIntent) : Prop where
  migrations : ∀ b ∈ intent.bindings, ∀ c ∈ intent.bindings, b.tenantId ≠ c.tenantId →
    b.access.migrationIdentityId ≠ c.access.migrationIdentityId
  boundaries : ∀ b ∈ intent.bindings, ∀ c ∈ intent.bindings, b.tenantId ≠ c.tenantId →
    ∀ id ∈ b.access.boundaryIds, id ∉ c.access.boundaryIds
  boundaryKinds : ∀ b ∈ intent.bindings, ∀ c ∈ intent.bindings, b.id ≠ c.id →
    b.access.networkAccess.runtimeBoundaryId ≠ c.access.networkAccess.migrationBoundaryId
  organizations : ∀ b ∈ intent.bindings, ∀ c ∈ intent.bindings, ∀ t u, b.tenancy = some t → c.tenancy = some u →
    t.applicationId = u.applicationId → t.organizationId = u.organizationId
  runtimes : blueprint = none → ∀ b ∈ intent.bindings, ∀ c ∈ intent.bindings, b.id ≠ c.id →
    b.access.runtimeIdentityId ≠ c.access.migrationIdentityId ∧
      (b.tenantId ≠ c.tenantId → b.access.runtimeIdentityId ≠ c.access.runtimeIdentityId)

variable {dates : Dates} {intent : ManagedPostgresIntent} {binding : ManagedPostgresBinding}
  {blueprint : PlatformBlueprint} {seen seen' : SeenBindings}

/-! ## One binding -/

/-- The tenancy of an accepted binding. -/
def TenancyFits (apiVersion : ManagedPostgresApiVersion) (binding : ManagedPostgresBinding) : Prop :=
  match apiVersion with
  | .v1alpha1 => binding.tenancy = none
  | .v1alpha2 => ∃ t, binding.tenancy = some t ∧ t.applicationId = binding.tenantId ∧
      t.resourceOwnerId = binding.access.runtimeIdentityId

theorem TenancyFits.eq_none (h : TenancyFits .v1alpha1 binding) : binding.tenancy = none := h

theorem TenancyFits.exists (h : TenancyFits .v1alpha2 binding) : ∃ t, binding.tenancy = some t := by
  obtain ⟨t, ht, -⟩ := h
  exact ⟨t, ht⟩

/-- What the check of one binding asks of the binding alone. -/
structure BindingSound (intent : ManagedPostgresIntent) (binding : ManagedPostgresBinding) : Prop where
  tenancy : TenancyFits intent.apiVersion binding
  identities : binding.access.runtimeIdentityId ≠ binding.access.migrationIdentityId
  boundaries : binding.access.networkAccess.runtimeBoundaryId ≠ binding.access.networkAccess.migrationBoundaryId
  backups : intent.environment = .production → 14 ≤ binding.provisioning.backupRetentionDays

/-- The tenant that was seen is no other one. -/
theorem otherThan_eq_false {prior : Option String} {text : String} :
    otherThan prior text = false ↔ ∀ earlier, prior = some earlier → earlier = "" ∨ earlier = text := by
  cases prior with
  | none => simp [otherThan]
  | some earlier => by_cases hempty : earlier = "" <;> simp [otherThan, hempty]

/-- A platform tenant and an application that were seen are paired with each other. -/
def Fresh (seen : SeenBindings) (tenancy : ManagedPostgresTenancy) : Prop :=
  otherThan (seen.applicationTenants.get? tenancy.applicationId) tenancy.platformTenantId = false ∧
    otherThan (seen.tenantApplications.get? tenancy.platformTenantId) tenancy.applicationId = false

/-- The pairs after a binding. -/
def SeenBindings.pair (seen : SeenBindings) : Option ManagedPostgresTenancy → SeenBindings
  | .none => seen
  | .some tenancy => { seen with
      applicationTenants := seen.applicationTenants.set tenancy.applicationId tenancy.platformTenantId
      tenantApplications := seen.tenantApplications.set tenancy.platformTenantId tenancy.applicationId }

/-- **The check of the tenancy of one binding.** -/
theorem assertTenancy_ok {apiVersion : ManagedPostgresApiVersion} :
    assertTenancy apiVersion seen binding = .ok seen' ↔ TenancyFits apiVersion binding ∧
      (∀ t, binding.tenancy = some t → Fresh seen t) ∧ seen' = seen.pair binding.tenancy := by
  unfold assertTenancy TenancyFits
  cases apiVersion with
  | v1alpha1 =>
    cases htenancy : binding.tenancy with
    | none => simp [SeenBindings.pair, eq_comm]
    | some tenancy => simp
  | v1alpha2 =>
    cases htenancy : binding.tenancy with
    | none => simp
    | some tenancy =>
      simp only [bind_ok, pure_ok, throwUnless_ok, exists_unit, Bool.and_eq_true, beq_iff_eq, Bool.not_eq_true',
        Bool.or_eq_false_iff, Option.some.injEq, SeenBindings.pair, Fresh]
      constructor
      · rintro ⟨⟨happlication, howner⟩, hfresh, rfl⟩
        refine ⟨⟨tenancy, rfl, happlication, howner⟩, ?_, rfl⟩
        rintro t rfl
        exact hfresh
      · rintro ⟨⟨t, rfl, happlication, howner⟩, hfresh, rfl⟩
        exact ⟨⟨happlication, howner⟩, hfresh _ rfl, rfl⟩

/-- **One round of the loop over the bindings.** -/
theorem assertBinding_ok : assertBinding intent seen binding = .ok seen' ↔
    binding.id ∉ seen.ids ∧ codeflyServiceRef binding ∉ seen.serviceRefs ∧
      binding.dataBoundaryId ∉ seen.dataBoundaries ∧ BindingSound intent binding ∧
      (∀ t, binding.tenancy = some t → Fresh seen t) ∧
      seen' = { seen.pair binding.tenancy with
        ids := seen.ids ++ [binding.id]
        serviceRefs := seen.serviceRefs ++ [codeflyServiceRef binding]
        dataBoundaries := seen.dataBoundaries ++ [binding.dataBoundaryId] } := by
  unfold assertBinding
  simp only [bind_ok, pure_ok, throwUnless_ok, exists_unit, assertTenancy_ok, Bool.not_eq_true', List.contains_eq_mem,
    decide_eq_false_iff_not, bne_iff_ne, Bool.and_eq_false_iff, beq_eq_false_iff_ne]
  constructor
  · rintro ⟨hid, hservice, hdata, paired, ⟨htenancy, hfresh, rfl⟩, hidentities, hboundaries, hbackups, rfl⟩
    refine ⟨hid, hservice, hdata, ⟨htenancy, hidentities, hboundaries, fun henvironment => ?_⟩, hfresh, rfl⟩
    rcases hbackups with hother | hdays
    · exact absurd henvironment hother
    · omega
  · rintro ⟨hid, hservice, hdata, hsound, hfresh, rfl⟩
    refine ⟨hid, hservice, hdata, _, ⟨hsound.tenancy, hfresh, rfl⟩, hsound.identities, hsound.boundaries, ?_, rfl⟩
    by_cases henvironment : intent.environment = .production
    · have hdays := hsound.backups henvironment
      exact Or.inr (by omega)
    · exact Or.inl henvironment

/-! ## The loop -/

/-- **Every binding of an accepted intent is sound.** -/
theorem assertBindings_each {bindings : List ManagedPostgresBinding} :
    ∀ {seen : SeenBindings}, assertBindingsFrom intent seen bindings = .ok () →
      ∀ b ∈ bindings, BindingSound intent b := by
  induction bindings with
  | nil => exact fun _ _ h => absurd h List.not_mem_nil
  | cons binding rest ih =>
    intro seen h
    obtain ⟨seen', hone, hrest⟩ := bind_ok.1 h
    obtain ⟨-, -, -, hsound, -⟩ := assertBinding_ok.1 hone
    exact List.forall_mem_cons.2 ⟨hsound, ih hrest⟩

/-- The pairs of the bindings that were seen are recorded in both directions. -/
def TenancyPairs (seen : SeenBindings) (bindings : List ManagedPostgresBinding) : Prop :=
  ∀ b ∈ bindings, ∀ t, b.tenancy = some t → seen.applicationTenants.get? t.applicationId = some t.platformTenantId ∧
    seen.tenantApplications.get? t.platformTenantId = some t.applicationId

/-- The names of a tenancy are not empty. -/
def Named (bindings : List ManagedPostgresBinding) : Prop :=
  ∀ b ∈ bindings, ∀ t, b.tenancy = some t → t.applicationId ≠ "" ∧ t.platformTenantId ≠ ""

/-- One binding more leaves the pairs as they were and adds its own. -/
theorem TenancyPairs.step {done : List ManagedPostgresBinding} (hpaired : TenancyPairs seen done) (hnamed : Named done)
    (hfresh : ∀ t, binding.tenancy = some t → Fresh seen t) : TenancyPairs (seen.pair binding.tenancy) (done ++ [binding]) := by
  cases htenancy : binding.tenancy with
  | none =>
    intro b hb t ht
    rcases List.mem_append.1 hb with hb | hb
    · exact hpaired b hb t ht
    · obtain rfl := List.mem_singleton.1 hb
      rw [htenancy] at ht
      cases ht
  | some new =>
    obtain ⟨hplatform, happlication⟩ := hfresh new htenancy
    intro b hb t ht
    rcases List.mem_append.1 hb with hb | hb
    · obtain ⟨hforth, hback⟩ := hpaired b hb t ht
      obtain ⟨hne, hne'⟩ := hnamed b hb t ht
      -- an earlier pair with the same application has the same platform tenant, and the other way
      have hkeeps : t.applicationId = new.applicationId → t.platformTenantId = new.platformTenantId := by
        intro heq
        have hseen := otherThan_eq_false.1 hplatform t.platformTenantId (heq ▸ hforth)
        exact hseen.resolve_left hne'
      have hkeeps' : t.platformTenantId = new.platformTenantId → t.applicationId = new.applicationId := by
        intro heq
        have hseen := otherThan_eq_false.1 happlication t.applicationId (heq ▸ hback)
        exact hseen.resolve_left hne
      simp only [SeenBindings.pair, Record.get?_set]
      constructor
      · by_cases heq : t.applicationId = new.applicationId
        · rw [if_pos heq, hkeeps heq]
        · rw [if_neg heq, hforth]
      · by_cases heq : t.platformTenantId = new.platformTenantId
        · rw [if_pos heq, hkeeps' heq]
        · rw [if_neg heq, hback]
    · obtain rfl := List.mem_singleton.1 hb
      obtain rfl : new = t := Option.some.inj (htenancy.symm.trans ht)
      simp [SeenBindings.pair]

theorem TenancyPairs.run {bindings : List ManagedPostgresBinding} : ∀ {seen : SeenBindings}
    {done : List ManagedPostgresBinding}, TenancyPairs seen done → Named (done ++ bindings) →
      assertBindingsFrom intent seen bindings = .ok () → ∃ last, TenancyPairs last (done ++ bindings) := by
  induction bindings with
  | nil =>
    intro seen done hpaired _ _
    rw [List.append_nil]
    exact ⟨seen, hpaired⟩
  | cons binding rest ih =>
    intro seen done hpaired hnamed h
    obtain ⟨seen', hone, hrest⟩ := bind_ok.1 h
    obtain ⟨-, -, -, -, hfresh, rfl⟩ := assertBinding_ok.1 hone
    have hdone : Named done := fun b hb => hnamed b (List.mem_append_left _ hb)
    have hstep := hpaired.step hdone hfresh
    rw [List.append_cons] at hnamed ⊢
    -- the other three lists do not matter to the pairs
    have hnext : TenancyPairs { seen.pair binding.tenancy with
        ids := seen.ids ++ [binding.id]
        serviceRefs := seen.serviceRefs ++ [codeflyServiceRef binding]
        dataBoundaries := seen.dataBoundaries ++ [binding.dataBoundaryId] } (done ++ [binding]) := hstep
    exact ih hnext hnamed hrest

/-- **Applications and platform tenants are paired one to one.** -/
theorem assertBindings_pairs {bindings : List ManagedPostgresBinding} (hnamed : Named bindings)
    (h : assertBindingsFrom intent SeenBindings.none bindings = .ok ()) :
    ∀ b ∈ bindings, ∀ c ∈ bindings, ∀ t u, b.tenancy = some t → c.tenancy = some u →
      (t.applicationId = u.applicationId ↔ t.platformTenantId = u.platformTenantId) := by
  have hstart : TenancyPairs SeenBindings.none [] := fun b hb => absurd hb List.not_mem_nil
  obtain ⟨last, hpaired⟩ := hstart.run hnamed h
  intro b hb c hc t u ht hu
  obtain ⟨hforth, hback⟩ := hpaired b hb t ht
  obtain ⟨hforth', hback'⟩ := hpaired c hc u hu
  constructor
  · intro heq
    rw [heq, hforth'] at hforth
    exact (Option.some.inj hforth).symm
  · intro heq
    rw [heq, hback'] at hback
    exact (Option.some.inj hback).symm

/-! ## What the parser reads -/

/-- The names of an accepted binding. -/
theorem parseBinding_named {apiVersion : ManagedPostgresApiVersion} {value : Value} {path : String}
    (h : parseBinding apiVersion value path = .ok binding) :
    ∀ t, binding.tenancy = some t → t.applicationId ≠ "" ∧ t.platformTenantId ≠ "" := by
  unfold parseBinding at h
  obtain ⟨input, -, h⟩ := bind_ok.1 h
  obtain ⟨objects, -, h⟩ := bind_ok.1 h
  obtain ⟨tenancyInput, hinput, h⟩ := bind_ok.1 h
  obtain ⟨tenantId, htenant, h⟩ := bind_ok.1 h
  obtain ⟨id, -, h⟩ := bind_ok.1 h
  obtain ⟨tenancy, htenancy, h⟩ := bind_ok.1 h
  have hkept : binding.tenancy = tenancy := by
    unfold bindingMembers at h
    simp only [bind_ok, pure_ok] at h
    obtain ⟨_, -, _, -, _, -, _, -, _, -, _, -, _, -, rfl⟩ := h
    rfl
  rw [hkept]
  intro t ht
  cases tenancyInput with
  | none =>
    obtain rfl := pure_ok.1 htenancy
    cases ht
  | some tenancyInput =>
    have happlication := (nameValue_ok.1 htenant).2
    simp only [parseTenancy, bind_ok, pure_ok] at htenancy
    obtain ⟨organizationId, -, platformTenantId, hplatform, resourceOwnerId, -, rfl⟩ := htenancy
    obtain rfl := Option.some.inj ht
    exact ⟨isName_ne happlication, isName_ne (nameValue_ok.1 hplatform).2⟩

theorem parseEntries_mem {α : Type} {parse : Check String α} {path : String} {vs : List Value} :
    ∀ {index : ℕ} {l : List α}, parseEntries parse path index vs = .ok l →
      ∀ a ∈ l, ∃ v ∈ vs, ∃ place, parse v place = .ok a := by
  induction vs with
  | nil =>
    intro index l h
    obtain rfl : [] = l := Except.ok.inj h
    exact fun a ha => absurd ha List.not_mem_nil
  | cons v rest ih =>
    intro index l h
    obtain ⟨a, ha, h⟩ := bind_ok.1 h
    obtain ⟨others, hothers, h⟩ := bind_ok.1 h
    obtain rfl := pure_ok.1 h
    refine List.forall_mem_cons.2 ⟨⟨v, List.mem_cons_self, _, ha⟩, fun b hb => ?_⟩
    obtain ⟨w, hw, place, hb⟩ := ih hothers b hb
    exact ⟨w, List.mem_cons_of_mem v hw, place, hb⟩

/-- Every binding of an accepted intent was read from a value, and the whole passed its check. -/
theorem parseManagedPostgresIntent_source {value : Value} {environment : ManagedPostgresEnvironment}
    {blueprint : Option PlatformBlueprint}
    (h : parseManagedPostgresIntent dates value environment blueprint = .ok intent) :
    (∀ b ∈ intent.bindings, ∃ apiVersion v path, parseBinding apiVersion v path = .ok b) ∧
      assertManagedPostgresIntent dates intent blueprint = .ok () := by
  obtain ⟨parsed, hmembers, h⟩ := bind_ok.1 h
  obtain ⟨⟨⟩, hassert, h⟩ := bind_ok.1 h
  obtain rfl := pure_ok.1 h
  refine ⟨?_, hassert⟩
  unfold intentMembers at hmembers
  simp only [bind_ok, pure_ok] at hmembers
  obtain ⟨root, -, apiVersion, -, _, -, _, -, _, -, _, -, _, -, bindings, hbindings, rfl⟩ := hmembers
  intro b hb
  have hentries : ∃ vs, parseEntries (parseBinding apiVersion) "bindings" 0 vs = .ok bindings := by
    unfold arrayValue at hbindings
    split at hbindings
    · exact ⟨_, hbindings⟩
    · cases hbindings
  obtain ⟨vs, hvs⟩ := hentries
  obtain ⟨v, -, place, hparse⟩ := parseEntries_mem hvs b hb
  exact ⟨apiVersion, v, place, hparse⟩

/-- The names in the bindings of an accepted intent, and the check that it passed. -/
theorem parseManagedPostgresIntent_ok {value : Value} {environment : ManagedPostgresEnvironment}
    {blueprint : Option PlatformBlueprint}
    (h : parseManagedPostgresIntent dates value environment blueprint = .ok intent) :
    Named intent.bindings ∧ assertManagedPostgresIntent dates intent blueprint = .ok () := by
  obtain ⟨hsource, hassert⟩ := parseManagedPostgresIntent_source h
  refine ⟨fun b hb => ?_, hassert⟩
  obtain ⟨apiVersion, v, path, hparse⟩ := hsource b hb
  exact parseBinding_named hparse

/-! ## What a blueprint keeps apart -/

/-- The component that a binding was placed at. -/
theorem placed_component (h : assertBindingPlaced blueprint binding = .ok ()) :
    ∃ application ∈ blueprint.applications, application.id = binding.tenantId ∧
      ∃ component ∈ application.components, component.serviceIdentityId = binding.access.runtimeIdentityId := by
  unfold assertBindingPlaced at h
  split at h
  · cases h
  · simp only [bind_ok, throwUnless_ok, exists_unit, Option.any_eq_true] at h
    obtain ⟨-, -, -, ⟨application, hfound, hbinds⟩, -⟩ := h
    have hmem : application ∈ blueprint.applications := by
      obtain ⟨source, hsource, heq⟩ := List.mem_map.1 (Record.mem_of_fromEntries_get? hfound)
      exact (Prod.mk.inj heq).2 ▸ hsource
    unfold bindsComponent at hbinds
    rw [Bool.and_eq_true, beq_iff_eq] at hbinds
    obtain ⟨hid, hcomponent⟩ := hbinds
    refine ⟨application, hmem, hid, ?_⟩
    split at hcomponent
    · cases hcomponent
    · rename_i component hfind
      obtain ⟨-, hruntime⟩ := Bool.and_eq_true_iff.1 hcomponent
      exact ⟨component, List.mem_of_find?_eq_some hfind, beq_iff_eq.1 hruntime⟩

/-- The migration identity of a binding belongs to an automation. -/
theorem placed_migration (h : assertBindingPlaced blueprint binding = .ok ()) :
    ∃ identity, (identitiesById blueprint).get? binding.access.migrationIdentityId = some identity ∧
      identity.kind = .automation := by
  unfold assertBindingPlaced at h
  split at h
  · cases h
  · simp only [bind_ok, throwUnless_ok, exists_unit, Option.any_eq_true] at h
    obtain ⟨-, -, -, -, identity, hidentity, hkind⟩ := h
    rw [Bool.and_eq_true, beq_iff_eq] at hkind
    exact ⟨identity, hidentity, hkind.1⟩

/-- **Runtime identities of different tenants differ**, and none of them is a migration identity. -/
theorem runtime_apart (hblueprint : assertBlueprint dates blueprint = .ok ()) {b c : ManagedPostgresBinding}
    (hb : assertBindingPlaced blueprint b = .ok ()) (hc : assertBindingPlaced blueprint c = .ok ()) :
    b.access.runtimeIdentityId ≠ c.access.migrationIdentityId ∧
      (b.tenantId ≠ c.tenantId → b.access.runtimeIdentityId ≠ c.access.runtimeIdentityId) := by
  obtain ⟨hpolicy, -⟩ := assertBlueprint_applications hblueprint
  obtain ⟨application, hmem, hid, component, hcomponent, hruntime⟩ := placed_component hb
  constructor
  · obtain ⟨identity, hidentity, hkind⟩ := placed_migration hc
    have hworkload := componentIdentity_workload hpolicy hmem hcomponent
    intro heq
    rw [hruntime, heq] at hworkload
    obtain ⟨found, hfound, hfoundKind⟩ := hworkload
    obtain rfl : identity = found := Option.some.inj (hidentity.symm.trans hfound)
    rw [hkind] at hfoundKind
    cases hfoundKind
  · intro htenants heq
    obtain ⟨other, hother, hid', component', hcomponent', hruntime'⟩ := placed_component hc
    have hne : application ≠ other := by
      rintro rfl
      exact htenants (hid.symm.trans hid')
    have hapart := componentIdentities_apart hpolicy hmem hother hne hcomponent hcomponent'
    exact hapart (hruntime.trans (heq.trans hruntime'.symm))

/-! ## When the tenants are separated -/

/-- **The tenants of an accepted intent are separated exactly if nothing that the parser does not compare is shared.** -/
theorem tenants_separated_iff (dates : Dates) (value : Value) (environment : ManagedPostgresEnvironment)
    (blueprint : Option PlatformBlueprint) (intent : ManagedPostgresIntent)
    (h : parseManagedPostgresIntent dates value environment blueprint = .ok intent) :
    Separated intent ↔ Unshared blueprint intent := by
  obtain ⟨hnamed, hassert⟩ := parseManagedPostgresIntent_ok h
  obtain ⟨⟨⟩, -, hassert⟩ := bind_ok.1 hassert
  obtain ⟨⟨⟩, hbindings, hplaced⟩ := bind_ok.1 hassert
  have hsound := assertBindings_each hbindings
  have hids := (assertBindingsFrom_ids hbindings).1
  -- two bindings with one id are the same binding
  have hsame : ∀ b ∈ intent.bindings, ∀ c ∈ intent.bindings, b.id = c.id → b = c :=
    fun b hb c hc heq => List.inj_on_of_nodup_map hids hb hc heq
  constructor
  · intro hseparated
    refine ⟨fun b hb c hc hne heq => ?_, hseparated.boundaries, fun b hb c hc _ => hseparated.boundaryKinds b hb c hc,
      ?_, fun _ b hb c hc _ => ⟨hseparated.identityKinds b hb c hc, fun hne heq => ?_⟩⟩
    · refine hseparated.identities b hb c hc hne b.access.migrationIdentityId (by simp [ManagedPostgresAccess.identityIds]) ?_
      rw [heq]
      simp [ManagedPostgresAccess.identityIds]
    · intro b hb c hc t u ht hu happlication
      have hversion : intent.apiVersion = .v1alpha2 := by
        have htenancy := (hsound b hb).tenancy
        cases hversion : intent.apiVersion with
        | v1alpha2 => rfl
        | v1alpha1 =>
          rw [hversion] at htenancy
          rw [htenancy.eq_none] at ht
          cases ht
      obtain ⟨t', u', ht', hu', hiff⟩ := hseparated.tenancies hversion b hb c hc
      obtain rfl : t = t' := Option.some.inj (ht.symm.trans ht')
      obtain rfl : u = u' := Option.some.inj (hu.symm.trans hu')
      exact (hiff.1 happlication).1
    · refine hseparated.identities b hb c hc hne b.access.runtimeIdentityId (by simp [ManagedPostgresAccess.identityIds]) ?_
      rw [heq]
      simp [ManagedPostgresAccess.identityIds]
  · intro hunshared
    have hruntime : ∀ b ∈ intent.bindings, ∀ c ∈ intent.bindings,
        b.access.runtimeIdentityId ≠ c.access.migrationIdentityId ∧
          (b.tenantId ≠ c.tenantId → b.access.runtimeIdentityId ≠ c.access.runtimeIdentityId) := by
      intro b hb c hc
      cases blueprint with
      | some blueprint =>
        obtain ⟨⟨⟩, hblueprint, hplaced⟩ := bind_ok.1 hplaced
        exact runtime_apart hblueprint (forM_ok.1 hplaced b hb) (forM_ok.1 hplaced c hc)
      | none =>
        by_cases hid : b.id = c.id
        · obtain rfl := hsame b hb c hc hid
          exact ⟨(hsound b hb).identities, fun hne => absurd rfl hne⟩
        · exact hunshared.runtimes rfl b hb c hc hid
    refine ⟨?_, hunshared.boundaries, fun b hb c hc => (hruntime b hb c hc).1, ?_, ?_⟩
    · intro b hb c hc hne
      obtain ⟨hforth, hruntimes⟩ := hruntime b hb c hc
      have hback := (hruntime c hc b hb).1
      have hmigrations := hunshared.migrations b hb c hc hne
      simp only [ManagedPostgresAccess.identityIds, List.mem_cons, List.not_mem_nil, or_false, not_or]
      rintro id (rfl | rfl)
      · exact ⟨hruntimes hne, hforth⟩
      · exact ⟨hback.symm, hmigrations⟩
    · intro b hb c hc
      by_cases hid : b.id = c.id
      · obtain rfl := hsame b hb c hc hid
        exact (hsound b hb).boundaries
      · exact hunshared.boundaryKinds b hb c hc hid
    · intro hversion b hb c hc
      have htenancy : ∀ d ∈ intent.bindings, ∃ t, d.tenancy = some t := by
        intro d hd
        have hfits := (hsound d hd).tenancy
        rw [hversion] at hfits
        exact hfits.exists
      obtain ⟨t, ht⟩ := htenancy b hb
      obtain ⟨u, hu⟩ := htenancy c hc
      have hpairs := assertBindings_pairs hnamed hbindings b hb c hc t u ht hu
      refine ⟨t, u, ht, hu, fun heq => ⟨hunshared.organizations b hb c hc t u ht hu heq, hpairs.1 heq⟩, ?_⟩
      rintro ⟨-, heq⟩
      exact hpairs.2 heq

/-! ## Two tenants -/

/-- The value that a person writes for an intent. -/
def rawIntent (intent : ManagedPostgresIntent) : Value := .object [
  ("apiVersion", .string intent.apiVersion.text),
  ("name", .string intent.name),
  ("broker", managedPostgresBroker),
  ("plugin", intent.plugin.toValue),
  ("bindings", .array (intent.bindings.map ManagedPostgresBinding.toValue))]

def tenantBinding (tenant migration : String) : ManagedPostgresBinding where
  id := s!"{tenant}-db"
  tenantId := tenant
  tenancy := none
  dataBoundaryId := s!"{tenant}-data"
  codefly := { workspaceName := "main", moduleName := tenant, serviceName := "db" }
  database := { name := "app", majorVersion := "16", extensions := ["pgcrypto"] }
  provisioning := { backupRetentionDays := 14, restoreTestIntervalDays := 30 }
  access := {
    runtimeIdentityId := s!"{tenant}-run"
    migrationIdentityId := migration
    networkAccess := { runtimeBoundaryId := s!"{tenant}-net", migrationBoundaryId := s!"{tenant}-mig" } }

/-- Two tenants, each with a migration identity. -/
def tenantsIntent (migration other : String) : ManagedPostgresIntent where
  apiVersion := .v1alpha1
  name := "main"
  environment := .production
  plugin := { publisher := "codefly", version := "1.0.0" }
  bindings := [tenantBinding "shop" migration, tenantBinding "bank" other]

def parseTenants (migration other : String) : Except String ManagedPostgresIntent :=
  parseManagedPostgresIntent sampleDates (rawIntent (tenantsIntent migration other)) .production none

/-- The tenants and their identities. -/
def ManagedPostgresIntent.tenants (intent : ManagedPostgresIntent) : List (String × List String) :=
  intent.bindings.map fun binding => (binding.tenantId, binding.access.identityIds)

theorem parseTenants_tenants :
    (parseTenants "shop-admin" "bank-admin").toOption.map ManagedPostgresIntent.tenants =
        some [("shop", ["shop-run", "shop-admin"]), ("bank", ["bank-run", "bank-admin"])] ∧
      (parseTenants "admin" "admin").toOption.map ManagedPostgresIntent.tenants =
        some [("shop", ["shop-run", "admin"]), ("bank", ["bank-run", "admin"])] := by
  decide +kernel

theorem exists_of_tenants {parsed : Except String ManagedPostgresIntent} {tenants : List (String × List String)}
    (h : parsed.toOption.map ManagedPostgresIntent.tenants = some tenants) :
    ∃ intent, parsed = .ok intent ∧ intent.tenants = tenants := by
  cases parsed with
  | error message => cases h
  | ok intent => exact ⟨intent, rfl, Option.some.inj h⟩

theorem tenants_separated_sample : ∃ intent, parseTenants "shop-admin" "bank-admin" = .ok intent ∧
    (Separated intent ↔ Unshared none intent) := by
  obtain ⟨intent, h, -⟩ := exists_of_tenants parseTenants_tenants.1
  exact ⟨intent, h, tenants_separated_iff _ _ _ _ _ h⟩

/-- **Two tenants that migrate with one identity are accepted.** -/
theorem tenants_not_separated : ¬ ∀ (dates : Dates) (value : Value) (environment : ManagedPostgresEnvironment)
    (blueprint : Option PlatformBlueprint) (intent : ManagedPostgresIntent),
    parseManagedPostgresIntent dates value environment blueprint = .ok intent → Separated intent := by
  intro hclaim
  obtain ⟨intent, h, htenants⟩ := exists_of_tenants parseTenants_tenants.2
  have hseparated := hclaim _ _ _ _ intent h
  have hshop : ("shop", ["shop-run", "admin"]) ∈ intent.tenants := by
    rw [htenants]
    exact List.mem_cons_self
  have hbank : ("bank", ["bank-run", "admin"]) ∈ intent.tenants := by
    rw [htenants]
    exact List.mem_cons_of_mem _ List.mem_cons_self
  obtain ⟨shop, hshop, heq⟩ := List.mem_map.1 hshop
  obtain ⟨bank, hbank, heq'⟩ := List.mem_map.1 hbank
  obtain ⟨hshopTenant, hshopIds⟩ := Prod.mk.inj heq
  obtain ⟨hbankTenant, hbankIds⟩ := Prod.mk.inj heq'
  have hne : shop.tenantId ≠ bank.tenantId := by
    rw [hshopTenant, hbankTenant]
    decide
  refine hseparated.identities shop hshop bank hbank hne "admin" ?_ ?_
  · rw [hshopIds]
    exact List.mem_cons_of_mem _ List.mem_cons_self
  · rw [hbankIds]
    exact List.mem_cons_of_mem _ List.mem_cons_self

end SecureSaas.Database
