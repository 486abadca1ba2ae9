import SecureSaas.Database.PostgresTenants

/-!
# From `v1alpha1` to `v1alpha2` (`migrateManagedPostgresV1alpha1ToV1alpha2`)

The migration replaces the tenant of each binding by a tenancy record and parses what it made once more. The mapping
gives each application its platform tenant.

* `parseBinding_migrated`: a migrated binding is parsed to the binding with its tenancy.
* `assertManagedPostgresIntent_upgraded`: when the migrated intent passes the checks across bindings.
* `migration_spec`: **when a migration succeeds, and what it keeps.**
* `migration_not_total`: a mapping with valid tenants alone does not suffice.
-/

namespace SecureSaas.Database

open Js Blueprint

structure ManagedPostgresV1alpha1MigrationOptions where
  environment : ManagedPostgresEnvironment
  organizationId : String
  platformTenantIds : Record String
  blueprint : Option PlatformBlueprint

/-- `options.platformTenantIds[tenantId]`. A member that the object inherits is no string either. -/
def ManagedPostgresV1alpha1MigrationOptions.platformTenant (options : ManagedPostgresV1alpha1MigrationOptions)
    (tenantId : String) : Value :=
  ((options.platformTenantIds.get? tenantId).map Value.string).getD .undefined

/-- `{ ...rest, tenancy }` without the member `tenantId`. -/
def migratedBinding (tenancy : ManagedPostgresTenancy) : Value → Value
  | .object properties =>
    .object (Record.assign "tenancy" tenancy.toValue (properties.filter fun p => p.1 ≠ "tenantId"))
  | _ => .object [("tenancy", tenancy.toValue)]

def migrateBinding (options : ManagedPostgresV1alpha1MigrationOptions) (organizationId : String)
    (binding : ManagedPostgresBinding) (raw : Value) : Except String Value := do
  let platformTenantId ← nameValue (options.platformTenant binding.tenantId)
    s!"migration.platformTenantIds.{binding.tenantId}"
  return migratedBinding {
    organizationId, platformTenantId
    applicationId := binding.tenantId
    resourceOwnerId := binding.access.runtimeIdentityId } raw

/-- The bindings with the values they were parsed from. -/
def migrateBindings (options : ManagedPostgresV1alpha1MigrationOptions) (organizationId : String) :
    List ManagedPostgresBinding → List Value → Except String (List Value)
  | binding :: bindings, raw :: raws => do
    let migrated ← migrateBinding options organizationId binding raw
    let rest ← migrateBindings options organizationId bindings raws
    return migrated :: rest
  | _, _ => return []

/-- `{ ...raw, apiVersion, bindings }`. -/
def migratedRoot (root : List (String × Value)) (bindings : List Value) : Value :=
  .object (Record.assign "bindings" (.array bindings)
    (Record.assign "apiVersion" (.string ManagedPostgresApiVersion.v1alpha2.text) root))

def rawMembers : Value → List (String × Value)
  | .object properties => properties
  | _ => []

def rawItems : Value → List Value
  | .array items => items
  | _ => []

def migrateManagedPostgresV1alpha1ToV1alpha2 (dates : Dates) (value : Value)
    (options : ManagedPostgresV1alpha1MigrationOptions) : Except String Value := do
  let source ← parseManagedPostgresIntent dates value options.environment options.blueprint
  throwUnless (source.apiVersion == .v1alpha1)
    "MANAGED_POSTGRES_MIGRATION_SOURCE_DENIED: source must be v1alpha1."
  let organizationId ← nameValue (.string options.organizationId) "migration.organizationId"
  let root := rawMembers value
  let bindings ← migrateBindings options organizationId source.bindings (rawItems (Value.get root "bindings"))
  let migrated := migratedRoot root bindings
  let _ ← parseManagedPostgresIntent dates migrated options.environment options.blueprint
  return migrated

/-! ## What a migration is for -/

/-- The tenancy of a binding, for platform tenants that a function gives. -/
def ManagedPostgresBinding.tenancyOf (binding : ManagedPostgresBinding) (organizationId : String)
    (platform : String → String) : ManagedPostgresTenancy where
  organizationId := organizationId
  platformTenantId := platform binding.tenantId
  applicationId := binding.tenantId
  resourceOwnerId := binding.access.runtimeIdentityId

def ManagedPostgresBinding.upgraded (organizationId : String) (platform : String → String)
    (binding : ManagedPostgresBinding) : ManagedPostgresBinding :=
  { binding with tenancy := some (binding.tenancyOf organizationId platform) }

/-- The intent in the new version: only the version and the tenancy records are new. -/
def ManagedPostgresIntent.upgraded (intent : ManagedPostgresIntent) (organizationId : String)
    (platform : String → String) : ManagedPostgresIntent :=
  { intent with
    apiVersion := .v1alpha2
    bindings := intent.bindings.map (ManagedPostgresBinding.upgraded organizationId platform) }

/-- The mapping gives the applications of an intent names, and no two of them the same. -/
structure Maps (options : ManagedPostgresV1alpha1MigrationOptions) (intent : ManagedPostgresIntent) : Prop where
  names : ∀ b ∈ intent.bindings, ∃ name, options.platformTenantIds.get? b.tenantId = some name ∧ isName name = true
  distinct : ∀ b ∈ intent.bindings, ∀ c ∈ intent.bindings,
    options.platformTenantIds.get? b.tenantId = options.platformTenantIds.get? c.tenantId → b.tenantId = c.tenantId

/-- The platform tenants of a mapping. -/
def ManagedPostgresV1alpha1MigrationOptions.platform (options : ManagedPostgresV1alpha1MigrationOptions)
    (tenantId : String) : String :=
  (options.platformTenantIds.get? tenantId).getD ""

variable {dates : Dates} {options : ManagedPostgresV1alpha1MigrationOptions} {organizationId : String}
  {platform : String → String} {binding : ManagedPostgresBinding} {intent : ManagedPostgresIntent}

/-! ## A migrated binding is parsed -/

/-- Only the tenant and its record are other members of the migrated object. -/
theorem get_migrated {tenancy : Value} {input : List (String × Value)} {key : String} (h : key ≠ "tenancy")
    (h' : key ≠ "tenantId") :
    Value.get (Record.assign "tenancy" tenancy (input.filter fun p => p.1 ≠ "tenantId")) key =
      Value.get input key := by
  unfold Value.get
  rw [Record.lookup_assign, if_neg h, Record.lookup_filter_ne h']

theorem get_tenancy {tenancy : Value} {input : List (String × Value)} :
    Value.get (Record.assign "tenancy" tenancy input) "tenancy" = tenancy := by
  rw [Value.get, Record.lookup_assign, if_pos rfl, Option.getD_some]

/-- The migrated object has the fields of the new version. -/
theorem objectValue_migrated {value : Value} {path : String} {input : List (String × Value)} {tenancy : Value}
    (h : objectValue value path (bindingFields .v1alpha1) = .ok input) :
    objectValue (.object (Record.assign "tenancy" tenancy (input.filter fun p => p.1 ≠ "tenantId"))) path
      (bindingFields .v1alpha2) = .ok (Record.assign "tenancy" tenancy (input.filter fun p => p.1 ≠ "tenantId")) := by
  obtain ⟨-, hhas, honly⟩ := objectValue_ok.1 h
  have hkeys : ∀ key, key ∈ (Record.assign "tenancy" tenancy (input.filter fun p => p.1 ≠ "tenantId")).map Prod.fst ↔
      key = "tenancy" ∨ key ≠ "tenantId" ∧ key ∈ input.map Prod.fst := by
    intro key
    rw [Record.mem_keys_assign]
    simp only [List.mem_map, List.mem_filter, decide_eq_true_eq]
    constructor
    · rintro (rfl | ⟨p, ⟨hp, hne⟩, rfl⟩)
      · exact Or.inl rfl
      · exact Or.inr ⟨hne, p, hp, rfl⟩
    · rintro (rfl | ⟨hne, p, hp, rfl⟩)
      · exact Or.inl rfl
      · exact Or.inr ⟨p, ⟨hp, hne⟩, rfl⟩
  refine objectValue_ok.2 ⟨rfl, fun field hfield => ?_, fun p hp => ?_⟩
  · refine List.contains_iff_mem.2 ((hkeys field).2 ?_)
    by_cases hnew : field = "tenancy"
    · exact Or.inl hnew
    · -- every other field of the new version is one of the old
      have hold : field ∈ bindingFields .v1alpha1 ∧ field ≠ "tenantId" := by
        simp only [bindingFields, List.mem_cons, List.not_mem_nil, or_false] at hfield ⊢
        rcases hfield with rfl | rfl | rfl | rfl | rfl | rfl | rfl | rfl | rfl <;> simp_all
      exact Or.inr ⟨hold.2, List.contains_iff_mem.1 (hhas field hold.1)⟩
  · rcases (hkeys p.1).1 (List.mem_map_of_mem hp) with hnew | ⟨hne, hmem⟩
    · rw [hnew]
      decide
    · obtain ⟨q, hq, heq⟩ := List.mem_map.1 hmem
      have hold := honly q hq
      rw [heq] at hold
      simp only [bindingFields, List.mem_cons, List.not_mem_nil, or_false] at hold ⊢
      tauto

/-- The tenancy of a binding is kept aside while its other members are read. -/
theorem bindingMembers_tenancy {id tenantId path : String} {tenancy : Option ManagedPostgresTenancy} {data : Value}
    {objects : BindingObjects} (h : bindingMembers id tenantId tenancy data objects path = .ok binding)
    (other : Option ManagedPostgresTenancy) : binding.tenantId = tenantId ∧ binding.tenancy = tenancy ∧
      isName binding.access.runtimeIdentityId = true ∧
      bindingMembers id tenantId other data objects path = .ok { binding with tenancy := other } := by
  unfold bindingMembers at h ⊢
  simp only [bind_ok, pure_ok] at h
  obtain ⟨dataBoundaryId, hdata, codefly, hcodefly, database, hdatabase, provisioning, hprovisioning, access, haccess,
    ⟨⟩, houtputs, ⟨⟩, haudit, rfl⟩ := h
  have hruntime : isName access.runtimeIdentityId = true := by
    unfold parseAccess at haccess
    obtain ⟨runtimeIdentityId, hruntime, haccess⟩ := bind_ok.1 haccess
    simp only [bind_ok, pure_ok] at haccess
    obtain ⟨_, -, _, -, _, -, _, -, _, -, _, -, _, -, rfl⟩ := haccess
    exact (nameValue_ok.1 hruntime).2
  refine ⟨rfl, rfl, hruntime, ?_⟩
  simp only [bind_ok, pure_ok]
  exact ⟨_, hdata, _, hcodefly, _, hdatabase, _, hprovisioning, _, haccess, _, houtputs, _, haudit, rfl⟩

theorem tenancyObject_toValue {input : List (String × Value)} {path : String} (tenancy : ManagedPostgresTenancy)
    (h : Value.get input "tenancy" = tenancy.toValue) :
    tenancyObject .v1alpha2 input path = .ok (some (rawMembers tenancy.toValue)) := by
  refine bind_ok.2 ⟨rawMembers tenancy.toValue, objectValue_ok.2 ⟨h, ?_, ?_⟩, rfl⟩
  · simp [rawMembers, ManagedPostgresTenancy.toValue, Value.has]
  · simp [rawMembers, ManagedPostgresTenancy.toValue]

theorem parseTenancy_toValue {tenancy : ManagedPostgresTenancy} {path : String}
    (horganization : isName tenancy.organizationId = true) (hplatform : isName tenancy.platformTenantId = true)
    (howner : isName tenancy.resourceOwnerId = true) :
    parseTenancy (some (rawMembers tenancy.toValue)) tenancy.applicationId path = .ok (some tenancy) := by
  unfold parseTenancy
  simp only [bind_ok, pure_ok]
  exact ⟨_, nameValue_ok.2 ⟨rfl, horganization⟩, _, nameValue_ok.2 ⟨rfl, hplatform⟩, _, nameValue_ok.2 ⟨rfl, howner⟩,
    rfl⟩

/-- **A migrated binding is parsed to the binding with its tenancy.** -/
theorem parseBinding_migrated {value : Value} {path : String} (horganization : isName organizationId = true)
    (hplatform : isName (platform binding.tenantId) = true)
    (h : parseBinding .v1alpha1 value path = .ok binding) :
    parseBinding .v1alpha2 (migratedBinding (binding.tenancyOf organizationId platform) value) path =
      .ok (binding.upgraded organizationId platform) := by
  unfold parseBinding at h
  obtain ⟨input, hobject, h⟩ := bind_ok.1 h
  obtain ⟨objects, hobjects, h⟩ := bind_ok.1 h
  obtain ⟨tenancyInput, hinput, h⟩ := bind_ok.1 h
  obtain rfl := pure_ok.1 hinput
  obtain ⟨tenantId, htenant, h⟩ := bind_ok.1 h
  obtain ⟨id, hid, h⟩ := bind_ok.1 h
  obtain ⟨tenancy, htenancy, h⟩ := bind_ok.1 h
  obtain rfl := pure_ok.1 htenancy
  obtain ⟨rfl, -, hruntime, hmembers⟩ := bindingMembers_tenancy h (some (binding.tenancyOf organizationId platform))
  have hname : isName binding.tenantId = true := (nameValue_ok.1 htenant).2
  obtain ⟨rfl, -, -⟩ := objectValue_ok.1 hobject
  -- the new object differs from the old one in its tenancy only
  set tenancy := binding.tenancyOf organizationId platform with htenancy
  have hget : ∀ key, key ≠ "tenancy" → key ≠ "tenantId" →
      Value.get (Record.assign "tenancy" tenancy.toValue (input.filter fun p => p.1 ≠ "tenantId")) key =
        Value.get input key := fun key h h' => get_migrated h h'
  unfold parseBinding
  refine bind_ok.2 ⟨_, objectValue_migrated hobject, bind_ok.2 ⟨objects, ?_, bind_ok.2 ⟨_,
    tenancyObject_toValue tenancy get_tenancy, bind_ok.2 ⟨binding.tenantId, nameValue_ok.2 ⟨rfl, hname⟩,
      bind_ok.2 ⟨id, ?_, bind_ok.2 ⟨some tenancy, parseTenancy_toValue horganization hplatform hruntime, ?_⟩⟩⟩⟩⟩⟩
  · rw [← hobjects]
    unfold bindingObjects
    simp only [hget _ (show "codefly" ≠ "tenancy" by decide) (by decide),
      hget _ (show "database" ≠ "tenancy" by decide) (by decide),
      hget _ (show "provisioning" ≠ "tenancy" by decide) (by decide),
      hget _ (show "access" ≠ "tenancy" by decide) (by decide),
      hget _ (show "outputs" ≠ "tenancy" by decide) (by decide),
      hget _ (show "audit" ≠ "tenancy" by decide) (by decide)]
  · rw [hget _ (by decide) (by decide)]
    exact hid
  · rw [hget _ (by decide) (by decide)]
    exact hmembers

/-- The bindings of a migrated intent. -/
theorem parseEntries_migrated (horganization : isName organizationId = true) {path : String} {raws : List Value} :
    ∀ {index : ℕ} {bindings : List ManagedPostgresBinding},
      parseEntries (parseBinding .v1alpha1) path index raws = .ok bindings →
      (∀ b ∈ bindings, isName (platform b.tenantId) = true) →
      parseEntries (parseBinding .v1alpha2) path index (List.zipWith (fun b raw =>
        migratedBinding (b.tenancyOf organizationId platform) raw) bindings raws) =
          .ok (bindings.map (ManagedPostgresBinding.upgraded organizationId platform)) := by
  induction raws with
  | nil =>
    intro index bindings h _
    obtain rfl : [] = bindings := Except.ok.inj h
    rfl
  | cons raw rest ih =>
    intro index bindings h hnames
    obtain ⟨binding, hone, h⟩ := bind_ok.1 h
    obtain ⟨others, hothers, h⟩ := bind_ok.1 h
    obtain rfl := pure_ok.1 h
    obtain ⟨hname, hnames⟩ := List.forall_mem_cons.1 hnames
    exact bind_ok.2 ⟨_, parseBinding_migrated horganization hname hone, bind_ok.2 ⟨_, ih hothers hnames, rfl⟩⟩

theorem parseEntries_length {α : Type} {parse : Check String α} {path : String} {vs : List Value} :
    ∀ {index : ℕ} {l : List α}, parseEntries parse path index vs = .ok l → l.length = vs.length := by
  induction vs with
  | nil =>
    intro index l h
    obtain rfl : [] = l := Except.ok.inj h
    rfl
  | cons v rest ih =>
    intro index l h
    obtain ⟨a, -, h⟩ := bind_ok.1 h
    obtain ⟨others, hothers, h⟩ := bind_ok.1 h
    obtain rfl := pure_ok.1 h
    rw [List.length_cons, List.length_cons, ih hothers]

/-! ## The checks across bindings -/

variable {tenants : List String} {seen later : SeenBindings}

/-- The pairs that were seen are those of the mapping. -/
def Recorded (platform : String → String) (tenants : List String) (seen : SeenBindings) : Prop :=
  (∀ application tenant, seen.applicationTenants.get? application = some tenant → tenant = platform application) ∧
    ∀ tenant application, seen.tenantApplications.get? tenant = some application →
      tenant = platform application ∧ application ∈ tenants

theorem Recorded.fresh (h : Recorded platform tenants seen)
    (hinj : ∀ a ∈ tenants, ∀ c ∈ tenants, platform a = platform c → a = c) (hmem : binding.tenantId ∈ tenants) :
    Fresh seen (binding.tenancyOf organizationId platform) := by
  constructor
  · refine otherThan_eq_false.2 fun earlier hearlier => Or.inr ?_
    exact h.1 _ _ hearlier
  · refine otherThan_eq_false.2 fun earlier hearlier => Or.inr ?_
    obtain ⟨htenant, hearlier⟩ := h.2 _ _ hearlier
    exact hinj _ hearlier _ hmem htenant.symm

theorem Recorded.step (h : Recorded platform tenants seen) (hmem : binding.tenantId ∈ tenants) :
    Recorded platform tenants (seen.pair (some (binding.tenancyOf organizationId platform))) := by
  constructor
  · intro application tenant hget
    rcases Record.get?_set_some hget with ⟨rfl, rfl⟩ | ⟨-, hold⟩
    · rfl
    · exact h.1 _ _ hold
  · intro tenant application hget
    rcases Record.get?_set_some hget with ⟨rfl, rfl⟩ | ⟨-, hold⟩
    · exact ⟨rfl, hmem⟩
    · exact h.2 _ _ hold

theorem BindingSound.upgraded (h : BindingSound intent binding) :
    BindingSound (intent.upgraded organizationId platform) (binding.upgraded organizationId platform) where
  tenancy := ⟨_, rfl, rfl, rfl⟩
  identities := h.identities
  boundaries := h.boundaries
  backups := h.backups

/-- **The loop over the migrated bindings** goes through, if the mapping tells the tenants apart. -/
theorem assertBindings_upgraded (hinj : ∀ a ∈ tenants, ∀ c ∈ tenants, platform a = platform c → a = c)
    {bindings : List ManagedPostgresBinding} : ∀ {seen later : SeenBindings}, (∀ b ∈ bindings, b.tenantId ∈ tenants) →
      later.ids = seen.ids → later.serviceRefs = seen.serviceRefs → later.dataBoundaries = seen.dataBoundaries →
      Recorded platform tenants later → assertBindingsFrom intent seen bindings = .ok () →
      assertBindingsFrom (intent.upgraded organizationId platform) later
        (bindings.map (ManagedPostgresBinding.upgraded organizationId platform)) = .ok () := by
  induction bindings with
  | nil => exact fun _ _ _ _ _ _ => rfl
  | cons binding rest ih =>
    intro seen later hmem hids hservices hdata hrecorded h
    obtain ⟨hhead, hmem⟩ := List.forall_mem_cons.1 hmem
    obtain ⟨seen', hone, hrest⟩ := bind_ok.1 h
    obtain ⟨hid, hservice, hboundary, hsound, -, rfl⟩ := assertBinding_ok.1 hone
    have hfresh : ∀ t, (binding.upgraded organizationId platform).tenancy = some t → Fresh later t := by
      intro t ht
      obtain rfl := Option.some.inj ht
      exact hrecorded.fresh hinj hhead
    -- the seen ids, services and data boundaries are those of the source
    have hnew : BindingSound (intent.upgraded organizationId platform) (binding.upgraded organizationId platform) :=
      hsound.upgraded
    have hnext := assertBinding_ok.2 ⟨hids ▸ hid, hservices ▸ hservice, hdata ▸ hboundary, hnew, hfresh, rfl⟩
    refine bind_ok.2 ⟨_, hnext, ih hmem ?_ ?_ ?_ (hrecorded.step hhead) hrest⟩
    · exact congrArg (· ++ [binding.id]) hids
    · exact congrArg (· ++ [codeflyServiceRef binding]) hservices
    · exact congrArg (· ++ [binding.dataBoundaryId]) hdata

/-- **The migrated intent passes the checks** that its source passed, if the mapping tells its tenants apart. -/
theorem assertManagedPostgresIntent_upgraded {blueprint : Option PlatformBlueprint}
    (hinj : ∀ b ∈ intent.bindings, ∀ c ∈ intent.bindings, platform b.tenantId = platform c.tenantId →
      b.tenantId = c.tenantId) (h : assertManagedPostgresIntent dates intent blueprint = .ok ()) :
    assertManagedPostgresIntent dates (intent.upgraded organizationId platform) blueprint = .ok () := by
  obtain ⟨⟨⟩, hnonempty, h⟩ := bind_ok.1 h
  obtain ⟨⟨⟩, hbindings, hplaced⟩ := bind_ok.1 h
  have hempty : Recorded platform (intent.bindings.map (·.tenantId)) SeenBindings.none := by
    constructor <;> intro _ _ hget <;> cases hget
  have hdistinct : ∀ a ∈ intent.bindings.map (·.tenantId), ∀ c ∈ intent.bindings.map (·.tenantId),
      platform a = platform c → a = c := by
    simp only [List.forall_mem_map]
    exact hinj
  have hloop : assertBindingsFrom (intent.upgraded organizationId platform) SeenBindings.none
      (intent.upgraded organizationId platform).bindings = .ok () :=
    assertBindings_upgraded hdistinct (fun b hb => List.mem_map_of_mem hb) rfl rfl rfl hempty hbindings
  refine bind_ok.2 ⟨(), ?_, bind_ok.2 ⟨(), hloop, ?_⟩⟩
  · rw [← hnonempty]
    simp [ManagedPostgresIntent.upgraded]
  · cases blueprint with
    | none => exact hplaced
    | some blueprint =>
      obtain ⟨⟨⟩, hblueprint, hplaced⟩ := bind_ok.1 hplaced
      refine bind_ok.2 ⟨(), hblueprint, forM_ok.2 ?_⟩
      intro upgraded hupgraded
      obtain ⟨b, hb, rfl⟩ := List.mem_map.1 hupgraded
      exact forM_ok.1 hplaced b hb

/-! ## The migration -/

theorem migrateBinding_ok {raw migrated : Value} :
    migrateBinding options organizationId binding raw = .ok migrated ↔
      (∃ name, options.platformTenantIds.get? binding.tenantId = some name ∧ isName name = true) ∧
        migrated = migratedBinding (binding.tenancyOf organizationId options.platform) raw := by
  unfold migrateBinding ManagedPostgresV1alpha1MigrationOptions.platformTenant ManagedPostgresBinding.tenancyOf
    ManagedPostgresV1alpha1MigrationOptions.platform
  simp only [bind_ok, pure_ok, nameValue_ok]
  cases options.platformTenantIds.get? binding.tenantId with
  | none => simp
  | some name =>
    constructor
    · rintro ⟨found, ⟨hfound, hname⟩, rfl⟩
      obtain rfl : name = found := Value.string.inj hfound
      exact ⟨⟨name, rfl, hname⟩, rfl⟩
    · rintro ⟨⟨found, hfound, hname⟩, rfl⟩
      obtain rfl := Option.some.inj hfound
      exact ⟨name, ⟨rfl, hname⟩, rfl⟩

/-- The loop over the bindings and the values they were parsed from. -/
theorem migrateBindings_ok {bindings : List ManagedPostgresBinding} :
    ∀ {raws migrated : List Value}, bindings.length = raws.length →
      (migrateBindings options organizationId bindings raws = .ok migrated ↔
        (∀ b ∈ bindings, ∃ name, options.platformTenantIds.get? b.tenantId = some name ∧ isName name = true) ∧
          migrated = List.zipWith (fun b raw =>
            migratedBinding (b.tenancyOf organizationId options.platform) raw) bindings raws) := by
  induction bindings with
  | nil =>
    intro raws migrated _
    rw [migrateBindings, pure_ok]
    · rw [List.zipWith_nil_left]
      exact ⟨fun h => ⟨fun _ hb => absurd hb List.not_mem_nil, h.symm⟩, fun h => h.2.symm⟩
    · simp
  | cons binding rest ih =>
    intro raws migrated hlength
    cases raws with
    | nil => cases hlength
    | cons raw raws =>
      have hrest : ∀ {migrated : List Value}, migrateBindings options organizationId rest raws = .ok migrated ↔ _ :=
        ih (Nat.succ.inj hlength)
      rw [List.forall_mem_cons, List.zipWith_cons_cons]
      simp only [migrateBindings, bind_ok, pure_ok, migrateBinding_ok, hrest]
      constructor
      · rintro ⟨_, ⟨hname, rfl⟩, _, ⟨hnames, rfl⟩, rfl⟩
        exact ⟨⟨hname, hnames⟩, rfl⟩
      · rintro ⟨⟨hname, hnames⟩, rfl⟩
        exact ⟨_, ⟨hname, rfl⟩, _, ⟨hnames, rfl⟩, rfl⟩

theorem arrayValue_ok {α : Type} {parse : Check String α} {value : Value} {path : String} {l : List α}
    (h : arrayValue parse value path = .ok l) : ∃ v rest, value = .array (v :: rest) ∧
      parseEntries parse path 0 (v :: rest) = .ok l := by
  unfold arrayValue at h
  split at h
  · exact ⟨_, _, rfl, h⟩
  · cases h

/-- A member of the migrated root other than the two new ones. -/
theorem get_migratedRoot {root : List (String × Value)} {bindings : List Value} {key : String}
    (h : key ≠ "bindings") (h' : key ≠ "apiVersion") :
    Value.get (rawMembers (migratedRoot root bindings)) key = Value.get root key := by
  unfold Value.get migratedRoot rawMembers
  rw [Record.lookup_assign, if_neg h, Record.lookup_assign, if_neg h']

theorem objectValue_migratedRoot {value : Value} {path : String} {root : List (String × Value)} {bindings : List Value}
    {fields : List String} (hversion : "apiVersion" ∈ fields) (hbindings : "bindings" ∈ fields)
    (h : objectValue value path fields = .ok root) :
    objectValue (migratedRoot root bindings) path fields = .ok (rawMembers (migratedRoot root bindings)) := by
  obtain ⟨-, hhas, honly⟩ := objectValue_ok.1 h
  refine objectValue_ok.2 ⟨rfl, fun field hfield => ?_, fun p hp => ?_⟩
  · have hmem := List.contains_iff_mem.1 (hhas field hfield)
    exact List.contains_iff_mem.2
      (Record.mem_keys_assign.2 (Or.inr (Record.mem_keys_assign.2 (Or.inr hmem))))
  · have hmem : p.1 ∈ (rawMembers (migratedRoot root bindings)).map Prod.fst := List.mem_map_of_mem hp
    rcases Record.mem_keys_assign.1 hmem with heq | hmem
    · exact heq ▸ hbindings
    rcases Record.mem_keys_assign.1 hmem with heq | hmem
    · exact heq ▸ hversion
    obtain ⟨q, hq, heq⟩ := List.mem_map.1 hmem
    exact heq ▸ honly q hq

/-- **The members of the migrated value**: those of the source, with the new version and the tenancy records. -/
theorem intentMembers_migrated {value : Value} {environment : ManagedPostgresEnvironment} {migrated : List Value}
    (h : intentMembers value environment = .ok intent) (hversion : intent.apiVersion = .v1alpha1)
    (hmigrate : migrateBindings options organizationId intent.bindings
      (rawItems (Value.get (rawMembers value) "bindings")) = .ok migrated)
    (horganization : isName organizationId = true) :
    (∀ b ∈ intent.bindings, ∃ name, options.platformTenantIds.get? b.tenantId = some name ∧ isName name = true) ∧
      intentMembers (migratedRoot (rawMembers value) migrated) environment =
        .ok (intent.upgraded organizationId options.platform) := by
  unfold intentMembers at h
  simp only [bind_ok, pure_ok] at h
  obtain ⟨root, hroot, apiVersion, happi, brokerInput, hbrokerInput, pluginInput, hpluginInput, name, hname, ⟨⟩, hbroker,
    plugin, hplugin, bindings, hbindings, rfl⟩ := h
  obtain rfl : apiVersion = .v1alpha1 := hversion
  obtain ⟨rfl, -, -⟩ := objectValue_ok.1 hroot
  obtain ⟨v, rest, harray, hentries⟩ := arrayValue_ok hbindings
  have hraws : rawItems (Value.get (rawMembers (.object root)) "bindings") = v :: rest := by
    rw [rawMembers, harray, rawItems]
  rw [hraws] at hmigrate
  obtain ⟨hnames, rfl⟩ := (migrateBindings_ok (parseEntries_length hentries)).1 hmigrate
  refine ⟨hnames, ?_⟩
  have hplatforms : ∀ b ∈ bindings, isName (options.platform b.tenantId) = true := by
    intro b hb
    obtain ⟨name, hget, hname⟩ := hnames b hb
    rw [ManagedPostgresV1alpha1MigrationOptions.platform, hget, Option.getD_some]
    exact hname
  have hparsed := parseEntries_migrated horganization hentries hplatforms
  have hother : ∀ {bindings : List Value} {key : String}, key ≠ "bindings" → key ≠ "apiVersion" →
      Value.get (rawMembers (migratedRoot root bindings)) key = Value.get root key :=
    fun h h' => get_migratedRoot h h'
  unfold intentMembers
  simp only [bind_ok, pure_ok]
  refine ⟨_, objectValue_migratedRoot (by decide) (by decide) hroot, .v1alpha2, ?_, brokerInput, ?_, pluginInput, ?_,
    name, ?_, (), hbroker, plugin, hplugin, _, ?_, rfl⟩
  · have hget : ∀ bindings, Value.get (rawMembers (migratedRoot root bindings)) "apiVersion" =
        .string ManagedPostgresApiVersion.v1alpha2.text := by
      intro bindings
      unfold Value.get migratedRoot rawMembers
      rw [Record.lookup_assign, if_neg (by decide), Record.lookup_assign, if_pos rfl, Option.getD_some]
    rw [rawMembers, hget]
    decide
  · rw [rawMembers, hother (by decide) (by decide)]
    exact hbrokerInput
  · rw [rawMembers, hother (by decide) (by decide)]
    exact hpluginInput
  · rw [rawMembers, hother (by decide) (by decide)]
    exact hname
  · have hget : ∀ bindings, Value.get (rawMembers (migratedRoot root bindings)) "bindings" = .array bindings := by
      intro bindings
      unfold Value.get migratedRoot rawMembers
      rw [Record.lookup_assign, if_pos rfl, Option.getD_some]
    rw [rawMembers, hget]
    cases bindings with
    | nil =>
      have hlength := parseEntries_length hentries
      cases hlength
    | cons b bs => exact hparsed

/-- The mapping tells the tenants of the intent apart. -/
theorem Maps.platform_inj (h : Maps options intent) : ∀ b ∈ intent.bindings, ∀ c ∈ intent.bindings,
    options.platform b.tenantId = options.platform c.tenantId → b.tenantId = c.tenantId := by
  intro b hb c hc heq
  refine h.distinct b hb c hc ?_
  obtain ⟨name, hname, -⟩ := h.names b hb
  obtain ⟨other, hother, -⟩ := h.names c hc
  rw [ManagedPostgresV1alpha1MigrationOptions.platform, ManagedPostgresV1alpha1MigrationOptions.platform, hname, hother,
    Option.getD_some, Option.getD_some] at heq
  rw [hname, hother, heq]

/-- What a migration that succeeds was given, and what its value is parsed to. -/
theorem migrate_ok {value migrated : Value}
    (h : migrateManagedPostgresV1alpha1ToV1alpha2 dates value options = .ok migrated) :
    isName options.organizationId = true ∧ ∃ source,
      parseManagedPostgresIntent dates value options.environment options.blueprint = .ok source ∧
        source.apiVersion = .v1alpha1 ∧ Maps options source ∧
          parseManagedPostgresIntent dates migrated options.environment options.blueprint =
            .ok (source.upgraded options.organizationId options.platform) := by
  obtain ⟨source, hsource, h⟩ := bind_ok.1 h
  obtain ⟨⟨⟩, hversion, h⟩ := bind_ok.1 h
  obtain ⟨organizationId, horganization, h⟩ := bind_ok.1 h
  obtain ⟨bindings, hbindings, h⟩ := bind_ok.1 h
  obtain ⟨parsed, hparsed, h⟩ := bind_ok.1 h
  obtain rfl := pure_ok.1 h
  obtain ⟨heq, hname⟩ := nameValue_ok.1 horganization
  obtain rfl : options.organizationId = organizationId := Value.string.inj heq
  have hversion : source.apiVersion = .v1alpha1 := beq_iff_eq.1 (throwUnless_ok.1 hversion)
  obtain ⟨intent, hmembers, hassert⟩ := bind_ok.1 hsource
  obtain ⟨⟨⟩, -, hassert⟩ := bind_ok.1 hassert
  obtain rfl := pure_ok.1 hassert
  obtain ⟨hnames, hmigrated⟩ := intentMembers_migrated hmembers hversion hbindings hname
  have hupgraded : intent.upgraded options.organizationId options.platform = parsed := by
    obtain ⟨upgraded, hmembers', hrest⟩ := bind_ok.1 hparsed
    obtain ⟨⟨⟩, -, hrest⟩ := bind_ok.1 hrest
    rw [hmigrated] at hmembers'
    exact (Except.ok.inj hmembers').trans (pure_ok.1 hrest)
  refine ⟨hname, intent, hsource, hversion, ⟨hnames, fun b hb c hc heq => ?_⟩, hupgraded ▸ hparsed⟩
  -- the migrated value passed the check that pairs applications and platform tenants
  obtain ⟨hnamed, hassert⟩ := parseManagedPostgresIntent_ok hparsed
  obtain ⟨⟨⟩, -, hassert⟩ := bind_ok.1 hassert
  obtain ⟨⟨⟩, hloop, -⟩ := bind_ok.1 hassert
  rw [← hupgraded] at hnamed hloop
  have hpair := assertBindings_pairs hnamed hloop _ (List.mem_map_of_mem hb) _ (List.mem_map_of_mem hc) _ _ rfl rfl
  refine hpair.2 ?_
  show options.platform b.tenantId = options.platform c.tenantId
  rw [ManagedPostgresV1alpha1MigrationOptions.platform, ManagedPostgresV1alpha1MigrationOptions.platform, heq]

/-- **When a migration succeeds, and what it keeps.** -/
theorem migration_spec (dates : Dates) (value : Value) (options : ManagedPostgresV1alpha1MigrationOptions) :
    ((∃ migrated, migrateManagedPostgresV1alpha1ToV1alpha2 dates value options = .ok migrated) ↔
      isName options.organizationId = true ∧ ∃ source,
        parseManagedPostgresIntent dates value options.environment options.blueprint = .ok source ∧
          source.apiVersion = .v1alpha1 ∧ Maps options source) ∧
    ∀ migrated, migrateManagedPostgresV1alpha1ToV1alpha2 dates value options = .ok migrated → ∃ source,
      parseManagedPostgresIntent dates value options.environment options.blueprint = .ok source ∧
        source.apiVersion = .v1alpha1 ∧
        parseManagedPostgresIntent dates migrated options.environment options.blueprint =
          .ok (source.upgraded options.organizationId options.platform) ∧
        ∀ b ∈ source.bindings, ∀ c ∈ source.bindings,
          (options.platform b.tenantId = options.platform c.tenantId ↔ b.tenantId = c.tenantId) := by
  refine ⟨⟨?_, ?_⟩, ?_⟩
  · rintro ⟨migrated, h⟩
    obtain ⟨horganization, source, hsource, hversion, hmaps, -⟩ := migrate_ok h
    exact ⟨horganization, source, hsource, hversion, hmaps⟩
  · rintro ⟨horganization, source, hsource, hversion, hmaps⟩
    obtain ⟨intent, hmembers, hrest⟩ := bind_ok.1 hsource
    obtain ⟨⟨⟩, hassert, heq⟩ := bind_ok.1 hrest
    obtain rfl := pure_ok.1 heq
    -- the raw bindings are as many as the parsed ones
    have hlength : intent.bindings.length = (rawItems (Value.get (rawMembers value) "bindings")).length := by
      unfold intentMembers at hmembers
      simp only [bind_ok, pure_ok] at hmembers
      obtain ⟨root, hroot, _, -, _, -, _, -, _, -, _, -, _, -, bindings, hbindings, rfl⟩ := hmembers
      obtain ⟨rfl, -, -⟩ := objectValue_ok.1 hroot
      obtain ⟨v, rest, harray, hentries⟩ := arrayValue_ok hbindings
      rw [rawMembers, harray, rawItems]
      exact parseEntries_length hentries
    have hbindings : migrateBindings options options.organizationId intent.bindings _ = .ok _ :=
      (migrateBindings_ok hlength).2 ⟨hmaps.names, rfl⟩
    obtain ⟨-, hmigrated⟩ := intentMembers_migrated hmembers hversion hbindings horganization
    have hchecked : assertManagedPostgresIntent dates (intent.upgraded options.organizationId options.platform)
        options.blueprint = .ok () := assertManagedPostgresIntent_upgraded hmaps.platform_inj hassert
    refine ⟨_, bind_ok.2 ⟨intent, hsource, bind_ok.2 ⟨(), throwUnless_ok.2 (beq_iff_eq.2 hversion),
      bind_ok.2 ⟨_, nameValue_ok.2 ⟨rfl, horganization⟩, bind_ok.2 ⟨_, hbindings, bind_ok.2
        ⟨intent.upgraded options.organizationId options.platform, ?_, rfl⟩⟩⟩⟩⟩⟩
    exact bind_ok.2 ⟨_, hmigrated, bind_ok.2 ⟨(), hchecked, rfl⟩⟩
  · intro migrated h
    obtain ⟨-, source, hsource, hversion, hmaps, hparsed⟩ := migrate_ok h
    refine ⟨source, hsource, hversion, hparsed, fun b hb c hc => ⟨hmaps.platform_inj b hb c hc, fun heq => ?_⟩⟩
    rw [heq]

/-! ## An organization without a name -/

def unnamedOptions : ManagedPostgresV1alpha1MigrationOptions where
  environment := .production
  organizationId := ""
  platformTenantIds := Record.fromEntries [("shop", "shop"), ("bank", "bank")]
  blueprint := none

theorem parseTenants_version : (parseTenants "shop-admin" "bank-admin").toOption.map
    (fun intent => (intent.apiVersion, intent.tenants.map Prod.fst)) = some (.v1alpha1, ["shop", "bank"]) := by
  decide +kernel

/-- A mapping with valid tenants alone does not suffice. -/
theorem migration_not_total : ¬ ∀ (dates : Dates) (value : Value) (options : ManagedPostgresV1alpha1MigrationOptions)
    (source : ManagedPostgresIntent),
    parseManagedPostgresIntent dates value options.environment options.blueprint = .ok source →
      source.apiVersion = .v1alpha1 → Maps options source →
        ∃ migrated, migrateManagedPostgresV1alpha1ToV1alpha2 dates value options = .ok migrated := by
  intro hclaim
  have hparsed := parseTenants_version
  cases hsource : parseTenants "shop-admin" "bank-admin" with
  | error message =>
    rw [hsource] at hparsed
    cases hparsed
  | ok source =>
    rw [hsource] at hparsed
    obtain ⟨hversion, htenants⟩ := Prod.mk.inj (Option.some.inj hparsed)
    have hmem : ∀ b ∈ source.bindings, b.tenantId = "shop" ∨ b.tenantId = "bank" := by
      intro b hb
      have hb : b.tenantId ∈ source.tenants.map Prod.fst :=
        List.mem_map.2 ⟨_, List.mem_map.2 ⟨b, hb, rfl⟩, rfl⟩
      rw [htenants] at hb
      simpa using hb
    have hget : ∀ name, name = "shop" ∨ name = "bank" → unnamedOptions.platformTenantIds.get? name = some name := by
      rintro name (rfl | rfl) <;> decide
    have hmaps : Maps unnamedOptions source := by
      refine ⟨fun b hb => ⟨b.tenantId, hget _ (hmem b hb), ?_⟩, fun b hb c hc heq => ?_⟩
      · rcases hmem b hb with h | h <;> rw [h] <;> decide
      · rw [hget _ (hmem b hb), hget _ (hmem c hc)] at heq
        exact Option.some.inj heq
    obtain ⟨migrated, hmigrated⟩ := hclaim sampleDates _ unnamedOptions source hsource hversion hmaps
    obtain ⟨hname, -⟩ := migrate_ok hmigrated
    exact absurd hname (by decide)

end SecureSaas.Database
