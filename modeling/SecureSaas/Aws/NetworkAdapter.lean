import SecureSaas.Database.AwsPostgres

/-!
# The AWS network adapter (`src/adapters/aws/networkAdapter.ts`)

A network configuration is written as a blueprint, checked by all policies, and compiled back into
a configuration and a plan; a deployment can also bring its own blueprint. Of the route tables and
the plan every member is kept that is not one literal.

* `keepsDomains_iff`: compilation keeps the networks apart **exactly if their stripped ids and
  their zones are distinct**.
* `networkConfig_eq`: **a configuration with a spoke comes back** as it was.
* `network_kept`: both at once.
* `twin_networks_lost`: two networks of one zone leave one entry.
-/

namespace SecureSaas.Aws

open Js Blueprint
open Database (AdapterDescriptor compileBlueprint)

/-! ## Configurations (`src/config.ts`) -/

inductive SpokeKind
  | platform
  | execution
  | data
  | shared
deriving DecidableEq

def SpokeKind.text : SpokeKind → String
  | .platform => "platform"
  | .execution => "execution"
  | .data => "data"
  | .shared => "shared"

structure EgressConfig where
  cidr : String
  azCount : Number
  networkFirewallEnabled : Bool
  shareTransitGatewayWithOrganization : Option Bool
  allowedDomains : List String
deriving DecidableEq

structure SpokeConfig where
  name : String
  cidr : String
  kind : SpokeKind
  createEks : Option Bool
deriving DecidableEq

structure NetworkConfig where
  egress : EgressConfig
  spokes : List SpokeConfig
deriving DecidableEq

/-! ## The blueprint of a configuration -/

structure AwsNetworkBlueprintOptions where
  name : String
  requireInspectedEgress : Bool

structure AwsNetworkAdapterOptions where
  shareTransitGatewayWithOrganization : Bool
  createEksByZoneId : Record Bool
  spokeKindByZoneId : Record SpokeKind

def zoneKind : SpokeKind → TrustZoneKind
  | .execution => .execution
  | .data => .data
  | .platform | .shared => .workload

def kindFromZone : TrustZoneKind → SpokeKind
  | .execution => .execution
  | .data => .data
  | _ => .platform

def externalZoneId : String := "zone:external-internet"

def egressZoneId : String := "zone:central-egress"

def spokeZoneIds (config : NetworkConfig) : Record String :=
  .fromEntries (config.spokes.map fun spoke => (spoke.name, s!"zone:{spoke.name}"))

/-- `spokeZoneIds[spoke.name]` -/
def spokeZoneId (config : NetworkConfig) (spoke : SpokeConfig) : String :=
  ((spokeZoneIds config).get? spoke.name).getD "undefined"

def spokeZone (config : NetworkConfig) (spoke : SpokeConfig) : TrustZone :=
  { id := spokeZoneId config spoke
    kind := zoneKind spoke.kind
    publicAccess := false
    tenantScope := platformTenantScope
    isolationBoundary := some s!"{spoke.kind.text}-account" }

def egressDomain (config : NetworkConfig) : NetworkDomain :=
  { id := "network:central-egress"
    zoneId := egressZoneId
    cidrs := [config.egress.cidr]
    availabilityZoneCount := config.egress.azCount
    directInternetAccess := true
    inspectedEgress := config.egress.networkFirewallEnabled }

def spokeDomain (config : NetworkConfig) (spoke : SpokeConfig) : NetworkDomain :=
  { id := s!"network:{spoke.name}"
    zoneId := spokeZoneId config spoke
    cidrs := [spoke.cidr]
    availabilityZoneCount := config.egress.azCount
    directInternetAccess := false
    inspectedEgress := false }

def spokeFlow (config : NetworkConfig) (spoke : SpokeConfig) : NetworkFlow :=
  { id := s!"flow:{spoke.name}:internet"
    fromZoneId := spokeZoneId config spoke
    toZoneId := externalZoneId
    authorization := if spoke.kind = .execution then .brokered else .direct
    viaZoneIds := some [egressZoneId]
    externalDestinations := some config.egress.allowedDomains }

def blueprintFromAwsNetworkConfig (config : NetworkConfig) (options : AwsNetworkBlueprintOptions) :
    PlatformBlueprint :=
  { name := options.name
    posture :=
      { forbidPublicControlPlanes := true
        requireInspectedEgress := options.requireInspectedEgress
        requireImmutableAudit := false
        minimumAuditRetentionDays := 365 }
    requiredCapabilities := [.privateNetwork, .centralizedEgress] ++
      if options.requireInspectedEgress then [.managedFirewall] else []
    trustZones :=
      [{ id := externalZoneId, kind := .external, publicAccess := true, tenantScope := platformTenantScope,
         isolationBoundary := none },
       { id := egressZoneId, kind := .egress, publicAccess := true, tenantScope := platformTenantScope,
         isolationBoundary := some "network-account" }] ++
      config.spokes.map (spokeZone config)
    networkDomains := egressDomain config :: config.spokes.map (spokeDomain config)
    flows := config.spokes.map (spokeFlow config)
    workloadPlanes := []
    applications := []
    tenants := []
    dataBoundaries := []
    identities := []
    identityDelegations := []
    grants := []
    evidenceSinks := []
    evidenceRequirements := [] }

/-! ## The adapter -/

structure AwsSpokeNetworkPlan where
  zoneId : String
  networkDomainId : String
  name : String
  kind : SpokeKind
  cidr : String
  availabilityZoneCount : Number
deriving DecidableEq

inductive RouteTableRole
  | spokePrivate
  | egressReturn
deriving DecidableEq

inductive RouteTarget
  | transitGateway
  | spokeAttachment
deriving DecidableEq

structure AwsRouteTableIntent where
  id : String
  zoneId : String
  routeTableRole : RouteTableRole
  destinationCidr : String
  target : RouteTarget
deriving DecidableEq

structure EgressBinding where
  zoneId : String
  networkDomainId : String
deriving DecidableEq

structure AwsNetworkPlan where
  networkConfig : NetworkConfig
  egress : EgressBinding
  zoneToSpokeName : Record String
  spokes : List AwsSpokeNetworkPlan
  routeTableIntents : List AwsRouteTableIntent

def awsNetworkDescriptor : AdapterDescriptor where
  name := "aws-network"
  capabilities := [.privateNetwork, .centralizedEgress, .managedFirewall, .privateControlPlane, .workloadIdentity,
    .customerManagedEncryption, .immutableAuditLog, .dedicatedAccountBoundary, .microvmRuntime, .externalSandbox]

/-- Whether the domain is in a zone for egress. -/
def isEgress (blueprint : PlatformBlueprint) (domain : NetworkDomain) : Bool :=
  (blueprint.trustZones.find? fun zone => zone.id = domain.zoneId).any fun zone => zone.kind = .egress

/-- `domain.id.replace(/^network:/, "")` -/
def spokeName (domainId : String) : String :=
  if "network:".toList.isPrefixOf domainId.toList then String.ofList (domainId.toList.drop 8) else domainId

def compileSpoke (options : AwsNetworkAdapterOptions) (blueprint : PlatformBlueprint) (domain : NetworkDomain) :
    Except String AwsSpokeNetworkPlan :=
  match domain.cidrs with
  | [cidr] =>
    let misplaced := s!"AWS spoke '{domain.id}' must belong to a private workload trust zone."
    match blueprint.trustZones.find? fun entry => entry.id = domain.zoneId with
    | none => .error misplaced
    | some zone =>
      if zone.kind = .external ∨ zone.kind = .edge ∨ zone.kind = .egress then .error misplaced
      else if domain.directInternetAccess then
        .error s!"AWS workload spoke '{domain.id}' cannot compile a direct Internet or NAT path."
      else
        .ok
          { zoneId := domain.zoneId
            networkDomainId := domain.id
            name := spokeName domain.id
            kind := (options.spokeKindByZoneId.get? domain.zoneId).getD (kindFromZone zone.kind)
            cidr
            availabilityZoneCount := domain.availabilityZoneCount }
  | _ => .error s!"AWS network domain '{domain.id}' must declare exactly one IPv4 CIDR."

def AwsSpokeNetworkPlan.config (options : AwsNetworkAdapterOptions) (spoke : AwsSpokeNetworkPlan) : SpokeConfig :=
  { name := spoke.name
    cidr := spoke.cidr
    kind := spoke.kind
    createEks := some ((options.createEksByZoneId.get? spoke.zoneId).getD false) }

/-- `zoneToSpokeName[domain.zoneId] = name`. A text assigned as the prototype is dropped. -/
def assignName (names : Record String) (spoke : AwsSpokeNetworkPlan) : Record String :=
  if spoke.zoneId = "__proto__" then names else names.set spoke.zoneId spoke.name

def routeTableIntents (spoke : AwsSpokeNetworkPlan) : List AwsRouteTableIntent :=
  [{ id := s!"route:{spoke.networkDomainId}:default-egress"
     zoneId := spoke.zoneId
     routeTableRole := .spokePrivate
     destinationCidr := "0.0.0.0/0"
     target := .transitGateway },
   { id := s!"route:{spoke.networkDomainId}:return"
     zoneId := spoke.zoneId
     routeTableRole := .egressReturn
     destinationCidr := spoke.cidr
     target := .spokeAttachment }]

/-- `[...allowedDomains]` -/
def allowedDomains (blueprint : PlatformBlueprint) : List String :=
  let externalZoneIds := (blueprint.trustZones.filter fun zone => zone.kind = .external).map (·.id)
  ((blueprint.flows.filter fun flow => externalZoneIds.contains flow.toZoneId).flatMap fun flow =>
    flow.externalDestinations.getD []).eraseDups

/-- `AwsNetworkAdapter.compile` -/
def compileNetwork (options : AwsNetworkAdapterOptions) (blueprint : PlatformBlueprint) :
    Except String AwsNetworkPlan :=
  match blueprint.networkDomains.filter (isEgress blueprint) with
  | [egress] =>
    match egress.cidrs with
    | [cidr] => do
      let spokes ← (blueprint.networkDomains.filter fun domain => domain.id ≠ egress.id).mapM
        (compileSpoke options blueprint)
      .ok
        { networkConfig :=
            { egress :=
                { cidr
                  azCount := egress.availabilityZoneCount
                  networkFirewallEnabled := egress.inspectedEgress
                  shareTransitGatewayWithOrganization := some options.shareTransitGatewayWithOrganization
                  allowedDomains := allowedDomains blueprint }
              spokes := spokes.map (AwsSpokeNetworkPlan.config options) }
          egress := ⟨egress.zoneId, egress.id⟩
          zoneToSpokeName := spokes.foldl assignName .empty
          spokes
          routeTableIntents := spokes.flatMap routeTableIntents }
    | _ => .error "AWS network adapter currently requires one IPv4 CIDR per network domain."
  | _ => .error "AWS network adapter requires exactly one central egress network domain."

def compileAwsNetworkBlueprint (dates : Dates) (blueprint : PlatformBlueprint) (options : AwsNetworkAdapterOptions) :
    Except String AwsNetworkPlan :=
  compileBlueprint dates blueprint awsNetworkDescriptor (compileNetwork options)

def requireAwsSpokePlan (plan : AwsNetworkPlan) (zoneId networkDomainId : String) :
    Except String AwsSpokeNetworkPlan :=
  match plan.spokes.find? fun entry => entry.zoneId = zoneId ∧ entry.networkDomainId = networkDomainId with
  | some spoke => .ok spoke
  | none => .error
      s!"AWS spoke binding '{zoneId}'/'{networkDomainId}' does not match a compiled neutral network domain."

/-- The options that a configuration brings along. -/
def adapterOptions (config : NetworkConfig) : AwsNetworkAdapterOptions :=
  { shareTransitGatewayWithOrganization := config.egress.shareTransitGatewayWithOrganization.getD false
    createEksByZoneId :=
      .fromEntries (config.spokes.map fun spoke => (s!"zone:{spoke.name}", spoke.createEks.getD false))
    spokeKindByZoneId := .fromEntries (config.spokes.map fun spoke => (s!"zone:{spoke.name}", spoke.kind)) }

def validateAndCompileAwsNetwork (dates : Dates) (config : NetworkConfig) (options : AwsNetworkBlueprintOptions) :
    Except String AwsNetworkPlan :=
  compileAwsNetworkBlueprint dates (blueprintFromAwsNetworkConfig config options) (adapterOptions config)

/-! ## What a compilation returns -/

section
variable {dates : Dates} {blueprint : PlatformBlueprint} {options : AwsNetworkAdapterOptions} {plan : AwsNetworkPlan}
  {config : NetworkConfig}

/-- The domains that become spokes. -/
def spokeDomains (blueprint : PlatformBlueprint) : List NetworkDomain :=
  blueprint.networkDomains.filter fun domain => !isEgress blueprint domain

theorem compileSpoke_ok {domain : NetworkDomain} {spoke : AwsSpokeNetworkPlan}
    (h : compileSpoke options blueprint domain = .ok spoke) :
    ∃ cidr zone, domain.cidrs = [cidr] ∧ blueprint.trustZones.find? (fun entry => entry.id = domain.zoneId) = some zone ∧
      zone.kind ≠ .egress ∧ spoke =
        { zoneId := domain.zoneId
          networkDomainId := domain.id
          name := spokeName domain.id
          kind := (options.spokeKindByZoneId.get? domain.zoneId).getD (kindFromZone zone.kind)
          cidr
          availabilityZoneCount := domain.availabilityZoneCount } := by
  unfold compileSpoke at h
  split at h
  · rename_i cidr hcidrs
    dsimp only at h
    split at h
    · cases h
    · rename_i zone hzone
      split_ifs at h with hkind hdirect
      exact ⟨cidr, zone, hcidrs, hzone, fun hegress => hkind (Or.inr (Or.inr hegress)), (Except.ok.inj h).symm⟩
  · cases h

/-- A blueprint that is compiled satisfies the policies. -/
theorem compileAwsNetwork_ok (h : compileAwsNetworkBlueprint dates blueprint options = .ok plan) :
    structuralIntegrityPolicy blueprint = [] ∧ compileNetwork options blueprint = .ok plan := by
  obtain ⟨u, hassert, h⟩ := bind_ok.1 h
  obtain ⟨-, -, h⟩ := bind_ok.1 h
  exact ⟨assertBlueprint_structure hassert, h⟩

theorem domainIds_nodup (h : (allIds blueprint).Nodup) : (blueprint.networkDomains.map (·.id)).Nodup := by
  refine h.sublist ?_
  unfold allIds resourceIdsList
  simp only [List.append_assoc]
  exact (List.sublist_append_left _ _).trans (List.sublist_append_right _ _)

/-- The one domain for egress is told apart by its id. -/
theorem spokeDomains_eq (h : (blueprint.networkDomains.map (·.id)).Nodup) {egress : NetworkDomain}
    (hegress : blueprint.networkDomains.filter (isEgress blueprint) = [egress]) :
    (blueprint.networkDomains.filter fun domain => domain.id ≠ egress.id) = spokeDomains blueprint := by
  have hmem : egress ∈ blueprint.networkDomains ∧ isEgress blueprint egress = true := by
    rw [← List.mem_filter, hegress]
    exact List.mem_singleton_self egress
  refine List.filter_congr fun domain hdomain => ?_
  rw [Bool.eq_iff_iff, decide_eq_true_iff, Bool.not_eq_true']
  constructor
  · intro hne
    by_contra hin
    have hfilter := List.mem_filter.2 ⟨hdomain, (Bool.not_eq_false _).mp hin⟩
    rw [hegress] at hfilter
    exact hne (congrArg (·.id) (List.mem_singleton.1 hfilter))
  · intro hout heq
    obtain rfl := List.inj_on_of_nodup_map h hdomain hmem.1 heq
    rw [hmem.2] at hout
    cases hout

/-- **What a compilation returns**: the one egress domain and a spoke for each of the others. -/
theorem compileNetwork_ok (hids : (allIds blueprint).Nodup) (h : compileNetwork options blueprint = .ok plan) :
    ∃ egress cidr spokes, blueprint.networkDomains.filter (isEgress blueprint) = [egress] ∧ egress.cidrs = [cidr] ∧
      (spokeDomains blueprint).mapM (compileSpoke options blueprint) = .ok spokes ∧
      plan.spokes = spokes ∧ plan.zoneToSpokeName = spokes.foldl assignName .empty ∧
      plan.networkConfig =
        { egress :=
            { cidr
              azCount := egress.availabilityZoneCount
              networkFirewallEnabled := egress.inspectedEgress
              shareTransitGatewayWithOrganization := some options.shareTransitGatewayWithOrganization
              allowedDomains := allowedDomains blueprint }
          spokes := spokes.map (AwsSpokeNetworkPlan.config options) } := by
  unfold compileNetwork at h
  split at h
  · rename_i egress hegress
    split at h
    · rename_i cidr hcidr
      obtain ⟨spokes, hspokes, hout⟩ := bind_ok.1 h
      obtain rfl := Except.ok.inj hout
      rw [spokeDomains_eq (domainIds_nodup hids) hegress] at hspokes
      exact ⟨egress, cidr, spokes, hegress, hcidr, hspokes, rfl, rfl, rfl⟩
    · cases h
  · cases h

/-! ## Networks that are kept apart -/

/-- Every domain that is not for egress has a spoke, and the spoke's name and the entry of its zone
are those of no other. -/
structure KeepsDomains (blueprint : PlatformBlueprint) (plan : AwsNetworkPlan) : Prop where
  domains : plan.spokes.map (·.networkDomainId) = (spokeDomains blueprint).map (·.id)
  names : (plan.networkConfig.spokes.map (·.name)).Nodup
  entries : ∀ spoke ∈ plan.spokes, plan.zoneToSpokeName.get? spoke.zoneId = some spoke.name

/-- The stripped ids and the zones of the spokes' domains are distinct, and no zone bears the name of
the prototype. -/
structure DomainsApart (blueprint : PlatformBlueprint) : Prop where
  names : ((spokeDomains blueprint).map fun domain => spokeName domain.id).Nodup
  zones : ((spokeDomains blueprint).map (·.zoneId)).Nodup
  ownProperty : "__proto__" ∉ (spokeDomains blueprint).map (·.zoneId)

/-- The map has no entry under the name of the prototype. -/
theorem assignName_proto {spokes : List AwsSpokeNetworkPlan} {names : Record String}
    (h : names.get? "__proto__" = none) : (spokes.foldl assignName names).get? "__proto__" = none := by
  induction spokes generalizing names with
  | nil => exact h
  | cons spoke spokes ih =>
    refine ih ?_
    unfold assignName
    by_cases hproto : spoke.zoneId = "__proto__"
    · rw [if_pos hproto]
      exact h
    · rw [if_neg hproto, Record.get?_set_ne fun heq => hproto heq.symm]
      exact h

theorem assignName_fold {spokes : List AwsSpokeNetworkPlan} (h : "__proto__" ∉ spokes.map (·.zoneId)) :
    spokes.foldl assignName .empty = .fromEntries (spokes.map fun spoke => (spoke.zoneId, spoke.name)) := by
  have hfold : ∀ (spokes : List AwsSpokeNetworkPlan) (names : Record String), "__proto__" ∉ spokes.map (·.zoneId) →
      spokes.foldl assignName names =
        (spokes.map fun spoke => (spoke.zoneId, spoke.name)).foldl (fun r p => r.set p.1 p.2) names := by
    intro spokes
    induction spokes with
    | nil => exact fun _ _ => rfl
    | cons spoke spokes ih =>
      intro names h
      rw [List.map_cons, List.mem_cons, not_or] at h
      rw [List.foldl_cons, List.map_cons, List.foldl_cons, ih _ h.2, assignName, if_neg fun heq => h.1 heq.symm]
  exact hfold spokes .empty h

/-- Entries are kept exactly if no two spokes with different names share a zone. -/
theorem entries_iff {spokes : List AwsSpokeNetworkPlan} (hnames : (spokes.map (·.name)).Nodup) :
    (∀ spoke ∈ spokes, (spokes.foldl assignName .empty).get? spoke.zoneId = some spoke.name) ↔
      (spokes.map (·.zoneId)).Nodup ∧ "__proto__" ∉ spokes.map (·.zoneId) := by
  constructor
  · intro h
    constructor
    · refine List.Nodup.map_on ?_ (List.Nodup.of_map _ hnames)
      intro s hs t ht hzone
      have hs' := h s hs
      rw [hzone, h t ht] at hs'
      exact List.inj_on_of_nodup_map hnames hs ht (Option.some.inj hs').symm
    · intro hproto
      obtain ⟨spoke, hspoke, hzone⟩ := List.mem_map.1 hproto
      have hentry := h spoke hspoke
      rw [hzone, assignName_proto Record.get?_empty] at hentry
      cases hentry
  · rintro ⟨hzones, hproto⟩ spoke hspoke
    have hkeys : ((spokes.map fun spoke => (spoke.zoneId, spoke.name)).map Prod.fst).Nodup := by
      rw [List.map_map]
      exact hzones
    rw [assignName_fold hproto, Record.fromEntries_get? hkeys]
    exact List.mem_map.2 ⟨spoke, hspoke, rfl⟩

/-- **Compilation keeps networks apart exactly if** their stripped ids and zones are. -/
theorem keepsDomains_iff (h : compileAwsNetworkBlueprint dates blueprint options = .ok plan) :
    KeepsDomains blueprint plan ↔ DomainsApart blueprint := by
  obtain ⟨hstructure, hcompile⟩ := compileAwsNetwork_ok h
  obtain ⟨egress, cidr, spokes, -, -, hspokes, hplan, hentries, hconfig⟩ :=
    compileNetwork_ok (structuralIntegrity_ids hstructure) hcompile
  have hdomains : spokes.map (·.networkDomainId) = (spokeDomains blueprint).map (·.id) :=
    mapM_map (fun domain spoke hspoke => by obtain ⟨_, _, -, -, -, rfl⟩ := compileSpoke_ok hspoke; rfl) hspokes
  have hzones : spokes.map (·.zoneId) = (spokeDomains blueprint).map (·.zoneId) :=
    mapM_map (fun domain spoke hspoke => by obtain ⟨_, _, -, -, -, rfl⟩ := compileSpoke_ok hspoke; rfl) hspokes
  have hnames : spokes.map (·.name) = (spokeDomains blueprint).map fun domain => spokeName domain.id :=
    mapM_map (fun domain spoke hspoke => by obtain ⟨_, _, -, -, -, rfl⟩ := compileSpoke_ok hspoke; rfl) hspokes
  have hconfigNames : plan.networkConfig.spokes.map (·.name) = spokes.map (·.name) := by
    rw [hconfig, List.map_map]
    rfl
  constructor
  · rintro ⟨-, hnodup, hkept⟩
    rw [hconfigNames] at hnodup
    rw [hplan, hentries, entries_iff hnodup, hzones] at hkept
    exact ⟨hnames ▸ hnodup, hkept.1, hkept.2⟩
  · rintro ⟨hnodup, hapart, hproto⟩
    refine ⟨hplan ▸ hdomains, by rw [hconfigNames, hnames]; exact hnodup, ?_⟩
    rw [hplan, hentries, entries_iff (hnames ▸ hnodup), hzones]
    exact ⟨hapart, hproto⟩

/-! ## Configurations that come back -/

/-- The configuration with absent booleans as false and no domain twice. -/
def NetworkConfig.normalized (config : NetworkConfig) : NetworkConfig :=
  { egress :=
      { config.egress with
        shareTransitGatewayWithOrganization := some (config.egress.shareTransitGatewayWithOrganization.getD false)
        allowedDomains := config.egress.allowedDomains.eraseDups }
    spokes := config.spokes.map fun spoke => { spoke with createEks := some (spoke.createEks.getD false) } }

theorem spokeZoneId_eq {spoke : SpokeConfig} (hspoke : spoke ∈ config.spokes) :
    spokeZoneId config spoke = s!"zone:{spoke.name}" := by
  obtain ⟨zoneId, hzone⟩ := Record.fromEntries_isSome (List.mem_map.2 ⟨spoke, hspoke, rfl⟩ :
    (spoke.name, s!"zone:{spoke.name}") ∈ config.spokes.map fun spoke => (spoke.name, s!"zone:{spoke.name}"))
  obtain ⟨other, -, heq⟩ := List.mem_map.1 (Record.mem_of_fromEntries_get? hzone)
  obtain ⟨hname, rfl⟩ := Prod.mk.inj heq
  rw [spokeZoneId, spokeZoneIds, hzone, Option.getD_some, hname]

theorem spokeName_network (name : String) : spokeName s!"network:{name}" = name := by
  have htext : (s!"network:{name}").toList = "network:".toList ++ name.toList := String.toList_append
  rw [spokeName, htext, if_pos (List.isPrefixOf_iff_prefix.2 (List.prefix_append _ _))]
  exact String.ofList_toList

/-- A list repeated any number of times holds nothing new. -/
theorem eraseDups_flatMap_const {α β : Type} [BEq β] [LawfulBEq β] {items : List α} (h : items ≠ []) (values : List β) :
    (items.flatMap fun _ => values).eraseDups = values.eraseDups := by
  obtain ⟨item, rest, rfl⟩ := List.exists_cons_of_ne_nil h
  have hnone : (rest.flatMap fun _ => values).removeAll values = [] := by
    rw [List.removeAll, List.filter_eq_nil_iff]
    intro value hvalue
    obtain ⟨-, -, hin⟩ := List.mem_flatMap.1 hvalue
    simpa using hin
  rw [List.flatMap_cons, List.eraseDups_append, hnone, List.eraseDups_nil, List.append_nil]

variable {blueprintOptions : AwsNetworkBlueprintOptions}

theorem allowedDomains_eq (h : config.spokes ≠ []) :
    allowedDomains (blueprintFromAwsNetworkConfig config blueprintOptions) = config.egress.allowedDomains.eraseDups := by
  have hexternal : ∀ flow ∈ config.spokes.map (spokeFlow config),
      (((blueprintFromAwsNetworkConfig config blueprintOptions).trustZones.filter fun zone =>
        zone.kind = .external).map (·.id)).contains flow.toZoneId = true := by
    intro flow hflow
    obtain ⟨spoke, -, rfl⟩ := List.mem_map.1 hflow
    rw [List.contains_iff_mem]
    exact List.mem_cons_self
  unfold allowedDomains
  dsimp only
  rw [show (blueprintFromAwsNetworkConfig config blueprintOptions).flows = config.spokes.map (spokeFlow config) from rfl,
    List.filter_eq_self.2 hexternal, List.flatMap_map]
  exact eraseDups_flatMap_const h _

/-- The zones of different spokes have different ids. -/
theorem zoneNames_nodup (h : (allIds (blueprintFromAwsNetworkConfig config blueprintOptions)).Nodup) :
    (config.spokes.map fun spoke => s!"zone:{spoke.name}").Nodup := by
  have hzones := zoneIds_nodup h
  have hids : (blueprintFromAwsNetworkConfig config blueprintOptions).trustZones.map (·.id) =
      [externalZoneId, egressZoneId] ++ config.spokes.map (spokeZoneId config) := by
    simp [blueprintFromAwsNetworkConfig, spokeZone]
  rw [hids] at hzones
  have hspokes := (List.nodup_append.1 hzones).2.1
  rwa [List.map_congr_left fun spoke hspoke => spokeZoneId_eq hspoke] at hspokes

/-- The domains of a configuration's blueprint: the egress domain is the one in the zone for egress. -/
theorem domains_config {egress : NetworkDomain}
    (h : (blueprintFromAwsNetworkConfig config blueprintOptions).networkDomains.filter
      (isEgress (blueprintFromAwsNetworkConfig config blueprintOptions)) = [egress]) :
    egress = egressDomain config ∧ spokeDomains (blueprintFromAwsNetworkConfig config blueprintOptions) =
      config.spokes.map (spokeDomain config) := by
  have hdomains : (blueprintFromAwsNetworkConfig config blueprintOptions).networkDomains =
    egressDomain config :: config.spokes.map (spokeDomain config) := rfl
  have hegress : isEgress (blueprintFromAwsNetworkConfig config blueprintOptions) (egressDomain config) = true := rfl
  have hmem : egressDomain config ∈ [egress] := by
    rw [← h, hdomains]
    exact List.mem_filter.2 ⟨List.mem_cons_self, hegress⟩
  obtain rfl := List.mem_singleton.1 hmem
  refine ⟨rfl, ?_⟩
  rw [hdomains, List.filter_cons_of_pos hegress] at h
  rw [spokeDomains, hdomains, List.filter_cons_of_neg (by rw [hegress]; simp)]
  refine List.filter_eq_self.2 fun domain hdomain => ?_
  have hnone := List.filter_eq_nil_iff.1 (List.cons.inj h).2 domain hdomain
  simpa using hnone

/-- A spoke of the plan for a configuration is what it was. -/
theorem compileSpoke_config (hzones : (config.spokes.map fun spoke => s!"zone:{spoke.name}").Nodup)
    {spoke : SpokeConfig} (hspoke : spoke ∈ config.spokes) {planned : AwsSpokeNetworkPlan}
    (h : compileSpoke (adapterOptions config) blueprint (spokeDomain config spoke) = .ok planned) :
    planned.config (adapterOptions config) = { spoke with createEks := some (spoke.createEks.getD false) } := by
  obtain ⟨cidr, zone, hcidrs, -, -, rfl⟩ := compileSpoke_ok h
  obtain rfl : spoke.cidr = cidr := (List.cons.inj hcidrs).1
  have hname : spokeName (spokeDomain config spoke).id = spoke.name := spokeName_network spoke.name
  have hzone : (spokeDomain config spoke).zoneId = s!"zone:{spoke.name}" := spokeZoneId_eq hspoke
  have hkind : (adapterOptions config).spokeKindByZoneId.get? s!"zone:{spoke.name}" = some spoke.kind := by
    refine (Record.fromEntries_get? ?_).2 (List.mem_map.2 ⟨spoke, hspoke, rfl⟩)
    rw [List.map_map]
    exact hzones
  have heks : (adapterOptions config).createEksByZoneId.get? s!"zone:{spoke.name}" =
      some (spoke.createEks.getD false) := by
    refine (Record.fromEntries_get? ?_).2 (List.mem_map.2 ⟨spoke, hspoke, rfl⟩)
    rw [List.map_map]
    exact hzones
  rw [AwsSpokeNetworkPlan.config, hname, hzone, hkind, heks]
  rfl

/-- **A configuration with a spoke comes back.** -/
theorem networkConfig_eq (hspokes : config.spokes ≠ [])
    (h : validateAndCompileAwsNetwork dates config blueprintOptions = .ok plan) :
    plan.networkConfig = config.normalized := by
  obtain ⟨hstructure, hcompile⟩ := compileAwsNetwork_ok h
  have hids := structuralIntegrity_ids hstructure
  obtain ⟨egress, cidr, spokes, hegress, hcidr, hcompiled, -, -, hconfig⟩ := compileNetwork_ok hids hcompile
  obtain ⟨rfl, hdomains⟩ := domains_config hegress
  obtain rfl : config.egress.cidr = cidr := (List.cons.inj hcidr).1
  rw [hdomains, List.mapM_map] at hcompiled
  have hback := mapM_map_mem (fun spoke hspoke planned hone =>
    compileSpoke_config (zoneNames_nodup hids) hspoke hone) hcompiled
  rw [hconfig, hback, allowedDomains_eq hspokes]
  rfl

end

/-- **Compilation keeps every network.** A blueprint's networks are kept apart exactly if their
stripped ids and their zones are distinct; a configuration with a spoke comes back as it was. -/
theorem network_kept (dates : Dates) :
    (∀ blueprint options plan, compileAwsNetworkBlueprint dates blueprint options = .ok plan →
      (KeepsDomains blueprint plan ↔ DomainsApart blueprint)) ∧
    ∀ (config : NetworkConfig) options plan, config.spokes ≠ [] →
      validateAndCompileAwsNetwork dates config options = .ok plan → plan.networkConfig = config.normalized :=
  ⟨fun _ _ _ h => keepsDomains_iff h, fun _ _ _ hspokes h => networkConfig_eq hspokes h⟩

/-! ## A zone with two networks -/

/-- Two networks of one zone, and a third whose id differs from the first's by the stripped part. -/
def twinBlueprint : PlatformBlueprint :=
  { sampleBlueprint [] [] with
    posture := ⟨true, false, false, 365⟩
    trustZones := [⟨"egress", .egress, true, .platform, none⟩, ⟨"runtime", .workload, false, .platform, none⟩,
      ⟨"jobs", .workload, false, .platform, none⟩]
    networkDomains := [⟨"network:egress", "egress", ["10.0.0.0/16"], 3, true, true⟩,
      ⟨"network:app", "runtime", ["10.1.0.0/16"], 3, false, false⟩,
      ⟨"network:cache", "runtime", ["10.2.0.0/16"], 3, false, false⟩,
      ⟨"app", "jobs", ["10.3.0.0/16"], 3, false, false⟩] }

def noOptions : AwsNetworkAdapterOptions := ⟨false, .empty, .empty⟩

/-- **Networks are lost**: two spokes get one name, and of two networks in a zone one has the entry. -/
theorem twin_networks_lost :
    ¬ ∀ dates blueprint options plan, compileAwsNetworkBlueprint dates blueprint options = .ok plan →
      KeepsDomains blueprint plan := by
  intro h
  obtain ⟨plan, hplan⟩ := exists_of_isOk
    (show (compileAwsNetworkBlueprint sampleDates twinBlueprint noOptions).isOk = true by decide +kernel)
  have hapart := (keepsDomains_iff hplan).1 (h _ _ _ _ hplan)
  exact absurd hapart.zones (by decide +kernel)

/-- A configuration with two spokes is accepted. -/
example : (validateAndCompileAwsNetwork sampleDates
    ⟨⟨"10.0.0.0/16", 3, true, none, ["github.com", "github.com"]⟩,
      [⟨"platform", "10.10.0.0/16", .platform, some true⟩, ⟨"execution", "10.20.0.0/16", .execution, none⟩]⟩
    ⟨"sample", true⟩).isOk = true := by
  decide +kernel

end SecureSaas.Aws
