import SecureSaas.Aws.NetworkAdapter
import SecureSaas.CidrSubnet

/-!
# Subnet allocation (`src/network.ts`)

Every network of a deployment is divided into subnets, one for each tier and availability zone. A
subnet's number is made of the two, with room for sixteen zones in a tier.

* `allocation_iff`: an allocation is sound **exactly if** the prefix of the network's range has at
  most 24 bits and there are at most sixteen zones.
* `allocations_sound_iff`: so for whatever either path of validation lets through.
* `allocation_escapes`: neither path checks for it.
-/

namespace SecureSaas.Aws

open Js Blueprint

/-! ## The validation of a configuration (`src/config.ts`) -/

/-- The part of `validateConfigValues` that is about the network. -/
def validateNetworkValues (dates : Dates) (network : NetworkConfig) (blueprintAuthoritative : Bool) :
    Except String Unit :=
  if blueprintAuthoritative then .ok ()
  else if network.egress.azCount.below 2 || network.egress.azCount.above 4 then
    .error "network.egress.azCount must be between 2 and 4 for this baseline."
  else match duplicateValues (network.spokes.map (·.name)) with
    | name :: _ => .error s!"Duplicate network spoke name '{name}'."
    | [] => do
      let _ ← validateAndCompileAwsNetwork dates network ⟨"configuration-network", false⟩
      .ok ()

/-! ## The networks of a deployment -/

/-- What `createSubnets` is called with. -/
structure VpcSubnets where
  name : String
  cidr : String
  includePublic : Bool
  includeFirewall : Bool
  includePrivate : Bool
  includeEndpoints : Bool
  includeTransit : Bool
  azCount : Number

structure Subnet where
  name : String
  tier : String
  azIndex : ℕ
  cidrBlock : String
deriving DecidableEq

/-- The tiers that are included, with their indices. -/
def tiers (args : VpcSubnets) : List (String × ℕ) :=
  (if args.includePublic then [("public", 0)] else []) ++
  (if args.includeFirewall then [("firewall", 1)] else []) ++
  (if args.includePrivate then [("private", 2)] else []) ++
  (if args.includeEndpoints then [("endpoints", 3)] else []) ++
  (if args.includeTransit then [("transit", 4)] else [])

def createSubnet (args : VpcSubnets) (slot : (String × ℕ) × ℕ) : Except String Subnet := do
  let ((tier, tierIndex), azIndex) := slot
  let cidrBlock ← cidrSubnet args.cidr (.int 8) (.int (tierIndex * 16 + azIndex : ℕ))
  .ok { name := s!"{args.name}-{tier}-{azIndex + 1}", tier, azIndex, cidrBlock }

/-- How often `for (let index = 0; index < count; index++)` runs. Without an end the first number that
is out of range ends the loop. -/
def rounds : Number → ℕ
  | .int n => n.toNat
  | .fraction text _ => (fractionFloor text + 1).toNat
  | .nan => 0
  | .infinity negative => if negative then 0 else 257

/-- The tiers of every availability zone, in the order of their creation. -/
def slots (args : VpcSubnets) : List ((String × ℕ) × ℕ) :=
  (List.range (rounds args.azCount)).flatMap fun index => (tiers args).map fun tier => (tier, index)

def createSubnets (args : VpcSubnets) : Except String (List Subnet) := (slots args).mapM (createSubnet args)

def egressVpc (config : NetworkConfig) : VpcSubnets :=
  { name := "egress"
    cidr := config.egress.cidr
    includePublic := true
    includeFirewall := true
    includePrivate := false
    includeEndpoints := false
    includeTransit := true
    azCount := config.egress.azCount }

def privateVpc (name cidr : String) (azCount : Number) : VpcSubnets :=
  { name
    cidr
    includePublic := false
    includeFirewall := false
    includePrivate := true
    includeEndpoints := true
    includeTransit := true
    azCount }

/-- The networks that `createCentralizedEgressNetwork` divides. -/
def centralizedVpcs (config : NetworkConfig) : List VpcSubnets :=
  egressVpc config :: config.spokes.map fun spoke => privateVpc spoke.name spoke.cidr config.egress.azCount

/-- The network that `createDetachedSpokeNetwork` divides. -/
def detachedVpc (spoke : AwsSpokeNetworkPlan) : VpcSubnets :=
  privateVpc spoke.name spoke.cidr spoke.availabilityZoneCount

/-- The networks that a configuration or a blueprint leads to, once it has been validated. -/
inductive Deployed (dates : Dates) : VpcSubnets → Prop
  | plain {network : NetworkConfig} {options : AwsNetworkBlueprintOptions} {plan : AwsNetworkPlan} {vpc : VpcSubnets}
      (valid : validateNetworkValues dates network false = .ok ())
      (compiled : validateAndCompileAwsNetwork dates network options = .ok plan)
      (vpc_mem : vpc ∈ centralizedVpcs plan.networkConfig) : Deployed dates vpc
  | hub {network : NetworkConfig} {options : AwsNetworkBlueprintOptions} {plan : AwsNetworkPlan}
      (valid : validateNetworkValues dates network false = .ok ())
      (compiled : validateAndCompileAwsNetwork dates { network with spokes := [] } options = .ok plan) :
      Deployed dates (egressVpc plan.networkConfig)
  | authoritative {blueprint : PlatformBlueprint} {options : AwsNetworkAdapterOptions} {plan : AwsNetworkPlan}
      {vpc : VpcSubnets} (compiled : compileAwsNetworkBlueprint dates blueprint options = .ok plan)
      (vpc_mem : vpc ∈ centralizedVpcs plan.networkConfig) : Deployed dates vpc
  | detached {blueprint : PlatformBlueprint} {options : AwsNetworkAdapterOptions} {plan : AwsNetworkPlan}
      {zoneId networkDomainId : String} {spoke : AwsSpokeNetworkPlan}
      (compiled : compileAwsNetworkBlueprint dates blueprint options = .ok plan)
      (bound : requireAwsSpokePlan plan zoneId networkDomainId = .ok spoke) : Deployed dates (detachedVpc spoke)

/-! ## Sound allocations -/

/-- Every tier has a subnet in every zone, in the range of the network and apart from all others. -/
structure Allocated (args : VpcSubnets) (base : ParsedCidr) (subnets : List Subnet) : Prop where
  each : subnets.map (fun subnet => (subnet.tier, subnet.azIndex)) = (slots args).map fun slot => (slot.1.1, slot.2)
  inside : ∀ subnet ∈ subnets, ∃ range, parseCidr subnet.cidrBlock = .ok range ∧
    ∀ address, range.Holds address → base.Holds address
  disjoint : ∀ s ∈ subnets, ∀ t ∈ subnets, (s.tier, s.azIndex) ≠ (t.tier, t.azIndex) → ∀ r q,
    parseCidr s.cidrBlock = .ok r → parseCidr t.cidrBlock = .ok q → ∀ address, ¬ (r.Holds address ∧ q.Holds address)

def AllocationSound (args : VpcSubnets) : Prop :=
  ∃ base subnets, parseCidr args.cidr = .ok base ∧ createSubnets args = .ok subnets ∧ Allocated args base subnets

/-- Eight more bits fit behind the prefix, and sixteen zones into a tier. -/
def Fits (args : VpcSubnets) : Prop :=
  (∃ base, parseCidr args.cidr = .ok base ∧ base.prefixLength ≤ 24) ∧ rounds args.azCount ≤ 16

/-! ## Slots and their numbers -/

/-- The number of a slot's subnet. -/
def slotNumber (slot : (String × ℕ) × ℕ) : ℕ := slot.1.2 * 16 + slot.2

def allTiers : List (String × ℕ) := [("public", 0), ("firewall", 1), ("private", 2), ("endpoints", 3), ("transit", 4)]

section
variable {args : VpcSubnets} {base : ParsedCidr} {slot other : (String × ℕ) × ℕ} {subnet : Subnet}

theorem tiers_subset (args : VpcSubnets) : ∀ tier ∈ tiers args, tier ∈ allTiers := by
  intro tier htier
  simp only [tiers, List.mem_append, List.mem_ite_nil_right, List.mem_singleton] at htier
  rcases htier with (((⟨-, rfl⟩ | ⟨-, rfl⟩) | ⟨-, rfl⟩) | ⟨-, rfl⟩) | ⟨-, rfl⟩ <;> decide

theorem tiers_distinct : ∀ a ∈ allTiers, ∀ b ∈ allTiers, a.2 = b.2 → a = b := by decide

theorem tier_le : ∀ a ∈ allTiers, a.2 ≤ 4 := by decide

theorem mem_slots : slot ∈ slots args ↔ slot.1 ∈ tiers args ∧ slot.2 < rounds args.azCount := by
  obtain ⟨tier, index⟩ := slot
  simp only [slots, List.mem_flatMap, List.mem_range, List.mem_map, Prod.mk.injEq]
  constructor
  · rintro ⟨i, hi, t, ht, rfl, rfl⟩
    exact ⟨ht, hi⟩
  · rintro ⟨ht, hi⟩
    exact ⟨index, hi, tier, ht, rfl, rfl⟩

/-- With at most sixteen zones the number tells the slots apart. -/
theorem slotNumber_inj (hzones : rounds args.azCount ≤ 16) (hslot : slot ∈ slots args) (hother : other ∈ slots args)
    (h : slotNumber slot = slotNumber other) : slot = other := by
  obtain ⟨htier, hindex⟩ := mem_slots.1 hslot
  obtain ⟨htier', hindex'⟩ := mem_slots.1 hother
  unfold slotNumber at h
  have hsame : slot.1.2 = other.1.2 := by omega
  have htiers := tiers_distinct _ (tiers_subset args _ htier) _ (tiers_subset args _ htier') hsame
  exact Prod.ext htiers (by omega)

theorem slotNumber_lt (hzones : rounds args.azCount ≤ 16) (hslot : slot ∈ slots args) : slotNumber slot < 2 ^ 8 := by
  obtain ⟨htier, hindex⟩ := mem_slots.1 hslot
  have hle := tier_le _ (tiers_subset args _ htier)
  unfold slotNumber
  omega

/-- **What a slot's subnet is**: the part of the range with the slot's number. -/
theorem createSubnet_ok (hbase : parseCidr args.cidr = .ok base) :
    createSubnet args slot = .ok subnet ↔ base.prefixLength + 8 ≤ 32 ∧ slotNumber slot < 2 ^ 8 ∧ subnet =
      { name := s!"{args.name}-{slot.1.1}-{slot.2 + 1}"
        tier := slot.1.1
        azIndex := slot.2
        cidrBlock := (subnetOf base 8 (slotNumber slot)).cidr } := by
  obtain ⟨⟨tier, tierIndex⟩, azIndex⟩ := slot
  constructor
  · intro h
    obtain ⟨cidrBlock, hcidr, h⟩ := bind_ok.1 h
    obtain ⟨bits, i, hbits, hnumber, hle, hlt, rfl⟩ := (cidrSubnet_ok hbase).1 hcidr
    obtain rfl : 8 = bits := by
      have := Number.int.inj hbits
      omega
    obtain rfl : tierIndex * 16 + azIndex = i := by
      have := Number.int.inj hnumber
      omega
    exact ⟨hle, hlt, (Except.ok.inj h).symm⟩
  · rintro ⟨hle, hlt, rfl⟩
    refine bind_ok.2 ⟨_, (cidrSubnet_ok hbase).2 ⟨8, tierIndex * 16 + azIndex, rfl, rfl, hle, hlt, rfl⟩, rfl⟩

/-! ## When allocations are sound -/

theorem allocated_of_fits (hbase : parseCidr args.cidr = .ok base) (hle : base.prefixLength ≤ 24)
    (hzones : rounds args.azCount ≤ 16) : AllocationSound args := by
  have hbits : base.prefixLength + 8 ≤ 32 := by omega
  have hpartition := partition_of_le hbase hbits
  have hslot : ∀ slot ∈ slots args, ∃ subnet, createSubnet args slot = .ok subnet := fun slot hslot =>
    ⟨_, (createSubnet_ok hbase).2 ⟨hbits, slotNumber_lt hzones hslot, rfl⟩⟩
  obtain ⟨subnets, hsubnets⟩ := mapM_succeeds hslot
  -- every subnet is the result of a call for its slot
  have hcall : ∀ subnet ∈ subnets, ∃ slot ∈ slots args, subnet.tier = slot.1.1 ∧ subnet.azIndex = slot.2 ∧
      cidrSubnet args.cidr (.int (8 : ℕ)) (.int (slotNumber slot : ℕ)) = .ok subnet.cidrBlock ∧
        parseCidr subnet.cidrBlock = .ok (subnetOf base 8 (slotNumber slot)) := by
    intro subnet hsubnet
    obtain ⟨slot, hslot, hcreate⟩ := mapM_source hsubnets hsubnet
    obtain ⟨-, hlt, rfl⟩ := (createSubnet_ok hbase).1 hcreate
    exact ⟨slot, hslot, rfl, rfl, (cidrSubnet_ok hbase).2 ⟨8, slotNumber slot, rfl, rfl, hbits, hlt, rfl⟩,
      parseCidr_subnetOf (parseCidr_ok hbase) hbits hlt⟩
  refine ⟨base, subnets, hbase, hsubnets, ?_⟩
  constructor
  case each =>
    refine mapM_map (fun slot subnet hcreate => ?_) hsubnets
    obtain ⟨-, -, rfl⟩ := (createSubnet_ok hbase).1 hcreate
    rfl
  case inside =>
    intro subnet hsubnet
    obtain ⟨slot, -, -, -, hcidr, hparse⟩ := hcall subnet hsubnet
    exact ⟨_, hparse, hpartition.contained _ _ _ hcidr hparse⟩
  case disjoint =>
    intro s hs t ht hne r q hr hq
    obtain ⟨slot, hslot, hstier, hsindex, hscidr, -⟩ := hcall s hs
    obtain ⟨other, hother, httier, htindex, htcidr, -⟩ := hcall t ht
    refine hpartition.disjoint _ _ _ _ r q hscidr htcidr ?_ hr hq
    intro heq
    have hnumber : slotNumber slot = slotNumber other := by
      have := Number.int.inj heq
      omega
    obtain rfl := slotNumber_inj hzones hslot hother hnumber
    exact hne (by rw [hstier, hsindex, httier, htindex])

theorem fits_of_allocated (hrounds : 1 ≤ rounds args.azCount)
    (hadjacent : ∃ a ∈ tiers args, ∃ b ∈ tiers args, b.2 = a.2 + 1) (h : AllocationSound args) : Fits args := by
  obtain ⟨base, subnets, hbase, hsubnets, hallocated⟩ := h
  obtain ⟨a, ha, b, hb, hnext⟩ := hadjacent
  have hfound : ∀ slot ∈ slots args, ∃ subnet ∈ subnets, createSubnet args slot = .ok subnet := mapM_ok hsubnets
  obtain ⟨first, -, hfirst⟩ := hfound (a, 0) (mem_slots.2 ⟨ha, hrounds⟩)
  obtain ⟨hle, -, -⟩ := (createSubnet_ok hbase).1 hfirst
  refine ⟨⟨base, hbase, by omega⟩, ?_⟩
  by_contra hmany
  -- the seventeenth zone of one tier and the first of the next have one number
  obtain ⟨s, hs, hcreate⟩ := hfound (a, 16) (mem_slots.2 ⟨ha, by omega⟩)
  obtain ⟨t, ht, hcreate'⟩ := hfound (b, 0) (mem_slots.2 ⟨hb, hrounds⟩)
  obtain ⟨-, hlt, rfl⟩ := (createSubnet_ok hbase).1 hcreate
  obtain ⟨-, -, rfl⟩ := (createSubnet_ok hbase).1 hcreate'
  have hnumber : slotNumber (b, 0) = slotNumber (a, 16) := by
    simp only [slotNumber]
    omega
  have hparse := parseCidr_subnetOf (parseCidr_ok hbase) hle hlt
  have hapart := hallocated.disjoint _ hs _ ht (by simp) _ _ hparse (by rw [hnumber]; exact hparse)
    (subnetOf base 8 (slotNumber (a, 16))).networkAddress
  have hself : (subnetOf base 8 (slotNumber (a, 16))).Holds (subnetOf base 8 (slotNumber (a, 16))).networkAddress := by
    rw [subnetOf_holds]
    exact ⟨Nat.le_refl _, Nat.lt_add_of_pos_right (Nat.two_pow_pos _)⟩
  exact hapart ⟨hself, hself⟩

/-- **An allocation is sound exactly if** eight bits fit behind the prefix and the zones into a tier. -/
theorem allocation_iff (hrounds : 1 ≤ rounds args.azCount)
    (hadjacent : ∃ a ∈ tiers args, ∃ b ∈ tiers args, b.2 = a.2 + 1) : AllocationSound args ↔ Fits args :=
  ⟨fits_of_allocated hrounds hadjacent, fun ⟨⟨_, hbase, hle⟩, hzones⟩ => allocated_of_fits hbase hle hzones⟩

end

/-! ## The networks that pass validation -/

section
variable {dates : Dates} {blueprint : PlatformBlueprint} {options : AwsNetworkAdapterOptions} {plan : AwsNetworkPlan}
  {vpc : VpcSubnets}

/-- A domain of a sound structure is in at least one zone. -/
theorem domain_rounds (h : structuralIntegrityPolicy blueprint = []) {domain : NetworkDomain}
    (hdomain : domain ∈ blueprint.networkDomains) : 1 ≤ rounds domain.availabilityZoneCount := by
  simp only [structuralIntegrityPolicy, List.append_eq_nil_iff, List.flatMap_eq_nil_iff] at h
  have hclean := h.1.1.1.1.1.1.2 domain hdomain
  simp only [domainIntegrity, List.append_eq_nil_iff, flag_eq_nil, Bool.or_eq_false_iff, Bool.not_eq_false'] at hclean
  obtain ⟨⟨-, hinteger, hbelow⟩, -⟩ := hclean
  obtain ⟨n, hn⟩ := Number.isInteger_iff.1 hinteger
  rw [hn] at hbelow ⊢
  have hle : ¬ n < 1 := by
    rw [← Number.below_int, hbelow]
    exact Bool.false_ne_true
  show 1 ≤ n.toNat
  omega

/-- The networks of a compiled blueprint have at least one zone. -/
theorem compiled_rounds (h : compileAwsNetworkBlueprint dates blueprint options = .ok plan) :
    1 ≤ rounds plan.networkConfig.egress.azCount ∧ ∀ spoke ∈ plan.spokes, 1 ≤ rounds spoke.availabilityZoneCount := by
  obtain ⟨hstructure, hcompile⟩ := compileAwsNetwork_ok h
  obtain ⟨egress, cidr, spokes, hegress, -, hspokes, hplan, -, hconfig⟩ :=
    compileNetwork_ok (structuralIntegrity_ids hstructure) hcompile
  constructor
  · rw [hconfig]
    have hmem : egress ∈ blueprint.networkDomains.filter (isEgress blueprint) := by
      rw [hegress]
      exact List.mem_singleton_self egress
    exact domain_rounds hstructure (List.mem_filter.1 hmem).1
  · intro spoke hspoke
    rw [hplan] at hspoke
    obtain ⟨domain, hdomain, hcompiled⟩ := mapM_source hspokes hspoke
    obtain ⟨_, _, -, -, -, rfl⟩ := compileSpoke_ok hcompiled
    exact domain_rounds hstructure (List.mem_filter.1 hdomain).1

theorem egressVpc_adjacent (config : NetworkConfig) :
    ∃ a ∈ tiers (egressVpc config), ∃ b ∈ tiers (egressVpc config), b.2 = a.2 + 1 :=
  ⟨("public", 0), List.mem_cons_self, ("firewall", 1), List.mem_cons_of_mem _ List.mem_cons_self, rfl⟩

theorem privateVpc_adjacent (name cidr : String) (azCount : Number) :
    ∃ a ∈ tiers (privateVpc name cidr azCount), ∃ b ∈ tiers (privateVpc name cidr azCount), b.2 = a.2 + 1 :=
  ⟨("private", 2), List.mem_cons_self, ("endpoints", 3), List.mem_cons_of_mem _ List.mem_cons_self, rfl⟩

/-- The networks of the central plan. -/
theorem centralized_iff {config : NetworkConfig} (hrounds : 1 ≤ rounds config.egress.azCount)
    (hvpc : vpc ∈ centralizedVpcs config) :
    vpc.azCount = config.egress.azCount ∧ (AllocationSound vpc ↔ Fits vpc) := by
  rcases List.mem_cons.1 hvpc with rfl | hvpc
  · exact ⟨rfl, allocation_iff hrounds (egressVpc_adjacent config)⟩
  · obtain ⟨spoke, -, rfl⟩ := List.mem_map.1 hvpc
    exact ⟨rfl, allocation_iff hrounds (privateVpc_adjacent _ _ _)⟩

theorem requireAwsSpokePlan_mem {zoneId networkDomainId : String} {spoke : AwsSpokeNetworkPlan}
    (h : requireAwsSpokePlan plan zoneId networkDomainId = .ok spoke) : spoke ∈ plan.spokes := by
  unfold requireAwsSpokePlan at h
  split at h
  · rename_i found hfound
    obtain rfl := Except.ok.inj h
    exact List.mem_of_find?_eq_some hfound
  · cases h

theorem deployed_iff (h : Deployed dates vpc) : AllocationSound vpc ↔ Fits vpc := by
  cases h with
  | plain _ compiled vpc_mem => exact (centralized_iff (compiled_rounds compiled).1 vpc_mem).2
  | hub _ compiled => exact (centralized_iff (compiled_rounds compiled).1 List.mem_cons_self).2
  | authoritative compiled vpc_mem => exact (centralized_iff (compiled_rounds compiled).1 vpc_mem).2
  | detached compiled bound =>
    exact allocation_iff ((compiled_rounds compiled).2 _ (requireAwsSpokePlan_mem bound)) (privateVpc_adjacent _ _ _)

/-- The zones of a compiled configuration are those it asks for. -/
theorem azCount_eq {network : NetworkConfig} {blueprintOptions : AwsNetworkBlueprintOptions}
    (h : validateAndCompileAwsNetwork dates network blueprintOptions = .ok plan) :
    plan.networkConfig.egress.azCount = network.egress.azCount := by
  obtain ⟨hstructure, hcompile⟩ := compileAwsNetwork_ok h
  obtain ⟨egress, cidr, spokes, hegress, -, -, -, -, hconfig⟩ :=
    compileNetwork_ok (structuralIntegrity_ids hstructure) hcompile
  obtain ⟨rfl, -⟩ := domains_config hegress
  rw [hconfig]
  rfl

theorem rounds_le {count : Number} {n : ℕ} (h : count.above n = false) : rounds count ≤ n := by
  cases count with
  | int m =>
    have hle : ¬ (n : ℤ) < m := of_decide_eq_false h
    show m.toNat ≤ n
    omega
  | fraction text wf =>
    have hle : ¬ (n : ℤ) ≤ fractionFloor text := of_decide_eq_false h
    show (fractionFloor text + 1).toNat ≤ n
    omega
  | nan => exact Nat.zero_le n
  | infinity negative =>
    obtain rfl : negative = true := by
      cases negative with
      | true => rfl
      | false => cases h
    exact Nat.zero_le n

/-- The configuration's own check leaves at most four zones. -/
theorem validateNetworkValues_rounds {network : NetworkConfig} {u : Unit}
    (h : validateNetworkValues dates network false = .ok u) : rounds network.egress.azCount ≤ 4 := by
  unfold validateNetworkValues at h
  rw [if_neg Bool.false_ne_true] at h
  split_ifs at h with hcount
  rw [Bool.or_eq_true, not_or, Bool.not_eq_true, Bool.not_eq_true] at hcount
  exact rounds_le hcount.2

/-- Without a blueprint only the prefix is open. -/
theorem plain_iff {network : NetworkConfig} {blueprintOptions : AwsNetworkBlueprintOptions} {u : Unit}
    (hvalid : validateNetworkValues dates network false = .ok u)
    (h : validateAndCompileAwsNetwork dates network blueprintOptions = .ok plan)
    (hvpc : vpc ∈ centralizedVpcs plan.networkConfig) :
    AllocationSound vpc ↔ ∃ base, parseCidr vpc.cidr = .ok base ∧ base.prefixLength ≤ 24 := by
  obtain ⟨hcount, hiff⟩ := centralized_iff (compiled_rounds h).1 hvpc
  have hzones : rounds vpc.azCount ≤ 16 := by
    rw [hcount, azCount_eq h]
    exact (validateNetworkValues_rounds hvalid).trans (by decide)
  rw [hiff]
  exact and_iff_left hzones

end

/-- **The allocations of whatever passes validation are sound exactly if** the prefix leaves eight bits
and there are at most sixteen zones; without a blueprint only the prefix is open. -/
theorem allocations_sound_iff (dates : Dates) :
    (∀ vpc, Deployed dates vpc → (AllocationSound vpc ↔ Fits vpc)) ∧
    ∀ network options plan, validateNetworkValues dates network false = .ok () →
      validateAndCompileAwsNetwork dates network options = .ok plan → ∀ vpc ∈ centralizedVpcs plan.networkConfig,
        (AllocationSound vpc ↔ ∃ base, parseCidr vpc.cidr = .ok base ∧ base.prefixLength ≤ 24) :=
  ⟨fun _ h => deployed_iff h, fun _ _ _ hvalid h _ hvpc => plain_iff hvalid h hvpc⟩

/-! ## Networks that do not fit -/

/-- A configuration the spoke of which leaves six bits. -/
def narrowNetwork : NetworkConfig :=
  ⟨⟨"10.0.0.0/16", 3, true, none, ["github.com"]⟩, [⟨"platform", "10.10.0.0/26", .platform, none⟩]⟩

/-- A blueprint with seventeen zones for its networks. -/
def wideBlueprint : PlatformBlueprint :=
  { sampleBlueprint [] [] with
    posture := ⟨true, false, false, 365⟩
    trustZones := [⟨"egress", .egress, true, .platform, none⟩]
    networkDomains := [⟨"network:egress", "egress", ["10.0.0.0/16"], 17, true, true⟩] }

theorem narrowNetwork_plan : ∃ plan, validateNetworkValues sampleDates narrowNetwork false = .ok () ∧
    validateAndCompileAwsNetwork sampleDates narrowNetwork ⟨"narrow", true⟩ = .ok plan := by
  obtain ⟨plan, hplan⟩ := exists_of_isOk
    (show (validateAndCompileAwsNetwork sampleDates narrowNetwork ⟨"narrow", true⟩).isOk = true by decide +kernel)
  exact ⟨plan, by decide +kernel, hplan⟩

theorem wideBlueprint_plan : ∃ plan, compileAwsNetworkBlueprint sampleDates wideBlueprint noOptions = .ok plan :=
  exists_of_isOk (by decide +kernel)

/-- **Neither path checks that the subnets fit**: the first accepts a range that has no room for them,
the second so many zones that the tiers run into each other. -/
theorem allocation_escapes :
    ¬ (∀ dates network options plan, validateNetworkValues dates network false = .ok () →
      validateAndCompileAwsNetwork dates network options = .ok plan →
        ∀ vpc ∈ centralizedVpcs plan.networkConfig, AllocationSound vpc) ∧
    ¬ ∀ dates blueprint options plan, compileAwsNetworkBlueprint dates blueprint options = .ok plan →
      ∀ vpc ∈ centralizedVpcs plan.networkConfig, AllocationSound vpc := by
  constructor
  · intro h
    obtain ⟨plan, hvalid, hplan⟩ := narrowNetwork_plan
    have hconfig := networkConfig_eq (List.cons_ne_nil _ _) hplan
    have hvpc : privateVpc "platform" "10.10.0.0/26" 3 ∈ centralizedVpcs plan.networkConfig := by
      rw [hconfig]
      exact List.mem_cons_of_mem _ List.mem_cons_self
    have hsound := h _ _ _ _ hvalid hplan _ hvpc
    rw [plain_iff hvalid hplan hvpc] at hsound
    obtain ⟨base, hbase, hle⟩ := hsound
    have hparse : parseCidr "10.10.0.0/26" = .ok ⟨"10.10.0.0/26", 168427520, 168427583, 26⟩ := by decide +kernel
    obtain rfl := Except.ok.inj (hparse.symm.trans hbase)
    exact absurd hle (by decide)
  · intro h
    obtain ⟨plan, hplan⟩ := wideBlueprint_plan
    have hsound := h _ _ _ _ hplan _ List.mem_cons_self
    obtain ⟨-, hzones⟩ := (centralized_iff (compiled_rounds hplan).1 List.mem_cons_self).2.1 hsound
    obtain ⟨hstructure, hcompile⟩ := compileAwsNetwork_ok hplan
    obtain ⟨egress, cidr, spokes, hegress, -, -, -, -, hconfig⟩ :=
      compileNetwork_ok (structuralIntegrity_ids hstructure) hcompile
    obtain rfl : (⟨"network:egress", "egress", ["10.0.0.0/16"], 17, true, true⟩ : NetworkDomain) = egress :=
      (List.cons.inj hegress).1
    rw [hconfig] at hzones
    have hseventeen : rounds 17 ≤ 16 := hzones
    exact absurd hseventeen (by decide)

end SecureSaas.Aws
