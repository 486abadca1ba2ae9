import SecureSaas.Blueprint.Graph
import SecureSaas.Graph.Walk

/-!
# Effective entitlements

What an identity may do is what its own grants allow and what those of every identity it can
act as allow, through a chain of delegations. `reachableIdentities` follows the chains breadth
first, never back to an identity the chain has passed, and fails beyond a thousand chains.

* `reachableIdentities_complete`: **whoever some chain leads to is found**, chains that run in
  circles included.
* `analyzeEntitlements_complete`: **every access along a chain is an entitlement**, and one that
  is not allowed has a matching deny within the principal's reach.
-/

namespace SecureSaas.Blueprint

open SecureSaas.Graph Js

/-- A chain of delegations: the identities it passes act for one another. -/
def Delegates (blueprint : PlatformBlueprint) : String → List IdentityDelegation → String → Prop :=
  Walk IdentityDelegation.fromIdentityId IdentityDelegation.toIdentityId
    fun delegation => delegation ∈ blueprint.identityDelegations

structure EffectiveEntitlement where
  principalId : String
  effectiveIdentityId : String
  viaIdentityIds : List String
  delegationIds : List String
  delegationConditions : List (Record String)
  grantId : String
  resourceId : String
  action : String
  tenantId : Option String
  decision : GrantEffect
  deniedByGrantIds : List String
  grantConditions : Option (Record String)
deriving DecidableEq

/-- An identity the principal can act as, with the chain that leads to it. -/
structure ReachableIdentity (blueprint : PlatformBlueprint) (principalId : String) where
  identityId : String
  viaIdentityIds : List String
  delegations : List IdentityDelegation
  chain : Delegates blueprint principalId delegations identityId
  passed : viaIdentityIds = vertices IdentityDelegation.toIdentityId principalId delegations

namespace ReachableIdentity

variable {blueprint : PlatformBlueprint} {principalId : String}

def root (blueprint : PlatformBlueprint) (principalId : String) : ReachableIdentity blueprint principalId :=
  { identityId := principalId
    viaIdentityIds := [principalId]
    delegations := []
    chain := .nil principalId
    passed := vertices_nil IdentityDelegation.toIdentityId principalId }

def delegationIds (entry : ReachableIdentity blueprint principalId) : List String :=
  entry.delegations.map (·.id)

def delegationConditions (entry : ReachableIdentity blueprint principalId) : List (Record String) :=
  entry.delegations.map fun delegation => delegation.conditions.getD .empty

def extend (current : ReachableIdentity blueprint principalId) (delegation : IdentityDelegation)
    (declared : delegation ∈ blueprint.identityDelegations)
    (starts : delegation.fromIdentityId = current.identityId) : ReachableIdentity blueprint principalId :=
  { identityId := delegation.toIdentityId
    viaIdentityIds := current.viaIdentityIds ++ [delegation.toIdentityId]
    delegations := current.delegations ++ [delegation]
    chain := current.chain.snoc declared starts
    passed := by rw [current.passed, vertices_append]; rfl }

end ReachableIdentity

/-- What the map of delegations holds for an identity. -/
def delegationsOf (blueprint : PlatformBlueprint) (identityId : String) : List IdentityDelegation :=
  blueprint.identityDelegations.filter fun delegation => delegation.fromIdentityId = identityId

theorem mem_delegationsOf {blueprint : PlatformBlueprint} {identityId : String} {delegation : IdentityDelegation} :
    delegation ∈ delegationsOf blueprint identityId ↔
      delegation ∈ blueprint.identityDelegations ∧ delegation.fromIdentityId = identityId := by
  simp [delegationsOf]

def maxPaths : ℕ := 1000

def exceededChains (principalId : String) : String :=
  s!"Entitlement analysis exceeded {maxPaths} delegation paths from '{principalId}'; reduce graph complexity before deployment."

section
variable {blueprint : PlatformBlueprint} {principalId : String}

/-- What one entry adds to the queue. -/
def nextIdentities (current : ReachableIdentity blueprint principalId) :
    List (ReachableIdentity blueprint principalId) :=
  ((delegationsOf blueprint current.identityId).attach.filter fun delegation =>
    !current.viaIdentityIds.contains delegation.1.toIdentityId).map fun delegation =>
      current.extend delegation.1 (mem_delegationsOf.1 delegation.2).1 (mem_delegationsOf.1 delegation.2).2

/-- The loop over the queue, with `room` for that many more entries in `reachable`. -/
def follow : ℕ → List (ReachableIdentity blueprint principalId) → List (ReachableIdentity blueprint principalId) →
    Except String (List (ReachableIdentity blueprint principalId))
  | _, reachable, [] => .ok reachable
  | 0, _, _ :: _ => .error (exceededChains principalId)
  | room + 1, reachable, current :: queue =>
    follow room (reachable ++ [current]) (queue ++ nextIdentities current)

end

def reachableIdentities (blueprint : PlatformBlueprint) (principalId : String) :
    Except String (List (ReachableIdentity blueprint principalId)) :=
  follow maxPaths [] [.root blueprint principalId]

def resourceMatches (resources : List String) (requested : String) : Bool :=
  resources.contains "*" || resources.contains requested

/-- `action.endsWith(":*")`. -/
def endsWithAny (action : String) : Bool := ":*".toList.isSuffixOf action.toList

def actionMatches (actions : List String) (requested : String) : Bool :=
  actions.any fun action =>
    if action = "*" ∨ action = "*:*" ∨ action = requested then true
    else if !endsWithAny action then false
    else action.toList.dropLast.isPrefixOf requested.toList

/-- The grants of an identity with one effect. -/
def grantsOf (blueprint : PlatformBlueprint) (effect : GrantEffect) (identityId : String) : List IdentityGrant :=
  blueprint.grants.filter fun grant => grant.identityId = identityId ∧ grant.effect = effect

def denyMatches (resourceId action : String) (deny : IdentityGrant) : Bool :=
  resourceMatches deny.resourceIds resourceId && actionMatches deny.actions action

def deniedBy (denies : List IdentityGrant) (resourceId action : String) : List String :=
  ((denies.filter (denyMatches resourceId action)).map (·.id)).eraseDups

section
variable {blueprint : PlatformBlueprint} {principalId : String}

def entitlement (denies : List IdentityGrant) (entry : ReachableIdentity blueprint principalId)
    (allow : IdentityGrant) (resourceId action : String) : EffectiveEntitlement :=
  let deniedBy := deniedBy denies resourceId action
  { principalId
    effectiveIdentityId := entry.identityId
    viaIdentityIds := entry.viaIdentityIds
    delegationIds := entry.delegationIds
    delegationConditions := entry.delegationConditions
    grantId := allow.id
    resourceId
    action
    tenantId := allow.tenantId
    decision := if deniedBy.length > 0 then .deny else .allow
    deniedByGrantIds := deniedBy
    grantConditions := allow.conditions }

/-- The entitlements of one principal, from those it can act as. -/
def entitlementsOf (reachable : List (ReachableIdentity blueprint principalId)) : List EffectiveEntitlement :=
  let allDenies := reachable.flatMap fun entry => grantsOf blueprint .deny entry.identityId
  reachable.flatMap fun entry =>
    (grantsOf blueprint .allow entry.identityId).flatMap fun allow =>
      allow.resourceIds.flatMap fun resourceId =>
        allow.actions.map fun action => entitlement allDenies entry allow resourceId action

end

def principalEntitlements (blueprint : PlatformBlueprint) (principal : Identity) :
    Except String (List EffectiveEntitlement) := do
  let reachable ← reachableIdentities blueprint principal.id
  .ok (entitlementsOf reachable)

def analyzeEntitlements (blueprint : PlatformBlueprint) : Except String (List EffectiveEntitlement) := do
  let entitlements ← blueprint.identities.mapM (principalEntitlements blueprint)
  .ok entitlements.flatten

/-! ## Every chain is followed -/

section
variable {blueprint : PlatformBlueprint} {principalId : String}

theorem mem_nextIdentities {current : ReachableIdentity blueprint principalId} {delegation : IdentityDelegation}
    (hd : delegation ∈ blueprint.identityDelegations) (hs : delegation.fromIdentityId = current.identityId)
    (hnew : delegation.toIdentityId ∉ current.viaIdentityIds) :
    current.extend delegation hd hs ∈ nextIdentities current := by
  refine List.mem_map.2 ⟨⟨delegation, mem_delegationsOf.2 ⟨hd, hs⟩⟩, ?_, rfl⟩
  refine List.mem_filter.2 ⟨List.mem_attach _ _, ?_⟩
  simpa using hnew

/-- Whether `out` holds every chain that goes on from `entry` and repeats nobody, with the identity
at its end. -/
def Followed (out : List (ReachableIdentity blueprint principalId))
    (entry : ReachableIdentity blueprint principalId) : Prop :=
  ∀ ds identityId, Delegates blueprint entry.identityId ds identityId →
    (entry.viaIdentityIds ++ ds.map IdentityDelegation.toIdentityId).Nodup →
      ∃ found ∈ out, found.identityId = identityId ∧ found.delegations = entry.delegations ++ ds

theorem follow_complete : ∀ {room : ℕ} {reachable queue out : List (ReachableIdentity blueprint principalId)},
    follow room reachable queue = .ok out → reachable ⊆ out ∧ ∀ entry ∈ queue, Followed out entry := by
  intro room
  induction room with
  | zero =>
    intro reachable queue out h
    cases queue with
    | nil => exact ⟨(Except.ok.inj h) ▸ List.Subset.refl _, fun _ hentry => absurd hentry List.not_mem_nil⟩
    | cons current queue => cases h
  | succ room ih =>
    intro reachable queue out h
    cases queue with
    | nil => exact ⟨(Except.ok.inj h) ▸ List.Subset.refl _, fun _ hentry => absurd hentry List.not_mem_nil⟩
    | cons current queue =>
      obtain ⟨hsub, hqueue⟩ := ih h
      refine ⟨fun entry hentry => hsub (List.mem_append_left _ hentry), ?_⟩
      intro entry hentry ds identityId hchain hnodup
      rcases List.mem_cons.1 hentry with rfl | hentry
      · cases hchain with
        | nil => exact ⟨entry, hsub (List.mem_append_right _ List.mem_cons_self), rfl, (List.append_nil _).symm⟩
        | @cons _ _ d ds hd hs hrest =>
          -- the first delegation leads to somebody new, so it is followed
          have hnew : d.toIdentityId ∉ entry.viaIdentityIds := by
            intro hmem
            exact (List.nodup_append.1 hnodup).2.2 _ hmem _ (by simp) rfl
          have hnext := hqueue _ (List.mem_append_right _ (mem_nextIdentities hd hs hnew))
          obtain ⟨found, hfound, hidentity, hdelegations⟩ := hnext ds identityId hrest (by
            simpa [ReachableIdentity.extend] using hnodup)
          refine ⟨found, hfound, hidentity, ?_⟩
          simpa [ReachableIdentity.extend] using hdelegations
      · exact hqueue entry (List.mem_append_left _ hentry) ds identityId hchain hnodup

/-- **Whoever a chain leads to is found**: without its loops the chain is one that is followed. -/
theorem reachableIdentities_complete {reachable : List (ReachableIdentity blueprint principalId)}
    (h : reachableIdentities blueprint principalId = .ok reachable) {ds : List IdentityDelegation}
    {identityId : String} (hchain : Delegates blueprint principalId ds identityId) :
    ∃ found ∈ reachable, found.identityId = identityId := by
  obtain ⟨fs, -, hwalk, hsimple⟩ := hchain.erase
  obtain ⟨-, hqueue⟩ := follow_complete h
  obtain ⟨found, hfound, hidentity, -⟩ := hqueue _ List.mem_cons_self fs identityId hwalk hsimple
  exact ⟨found, hfound, hidentity⟩

/-! ## Every access is analysed -/

/-- A deny within the principal's reach that matches the access. -/
def Denied (blueprint : PlatformBlueprint) (principalId resourceId action : String) : Prop :=
  ∃ deny ∈ blueprint.grants, deny.effect = .deny ∧ denyMatches resourceId action deny = true ∧
    ∃ ds, Delegates blueprint principalId ds deny.identityId

theorem mem_grantsOf {effect : GrantEffect} {identityId : String} {grant : IdentityGrant} :
    grant ∈ grantsOf blueprint effect identityId ↔
      grant ∈ blueprint.grants ∧ grant.identityId = identityId ∧ grant.effect = effect := by
  simp [grantsOf]

theorem denied_of_deniedBy {reachable : List (ReachableIdentity blueprint principalId)} {resourceId action : String}
    (h : (deniedBy (reachable.flatMap fun entry => grantsOf blueprint .deny entry.identityId) resourceId
      action).length > 0) : Denied blueprint principalId resourceId action := by
  obtain ⟨id, hid⟩ := List.exists_mem_of_length_pos h
  rw [deniedBy, List.mem_eraseDups] at hid
  obtain ⟨deny, hdeny, -⟩ := List.mem_map.1 hid
  obtain ⟨hdeny, hmatches⟩ := List.mem_filter.1 hdeny
  obtain ⟨entry, -, hgrant⟩ := List.mem_flatMap.1 hdeny
  obtain ⟨hgrants, hidentity, heffect⟩ := mem_grantsOf.1 hgrant
  exact ⟨deny, hgrants, heffect, hmatches, entry.delegations, hidentity ▸ entry.chain⟩

/-- **Every access along a chain is an entitlement**: allowed, unless a deny within the
principal's reach matches it. -/
theorem analyzeEntitlements_complete {entitlements : List EffectiveEntitlement}
    (h : analyzeEntitlements blueprint = .ok entitlements) {principal : Identity}
    (hprincipal : principal ∈ blueprint.identities) {ds : List IdentityDelegation} {allow : IdentityGrant}
    (hchain : Delegates blueprint principal.id ds allow.identityId) (hallow : allow ∈ blueprint.grants)
    (heffect : allow.effect = .allow) {resourceId action : String} (hresource : resourceId ∈ allow.resourceIds)
    (haction : action ∈ allow.actions) :
    ∃ entry ∈ entitlements, (entry.principalId = principal.id ∧ entry.grantId = allow.id ∧
      entry.resourceId = resourceId) ∧
        (entry.decision = .allow ∨ Denied blueprint principal.id resourceId action) := by
  obtain ⟨parts, hparts, hout⟩ := bind_ok.1 h
  obtain ⟨part, hpart, hof⟩ := mapM_ok hparts principal hprincipal
  obtain ⟨reachable, hreachable, hpartOf⟩ := bind_ok.1 hof
  obtain ⟨found, hfound, hidentity⟩ := reachableIdentities_complete hreachable hchain
  set denies := reachable.flatMap fun entry => grantsOf blueprint .deny entry.identityId with hdenies
  obtain rfl := Except.ok.inj hout
  obtain rfl := Except.ok.inj hpartOf
  refine ⟨entitlement denies found allow resourceId action, ?_, ⟨rfl, rfl, rfl⟩, ?_⟩
  · refine List.mem_flatten.2 ⟨_, hpart, ?_⟩
    refine List.mem_flatMap.2 ⟨found, hfound, ?_⟩
    refine List.mem_flatMap.2 ⟨allow, mem_grantsOf.2 ⟨hallow, hidentity.symm, heffect⟩, ?_⟩
    exact List.mem_flatMap.2 ⟨resourceId, hresource, List.mem_map_of_mem haction⟩
  · by_cases hdeny : (deniedBy denies resourceId action).length > 0
    · exact Or.inr (denied_of_deniedBy hdeny)
    · left
      rw [entitlement]
      exact if_neg hdeny

end

end SecureSaas.Blueprint
