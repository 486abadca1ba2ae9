import SecureSaas.Blueprint.Access
import SecureSaas.Js.Collect

/-!
# Denies and the chains they decide

An allow counts for the chain of delegations that leads to it. A deny counts for every chain of
the principal: `entitlementsOf` collects the denies of all identities within its reach before it
looks at one chain.

* `decision_deny_iff`: an entitlement is denied exactly if a matching deny is **within the
  principal's reach**.
* `denies_local_iff`: so the analysis denies chains by their own identities **exactly if no chain
  misses a matching deny that another one reaches**.
* `branch_hides_chain`: a deny on a branch apart denies an access into another tenant, and the
  identity policy, which looks at allowed entitlements only, reports nothing.
-/

namespace SecureSaas.Blueprint

open SecureSaas.Graph Js

/-- A chain of delegations leads from the principal to an identity that `allow` gives the access. -/
structure ChainAccess (blueprint : PlatformBlueprint) (principal : Identity) (ds : List IdentityDelegation)
    (allow : IdentityGrant) (resourceId action : String) : Prop where
  declared : principal ∈ blueprint.identities
  chain : Delegates blueprint principal.id ds allow.identityId
  granted : allow ∈ blueprint.grants
  allowed : allow.effect = .allow
  resource : resourceId ∈ allow.resourceIds
  action : action ∈ allow.actions

/-- `entry` stands for the access that `allow` gives along the chain. -/
structure Records (entry : EffectiveEntitlement) (principal : Identity) (ds : List IdentityDelegation)
    (allow : IdentityGrant) (resourceId action : String) : Prop where
  principalId : entry.principalId = principal.id
  viaIdentityIds : entry.viaIdentityIds = vertices IdentityDelegation.toIdentityId principal.id ds
  delegationIds : entry.delegationIds = ds.map (·.id)
  grantId : entry.grantId = allow.id
  resourceId : entry.resourceId = resourceId
  action : entry.action = action

/-- A matching deny is attached to an identity on the chain, or to the principal itself. -/
def DeniedAlong (blueprint : PlatformBlueprint) (principalId : String) (ds : List IdentityDelegation)
    (resourceId action : String) : Prop :=
  ∃ deny ∈ blueprint.grants, deny.effect = .deny ∧ denyMatches resourceId action deny = true ∧
    deny.identityId ∈ vertices IdentityDelegation.toIdentityId principalId ds

section
variable {blueprint : PlatformBlueprint} {principalId : String} {principal : Identity} {ds : List IdentityDelegation}
  {allow : IdentityGrant} {resourceId action : String} {entitlements : List EffectiveEntitlement}

theorem DeniedAlong.mono {fs : List IdentityDelegation} (hsub : fs.Sublist ds)
    (h : DeniedAlong blueprint principalId fs resourceId action) : DeniedAlong blueprint principalId ds resourceId action := by
  obtain ⟨deny, hdeny, heffect, hmatches, hon⟩ := h
  exact ⟨deny, hdeny, heffect, hmatches, vertices_subset hsub hon⟩

/-! ## The decision of an entitlement -/

/-- A deny within the principal's reach is among those collected. -/
theorem deniedBy_of_denied {reachable : List (ReachableIdentity blueprint principalId)}
    (h : reachableIdentities blueprint principalId = .ok reachable)
    (hdenied : Denied blueprint principalId resourceId action) :
    (deniedBy (reachable.flatMap fun entry => grantsOf blueprint .deny entry.identityId) resourceId
      action).length > 0 := by
  obtain ⟨deny, hdeny, heffect, hmatches, ds, hchain⟩ := hdenied
  obtain ⟨found, hfound, hidentity⟩ := reachableIdentities_complete h hchain
  apply List.length_pos_of_mem (a := deny.id)
  rw [deniedBy, List.mem_eraseDups]
  refine List.mem_map_of_mem (List.mem_filter.2 ⟨?_, hmatches⟩)
  exact List.mem_flatMap.2 ⟨found, hfound, mem_grantsOf.2 ⟨hdeny, hidentity.symm, heffect⟩⟩

/-- An entry of the analysis is the entitlement of some chain found for some principal. -/
theorem mem_entitlements (h : analyzeEntitlements blueprint = .ok entitlements) {entry : EffectiveEntitlement}
    (hentry : entry ∈ entitlements) :
    ∃ principal ∈ blueprint.identities, ∃ reachable, reachableIdentities blueprint principal.id = .ok reachable ∧
      ∃ found ∈ reachable, ∃ allow resourceId action, entry =
        entitlement (reachable.flatMap fun entry => grantsOf blueprint .deny entry.identityId) found allow resourceId
          action := by
  obtain ⟨parts, hparts, hout⟩ := bind_ok.1 h
  obtain rfl := Except.ok.inj hout
  obtain ⟨part, hpart, hin⟩ := List.mem_flatten.1 hentry
  obtain ⟨principal, hprincipal, hof⟩ := mapM_source hparts hpart
  obtain ⟨reachable, hreachable, hpartOf⟩ := bind_ok.1 hof
  obtain rfl := Except.ok.inj hpartOf
  obtain ⟨found, hfound, hin⟩ := List.mem_flatMap.1 hin
  obtain ⟨allow, -, hin⟩ := List.mem_flatMap.1 hin
  obtain ⟨resourceId, -, hin⟩ := List.mem_flatMap.1 hin
  obtain ⟨action, -, heq⟩ := List.mem_map.1 hin
  exact ⟨principal, hprincipal, reachable, hreachable, found, hfound, allow, resourceId, action, heq.symm⟩

/-- **An entitlement is denied exactly if a matching deny is within the principal's reach**,
whichever chain it is about. -/
theorem decision_deny_iff (h : analyzeEntitlements blueprint = .ok entitlements) {entry : EffectiveEntitlement}
    (hentry : entry ∈ entitlements) :
    entry.decision = .deny ↔ Denied blueprint entry.principalId entry.resourceId entry.action := by
  obtain ⟨principal, -, reachable, hreachable, found, -, allow, resourceId, action, rfl⟩ := mem_entitlements h hentry
  show (if _ then GrantEffect.deny else GrantEffect.allow) = .deny ↔ Denied blueprint principal.id resourceId action
  constructor
  · intro hdeny
    by_contra hdenied
    rw [if_neg fun hpos => hdenied (denied_of_deniedBy hpos)] at hdeny
    cases hdeny
  · intro hdenied
    exact if_pos (deniedBy_of_denied hreachable hdenied)

/-- Every access along a chain that repeats nobody has its entitlement. -/
theorem entitlement_of_access (h : analyzeEntitlements blueprint = .ok entitlements)
    (haccess : ChainAccess blueprint principal ds allow resourceId action)
    (hsimple : Simple IdentityDelegation.toIdentityId principal.id ds) :
    ∃ entry ∈ entitlements, Records entry principal ds allow resourceId action := by
  obtain ⟨parts, hparts, hout⟩ := bind_ok.1 h
  obtain ⟨part, hpart, hof⟩ := mapM_ok hparts principal haccess.declared
  obtain ⟨reachable, hreachable, hpartOf⟩ := bind_ok.1 hof
  obtain ⟨-, hqueue⟩ := follow_complete hreachable
  have hfollowed : ∃ found ∈ reachable, found.identityId = allow.identityId ∧ found.delegations = ds :=
    hqueue _ List.mem_cons_self ds _ haccess.chain hsimple
  obtain ⟨found, hfound, hidentity, rfl⟩ := hfollowed
  set denies := reachable.flatMap fun entry => grantsOf blueprint .deny entry.identityId with hdenies
  obtain rfl := Except.ok.inj hout
  obtain rfl := Except.ok.inj hpartOf
  refine ⟨entitlement denies found allow resourceId action, ?_, ⟨rfl, found.passed, rfl, rfl, rfl, rfl⟩⟩
  refine List.mem_flatten.2 ⟨_, hpart, List.mem_flatMap.2 ⟨found, hfound, ?_⟩⟩
  refine List.mem_flatMap.2 ⟨allow, mem_grantsOf.2 ⟨haccess.granted, hidentity.symm, haccess.allowed⟩, ?_⟩
  exact List.mem_flatMap.2 ⟨resourceId, haccess.resource, List.mem_map_of_mem haccess.action⟩

/-! ## Locality -/

/-- Every access that the analysis denies along a chain is denied by an identity on that chain. -/
def DeniesLocal (blueprint : PlatformBlueprint) (entitlements : List EffectiveEntitlement) : Prop :=
  ∀ entry ∈ entitlements, ∀ principal ds allow resourceId action,
    ChainAccess blueprint principal ds allow resourceId action →
      Records entry principal ds allow resourceId action → entry.decision = .deny →
        DeniedAlong blueprint principal.id ds resourceId action

/-- **The analysis is local exactly if no chain to an allow misses a matching deny that its
principal reaches by another one.** -/
theorem denies_local_iff (h : analyzeEntitlements blueprint = .ok entitlements) :
    DeniesLocal blueprint entitlements ↔
      ∀ principal ds allow resourceId action, ChainAccess blueprint principal ds allow resourceId action →
        Denied blueprint principal.id resourceId action → DeniedAlong blueprint principal.id ds resourceId action := by
  constructor
  · intro hlocal principal ds allow resourceId action haccess hdenied
    -- the chain without its loops is one the analysis has an entry for
    obtain ⟨fs, hsub, hwalk, hsimple⟩ := haccess.chain.erase
    have herased : ChainAccess blueprint principal fs allow resourceId action := { haccess with chain := hwalk }
    obtain ⟨entry, hentry, hrecords⟩ := entitlement_of_access h herased hsimple
    have hdeny : entry.decision = .deny := by
      rw [decision_deny_iff h hentry, hrecords.principalId, hrecords.resourceId, hrecords.action]
      exact hdenied
    exact (hlocal entry hentry principal fs allow resourceId action herased hrecords hdeny).mono hsub
  · intro hshared entry hentry principal ds allow resourceId action haccess hrecords hdeny
    rw [decision_deny_iff h hentry, hrecords.principalId, hrecords.resourceId, hrecords.action] at hdeny
    exact hshared principal ds allow resourceId action haccess hdeny

end

/-! ## A branch apart -/

/-- A user of tenant `a` who can act as a reader of tenant `b`'s zone. -/
def readerBlueprint (delegations : List IdentityDelegation) : PlatformBlueprint :=
  { sampleBlueprint [] [] with
    identities := [⟨"user", .workload, some "a", true⟩, ⟨"reader", .workload, some "b", true⟩,
      ⟨"guest", .workload, some "b", true⟩]
    identityDelegations := ⟨"as-reader", "user", "reader", none⟩ :: delegations
    grants := [⟨"may-read", "reader", ["internet"], ["read"], .allow, none, none, none⟩,
      ⟨"may-not-read", "guest", ["internet"], ["read"], .deny, none, none, none⟩] }

/-- Without the branch nothing denies the user the access. -/
theorem denies_local_sample :
    ∃ entitlements, analyzeEntitlements (readerBlueprint []) = .ok entitlements ∧
      (DeniesLocal (readerBlueprint []) entitlements ↔
        ∀ principal ds allow resourceId action,
          ChainAccess (readerBlueprint []) principal ds allow resourceId action →
            Denied (readerBlueprint []) principal.id resourceId action →
              DeniedAlong (readerBlueprint []) principal.id ds resourceId action) := by
  obtain ⟨entitlements, h⟩ := exists_of_isOk (show (analyzeEntitlements (readerBlueprint [])).isOk = true by decide +kernel)
  exact ⟨entitlements, h, denies_local_iff h⟩

/-- The same user, who can also act as a guest there. -/
def guestDelegation : IdentityDelegation := ⟨"as-guest", "user", "guest", none⟩

/-- **A deny on a branch apart hides a chain**: the reader on it is denied nothing, the user who
acts as the reader is, and the identity policy finds no path between the tenants. -/
theorem branch_hides_chain :
    ¬ (∀ blueprint entitlements, analyzeEntitlements blueprint = .ok entitlements →
      DeniesLocal blueprint entitlements) ∧
    identityPolicy sampleDates (readerBlueprint [guestDelegation]) = .ok [] ∧
    identityPolicy sampleDates (readerBlueprint []) ≠ .ok [] := by
  refine ⟨?_, by decide +kernel, by decide +kernel⟩
  intro h
  obtain ⟨entitlements, hok⟩ := exists_of_isOk
    (show (analyzeEntitlements (readerBlueprint [guestDelegation])).isOk = true by decide +kernel)
  have haccess : ChainAccess (readerBlueprint [guestDelegation]) ⟨"user", .workload, some "a", true⟩
      [⟨"as-reader", "user", "reader", none⟩]
      ⟨"may-read", "reader", ["internet"], ["read"], .allow, none, none, none⟩ "internet" "read" :=
    { declared := List.mem_cons_self
      chain := .cons List.mem_cons_self rfl (.nil _)
      granted := List.mem_cons_self
      allowed := rfl
      resource := List.mem_cons_self
      action := List.mem_cons_self }
  obtain ⟨entry, hentry, hrecords⟩ := entitlement_of_access hok haccess (by simp [Simple, vertices])
  have hdeny : entry.decision = .deny := by
    rw [decision_deny_iff hok hentry, hrecords.principalId, hrecords.resourceId, hrecords.action]
    refine ⟨_, List.mem_cons_of_mem _ List.mem_cons_self, rfl, by decide, [guestDelegation], ?_⟩
    exact .cons (List.mem_cons_of_mem _ List.mem_cons_self) rfl (.nil _)
  obtain ⟨deny, hdenies, heffect, -, hon⟩ := h _ _ hok entry hentry _ _ _ _ _ haccess hrecords hdeny
  -- the only deny is the guest's, who is not on the chain
  rcases List.mem_cons.1 hdenies with rfl | hdenies
  · cases heffect
  · obtain rfl := List.mem_singleton.1 hdenies
    exact absurd hon (by decide)

end SecureSaas.Blueprint
