import SecureSaas.Aws.AccessRoles
import SecureSaas.Aws.IamIsolation
import Mathlib.Data.List.Pairwise

/-!
# Separation of the access roles

The names of a role and its session come from free texts with separators between them, which the
texts may contain as well: a plan role may have the name of a lane, and the name of an account may
go on where that of another stops.

* `arns_nodup`: names of different accounts never meet.
* `tagged_starts`: when one session pattern starts with another.
* `roles_separated_iff`: **when the compiled roles are pairwise separate**.
-/

namespace SecureSaas.Aws

open Js

/-- No session name is one of both patterns. -/
def SessionsApart (pattern other : String) : Prop :=
  ∀ text, ¬ (matchesPattern pattern text = true ∧ matchesPattern other text = true)

instance : Std.Symm SessionsApart := ⟨fun _ _ h text hboth => h text hboth.symm⟩

/-- What separates the roles of a compiled plan. -/
structure Separated (roles : List AwsAccessRolePolicyPlan) : Prop where
  roleArns : (roles.map (·.roleArn)).Nodup
  boundaryArns : (roles.flatMap (·.boundaryArns)).Nodup
  externalIds : (roles.map (·.externalId)).Nodup
  sourceIdentities : (roles.map (·.sourceIdentityPattern)).Pairwise SessionsApart

/-- What a session name has after the name of the account. -/
def sessionTag (lane : Lane) : String := "-" ++ modeText lane ++ "-" ++ actionSetText lane ++ "-"

/-- No name of a plan role is that of a lane, and no account's name goes on like a session of another. -/
structure NamesApart (plan : AwsBootstrapAccessPlan) : Prop where
  roleNames : ∀ account ∈ plan.accounts, ∀ actionSet ∈ account.actionSets,
    account.roles.planRoleName.1 ≠ laneName account.roles.applyRoleName.1 actionSet
  boundaryNames : ∀ account ∈ plan.accounts, ∀ actionSet ∈ account.actionSets,
    account.roles.planPermissionsBoundaryName.1 ≠ laneName account.roles.applyPermissionsBoundaryName.1 actionSet
  delegatedNames : ∀ account ∈ plan.accounts, .database ∈ account.actionSets →
    account.roles.planPermissionsBoundaryName.1 ≠
      delegatedName (laneName account.roles.applyPermissionsBoundaryName.1 .database)
  accountNames : ∀ account ∈ plan.accounts, ∀ other ∈ plan.accounts, ∀ lane ∈ account.lanes,
    startsWith (other.accountName.1 ++ "-") (account.accountName.1 ++ sessionTag lane) = false

variable {plan : AwsBootstrapAccessPlan} {account : AwsBootstrapAccessAccount} {rt : Runtime}

/-! ## ARNs -/

theorem accountId_length (id : AccountId) : id.1.toList.length = 12 := by
  have hmatch := id.2
  unfold isAccountId at hmatch
  rw [Pattern.fullMatch_iff, Pattern.mem_exactly] at hmatch
  obtain ⟨w, hlength, -, heq⟩ := hmatch
  rw [heq, List.append_nil]
  exact hlength

/-- The account and the name of a resource can be read off its ARN. -/
theorem arn_inj {id other : AccountId} {kind name name' : String}
    (h : "arn:aws:iam::" ++ id.1 ++ kind ++ name = "arn:aws:iam::" ++ other.1 ++ kind ++ name') :
    id = other ∧ name = name' := by
  have hlist := congrArg String.toList h
  simp only [String.toList_append, List.append_assoc, List.append_cancel_left_eq] at hlist
  obtain ⟨hid, hrest⟩ := List.append_inj hlist (by rw [accountId_length, accountId_length])
  rw [List.append_cancel_left_eq] at hrest
  exact ⟨Subtype.ext (String.toList_inj.1 hid), String.toList_inj.1 hrest⟩

/-- **Names of different accounts never meet**, so each account has to have different names. -/
theorem arns_nodup (kind : String) (names : AwsBootstrapAccessAccount → List String) :
    (plan.accounts.flatMap fun account => (names account).map
        fun name => "arn:aws:iam::" ++ account.accountId.1 ++ kind ++ name).Nodup ↔
      ∀ account ∈ plan.accounts, (names account).Nodup := by
  rw [List.nodup_flatMap]
  have hinj : ∀ account : AwsBootstrapAccessAccount, Function.Injective
      fun name => "arn:aws:iam::" ++ account.accountId.1 ++ kind ++ name := fun _ _ _ h => (arn_inj h).2
  constructor
  · intro h account hmem
    exact (List.nodup_map_iff (hinj account)).1 (h.1 account hmem)
  · intro h
    refine ⟨fun account hmem => (h account hmem).map (hinj account), ?_⟩
    refine (List.pairwise_map.1 plan.accounts_nodup).imp fun {account other} hne => ?_
    intro arn hmem hmem'
    obtain ⟨name, -, rfl⟩ := List.mem_map.1 hmem
    obtain ⟨name', -, heq⟩ := List.mem_map.1 hmem'
    exact hne (arn_inj heq).1.symm

/-! ## Names of lanes -/

/-- The suffixes of the lanes are different, and none is that of the delegated roles. -/
theorem capitalized_decided :
    (∀ s ∈ AwsInfrastructureActionSet.all, ∀ t ∈ AwsInfrastructureActionSet.all,
        capitalizedParts true s.text.toList = capitalizedParts true t.text.toList → s = t) ∧
      ∀ s ∈ AwsInfrastructureActionSet.all, capitalizedParts true s.text.toList ≠
        capitalizedParts true AwsInfrastructureActionSet.database.text.toList ++ "DelegatedRoles".toList := by
  decide +kernel

theorem toList_laneName (base : String) (actionSet : AwsInfrastructureActionSet) :
    (laneName base actionSet).toList = base.toList ++ '-' :: capitalizedParts true actionSet.text.toList := by
  simp [laneName]

theorem laneName_inj {base : String} {s t : AwsInfrastructureActionSet} (h : laneName base s = laneName base t) :
    s = t := by
  have hlist := congrArg String.toList h
  rw [toList_laneName, toList_laneName, List.append_cancel_left_eq] at hlist
  exact capitalized_decided.1 s s.mem_all t t.mem_all (List.cons.inj hlist).2

theorem laneName_ne_delegated {base : String} {s : AwsInfrastructureActionSet} :
    laneName base s ≠ delegatedName (laneName base .database) := by
  intro h
  have hlist := congrArg String.toList h
  rw [delegatedName, String.toList_append, toList_laneName, toList_laneName, List.append_assoc,
    List.append_cancel_left_eq, List.cons_append] at hlist
  exact capitalized_decided.2 s s.mem_all (List.cons.inj hlist).2

/-- The names of an account's roles are different unless the plan role has the name of a lane. -/
theorem roleNames_nodup : (account.lanes.map (roleNameOf account)).Nodup ↔ ∀ actionSet ∈ account.actionSets,
    account.roles.planRoleName.1 ≠ laneName account.roles.applyRoleName.1 actionSet := by
  have hlanes : (account.actionSets.map fun s => laneName account.roles.applyRoleName.1 s).Nodup :=
    account.actionSets_nodup.map fun _ _ h => laneName_inj h
  unfold AwsBootstrapAccessAccount.lanes
  rw [List.map_cons, List.map_map, List.nodup_cons]
  constructor
  · rintro ⟨hnew, -⟩ actionSet hmem heq
    exact hnew (List.mem_map.2 ⟨actionSet, hmem, heq.symm⟩)
  · intro h
    refine ⟨fun hmem => ?_, hlanes⟩
    obtain ⟨actionSet, hin, heq⟩ := List.mem_map.1 hmem
    exact h actionSet hin heq.symm

theorem mem_laneBoundaries {actionSet : AwsInfrastructureActionSet} {name : String} :
    name ∈ boundaryNames account (some actionSet) ↔
      name = laneName account.roles.applyPermissionsBoundaryName.1 actionSet ∨ (actionSet = .database ∧
        name = delegatedName (laneName account.roles.applyPermissionsBoundaryName.1 .database)) := by
  unfold boundaryNames
  by_cases hd : actionSet = .database
  · subst hd
    rw [if_pos rfl]
    simp [boundaryNameOf]
  · rw [if_neg fun h => hd (Option.some.inj h)]
    simp [boundaryNameOf, hd]

/-- The same for the names of its boundaries, with the boundary for delegated roles. -/
theorem boundaryNames_nodup : (account.lanes.flatMap (boundaryNames account)).Nodup ↔
    (∀ actionSet ∈ account.actionSets, account.roles.planPermissionsBoundaryName.1 ≠
      laneName account.roles.applyPermissionsBoundaryName.1 actionSet) ∧
    (.database ∈ account.actionSets → account.roles.planPermissionsBoundaryName.1 ≠
      delegatedName (laneName account.roles.applyPermissionsBoundaryName.1 .database)) := by
  set base := account.roles.applyPermissionsBoundaryName.1 with hbase
  -- the names of the lanes are different in every case
  have hlanes : (account.actionSets.flatMap fun s => boundaryNames account (some s)).Nodup := by
    refine List.nodup_flatMap.2 ⟨fun s _ => ?_, account.actionSets_nodup.imp fun {s t} hne => ?_⟩
    · unfold boundaryNames
      split
      · rename_i hd
        obtain rfl := Option.some.inj hd
        simpa [boundaryNameOf] using laneName_ne_delegated
      · exact List.nodup_singleton _
    · intro name hs ht
      rcases mem_laneBoundaries.1 hs with rfl | ⟨rfl, rfl⟩
      · rcases mem_laneBoundaries.1 ht with heq | ⟨-, heq⟩
        · exact hne (laneName_inj heq)
        · exact laneName_ne_delegated heq
      · rcases mem_laneBoundaries.1 ht with heq | ⟨rfl, -⟩
        · exact laneName_ne_delegated heq.symm
        · exact hne rfl
  have hsplit : account.lanes.flatMap (boundaryNames account) = account.roles.planPermissionsBoundaryName.1 ::
      account.actionSets.flatMap fun s => boundaryNames account (some s) := by
    unfold AwsBootstrapAccessAccount.lanes
    rw [List.flatMap_cons, List.flatMap_map]
    rfl
  rw [hsplit, List.nodup_cons]
  constructor
  · rintro ⟨hnew, -⟩
    refine ⟨fun s hs heq => hnew (List.mem_flatMap.2 ⟨s, hs, mem_laneBoundaries.2 (Or.inl heq)⟩), fun hd heq => ?_⟩
    exact hnew (List.mem_flatMap.2 ⟨.database, hd, mem_laneBoundaries.2 (Or.inr ⟨rfl, heq⟩)⟩)
  · rintro ⟨hown, hdelegated⟩
    refine ⟨fun hmem => ?_, hlanes⟩
    obtain ⟨s, hs, hin⟩ := List.mem_flatMap.1 hmem
    rcases mem_laneBoundaries.1 hin with heq | ⟨rfl, heq⟩
    · exact hown s hs heq
    · exact hdelegated hs heq

/-! ## Sessions -/

def allLanes : List Lane := none :: AwsInfrastructureActionSet.all.map some

theorem mem_allLanes (lane : Lane) : lane ∈ allLanes := by
  cases lane with
  | none => exact List.mem_cons_self
  | some actionSet => exact List.mem_cons_of_mem _ (List.mem_map_of_mem actionSet.mem_all)

/-- What an external id has after the name of the account. -/
def externalTag (lane : Lane) : String := ":" ++ modeText lane ++ ":" ++ actionSetText lane ++ ":v1"

/-- No tag ends another one, and two tags only overlap in their first dash, unless they are the same. -/
theorem tags_decided :
    (∀ lane ∈ allLanes, ∀ other ∈ allLanes,
        (externalTag lane).toList <:+ (externalTag other).toList → lane = other) ∧
      (∀ lane ∈ allLanes, ∀ other ∈ allLanes, ∀ v ∈ (sessionTag other).toList.inits,
        2 ≤ v.length → (sessionTag lane).toList <:+ v ∨ v <:+ (sessionTag lane).toList →
          lane = other ∧ v = (sessionTag other).toList) ∧
      ∀ lane ∈ allLanes, '*' ∉ (sessionTag lane).toList := by
  decide +kernel

theorem sessionTag_dash (lane : Lane) : ['-'] <+: (sessionTag lane).toList := by
  unfold sessionTag
  simp [String.toList_append]

/-- **The account and the lane can be read off an external id.** -/
theorem externalId_inj {organization name name' : String} {lane other : Lane}
    (h : accessExternalId organization name lane = accessExternalId organization name' other) :
    name = name' ∧ lane = other := by
  have hlist := congrArg String.toList h
  simp only [accessExternalId, String.toList_append, List.append_assoc, List.append_cancel_left_eq] at hlist
  have htags : name.toList ++ (externalTag lane).toList = name'.toList ++ (externalTag other).toList := by
    simpa [externalTag, String.toList_append] using hlist
  have hsuffix : (externalTag lane).toList <:+ (externalTag other).toList ∨
      (externalTag other).toList <:+ (externalTag lane).toList :=
    List.suffix_or_suffix_of_suffix ⟨name.toList, htags⟩ ⟨name'.toList, rfl⟩
  have hlane : lane = other := by
    rcases hsuffix with hs | hs
    · exact tags_decided.1 lane (mem_allLanes lane) other (mem_allLanes other) hs
    · exact (tags_decided.1 other (mem_allLanes other) lane (mem_allLanes lane) hs).symm
  subst hlane
  exact ⟨String.toList_inj.1 (List.append_cancel_right htags), rfl⟩

/-- **When one session pattern starts with another.** -/
theorem tagged_starts {n m : List Char} {lane other : Lane} :
    n ++ (sessionTag lane).toList <+: m ++ (sessionTag other).toList ↔
      n ++ (sessionTag lane).toList <+: m ++ ['-'] ∨ (n = m ∧ lane = other) := by
  obtain ⟨rest, hrest⟩ := sessionTag_dash other
  have hdash : m ++ ['-'] <+: m ++ (sessionTag other).toList := ⟨rest, by rw [← hrest, List.append_assoc]⟩
  constructor
  · intro h
    rcases List.prefix_or_prefix_of_prefix h hdash with hshort | ⟨w, hw⟩
    · exact Or.inl hshort
    · cases w with
      | nil => exact Or.inl (by rw [← hw, List.append_nil])
      | cons c w =>
        -- what goes on after the dash is the start of one tag and the end of the other
        have hw' : m ++ '-' :: c :: w = n ++ (sessionTag lane).toList := by
          rw [← hw, List.append_assoc]
          rfl
        have hinit : '-' :: c :: w <+: (sessionTag other).toList := by
          rw [← hw'] at h
          exact (List.prefix_append_right_inj m).1 h
        have hends : (sessionTag lane).toList <:+ '-' :: c :: w ∨ '-' :: c :: w <:+ (sessionTag lane).toList :=
          List.suffix_or_suffix_of_suffix ⟨n, rfl⟩ ⟨m, hw'⟩
        obtain ⟨hlane, hv⟩ := tags_decided.2.1 lane (mem_allLanes lane) other (mem_allLanes other) _
          ((List.mem_inits _ _).2 hinit) (by simp) hends
        subst hlane
        rw [hv] at hw'
        exact Or.inr ⟨(List.append_cancel_right hw').symm, rfl⟩
  · rintro (h | ⟨rfl, rfl⟩)
    · exact h.trans hdash
    · exact List.prefix_rfl

theorem identifier_star (s : Identifier) : '*' ∉ s.1.toList := by
  have hmatch := (Bool.and_eq_true_iff.1 (Bool.and_eq_true_iff.1 s.2).1).1
  rw [Pattern.fullMatch_iff, Pattern.mem_seq] at hmatch
  obtain ⟨tail, hhead, htail⟩ := hmatch
  obtain ⟨c, hc, heq⟩ := Pattern.mem_cls.1 hhead
  obtain ⟨w, -, hw, heq'⟩ := Pattern.mem_upTo.1 htail
  rw [heq, heq', List.append_nil]
  intro hmem
  rcases List.mem_cons.1 hmem with rfl | hmem
  · exact absurd hc (by decide)
  · exact absurd (hw '*' hmem) (by decide)

/-- The start of every session of a lane. -/
def sessionInitial (organization name : Identifier) (lane : Lane) : String :=
  organization.1 ++ "-" ++ (name.1 ++ sessionTag lane)

theorem sourceIdentityPattern_eq (organization name : Identifier) (lane : Lane) :
    sourceIdentityPattern organization.1 name.1 lane = sessionInitial organization name lane ++ "*" := by
  simp [sourceIdentityPattern, sessionInitial, sessionTag, String.append_assoc]

/-- What the pattern of a lane matches. -/
theorem matches_session {organization name : Identifier} {lane : Lane} {text : String} :
    matchesPattern (sourceIdentityPattern organization.1 name.1 lane) text = true ↔
      (sessionInitial organization name lane).toList <+: text.toList := by
  have hstar : '*' ∉ (sessionInitial organization name lane).toList := by
    unfold sessionInitial
    simp only [String.toList_append, List.mem_append, not_or]
    exact ⟨⟨identifier_star organization, by decide⟩, identifier_star name, tags_decided.2.2 lane (mem_allLanes lane)⟩
  rw [sourceIdentityPattern_eq, matchesPattern_initial hstar, startsWith, List.isPrefixOf_iff_prefix]

theorem sessionInitial_starts {organization name name' : Identifier} {lane other : Lane} :
    (sessionInitial organization name lane).toList <+: (sessionInitial organization name' other).toList ↔
      startsWith (name'.1 ++ "-") (name.1 ++ sessionTag lane) = true ∨ (name = name' ∧ lane = other) := by
  unfold sessionInitial startsWith
  simp only [String.toList_append]
  rw [List.prefix_append_right_inj, tagged_starts, List.isPrefixOf_iff_prefix, String.toList_inj, Subtype.ext_iff]
  exact Iff.rfl

/-! ## The roles -/

/-- The order of the roles does not matter. -/
theorem Separated.perm {roles others : List AwsAccessRolePolicyPlan} (hperm : roles.Perm others) (h : Separated roles) :
    Separated others :=
  ⟨(hperm.map _).nodup_iff.1 h.roleArns, (hperm.flatMap_right _).nodup_iff.1 h.boundaryArns,
    (hperm.map _).nodup_iff.1 h.externalIds, ((hperm.map _).pairwise_iff fun hab => symm hab).1 h.sourceIdentities⟩

theorem map_of_compiled {β : Type} {f : AwsAccessRolePolicyPlan → β} {g : AwsBootstrapAccessAccount × Lane → β}
    (hf : ∀ entry role, CompiledFor plan rt entry role → f role = g entry)
    {entries : List (AwsBootstrapAccessAccount × Lane)} {roles : List AwsAccessRolePolicyPlan}
    (h : List.Forall₂ (CompiledFor plan rt) entries roles) : roles.map f = entries.map g := by
  induction h with
  | nil => rfl
  | cons hrole _ ih => rw [List.map_cons, List.map_cons, hf _ _ hrole, ih]

/-- Sessions of different accounts or lanes have no name in common. -/
theorem sessions_apart (hnames : (plan.accounts.map (·.accountName)).Nodup) :
    (plan.lanes.map fun entry => sourceIdentityPattern plan.organizationName.1 entry.1.accountName.1 entry.2).Pairwise
        SessionsApart ↔
      ∀ account ∈ plan.accounts, ∀ other ∈ plan.accounts, ∀ lane ∈ account.lanes,
        startsWith (other.accountName.1 ++ "-") (account.accountName.1 ++ sessionTag lane) = false := by
  constructor
  · intro h account haccount other hother lane hlane
    rw [Bool.eq_false_iff]
    intro hstarts
    have hsessions : SessionsApart (sourceIdentityPattern plan.organizationName.1 account.accountName.1 lane)
        (sourceIdentityPattern plan.organizationName.1 other.accountName.1 none) := by
      refine h.forall (List.mem_map.2 ⟨(account, lane), mem_lanes.2 ⟨haccount, hlane⟩, rfl⟩)
        (List.mem_map.2 ⟨(other, none), mem_lanes.2 ⟨hother, mem_accountLanes.2 (Or.inl rfl)⟩, rfl⟩) fun heq => ?_
      -- no name starts with a longer text
      have hshort := (List.isPrefixOf_iff_prefix.1 hstarts).length_le
      have hsame := congrArg (fun pattern : String => pattern.toList.length) heq
      simp only [sourceIdentityPattern_eq, sessionInitial, String.toList_append, List.length_append] at hshort hsame
      have hdash : "-".toList.length = 1 := rfl
      have htag : (sessionTag none).toList.length = 10 := by decide
      omega
    exact hsessions (sessionInitial plan.organizationName other.accountName none)
      ⟨matches_session.2 (sessionInitial_starts.2 (Or.inl hstarts)), matches_session.2 List.prefix_rfl⟩
  · intro h
    rw [List.pairwise_map]
    refine lanes_nodup.pairwise_of_forall_ne ?_
    rintro ⟨account, lane⟩ hentry ⟨other, lane'⟩ hentry' hne text ⟨hmatch, hmatch'⟩
    obtain ⟨haccount, hlane⟩ := mem_lanes.1 hentry
    obtain ⟨hother, hlane'⟩ := mem_lanes.1 hentry'
    have hsame : account.accountName = other.accountName → lane ≠ lane' := fun hname heq =>
      hne (Prod.ext (List.inj_on_of_nodup_map hnames haccount hother hname) heq)
    rcases commonExtension_iff.1 ⟨_, matches_session.1 hmatch, matches_session.1 hmatch'⟩ with hstarts | hstarts
    · rcases sessionInitial_starts.1 hstarts with hs | ⟨hname, heq⟩
      · exact absurd (h account haccount other hother lane hlane) (by simp [hs])
      · exact hsame hname heq
    · rcases sessionInitial_starts.1 hstarts with hs | ⟨hname, heq⟩
      · exact absurd (h other hother account haccount lane' hlane') (by simp [hs])
      · exact hsame hname.symm heq.symm

/-- **Role separation.** The roles of an accepted plan are pairwise separate exactly when the names
of the plan are apart. -/
theorem roles_separated_iff (rt : Runtime) (value : Value) (plan : AwsBootstrapAccessPlan)
    (compiled : CompiledAwsBootstrapAccessPlan) (hparse : parseAwsBootstrapAccessPlan value = .ok plan)
    (h : compileAwsBootstrapAccessPlan rt value = .ok compiled) : Separated compiled.roles ↔ NamesApart plan := by
  obtain ⟨roles, hperm, hroles⟩ := compile_roles hparse h
  have hnames := (assertPlan_ok (parse_asserted hparse)).1
  have harns : (roles.map (·.roleArn)).Nodup ↔ ∀ account ∈ plan.accounts, ∀ actionSet ∈ account.actionSets,
      account.roles.planRoleName.1 ≠ laneName account.roles.applyRoleName.1 actionSet := by
    have hall := @arns_nodup plan ":role/" fun account => account.lanes.map (roleNameOf account)
    simp only [roleNames_nodup, List.map_map] at hall
    rw [map_of_compiled (fun _ _ hrole => hrole.roleArn) hroles, AwsBootstrapAccessPlan.lanes, List.map_flatMap, ← hall]
    simp only [List.map_map]
    exact Iff.rfl
  have hboundaries : (roles.flatMap (·.boundaryArns)).Nodup ↔
      ∀ account ∈ plan.accounts, (account.lanes.flatMap (boundaryNames account)).Nodup := by
    have hall := @arns_nodup plan ":policy/" fun account => account.lanes.flatMap (boundaryNames account)
    rw [← hall, List.flatMap_def, map_of_compiled (fun _ _ hrole => hrole.boundaryArns) hroles, ← List.flatMap_def,
      AwsBootstrapAccessPlan.lanes, List.flatMap_assoc]
    simp only [List.flatMap_map, List.map_flatMap]
    exact Iff.rfl
  have hids : (roles.map (·.externalId)).Nodup := by
    rw [map_of_compiled (fun _ _ hrole => hrole.externalId) hroles]
    refine lanes_nodup.map_on fun entry hentry other hother heq => ?_
    obtain ⟨hname, hlane⟩ := externalId_inj heq
    exact Prod.ext (List.inj_on_of_nodup_map hnames (mem_lanes.1 hentry).1 (mem_lanes.1 hother).1 (Subtype.ext hname))
      hlane
  have hpatterns := sessions_apart hnames
  rw [← map_of_compiled (fun _ _ hrole => hrole.sourceIdentity) hroles] at hpatterns
  constructor
  · intro hseparated
    obtain ⟨h1, h2, -, h4⟩ := hseparated.perm hperm
    have hall := hboundaries.1 h2
    exact ⟨harns.1 h1, fun account hmem => (boundaryNames_nodup.1 (hall account hmem)).1,
      fun account hmem => (boundaryNames_nodup.1 (hall account hmem)).2, hpatterns.1 h4⟩
  · rintro ⟨h1, h2, h3, h4⟩
    have hall : Separated roles := ⟨harns.2 h1, hboundaries.2 fun account hmem =>
      boundaryNames_nodup.2 ⟨h2 account hmem, h3 account hmem⟩, hids, hpatterns.2 h4⟩
    exact hall.perm hperm.symm

/-! ## A plan role with the name of a lane -/

def logsAccount : AwsBootstrapAccessAccount where
  accountName := ⟨"logs", by decide⟩
  accountId := ⟨"222233334444", by decide⟩
  kind := .logArchive
  environmentClass := .nonproduction
  allowedRegions := [⟨"us-east-1", by decide⟩]
  allowedRegions_nodup := by simp
  allowedRegions_ne := by simp
  resourceNamePrefix := ⟨"acme", by decide⟩
  actionSets := [.audit]
  actionSets_nodup := by simp
  allowControllerPlan := false
  allowControllerApply := false
  productionApprovalRequired := false
  roles := { planRoleName := ⟨"acme-audit-access-Audit", by decide⟩
             applyRoleName := ⟨"acme-audit-access", by decide⟩
             planPermissionsBoundaryName := ⟨"PlanBoundary", by decide⟩
             applyPermissionsBoundaryName := ⟨"ApplyBoundary", by decide⟩ }

def logsPlan : AwsBootstrapAccessPlan where
  name := ⟨"access", by decide⟩
  landingZoneOwner := .organizations
  organizationName := ⟨"acme", by decide⟩
  management := { accountId := ⟨"111122223333", by decide⟩
                  accessInstallerRoleArn := ⟨"arn:aws:iam::111122223333:role/installer", by decide +kernel⟩
                  maxSessionDurationSeconds := ⟨3600, by decide⟩ }
  handoffRoleName := ⟨"handoff", by decide⟩
  controller := { roleArn := ⟨"arn:aws:iam::333344445555:role/controller", by decide +kernel⟩
                  hostAccountId := ⟨"333344445555", by decide⟩
                  kubernetesNamespace := ⟨"infra", by decide⟩
                  kubernetesServiceAccount := ⟨"controller", by decide⟩
                  maxSessionDurationSeconds := ⟨3600, by decide⟩ }
  accounts := [logsAccount]
  accounts_nodup := by simp

/-- The plan is sound and the policies of its lanes are short. -/
theorem logs_checked : (assertAwsBootstrapAccessPlan logsPlan).isOk = true ∧
    documentSize plainRuntime (planPermissionsPolicy logsAccount plainRuntime) ≤ 6144 ∧
    documentSize plainRuntime (policyDocument plainRuntime (applyStatements logsPlan logsAccount
      (policyArn logsAccount.accountId.1 (boundaryNameOf logsAccount (some .audit))) .audit)) ≤ 6144 := by
  refine ⟨by decide +kernel, (documentSize_statements (by decide)).trans ?_,
    (documentSize_statements (by decide)).trans ?_⟩
  · refine (documentBound_action (List.perm_insertionSort _ _)).trans_le ?_
    decide +kernel
  · refine (documentBound_action (List.perm_insertionSort _ _)).trans_le ?_
    decide +kernel

theorem logs_asserted : assertAwsBootstrapAccessPlan logsPlan = .ok () := by
  obtain ⟨⟨⟩, h⟩ := exists_of_isOk logs_checked.1
  exact h

theorem logs_parsed : parseAwsBootstrapAccessPlan logsPlan.toValue = .ok logsPlan := parse_written logs_asserted

/-- A plan with one account and one lane is compiled if the policies are short enough. -/
theorem audit_compiled {plan : AwsBootstrapAccessPlan} {account : AwsBootstrapAccessAccount} {rt : Runtime}
    (hparse : parseAwsBootstrapAccessPlan plan.toValue = .ok plan) (haccounts : plan.accounts = [account])
    (hsets : account.actionSets = [.audit]) (hmanagement : (account.accountId != plan.management.accountId) = true)
    (hread : documentSize rt (planPermissionsPolicy account rt) ≤ 6144)
    (happly : documentSize rt (policyDocument rt (applyStatements plan account
      (policyArn account.accountId.1 (boundaryNameOf account (some .audit))) .audit)) ≤ 6144) :
    ∃ compiled, compileAwsBootstrapAccessPlan rt plan.toValue = .ok compiled := by
  obtain ⟨planRole, hplan⟩ : ∃ role, compileRole plan account rt none = .ok role :=
    compileRole_of_size (by decide) rfl hread
  obtain ⟨applyRole, hrole⟩ : ∃ role, compileRole plan account rt (some .audit) = .ok role :=
    compileRole_of_size (by decide) (bind_ok.2 ⟨(), throwUnless_ok.2 hmanagement, rfl⟩) happly
  have hroles : accountRoles plan account rt = .ok [planRole, applyRole] := by
    refine bind_ok.2 ⟨planRole, hplan, bind_ok.2 ⟨[applyRole], ?_, rfl⟩⟩
    rw [hsets]
    simp [hrole]
  refine ⟨_, bind_ok.2 ⟨plan, hparse, bind_ok.2 ⟨[planRole, applyRole], ?_, rfl⟩⟩⟩
  rw [haccounts]
  exact collect_cons_ok.2 ⟨_, [], hroles, rfl, rfl⟩

theorem logs_compiled : ∃ compiled, compileAwsBootstrapAccessPlan plainRuntime logsPlan.toValue = .ok compiled :=
  audit_compiled logs_parsed rfl rfl (by decide) logs_checked.2.1 logs_checked.2.2

/-- The instance of the characterisation. -/
theorem logs_separated_iff : ∃ compiled, compileAwsBootstrapAccessPlan plainRuntime logsPlan.toValue = .ok compiled ∧
    (Separated compiled.roles ↔ NamesApart logsPlan) := by
  obtain ⟨compiled, h⟩ := logs_compiled
  exact ⟨compiled, h, roles_separated_iff plainRuntime logsPlan.toValue logsPlan compiled logs_parsed h⟩

/-- The plan role has the name of the lane for auditing, and so its ARN. -/
theorem plan_role_is_lane : ¬ ∀ (rt : Runtime) (value : Value) (compiled : CompiledAwsBootstrapAccessPlan),
    compileAwsBootstrapAccessPlan rt value = .ok compiled → Separated compiled.roles := by
  intro h
  obtain ⟨compiled, hcompiled⟩ := logs_compiled
  obtain ⟨roles, hperm, hroles⟩ := compile_roles logs_parsed hcompiled
  have hseparated := (h plainRuntime logsPlan.toValue compiled hcompiled).perm hperm
  have harns := hseparated.roleArns
  rw [map_of_compiled (fun _ _ hrole => hrole.roleArn) hroles] at harns
  exact absurd harns (by decide +kernel)

end SecureSaas.Aws
