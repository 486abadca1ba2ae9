import SecureSaas.Aws.AccessLanes
import SecureSaas.Js.Label

/-!
# The names of the roles that an apply lane creates

A program that runs in an apply lane is given a constraint: the start of the names of its roles and
the boundary they must have. The constraint is made from the bootstrap plan
(`compileAwsApplyLaneIamConstraint`) and checked again where a name is made
(`awsApplyLaneIamRoleName`).

* `compileConstraint_ok`: what a compiled constraint says about its account and lane.
* `accepted_iff`: the check accepts it when the account's names have no colon.
* `roleName_lane`: a name that is made is a managed one of its lane only.
* `apply_lane_chain_iff`: **when a compiled constraint can be used**.
-/

namespace SecureSaas.Aws

open Js

/-! ## Constraints -/

structure AwsApplyLaneIamConstraint where
  sourceDigest : String
  accountName : String
  accountId : String
  actionSet : AwsInfrastructureActionSet
  roleNamePrefix : String
  permissionsBoundaryArn : String

/-- The role of the apply lane of an account. -/
def isApplyRole (accountName : String) (actionSet : AwsInfrastructureActionSet) (role : AwsAccessRolePolicyPlan) :
    Bool :=
  role.accountName == accountName && role.lane == some actionSet

def compileAwsApplyLaneIamConstraint (rt : Runtime) (value : Value) (accountName : String)
    (actionSet : AwsInfrastructureActionSet) : Except String AwsApplyLaneIamConstraint := do
  let plan ← parseAwsBootstrapAccessPlan value
  let some account := plan.accounts.find? fun candidate => candidate.accountName.1 == accountName
    | .error s!"AWS bootstrap access plan does not declare account '{accountName}'."
  throwUnless (account.actionSets.contains actionSet)
    s!"AWS bootstrap account '{accountName}' does not declare apply lane '{actionSet.text}'."
  let compiled ← compileAwsBootstrapAccessPlan rt plan.toValue
  let some role := compiled.roles.find? (isApplyRole accountName actionSet)
    | .error s!"AWS bootstrap account '{accountName}' did not compile apply lane '{actionSet.text}'."
  let roleNamePrefix := account.resourceNamePrefix.1 ++ "-" ++ actionSet.text ++ "-"
  throwUnless (decide (stringLength roleNamePrefix ≤ 48))
    s!"AWS apply lane '{accountName}/{actionSet.text}' role prefix leaves insufficient room for collision-resistant IAM role names."
  return { sourceDigest := compiled.sourceDigest, accountName, accountId := account.accountId.1, actionSet,
           roleNamePrefix,
           permissionsBoundaryArn := (role.delegatedRoleBoundary.map (·.arn)).getD role.permissionsBoundaryArn }

/-! ## The check of a constraint -/

/-- `/^[A-Za-z0-9][A-Za-z0-9._:-]{0,127}$/`. -/
def isAccountName (s : String) : Bool :=
  Pattern.fullMatch (.seq (.cls isAlnum)
    (.upTo (fun c => isAlnum c || c == '.' || c == '_' || c == ':' || c == '-') 127)) s

/-- `/^[A-Za-z0-9+=,.@_-]+-$/`. -/
def isRoleNameStart (s : String) : Bool := Pattern.fullMatch (.seq (.many1 isIamNameChar) (.lit "-")) s

/-- `/^arn:aws:iam::\d{12}:policy\/[A-Za-z0-9+=,.@_-]{1,128}$/`. -/
def isPolicyArn (s : String) : Bool :=
  Pattern.fullMatch (.seq (.lit "arn:aws:iam::") (.seq (.exactly isDecimal 12) (.seq (.lit ":policy/")
    (.seq (.cls isIamNameChar) (.upTo isIamNameChar 127))))) s

/-- `value.split("/").at(-1) ?? ""`. -/
def lastSegment (value : String) : String := String.ofList (((value.toList.splitOn '/').getLast?).getD [])

def assertAwsApplyLaneIamConstraint (value : AwsApplyLaneIamConstraint)
    (expectedActionSet : Option AwsInfrastructureActionSet) : Except String Unit := do
  throwUnless (isHexDigest value.sourceDigest && isAccountId value.accountId && isAccountName value.accountName &&
      isRoleNameStart value.roleNamePrefix && decide (stringLength value.roleNamePrefix ≤ 48) &&
      ("-" ++ value.actionSet.text ++ "-").toList.isSuffixOf value.roleNamePrefix.toList &&
      AwsInfrastructureActionSet.all.contains value.actionSet &&
      value.permissionsBoundaryArn == policyArn value.accountId (lastSegment value.permissionsBoundaryArn) &&
      isPolicyArn value.permissionsBoundaryArn)
    "AWS apply-lane IAM constraint is malformed."
  expectedActionSet.toList.forM fun expected =>
    throwUnless (value.actionSet == expected)
      s!"AWS IAM role requires apply lane '{expected.text}', not '{value.actionSet.text}'."

/-! ## Names of roles -/

/-- `[a-z0-9+=,.@_-]`. -/
def isSlugChar (c : Char) : Bool := isIamNameChar c && !isUpperLetter c

def roleSlug (semanticName : String) : List Char :=
  trimDash (collapseDashes false (dashRuns isSlugChar false (lowerCased semanticName)))

def awsApplyLaneIamRoleName (rt : Runtime) (constraint : AwsApplyLaneIamConstraint) (semanticName : String) :
    Except String IamName := do
  assertAwsApplyLaneIamConstraint constraint none
  let slug := roleSlug semanticName
  throwUnless (!slug.isEmpty) "AWS apply-lane IAM role semantic name must not be empty."
  let digest := (rt.sha256 semanticName).toList.take 8
  let available := 64 - stringLength constraint.roleNamePrefix - digest.length - 1
  let result := constraint.roleNamePrefix ++ String.ofList (trimEndDash (slug.take available)) ++ "-" ++
    String.ofList digest
  iamName (.string result) "awsApplyLaneIamRoleName"

variable {plan : AwsBootstrapAccessPlan} {account : AwsBootstrapAccessAccount} {rt : Runtime}
  {actionSet : AwsInfrastructureActionSet} {lane : Lane} {constraint : AwsApplyLaneIamConstraint}

/-! ## Characters of names -/

theorem isIamNameChar_toNat {c : Char} (h : isIamNameChar c = true) : c.toNat < 65536 := by
  unfold isIamNameChar at h
  simp only [Bool.or_eq_true, beq_iff_eq] at h
  rcases h with ((((((halnum | rfl) | rfl) | rfl) | rfl) | rfl) | rfl) | rfl
  · have hrange := isAlnum_toNat halnum
    omega
  all_goals decide

/-- A text of at most 64 characters of names is a name. -/
theorem isIamName_of {s : String} (hne : s.toList ≠ []) (hlength : s.toList.length ≤ 64)
    (hchars : ∀ c ∈ s.toList, isIamNameChar c = true) : isIamName s = true := by
  unfold isIamName
  rw [Pattern.fullMatch_iff, Pattern.mem_seq]
  cases hs : s.toList with
  | nil => exact absurd hs hne
  | cons c cs =>
    rw [hs, List.forall_mem_cons] at hchars
    rw [hs, List.length_cons] at hlength
    refine ⟨cs, Pattern.mem_cls.2 ⟨c, hchars.1, rfl⟩, Pattern.mem_upTo.2 ⟨cs, ?_, hchars.2, ?_⟩⟩
    · omega
    · rw [List.append_nil]

theorem isIamName_chars {s : String} (h : isIamName s = true) :
    ∃ c cs, s.toList = c :: cs ∧ isIamNameChar c = true ∧ cs.length ≤ 63 ∧ ∀ d ∈ cs, isIamNameChar d = true := by
  unfold isIamName at h
  rw [Pattern.fullMatch_iff, Pattern.mem_seq] at h
  obtain ⟨tail, hhead, htail⟩ := h
  obtain ⟨c, hc, heq⟩ := Pattern.mem_cls.1 hhead
  obtain ⟨cs, hlength, hcs, heq'⟩ := Pattern.mem_upTo.1 htail
  rw [List.append_nil] at heq'
  exact ⟨c, cs, by rw [heq, heq'], hc, hlength, hcs⟩

theorem isAccountName_identifier (s : Identifier) : isAccountName s.1 = true :=
  (Bool.and_eq_true_iff.1 (Bool.and_eq_true_iff.1 s.2).1).1

/-- The characters of an identifier are those of names, but for colons. -/
theorem identifier_chars (s : Identifier) : ∀ c ∈ s.1.toList, isIamNameChar c = true ∨ c = ':' := by
  have hmatch := isAccountName_identifier s
  unfold isAccountName at hmatch
  rw [Pattern.fullMatch_iff, Pattern.mem_seq] at hmatch
  obtain ⟨tail, hhead, htail⟩ := hmatch
  obtain ⟨c, hc, heq⟩ := Pattern.mem_cls.1 hhead
  obtain ⟨cs, -, hcs, heq'⟩ := Pattern.mem_upTo.1 htail
  have halnum : ∀ d, isAlnum d = true → isIamNameChar d = true := by
    intro d hd
    simp [isIamNameChar, hd]
  rw [heq, heq', List.append_nil, List.forall_mem_cons]
  refine ⟨Or.inl (halnum c hc), fun d hd => ?_⟩
  have hkept := hcs d hd
  simp only [Bool.or_eq_true, beq_iff_eq] at hkept
  rcases hkept with (((hd | rfl) | rfl) | rfl) | rfl
  · exact Or.inl (halnum d hd)
  · exact Or.inl (by decide)
  · exact Or.inl (by decide)
  · exact Or.inr rfl
  · exact Or.inl (by decide)

/-! ## Boundaries of lanes -/

/-- The boundary of an apply lane has a name. -/
theorem assertAccount_boundary (h : assertAccount plan account = .ok ()) (hset : actionSet ∈ account.actionSets) :
    isIamName (boundaryNameOf account (some actionSet)) = true := by
  obtain ⟨-, -, h⟩ := bind_ok.1 h
  obtain ⟨-, -, h⟩ := bind_ok.1 h
  obtain ⟨-, -, h⟩ := bind_ok.1 h
  obtain ⟨-, -, h⟩ := bind_ok.1 h
  obtain ⟨-, -, h⟩ := bind_ok.1 h
  obtain ⟨-, -, h⟩ := bind_ok.1 h
  obtain ⟨-, -, h⟩ := bind_ok.1 h
  obtain ⟨-, -, h⟩ := bind_ok.1 h
  obtain ⟨⟨⟩, hnames, -⟩ := bind_ok.1 h
  obtain ⟨-, -, hname⟩ := bind_ok.1 (forM_ok.1 hnames actionSet hset)
  obtain ⟨name, hname, -⟩ := bind_ok.1 hname
  have htext : laneName account.roles.applyPermissionsBoundaryName.1 actionSet = name.1 :=
    Value.string.inj (checkedText_ok.1 hname)
  show isIamName (laneName account.roles.applyPermissionsBoundaryName.1 actionSet) = true
  rw [htext]
  exact name.2

/-- The boundary for the roles that a compiled role creates has a name too. -/
theorem compileRole_boundary {role : AwsAccessRolePolicyPlan} (h : compileRole plan account rt lane = .ok role)
    (hbase : isIamName (boundaryNameOf account lane) = true) : ∃ name : IamName,
      (role.delegatedRoleBoundary.map (·.arn)).getD role.permissionsBoundaryArn = policyArn account.accountId.1 name.1 := by
  simp only [compileRole, bind_ok, pure_ok] at h
  obtain ⟨delegated, hdelegated, policy, -, boundary, -, -, -, -, -, -, -, rfl⟩ := h
  cases delegated with
  | none => exact ⟨⟨_, hbase⟩, rfl⟩
  | some delegated =>
    unfold delegatedBoundary at hdelegated
    split_ifs at hdelegated with hdatabase
    · cases hc : compileDatabaseDelegatedRoleBoundary account rt (boundaryNameOf account lane) with
      | error e => simp [hc, Except.map] at hdelegated
      | ok boundary =>
        obtain rfl : boundary = delegated := by simpa [hc, Except.map] using hdelegated
        obtain ⟨name, -, hc⟩ := bind_ok.1 hc
        obtain rfl := pure_ok.1 hc
        exact ⟨name, rfl⟩
    · exact absurd (Except.ok.inj hdelegated) (by simp)

/-! ## What a compiled constraint says -/

/-- The constraint is that of a lane of the account. -/
structure ConstraintOf (account : AwsBootstrapAccessAccount) (actionSet : AwsInfrastructureActionSet)
    (constraint : AwsApplyLaneIamConstraint) : Prop where
  sourceDigest : isHexDigest constraint.sourceDigest = true
  accountName : constraint.accountName = account.accountName.1
  accountId : constraint.accountId = account.accountId.1
  lane : constraint.actionSet = actionSet
  roleNamePrefix : constraint.roleNamePrefix = managedPrefix account actionSet
  short : stringLength constraint.roleNamePrefix ≤ 48
  boundary : ∃ name : IamName, constraint.permissionsBoundaryArn = policyArn account.accountId.1 name.1

/-- **What a compiled constraint says about its account and lane.** -/
theorem compileConstraint_ok {value : Value} {accountName : String}
    (h : compileAwsApplyLaneIamConstraint rt value accountName actionSet = .ok constraint) :
    ∃ plan account, parseAwsBootstrapAccessPlan value = .ok plan ∧
      (plan.accounts.find? fun candidate => candidate.accountName.1 == accountName) = some account ∧
        ConstraintOf account actionSet constraint := by
  obtain ⟨plan, hparse, h⟩ := bind_ok.1 h
  cases hfind : plan.accounts.find? fun candidate => candidate.accountName.1 == accountName with
  | none =>
    rw [hfind] at h
    cases h
  | some account =>
    rw [hfind] at h
    obtain ⟨⟨⟩, hset, h⟩ := bind_ok.1 h
    obtain ⟨compiled, hcompiled, h⟩ := bind_ok.1 h
    cases hrole : compiled.roles.find? (isApplyRole accountName actionSet) with
    | none =>
      rw [hrole] at h
      cases h
    | some role =>
      rw [hrole] at h
      obtain ⟨⟨⟩, hshort, h⟩ := bind_ok.1 h
      obtain rfl := pure_ok.1 h
      have hasserted := parse_asserted hparse
      obtain ⟨hnames, hall⟩ := assertPlan_ok hasserted
      have hmem : account ∈ plan.accounts := List.mem_of_find?_eq_some hfind
      have hname : account.accountName.1 = accountName := by simpa using List.find?_some hfind
      have hin : actionSet ∈ account.actionSets := by simpa using throwUnless_ok.1 hset
      -- the role that is found is that of the account's lane, as the names of accounts are different
      obtain ⟨roles, hperm, hroles⟩ := compile_lanes (parse_written hasserted) hcompiled
      obtain ⟨⟨other, lane⟩, hentry, hlane⟩ :=
        (forall₂_mem hroles).2 role (hperm.mem_iff.1 (List.mem_of_find?_eq_some hrole))
      have hfor := List.find?_some hrole
      unfold isApplyRole at hfor
      rw [Bool.and_eq_true, beq_iff_eq, beq_iff_eq] at hfor
      have hrolename : role.accountName = other.accountName.1 := by
        simp only [compileRole, bind_ok, pure_ok] at hlane
        obtain ⟨-, -, -, -, -, -, -, -, -, -, -, -, rfl⟩ := hlane
        rfl
      have hsame : other = account := List.inj_on_of_nodup_map hnames (mem_lanes.1 hentry).1 hmem
        (Subtype.ext (hrolename.symm.trans (hfor.1.trans hname.symm)))
      have hsome : lane = some actionSet := (compileRole_ok hlane).lane.symm.trans hfor.2
      subst hsame hsome
      refine ⟨plan, other, hparse, hfind, ?_, hname.symm, rfl, rfl, rfl, by simpa using throwUnless_ok.1 hshort,
        compileRole_boundary hlane (assertAccount_boundary (hall other hmem) hin)⟩
      obtain ⟨reparsed, -, hcompiled⟩ := bind_ok.1 hcompiled
      obtain ⟨_, -, hcompiled⟩ := bind_ok.1 hcompiled
      rw [← pure_ok.1 hcompiled]
      exact rt.sha256_hex _

/-- A constraint is compiled for every lane of an account whose names leave room. -/
theorem compileConstraint_of_lane {value : Value} {accountName : String} {compiled : CompiledAwsBootstrapAccessPlan}
    (hparse : parseAwsBootstrapAccessPlan value = .ok plan)
    (hcompiled : compileAwsBootstrapAccessPlan rt plan.toValue = .ok compiled)
    (hfind : (plan.accounts.find? fun candidate => candidate.accountName.1 == accountName) = some account)
    (hset : actionSet ∈ account.actionSets) (hshort : stringLength (managedPrefix account actionSet) ≤ 48) :
    ∃ constraint, compileAwsApplyLaneIamConstraint rt value accountName actionSet = .ok constraint := by
  have hmem : account ∈ plan.accounts := List.mem_of_find?_eq_some hfind
  have hname : account.accountName.1 = accountName := by simpa using List.find?_some hfind
  obtain ⟨roles, hperm, hroles⟩ := compile_lanes (parse_written (parse_asserted hparse)) hcompiled
  obtain ⟨role, hrole, hlane⟩ := (forall₂_mem hroles).1 (account, some actionSet)
    (mem_lanes.2 ⟨hmem, mem_accountLanes.2 (Or.inr ⟨actionSet, hset, rfl⟩)⟩)
  have hfound : (compiled.roles.find? (isApplyRole accountName actionSet)).isSome = true := by
    rw [List.find?_isSome]
    refine ⟨role, hperm.mem_iff.2 hrole, ?_⟩
    simp only [compileRole, bind_ok, pure_ok] at hlane
    obtain ⟨-, -, -, -, -, -, -, -, -, -, -, -, rfl⟩ := hlane
    simp [isApplyRole, hname]
  obtain ⟨found, hfound⟩ := Option.isSome_iff_exists.1 hfound
  refine ⟨{ sourceDigest := compiled.sourceDigest, accountName, accountId := account.accountId.1, actionSet,
            roleNamePrefix := managedPrefix account actionSet,
            permissionsBoundaryArn := (found.delegatedRoleBoundary.map (·.arn)).getD found.permissionsBoundaryArn },
    bind_ok.2 ⟨plan, hparse, ?_⟩⟩
  rw [hfind]
  refine bind_ok.2 ⟨(), throwUnless_ok.2 (by simpa using hset), bind_ok.2 ⟨compiled, hcompiled, ?_⟩⟩
  rw [hfound]
  exact bind_ok.2 ⟨(), throwUnless_ok.2 (decide_eq_true hshort), rfl⟩

/-! ## The check accepts it -/

theorem roleNameStart_iff (actionSet : AwsInfrastructureActionSet) :
    isRoleNameStart (managedPrefix account actionSet) = true ↔ ':' ∉ account.resourceNamePrefix.1.toList := by
  unfold isRoleNameStart managedPrefix
  rw [Pattern.fullMatch_iff, Pattern.mem_seq]
  constructor
  · rintro ⟨tail, hstart, hdash⟩ hcolon
    obtain ⟨w, -, hw, heq⟩ := Pattern.mem_many1.1 hstart
    rw [Pattern.mem_lit, List.append_nil] at hdash
    -- what is before the last dash has no colon
    have hbefore : account.resourceNamePrefix.1.toList ++ "-".toList ++ actionSet.text.toList = w := by
      rw [hdash, String.toList_append, String.toList_append, String.toList_append] at heq
      exact List.append_cancel_right heq
    have hin : ':' ∈ w := by
      rw [← hbefore]
      exact List.mem_append_left _ (List.mem_append_left _ hcolon)
    exact absurd (hw ':' hin) (by decide)
  · intro hcolon
    refine ⟨"-".toList, Pattern.mem_many1.2 ⟨account.resourceNamePrefix.1.toList ++ "-".toList ++ actionSet.text.toList,
      by simp, fun c hc => ?_, by simp only [String.toList_append]⟩, Pattern.mem_lit.2 (List.append_nil _).symm⟩
    rcases List.mem_append.1 hc with hc | hc
    · rcases List.mem_append.1 hc with hc | hc
      · rcases identifier_chars account.resourceNamePrefix c hc with hname | rfl
        · exact hname
        · exact absurd hc hcolon
      · obtain rfl := List.mem_singleton.1 hc
        decide
    · simp [isIamNameChar, actionSet_alnum actionSet c hc]

theorem isAccountId_spec (id : AccountId) : id.1.toList.length = 12 ∧ ∀ c ∈ id.1.toList, isDecimal c = true := by
  have hmatch := id.2
  unfold isAccountId at hmatch
  rw [Pattern.fullMatch_iff, Pattern.mem_exactly] at hmatch
  obtain ⟨w, hlength, hw, heq⟩ := hmatch
  rw [heq, List.append_nil]
  exact ⟨hlength, hw⟩

theorem lastSegment_policyArn (id : AccountId) (name : IamName) : lastSegment (policyArn id.1 name.1) = name.1 := by
  obtain ⟨c, cs, hname, hc, -, hcs⟩ := isIamName_chars name.2
  have hslash : '/' ∉ name.1.toList := by
    rw [hname, List.mem_cons, not_or]
    refine ⟨?_, fun hmem => absurd (hcs '/' hmem) (by decide)⟩
    rintro rfl
    exact absurd hc (by decide)
  have hbefore : '/' ∉ "arn:aws:iam::".toList ++ id.1.toList ++ ":policy".toList := by
    simp only [List.mem_append, not_or]
    exact ⟨⟨by decide, fun hmem => absurd ((isAccountId_spec id).2 '/' hmem) (by decide)⟩, by decide⟩
  have hsplit : (policyArn id.1 name.1).toList =
      ("arn:aws:iam::".toList ++ id.1.toList ++ ":policy".toList) ++ '/' :: name.1.toList := by
    simp [policyArn]
  unfold lastSegment
  rw [hsplit, List.splitOn_append_cons_self_of_not_mem hbefore, List.splitOn_eq_singleton hslash]
  simp

theorem isPolicyArn_policyArn (id : AccountId) (name : IamName) : isPolicyArn (policyArn id.1 name.1) = true := by
  obtain ⟨c, cs, hname, hc, hlength, hcs⟩ := isIamName_chars name.2
  obtain ⟨hid, hdigits⟩ := isAccountId_spec id
  unfold isPolicyArn policyArn
  rw [Pattern.fullMatch_iff]
  simp only [Pattern.mem_seq, String.toList_append, List.append_assoc]
  refine ⟨_, Pattern.mem_lit.2 rfl, _, Pattern.mem_exactly.2 ⟨_, hid, hdigits, rfl⟩, _, Pattern.mem_lit.2 rfl, cs, ?_, ?_⟩
  · exact Pattern.mem_cls.2 ⟨c, hc, hname⟩
  · exact Pattern.mem_upTo.2 ⟨cs, by omega, hcs, (List.append_nil cs).symm⟩

/-- **The check accepts a compiled constraint when the account's names have no colon.** -/
theorem accepted_iff (h : ConstraintOf account actionSet constraint) {expected : Option AwsInfrastructureActionSet}
    (hexpected : ∀ other ∈ expected, other = actionSet) :
    assertAwsApplyLaneIamConstraint constraint expected = .ok () ↔ ':' ∉ account.resourceNamePrefix.1.toList := by
  obtain ⟨name, hboundary⟩ := h.boundary
  have hends : ("-" ++ actionSet.text ++ "-").toList.isSuffixOf (managedPrefix account actionSet).toList = true := by
    rw [List.isSuffixOf_iff_suffix]
    exact ⟨account.resourceNamePrefix.1.toList, by simp [managedPrefix]⟩
  have hknown : AwsInfrastructureActionSet.all.contains actionSet = true := by simp [actionSet.mem_all]
  have hlast : expected.toList.forM (fun expected => throwUnless (actionSet == expected)
      s!"AWS IAM role requires apply lane '{expected.text}', not '{actionSet.text}'.") = .ok () := by
    rw [forM_ok]
    intro other hother
    rw [throwUnless_ok, hexpected other (Option.mem_toList.1 hother), beq_self_eq_true]
  have hshort := h.short
  rw [h.roleNamePrefix] at hshort
  unfold assertAwsApplyLaneIamConstraint
  rw [bind_ok, exists_unit, throwUnless_ok, ← roleNameStart_iff actionSet]
  simp only [hlast, and_true, h.sourceDigest, h.accountId, account.accountId.2, h.accountName,
    isAccountName_identifier, h.roleNamePrefix, hshort, h.lane, hends, hknown, hboundary, lastSegment_policyArn,
    isPolicyArn_policyArn, beq_self_eq_true, decide_true, Bool.and_true, Bool.true_and]

/-! ## Names that are made -/

theorem roleSlug_chars {semanticName : String} {c : Char} (h : c ∈ roleSlug semanticName) : isIamNameChar c = true := by
  have hruns := ((trimDash_sublist _).trans (collapseDashes_sublist _ _)).mem h
  rcases dashRuns_chars hruns with hkept | rfl
  · exact (Bool.and_eq_true_iff.1 hkept).1
  · decide

theorem isHex_iam {c : Char} (h : isHex c = true) : isIamNameChar c = true := by
  have hlower := isHex_lowerAlnum h
  unfold isLowerAlnum at hlower
  rcases Bool.or_eq_true_iff.1 hlower with hletter | hdigit
  · simp [isIamNameChar, isAlnum, hletter]
  · simp [isIamNameChar, isAlnum, hdigit]

/-- The names of a lane start with the start of another lane's only if the lanes are one. -/
theorem managed_starts {other : AwsInfrastructureActionSet} {name : String}
    (hname : startsWith name (managedPrefix account actionSet) = true) :
    startsWith name (managedPrefix account other) = true ↔ other = actionSet := by
  constructor
  · intro hother
    obtain ⟨rest, hrest⟩ := startsWith_iff.1 hname
    obtain ⟨rest', hrest'⟩ := startsWith_iff.1 hother
    rw [hrest] at hrest'
    simp only [managedPrefix, String.toList_append, List.append_assoc, List.append_cancel_left_eq] at hrest'
    have hdash : ∀ lane : AwsInfrastructureActionSet, '-' ∉ lane.text.toList :=
      fun lane hmem => absurd (actionSet_alnum lane '-' hmem) (by decide)
    have htexts := (separator_inj (hdash actionSet) (hdash other) hrest').1
    exact (AwsInfrastructureActionSet.text_injective (String.toList_inj.1 htexts)).symm
  · rintro rfl
    exact hname

/-- **A constraint that is accepted makes a name of every text with a slug.** -/
theorem roleName_made (rt : Runtime) (haccepted : assertAwsApplyLaneIamConstraint constraint none = .ok ())
    {semanticName : String} (hslug : roleSlug semanticName ≠ []) : ∃ name, awsApplyLaneIamRoleName rt constraint semanticName = .ok name ∧
      stringLength name.1 ≤ 64 ∧ startsWith name.1 constraint.roleNamePrefix = true := by
  obtain ⟨hdigest, hhex⟩ := isHexDigest_spec (rt.sha256_hex semanticName)
  obtain ⟨⟨⟩, hchecked, -⟩ := bind_ok.1 haccepted
  have hchecks := throwUnless_ok.1 hchecked
  simp only [Bool.and_eq_true, decide_eq_true_eq] at hchecks
  have hstart : isRoleNameStart constraint.roleNamePrefix = true := by tauto
  have hshort : stringLength constraint.roleNamePrefix ≤ 48 := by tauto
  have hinitial : ∀ c ∈ constraint.roleNamePrefix.toList, isIamNameChar c = true := by
    unfold isRoleNameStart at hstart
    rw [Pattern.fullMatch_iff, Pattern.mem_seq] at hstart
    obtain ⟨tail, hstart, hdash⟩ := hstart
    obtain ⟨w, -, hw, heq⟩ := Pattern.mem_many1.1 hstart
    rw [Pattern.mem_lit, List.append_nil] at hdash
    rw [heq, hdash]
    intro c hc
    rcases List.mem_append.1 hc with hc | hc
    · exact hw c hc
    · obtain rfl := List.mem_singleton.1 hc
      decide
  have hlength : ∀ s : String, (∀ c ∈ s.toList, isIamNameChar c = true) → stringLength s = s.toList.length := by
    intro s hs
    have heq := stringLength_ofList fun c hc => isIamNameChar_toNat (hs c hc)
    rwa [String.ofList_toList] at heq
  rw [hlength _ hinitial] at hshort
  set digest := (rt.sha256 semanticName).toList.take 8 with hdigestdef
  have height : digest.length = 8 := by
    rw [hdigestdef, List.length_take, hdigest]
    rfl
  set available := 64 - stringLength constraint.roleNamePrefix - digest.length - 1 with havailable
  set stem := trimEndDash ((roleSlug semanticName).take available) with hstem
  have hroom : stem.length ≤ 55 - constraint.roleNamePrefix.toList.length := by
    have hcut := ((trimEndDash_sublist _).length_le).trans (List.length_take_le available (roleSlug semanticName))
    rw [← hstem, havailable, height, hlength _ hinitial] at hcut
    omega
  set result := constraint.roleNamePrefix ++ String.ofList stem ++ "-" ++ String.ofList digest with hresult
  have htext : result.toList = constraint.roleNamePrefix.toList ++ (stem ++ '-' :: digest) := by
    simp [hresult]
  have hchars : ∀ c ∈ result.toList, isIamNameChar c = true := by
    intro c hc
    rw [htext] at hc
    rcases List.mem_append.1 hc with hc | hc
    · exact hinitial c hc
    · rcases List.mem_append.1 hc with hc | hc
      · exact roleSlug_chars (((trimEndDash_sublist _).trans (List.take_sublist _ _)).mem hc)
      · rcases List.mem_cons.1 hc with rfl | hc
        · decide
        · exact isHex_iam (hhex c (List.mem_of_mem_take hc))
  have hsize : result.toList.length ≤ 64 := by
    rw [htext, List.length_append, List.length_append, List.length_cons, height]
    omega
  have hvalid : isIamName result = true := isIamName_of (by simp [htext]) hsize hchars
  refine ⟨⟨result, hvalid⟩, ?_, ?_, startsWith_iff.2 ⟨_, htext⟩⟩
  · refine bind_ok.2 ⟨(), haccepted, bind_ok.2 ⟨(), throwUnless_ok.2 ?_, iamName_written ⟨result, hvalid⟩ _⟩⟩
    rw [Bool.not_eq_true', List.isEmpty_eq_false_iff]
    exact hslug
  · rw [hlength _ hchars]
    exact hsize

/-- **A name that is made is one that its lane manages, and no other lane of the account.** -/
theorem roleName_lane (h : ConstraintOf account actionSet constraint)
    (haccepted : assertAwsApplyLaneIamConstraint constraint none = .ok ()) {semanticName : String}
    (hslug : roleSlug semanticName ≠ []) : ∃ name, awsApplyLaneIamRoleName rt constraint semanticName = .ok name ∧
      stringLength name.1 ≤ 64 ∧ ∀ other,
        matchesPattern (managedRoleArn account other) (roleArnOf account.accountId.1 name.1) = true ↔
          other = actionSet := by
  obtain ⟨name, hname, hlength, hstarts⟩ := roleName_made rt haccepted hslug
  rw [h.roleNamePrefix] at hstarts
  refine ⟨name, hname, hlength, fun other => ?_⟩
  rw [managedRoleArn_matches, roleArnOf_starts]
  exact managed_starts hstarts

/-! ## The chain -/

/-- The constraint can be used: the check accepts it for its lane, and every name made with it is
managed by its lane only. -/
structure Usable (rt : Runtime) (account : AwsBootstrapAccessAccount) (actionSet : AwsInfrastructureActionSet)
    (constraint : AwsApplyLaneIamConstraint) : Prop where
  accepted : assertAwsApplyLaneIamConstraint constraint (some actionSet) = .ok ()
  named : ∀ semanticName, roleSlug semanticName ≠ [] → ∃ name,
    awsApplyLaneIamRoleName rt constraint semanticName = .ok name ∧ stringLength name.1 ≤ 64 ∧
      ∀ other, matchesPattern (managedRoleArn account other) (roleArnOf account.accountId.1 name.1) = true ↔
        other = actionSet

theorem usable_iff (h : ConstraintOf account actionSet constraint) :
    Usable rt account actionSet constraint ↔ ':' ∉ account.resourceNamePrefix.1.toList := by
  constructor
  · intro husable
    exact (accepted_iff h fun other hother => (Option.mem_some.1 hother).symm).1 husable.accepted
  · intro hcolon
    refine ⟨(accepted_iff h fun other hother => (Option.mem_some.1 hother).symm).2 hcolon, fun semanticName hslug => ?_⟩
    exact roleName_lane h ((accepted_iff h (by simp)).2 hcolon) hslug

/-- **The naming chain of an apply lane.** A constraint that is compiled can be used exactly when
the names of its account have no colon. -/
theorem apply_lane_chain_iff (rt : Runtime) (value : Value) (accountName : String)
    (actionSet : AwsInfrastructureActionSet) (constraint : AwsApplyLaneIamConstraint)
    (h : compileAwsApplyLaneIamConstraint rt value accountName actionSet = .ok constraint) :
    ∃ plan account, parseAwsBootstrapAccessPlan value = .ok plan ∧
      (plan.accounts.find? fun candidate => candidate.accountName.1 == accountName) = some account ∧
        (Usable rt account actionSet constraint ↔ ':' ∉ account.resourceNamePrefix.1.toList) := by
  obtain ⟨plan, account, hparse, hfind, hfor⟩ := compileConstraint_ok h
  exact ⟨plan, account, hparse, hfind, usable_iff hfor⟩

/-! ## An account whose names have a colon -/

theorem logs_constraint : ∃ constraint,
    compileAwsApplyLaneIamConstraint plainRuntime logsPlan.toValue "logs" .audit = .ok constraint := by
  obtain ⟨compiled, hcompiled⟩ := logs_compiled
  exact compileConstraint_of_lane logs_parsed hcompiled rfl List.mem_cons_self (by decide)

/-- The instance of the characterisation. -/
theorem logs_lane_chain_iff : ∃ constraint plan account,
    compileAwsApplyLaneIamConstraint plainRuntime logsPlan.toValue "logs" .audit = .ok constraint ∧
      parseAwsBootstrapAccessPlan logsPlan.toValue = .ok plan ∧
      (plan.accounts.find? fun candidate => candidate.accountName.1 == "logs") = some account ∧
        (Usable plainRuntime account .audit constraint ↔ ':' ∉ account.resourceNamePrefix.1.toList) := by
  obtain ⟨constraint, h⟩ := logs_constraint
  obtain ⟨plan, account, hchain⟩ := apply_lane_chain_iff plainRuntime logsPlan.toValue "logs" .audit constraint h
  exact ⟨constraint, plan, account, h, hchain⟩

def colonAccount : AwsBootstrapAccessAccount := { logsAccount with resourceNamePrefix := ⟨"acme:logs", by decide⟩ }

def colonPlan : AwsBootstrapAccessPlan :=
  { logsPlan with accounts := [colonAccount], accounts_nodup := by simp }

/-- The plan is sound and the policies of its lanes are short. -/
theorem colon_checked : (assertAwsBootstrapAccessPlan colonPlan).isOk = true ∧
    documentSize plainRuntime (planPermissionsPolicy colonAccount plainRuntime) ≤ 6144 ∧
    documentSize plainRuntime (policyDocument plainRuntime (applyStatements colonPlan colonAccount
      (policyArn colonAccount.accountId.1 (boundaryNameOf colonAccount (some .audit))) .audit)) ≤ 6144 := by
  refine ⟨by decide +kernel, (documentSize_statements (by decide)).trans ?_,
    (documentSize_statements (by decide)).trans ?_⟩
  · refine (documentBound_action (List.perm_insertionSort _ _)).trans_le ?_
    decide +kernel
  · refine (documentBound_action (List.perm_insertionSort _ _)).trans_le ?_
    decide +kernel

theorem colon_asserted : assertAwsBootstrapAccessPlan colonPlan = .ok () := by
  obtain ⟨⟨⟩, h⟩ := exists_of_isOk colon_checked.1
  exact h

theorem colon_constraint : ∃ constraint,
    compileAwsApplyLaneIamConstraint plainRuntime colonPlan.toValue "logs" .audit = .ok constraint := by
  have hparse := parse_written colon_asserted
  obtain ⟨compiled, hcompiled⟩ := audit_compiled hparse rfl rfl (by decide) colon_checked.2.1 colon_checked.2.2
  exact compileConstraint_of_lane hparse hcompiled rfl List.mem_cons_self (by decide)

/-- The names of an account may have a colon, and no role of IAM may. -/
theorem colon_breaks_chain : ¬ ∀ (rt : Runtime) (value : Value) (accountName : String)
    (actionSet : AwsInfrastructureActionSet) (constraint : AwsApplyLaneIamConstraint),
    compileAwsApplyLaneIamConstraint rt value accountName actionSet = .ok constraint →
      ∃ plan account, parseAwsBootstrapAccessPlan value = .ok plan ∧
        (plan.accounts.find? fun candidate => candidate.accountName.1 == accountName) = some account ∧
          Usable rt account actionSet constraint := by
  intro h
  obtain ⟨constraint, hconstraint⟩ := colon_constraint
  obtain ⟨plan, account, hparse, hfind, husable⟩ := h plainRuntime colonPlan.toValue "logs" .audit constraint hconstraint
  obtain ⟨plan', account', hparse', hfind', hfor⟩ := compileConstraint_ok hconstraint
  obtain rfl : plan = plan' := Except.ok.inj (hparse.symm.trans hparse')
  obtain rfl : account = account' := Option.some.inj (hfind.symm.trans hfind')
  have hcolon := (usable_iff hfor).1 husable
  obtain rfl : plan = colonPlan := Except.ok.inj (hparse.symm.trans (parse_written colon_asserted))
  obtain rfl : account = colonAccount := Option.some.inj hfind.symm
  exact hcolon (by decide)

end SecureSaas.Aws
