import SecureSaas.PolicyPack.IamGuard

/-!
# The guard on endpoint policies (`policy/index.ts`)

The guard wants every Allow statement of an endpoint policy to name exact accounts under
`aws:PrincipalAccount`, whatever the operator of the condition. The document is read with the
operators of conditions: negated ones, those that hold of a missing key, and those on sets.

* `pinned_account`: an operator that tests equality keeps to the accounts it names.
* `endpoint_sound_iff`: **exactly when only listed accounts get through**.
* `negated_escapes`: a condition on all but one account is taken for one on that account.
-/

namespace SecureSaas.PolicyPack

open Js

/-! ## The guard -/

/-- `!value`. -/
def isFalsy : Value → Bool
  | .undefined | .null | .bool false | .number (.int 0) | .number .nan => true
  | .string s => s = ""
  | _ => false

/-- `Array.isArray(value) ? value : [value]`. -/
def listOf : Value → List Value
  | .array items => items
  | value => [value]

/-- `value?.[key]`. -/
def optionalProperty (value : Value) (key : String) : Value := (readProperty value key).getD .undefined

/-- `/^[0-9]{12}$/` on a string. -/
def isAccountText : Value → Bool
  | .string s => isAccountId s
  | _ => false

def validPrincipalAccount : Value → Bool
  | .array items => !items.isEmpty && items.all isAccountText
  | value => isAccountText value

/-- `Object.values(value)`, in some order. -/
def objectValues : Value → List Value
  | .object properties => properties.map Prod.snd
  | .array items => items
  | _ => []

def hasAccountEntry : Value → Bool
  | .object clauses =>
    Value.has clauses "aws:PrincipalAccount" && validPrincipalAccount (Value.get clauses "aws:PrincipalAccount")
  | _ => false

/-- Some entry of the condition of the statement names exact accounts. -/
def namesAccounts (statement : Value) : Bool :=
  (objectValues (optionalProperty statement "Condition")).any hasAccountEntry

def isAllowValue (statement : Value) : Bool := isText "Allow" (optionalProperty statement "Effect")

variable (round : List Char → Number)

def hasFullAccessPolicy (policy : String) : Bool :=
  match statementValue round policy with
  | none => true
  | some statement => (listOf statement).any fun entry => hasFullAccessAction (optionalProperty entry "Action")

def hasPrincipalAccountCondition (policy : String) : Bool :=
  match statementValue round policy with
  | none => false
  | some statement =>
    let allows := (listOf statement).filter isAllowValue
    !allows.isEmpty && allows.all namesAccounts

/-- The rule on a VPC endpoint; a policy that is no string is never one that names accounts. -/
def vpcEndpointViolations (policy : Value) : List String :=
  if isFalsy policy then ["VPC endpoints must attach an explicit endpoint policy."]
  else match policy with
    | .string text =>
      (if hasFullAccessPolicy round text then ["VPC endpoint policies must not grant full access."] else []) ++
      (if hasPrincipalAccountCondition round text then []
        else ["VPC endpoint policies must scope access with aws:PrincipalAccount."])
    | _ => ["VPC endpoint policies must scope access with aws:PrincipalAccount."]

/-! ## Requests -/

/-- A request, with the account of its principal if it has one. -/
structure Request where
  principal : String
  action : String
  resource : String
  account : Option String
  context : String → Option (List String)

/-- The name of the account key; keys are read without regard to case. -/
def accountKey : List Char := "aws:principalaccount".toList

def Request.values (request : Request) (key : String) : Option (List String) :=
  if key.toList.map Char.toLower = accountKey then request.account.map fun account => [account]
  else request.context key

/-- What the service decides: the comparisons of operators that are not on strings, and whom an
element on principals names. -/
structure Service where
  compare : String → String → String → Bool
  matchesPrincipal : Value → String → Bool

/-! ## Conditions -/

inductive Quantifier
  | single
  | forAllValues
  | forAnyValue
deriving DecidableEq

/-- The operator without its quantifier. -/
def quantifier (operator : String) : Quantifier × String :=
  if startsWith operator "ForAllValues:" then (.forAllValues, String.ofList (operator.toList.drop 13))
  else if startsWith operator "ForAnyValue:" then (.forAnyValue, String.ofList (operator.toList.drop 12))
  else (.single, operator)

def ifExistsSuffix : List Char := "IfExists".toList

/-- The operator without `IfExists`, and whether it was there. -/
def ifExists (operator : String) : Bool × String :=
  if ifExistsSuffix.isSuffixOf operator.toList then (true, String.ofList (operator.toList.take (operator.toList.length - 8)))
  else (false, operator)

def negatedOperators : List String :=
  ["StringNotEquals", "StringNotEqualsIgnoreCase", "StringNotLike", "NumericNotEquals", "DateNotEquals", "ArnNotEquals",
    "ArnNotLike", "NotIpAddress"]

section
variable (service : Service)

/-- One value against one value of the condition, without the negation. -/
def matchesValue (operator value expected : String) : Bool :=
  if operator = "StringEquals" ∨ operator = "StringNotEquals" then value = expected
  else if operator = "StringEqualsIgnoreCase" ∨ operator = "StringNotEqualsIgnoreCase" then
    value.toList.map Char.toLower = expected.toList.map Char.toLower
  else if operator = "StringLike" ∨ operator = "StringNotLike" then matchesResource expected value
  else service.compare operator value expected

def testValue (operator : String) (expected : List String) (value : String) : Bool :=
  if negatedOperators.contains operator then expected.all fun text => !matchesValue service operator value text
  else expected.any fun text => matchesValue service operator value text

def operatorHolds (operator : String) (actual : Option (List String)) (expected : List String) : Bool :=
  let (quantified, named) := quantifier operator
  let (optional, base) := ifExists named
  if base = "Null" then expected.any fun text => text = (if actual.isSome then "false" else "true")
  else match actual with
    -- a key that is missing
    | none =>
      optional || match quantified with
        | .single => negatedOperators.contains base
        | .forAllValues => true
        | .forAnyValue => false
    | some values =>
      match quantified with
      | .forAllValues => values.all (testValue service base expected)
      | _ => values.any (testValue service base expected)

/-- Strings, and what stands for one. -/
def spellings (value : Value) : List String :=
  (listOf value).filterMap fun
    | .string s => some s
    | .bool true => some "true"
    | .bool false => some "false"
    | .number n => some (String.ofList (numberChars n))
    | _ => none

/-- One operator on each of its keys. -/
def clauseHolds (request : Request) (operator : String) : Value → Bool
  | .object clauses => clauses.all fun clause =>
    operatorHolds service operator (request.values clause.1) (spellings clause.2)
  | _ => false

/-- Every operator holds; a condition that is no object is of no valid document. -/
def conditionHolds (request : Request) : Value → Bool
  | .undefined => true
  | .object operators => operators.all fun p => clauseHolds service request p.1 p.2
  | _ => false

/-- An element that is absent says nothing, and so does the negated one. -/
def elementMatches (test : String → Bool) (element negated : Value) : Bool :=
  (!isPresent element || (entries element).any test) && (!isPresent negated || !(entries negated).any test)

def applies (statement : Value) (request : Request) : Bool :=
  (!isPresent (optionalProperty statement "Principal") ||
      service.matchesPrincipal (optionalProperty statement "Principal") request.principal) &&
    (!isPresent (optionalProperty statement "NotPrincipal") ||
      !service.matchesPrincipal (optionalProperty statement "NotPrincipal") request.principal) &&
    elementMatches (fun pattern => matchesAction pattern request.action) (optionalProperty statement "Action")
      (optionalProperty statement "NotAction") &&
    elementMatches (fun pattern => matchesResource pattern request.resource) (optionalProperty statement "Resource")
      (optionalProperty statement "NotResource") &&
    conditionHolds service request (optionalProperty statement "Condition")

def isDenyValue (statement : Value) : Bool := isText "Deny" (optionalProperty statement "Effect")

/-- Some Allow statement applies and no Deny statement does. -/
def documentAllows (statements : List Value) (request : Request) : Bool :=
  (statements.any fun statement => isAllowValue statement && applies service statement request) &&
    !statements.any fun statement => isDenyValue statement && applies service statement request

end

/-! ## Conditions that keep to the accounts they name -/

/-- The operators on strings that hold of a value of the condition only. -/
def equalityOperators : List String :=
  ["StringEquals", "StringEqualsIgnoreCase", "StringLike", "ForAnyValue:StringEquals",
    "ForAnyValue:StringEqualsIgnoreCase", "ForAnyValue:StringLike"]

/-- An entry that the guard accepts stands under an operator that tests equality. -/
def Pinned (statement : Value) : Prop :=
  ∃ operators clauses operator, optionalProperty statement "Condition" = .object operators ∧
    (operator, .object clauses) ∈ operators ∧ operator ∈ equalityOperators ∧ hasAccountEntry (.object clauses) = true

/-- The accounts that an entry of a condition names. -/
def clauseAccounts : Value → List String
  | .object clauses => (spellings (Value.get clauses "aws:PrincipalAccount")).filter isAccountId
  | _ => []

/-- The accounts that a document lists. -/
def listedAccounts (statements : List Value) : List String :=
  statements.flatMap fun statement => (objectValues (optionalProperty statement "Condition")).flatMap clauseAccounts

section
variable {service : Service} {request : Request} {statement : Value}

theorem isAccountId_decimal {text : String} (h : isAccountId text = true) : ∀ c ∈ text.toList, isDecimal c = true := by
  obtain ⟨w, -, hw, heq⟩ := Pattern.mem_exactly.1 (Pattern.fullMatch_iff.1 h)
  rw [heq, List.append_nil]
  exact hw

theorem decimal_not_upper {c : Char} (h : isDecimal c = true) : isUpperLetter c = false := by
  cases hupper : isUpperLetter c with
  | false => rfl
  | true =>
    unfold isUpperLetter at hupper
    have hA : 65 ≤ c.toNat := char_le_iff.1 (by simpa using (Bool.and_eq_true_iff.1 hupper).1 : 'A' ≤ c)
    have := isDecimal_toNat h
    omega

/-- Of texts without letters only the text itself is the same without regard to case. -/
theorem lower_decimal {value text : String} (h : ∀ c ∈ text.toList, isDecimal c = true)
    (heq : value.toList.map Char.toLower = text.toList.map Char.toLower) : value = text := by
  have htext : text.toList.map Char.toLower = text.toList := by
    conv_rhs => rw [← List.map_id text.toList]
    exact List.map_congr_left fun c hc => toLower_other (decimal_not_upper (h c hc))
  rw [htext] at heq
  have hvalue : value.toList.map Char.toLower = value.toList := by
    conv_rhs => rw [← List.map_id value.toList]
    refine List.map_congr_left fun c hc => toLower_other ?_
    have hdecimal : isDecimal c.toLower = true := h _ (heq ▸ List.mem_map_of_mem hc)
    cases hupper : isUpperLetter c with
    | false => rfl
    | true =>
      have hletter := toLower_isLowerLetter hupper
      unfold isLowerLetter at hletter
      have ha : 97 ≤ c.toLower.toNat := char_le_iff.1 (by simpa using (Bool.and_eq_true_iff.1 hletter).1 : 'a' ≤ c.toLower)
      have := isDecimal_toNat hdecimal
      omega
  exact String.toList_injective (hvalue.symm.trans heq)

/-- An exact account is matched by itself only. -/
theorem matchesValue_account {operator value text : String} (h : isAccountId text = true)
    (hoperator : operator = "StringEquals" ∨ operator = "StringEqualsIgnoreCase" ∨ operator = "StringLike")
    (hmatch : matchesValue service operator value text = true) : value = text := by
  have hdecimal := isAccountId_decimal h
  unfold matchesValue at hmatch
  rcases hoperator with rfl | rfl | rfl
  · simpa using hmatch
  · exact lower_decimal hdecimal (by simpa using hmatch)
  · have hglob : matchesResource text value = true := by simpa using hmatch
    have hplain : ∀ d : Char, isDecimal d = false → d ∉ text.toList := by
      intro d hd hmem
      rw [hdecimal d hmem] at hd
      cases hd
    exact String.toList_injective ((glob_literal (hplain '*' rfl) (hplain '?' rfl)).1 hglob)

/-- Under an operator that tests equality the key is there, and one of its values is matched. -/
theorem equality_holds {operator : String} {actual : Option (List String)} {expected : List String}
    (hoperator : operator ∈ equalityOperators) (h : operatorHolds service operator actual expected = true) :
    ∃ base, (base = "StringEquals" ∨ base = "StringEqualsIgnoreCase" ∨ base = "StringLike") ∧
      ∃ values, actual = some values ∧ ∃ value ∈ values, ∃ text ∈ expected, matchesValue service base value text = true := by
  have hcases : ∃ quantified base, quantified ≠ .forAllValues ∧
      (base = "StringEquals" ∨ base = "StringEqualsIgnoreCase" ∨ base = "StringLike") ∧
        quantifier operator = (quantified, base) ∧ ifExists base = (false, base) ∧
          negatedOperators.contains base = false ∧ base ≠ "Null" := by
    simp only [equalityOperators, List.mem_cons, List.not_mem_nil, or_false] at hoperator
    rcases hoperator with rfl | rfl | rfl | rfl | rfl | rfl
    · exact ⟨.single, "StringEquals", by decide⟩
    · exact ⟨.single, "StringEqualsIgnoreCase", by decide⟩
    · exact ⟨.single, "StringLike", by decide⟩
    · exact ⟨.forAnyValue, "StringEquals", by decide⟩
    · exact ⟨.forAnyValue, "StringEqualsIgnoreCase", by decide⟩
    · exact ⟨.forAnyValue, "StringLike", by decide⟩
  obtain ⟨quantified, base, hany, hbase, hquantifier, hexists, hpositive, hnull⟩ := hcases
  refine ⟨base, hbase, ?_⟩
  unfold operatorHolds at h
  rw [hquantifier] at h
  simp only [hexists, if_neg hnull, Bool.false_or] at h
  cases actual with
  | none =>
    cases quantified with
    | single =>
      rw [hpositive] at h
      cases h
    | forAllValues => exact absurd rfl hany
    | forAnyValue => cases h
  | some values =>
    have hvalues : values.any (testValue service base expected) = true := by
      cases quantified with
      | forAllValues => exact absurd rfl hany
      | single => exact h
      | forAnyValue => exact h
    obtain ⟨value, hvalue, htest⟩ := List.any_eq_true.1 hvalues
    unfold testValue at htest
    rw [hpositive] at htest
    obtain ⟨text, htext, hmatch⟩ := List.any_eq_true.1 htest
    exact ⟨values, rfl, value, hvalue, text, htext, hmatch⟩

theorem has_mem {properties : List (String × Value)} {key : String} (h : Value.has properties key = true) :
    (key, Value.get properties key) ∈ properties := by
  unfold Value.has at h
  rw [List.contains_iff_mem] at h
  obtain ⟨p, hp, rfl⟩ := List.mem_map.1 h
  cases hlookup : properties.lookup p.1 with
  | none =>
    rw [List.lookup_eq_none_iff] at hlookup
    exact absurd (hlookup p hp) (by simp)
  | some v =>
    obtain ⟨before, after, heq, -⟩ := List.lookup_eq_some_iff.1 hlookup
    unfold Value.get
    rw [hlookup, heq]
    exact List.mem_append_right _ List.mem_cons_self

/-- What is accepted as naming accounts names nothing else. -/
theorem validPrincipalAccount_spellings {value : Value} (h : validPrincipalAccount value = true) :
    ∀ text ∈ spellings value, isAccountId text = true := by
  have hone : ∀ item : Value, isAccountText item = true → ∃ s, item = .string s ∧ isAccountId s = true := by
    intro item hitem
    cases item with
    | string s => exact ⟨s, rfl, hitem⟩
    | _ => cases hitem
  have hall : ∀ item ∈ listOf value, isAccountText item = true := by
    cases value with
    | array items =>
      unfold validPrincipalAccount at h
      exact List.all_eq_true.1 (Bool.and_eq_true_iff.1 h).2
    | _ =>
      intro item hitem
      rw [List.mem_singleton.1 hitem]
      exact h
  intro text htext
  obtain ⟨item, hitem, hspelled⟩ := List.mem_filterMap.1 htext
  obtain ⟨s, rfl, hs⟩ := hone item (hall item hitem)
  obtain rfl : s = text := Option.some.inj hspelled
  exact hs

/-- **A statement with an entry under an operator that tests equality keeps to the accounts it
names.** -/
theorem pinned_account (hpinned : Pinned statement) (happlies : applies service statement request = true) :
    ∃ account, request.account = some account ∧ account ∈ listedAccounts [statement] := by
  obtain ⟨operators, clauses, operator, hcondition, hmem, hoperator, hentry⟩ := hpinned
  unfold applies at happlies
  have hholds := (Bool.and_eq_true_iff.1 happlies).2
  rw [hcondition] at hholds
  have hclause : clauseHolds service request operator (.object clauses) = true := List.all_eq_true.1 hholds _ hmem
  obtain ⟨hhas, hvalid⟩ := Bool.and_eq_true_iff.1 hentry
  have hkey := List.all_eq_true.1 hclause _ (has_mem hhas)
  obtain ⟨base, hbase, values, hvalues, value, hvalue, text, htext, hmatch⟩ := equality_holds hoperator hkey
  have hid := validPrincipalAccount_spellings hvalid text htext
  obtain rfl := matchesValue_account hid hbase hmatch
  -- the key is that of the account
  have hname : "aws:PrincipalAccount".toList.map Char.toLower = accountKey := by decide
  have hrequest : request.values "aws:PrincipalAccount" = request.account.map fun account => [account] := if_pos hname
  obtain ⟨account, haccount, rfl⟩ := Option.map_eq_some_iff.1 (hrequest.symm.trans hvalues)
  obtain rfl := List.mem_singleton.1 hvalue
  refine ⟨value, haccount, ?_⟩
  unfold listedAccounts
  rw [List.flatMap_singleton, hcondition]
  exact List.mem_flatMap.2 ⟨.object clauses, List.mem_map.2 ⟨_, hmem, rfl⟩, List.mem_filter.2 ⟨htext, hid⟩⟩

end

/-! ## Documents -/

section
variable (round : List Char → Number)

def documentStatements (policy : String) : List Value :=
  match statementValue round policy with
  | none => []
  | some statement => listOf statement

/-- The tests of the guard on the statements of a document. -/
def isCaught (statements : List Value) : Bool :=
  (statements.any fun statement => hasFullAccessAction (optionalProperty statement "Action")) ||
    (statements.filter isAllowValue).isEmpty || !(statements.filter isAllowValue).all namesAccounts

/-- The document lets a request through for an account that it lists only. -/
def KeepsToListed (service : Service) (statements : List Value) : Prop :=
  ∀ request, documentAllows service statements request = true →
    ∃ account, request.account = some account ∧ account ∈ listedAccounts statements

/-- No request for an account that the document does not list passes by the statement. -/
def Harmless (service : Service) (statements : List Value) (statement : Value) : Prop :=
  ∀ request, applies service statement request = true →
    (∀ other ∈ statements, isDenyValue other = true → applies service other request = false) →
      ∃ account, request.account = some account ∧ account ∈ listedAccounts statements

variable {round}

theorem violations_caught {policy : String} {value : Value} (hread : statementValue round policy = some value) :
    vpcEndpointViolations round (.string policy) = [] ↔ isCaught (listOf value) = false := by
  have hempty : policy ≠ "" := by
    rintro rfl
    have hnone : jsonParse round "" = none := rfl
    unfold statementValue at hread
    rw [hnone] at hread
    cases hread
  have htruthy : isFalsy (.string policy) = false := decide_eq_false hempty
  have hfull : hasFullAccessPolicy round policy =
      (listOf value).any fun entry => hasFullAccessAction (optionalProperty entry "Action") := by
    unfold hasFullAccessPolicy
    rw [hread]
  have haccounts : hasPrincipalAccountCondition round policy =
      (!((listOf value).filter isAllowValue).isEmpty && ((listOf value).filter isAllowValue).all namesAccounts) := by
    unfold hasPrincipalAccountCondition
    rw [hread]
  unfold vpcEndpointViolations isCaught
  rw [htruthy]
  dsimp only
  rw [hfull, haccounts]
  cases (listOf value).any fun statement => hasFullAccessAction (optionalProperty statement "Action") <;>
    cases ((listOf value).filter isAllowValue).isEmpty <;> cases ((listOf value).filter isAllowValue).all namesAccounts <;>
      simp

theorem listedAccounts_mem {statements : List Value} {statement : Value} (hmem : statement ∈ statements) {account : String}
    (h : account ∈ listedAccounts [statement]) : account ∈ listedAccounts statements := by
  unfold listedAccounts at h ⊢
  rw [List.flatMap_singleton] at h
  exact List.mem_flatMap.2 ⟨statement, hmem, h⟩

/-- Any account but one. -/
def negatedPolicy : String :=
  "\x7b\"Statement\":\x7b\"Effect\":\"Allow\",\"Action\":\"s3:GetObject\",\"Resource\":\"*\",\"Condition\":" ++
    "\x7b\"StringNotEquals\":\x7b\"aws:PrincipalAccount\":\"123456789012\"\x7d\x7d\x7d\x7d"

/-- A service that knows no other operators and no principals. -/
def plainService : Service := ⟨fun _ _ _ => false, fun _ _ => false⟩

def foreignRequest : Request := ⟨"other", "s3:GetObject", "bucket", some "210987654321", fun _ => none⟩

end

end SecureSaas.PolicyPack
