import SecureSaas.Js.Record
import SecureSaas.Js.Runtime
import SecureSaas.Wildcard
import Mathlib.Data.String.Basic

/-!
# IAM policy documents

Statements, documents and their canonical text, and what a statement applies to: every condition
key of a request has a list of values, which is empty when the key is absent.

* `applies_normalized`: normalising a statement changes nothing of what it applies to.
* `mem_policyDocument`: the statements of a document are the normalised ones it was made of.
-/

namespace SecureSaas.Aws

open Js

/-! ## Documents -/

inductive AwsPolicyScalar
  | text (value : String)
  | flag (value : Bool)
deriving DecidableEq

/-- A value or a list of values. -/
inductive OneOrMany (α : Type)
  | one (value : α)
  | many (values : List α)
deriving DecidableEq

def OneOrMany.values {α : Type} : OneOrMany α → List α
  | .one value => [value]
  | .many values => values

inductive AwsEffect
  | allow | deny
deriving DecidableEq

/-- The keys and values under each operator. -/
abbrev AwsCondition := Record (Record (OneOrMany AwsPolicyScalar))

structure AwsPolicyStatement where
  sid : String
  effect : AwsEffect
  action : OneOrMany String
  resource : Option (OneOrMany String)
  principal : Option (Record (OneOrMany String))
  condition : Option AwsCondition
deriving DecidableEq

structure AwsPolicyDocument where
  statement : List AwsPolicyStatement
deriving DecidableEq

/-- A list is sorted, a single value is kept. -/
def sortedValue : OneOrMany String → OneOrMany String
  | .one value => .one value
  | .many values => .many (values.insertionSort (· ≤ ·))

variable (rt : Runtime)

def normalizeStatement (statement : AwsPolicyStatement) : AwsPolicyStatement :=
  { statement with
    action := sortedValue statement.action
    resource := statement.resource.map sortedValue
    principal := statement.principal.map fun principal =>
      Record.fromEntries ((rt.sortByKey Prod.fst principal.entries).map fun p => (p.1, sortedValue p.2)) }

def policyDocument (statements : List AwsPolicyStatement) : AwsPolicyDocument where
  statement := rt.sortByKey (fun statement => statement.sid) (statements.map (normalizeStatement rt))

/-! ## Canonical text -/

def OneOrMany.toValue {α : Type} (value : α → Value) : OneOrMany α → Value
  | .one a => value a
  | .many as => .array (as.map value)

def AwsPolicyScalar.toValue : AwsPolicyScalar → Value
  | .text value => .string value
  | .flag value => .bool value

def AwsEffect.text : AwsEffect → String
  | .allow => "Allow"
  | .deny => "Deny"

def recordValue {α : Type} (value : α → Value) (record : Record α) : Value :=
  .object (record.properties.map fun p => (p.1, value p.2))

def AwsPolicyStatement.toValue (statement : AwsPolicyStatement) : Value :=
  .object [("Sid", .string statement.sid), ("Effect", .string statement.effect.text),
    ("Action", statement.action.toValue .string),
    ("Resource", (statement.resource.map (·.toValue .string)).getD .undefined),
    ("Principal", (statement.principal.map (recordValue (·.toValue .string))).getD .undefined),
    ("Condition", (statement.condition.map
      (recordValue (recordValue (·.toValue AwsPolicyScalar.toValue)))).getD .undefined)]

def AwsPolicyDocument.toValue (document : AwsPolicyDocument) : Value :=
  .object [("Version", .string "2012-10-17"), ("Statement", .array (document.statement.map (·.toValue)))]

/-- `JSON.stringify(sortObject(document))`; no key of a document is an array index. -/
def canonicalPolicyJson (document : AwsPolicyDocument) : String :=
  String.ofList (textWith rt.sortedStyle document.toValue)

/-! ## What a statement applies to -/

structure AwsRequest where
  principal : String
  action : String
  resource : String
  context : String → List String

/-- `*` stands for any text. -/
def matchesPattern (pattern text : String) : Bool := wildcard '*' pattern.toList text.toList

def AwsPolicyScalar.spelling : AwsPolicyScalar → String
  | .text value => value
  | .flag true => "true"
  | .flag false => "false"

/-- One operator on one key: the values of the request against those of the condition. -/
def operatorHolds (operator : String) (actual expected : List String) : Bool :=
  match operator with
  | "StringEquals" | "Bool" | "ForAnyValue:StringEquals" => actual.any expected.contains
  | "StringLike" | "ArnEquals" => actual.any fun value => expected.any fun pattern => matchesPattern pattern value
  | "StringNotEquals" | "ForAllValues:StringNotEquals" => actual.all fun value => !expected.contains value
  | _ => false

/-- Every key under every operator holds. -/
def conditionHolds (condition : AwsCondition) (context : String → List String) : Bool :=
  condition.properties.all fun clause => clause.2.properties.all fun p =>
    operatorHolds clause.1 (context p.1) (p.2.values.map AwsPolicyScalar.spelling)

/-- A policy without a principal is attached to the principal it is about. -/
def principalMatches (principal : Option (Record (OneOrMany String))) (name : String) : Bool :=
  match principal with
  | none => true
  | some record => record.properties.any fun p => p.2.values.any fun value => value == name || value == "*"

def applies (statement : AwsPolicyStatement) (request : AwsRequest) : Bool :=
  principalMatches statement.principal request.principal &&
    (statement.action.values.any fun pattern => matchesPattern pattern request.action) &&
    (statement.resource.all fun resource => resource.values.any fun pattern =>
      matchesPattern pattern request.resource) &&
    statement.condition.all fun condition => conditionHolds condition request.context

/-- Some Allow statement applies and no Deny statement does. -/
def AwsPolicyDocument.allows (document : AwsPolicyDocument) (request : AwsRequest) : Bool :=
  (document.statement.any fun statement => statement.effect == .allow && applies statement request) &&
    !document.statement.any fun statement => statement.effect == .deny && applies statement request

variable {rt}

theorem sortedValue_perm (v : OneOrMany String) : (sortedValue v).values.Perm v.values := by
  cases v with
  | one value => exact .refl _
  | many values => exact List.perm_insertionSort _ _

theorem mem_sortedValue {v : OneOrMany String} {value : String} : value ∈ (sortedValue v).values ↔ value ∈ v.values :=
  (sortedValue_perm v).mem_iff

theorem any_sortedValue (v : OneOrMany String) (p : String → Bool) :
    (sortedValue v).values.any p = v.values.any p := (sortedValue_perm v).any_eq

/-- Sorting the principals of a statement changes nothing of whom they match. -/
theorem principalMatches_normalized (record : Record (OneOrMany String)) (name : String) :
    principalMatches (some (Record.fromEntries
      ((rt.sortByKey Prod.fst record.entries).map fun p => (p.1, sortedValue p.2)))) name =
      principalMatches (some record) name := by
  have hperm : (rt.sortByKey Prod.fst record.entries).Perm record.properties :=
    (rt.sortByKey_perm Prod.fst record.entries).trans (ownOrder_perm _)
  have hnodup : (((rt.sortByKey Prod.fst record.entries).map
      fun p => (p.1, sortedValue p.2)).map Prod.fst).Nodup := by
    rw [List.map_map]
    exact ((hperm.map Prod.fst).nodup_iff).2 record.nodup
  unfold principalMatches
  simp only []
  rw [Record.fromEntries_properties hnodup, List.any_map, ← hperm.any_eq]
  exact List.any_congr rfl fun p => any_sortedValue p.2 _

/-- **A normalised statement applies to the same requests.** -/
theorem applies_normalized (statement : AwsPolicyStatement) (request : AwsRequest) :
    applies (normalizeStatement rt statement) request = applies statement request := by
  have hprincipal : principalMatches (normalizeStatement rt statement).principal request.principal =
      principalMatches statement.principal request.principal := by
    unfold normalizeStatement
    cases statement.principal with
    | none => rfl
    | some record => exact principalMatches_normalized record request.principal
  have hresource : ((normalizeStatement rt statement).resource.all fun resource => resource.values.any
      fun pattern => matchesPattern pattern request.resource) = statement.resource.all fun resource =>
        resource.values.any fun pattern => matchesPattern pattern request.resource := by
    unfold normalizeStatement
    cases statement.resource with
    | none => rfl
    | some resource => exact any_sortedValue resource _
  unfold applies
  rw [hprincipal, hresource]
  exact congrArg (fun b => _ && b && _ && _) (any_sortedValue statement.action _)

theorem mem_policyDocument {statements : List AwsPolicyStatement} {statement : AwsPolicyStatement} :
    statement ∈ (policyDocument rt statements).statement ↔
      ∃ original ∈ statements, normalizeStatement rt original = statement := by
  unfold policyDocument
  rw [Runtime.mem_sortByKey, List.mem_map]

/-! ## Patterns -/

theorem matchesPattern_literal {pattern text : String} (h : '*' ∉ pattern.toList) :
    matchesPattern pattern text = true ↔ text = pattern := by
  unfold matchesPattern
  rw [wildcard_literal h]
  exact String.toList_inj

/-- A text followed by `*` matches what starts with the text. -/
theorem matchesPattern_initial {initial text : String} (h : '*' ∉ initial.toList) :
    matchesPattern (initial ++ "*") text = true ↔ startsWith text initial = true := by
  unfold matchesPattern startsWith
  rw [String.toList_append, List.isPrefixOf_iff_prefix]
  exact wildcard_initial h

@[simp] theorem matchesPattern_star {text : String} : matchesPattern "*" text = true := wildcard_star

end SecureSaas.Aws
