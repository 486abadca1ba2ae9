import SecureSaas.Js.Label
import SecureSaas.Js.Record
import SecureSaas.Js.Runtime

/-!
# The admission policy of a database binding (`src/databaseAccess.ts`)

A cluster policy of Kyverno with rules for the namespace of the binding and one rule for all
namespaces, which reserves the nodes of the binding: it looks for the reservation key among the
selectors, the tolerations and the affinity of a Pod. What Kyverno makes of a policy is written
down after its documentation.

* `wildcardMatches_literal`: a pattern without wildcards matches itself only.
* `labelText_literal`: a label has no wildcards.
-/

namespace SecureSaas.Database

open Js

/-! ## Requests -/

/-- Absent texts are empty. -/
structure Toleration where
  key : String
  operator : String
  value : String
  effect : String
deriving DecidableEq

structure OwnerReference where
  kind : String
  controller : Bool

/-- What the rules look at in a Pod; its affinity is given by its JSON text. -/
structure Pod where
  labels : Record String
  annotations : Record String
  serviceAccountName : String
  automountServiceAccountToken : Bool
  nodeSelector : Record String
  tolerations : List Toleration
  affinity : String
  nodeName : String
  schedulerName : String
  ownerReferences : List OwnerReference

/-- The admission of a Pod. -/
structure AdmissionRequest where
  namespaceName : String
  username : String
  pod : Pod

/-! ## Policies -/

/-- The expressions that the conditions of the rules have, on `request`.

* `nodeSelector`: `object.spec.nodeSelector."label" || ''`;
* `tolerations`: `object.spec.tolerations[?key == 'key'] | length(@)`;
* `affinity`: `contains(to_string(object.spec.affinity || {}), 'label')`;
* `namespaceName`, `nodeName`, `username`: the text, or `''`;
* `schedulerName`: the text, or `'default-scheduler'`;
* `always`: `true`. -/
inductive JmesPath
  | nodeSelector (label : String)
  | tolerations (key : String)
  | affinity (label : String)
  | namespaceName
  | nodeName
  | username
  | schedulerName
  | always

inductive ConditionOperator
  | equals | notEquals | greaterThan

inductive ConditionValue
  | text (value : String)
  | number (value : ℕ)
  | flag (value : Bool)
deriving DecidableEq

structure Condition where
  key : JmesPath
  operator : ConditionOperator
  value : ConditionValue

/-- The patterns of the two rules that have one. -/
inductive PodPattern
  | binding (labels annotations : Record String) (serviceAccountName : String) (nodeSelector : Record String)
      (tolerations : List Toleration)
  | owner (kind : String)

inductive Validation
  | pod (accepted : PodPattern)
  | deny (all : List Condition)

structure Rule where
  name : String
  kinds : List String
  namespaces : Option (List String)
  preconditions : Option (List Condition)
  message : String
  validate : Validation

structure ClusterPolicy where
  name : String
  rules : List Rule

/-! ## Evaluating a policy -/

/-- A pattern of Kyverno against a text: `*` is any text, `?` any character. -/
def kyvernoWildcard : List Char → List Char → Bool
  | [], text => text.isEmpty
  | c :: pattern, text =>
    if c = '*' then text.tails.any (kyvernoWildcard pattern)
    else match text with
      | [] => false
      | d :: rest => (c == '?' || c == d) && kyvernoWildcard pattern rest

def wildcardMatches (pattern text : String) : Bool := kyvernoWildcard pattern.toList text.toList

theorem kyvernoWildcard_literal : ∀ {pattern text : List Char}, '*' ∉ pattern → '?' ∉ pattern →
    (kyvernoWildcard pattern text = true ↔ text = pattern) := by
  intro pattern
  induction pattern with
  | nil => intro text _ _; simp [kyvernoWildcard]
  | cons c pattern ih =>
    intro text hstar hany
    rw [List.mem_cons, not_or] at hstar hany
    have hc : c ≠ '*' := fun heq => hstar.1 heq.symm
    have hq : (c == '?') = false := beq_eq_false_iff_ne.2 fun heq => hany.1 heq.symm
    cases text with
    | nil => simp [kyvernoWildcard, hc]
    | cons d rest =>
      simp only [kyvernoWildcard, if_neg hc, hq, Bool.false_or, Bool.and_eq_true, beq_iff_eq, ih hstar.2 hany.2,
        List.cons.injEq]
      exact and_congr_left fun _ => eq_comm

/-- A pattern without wildcards matches itself only. -/
theorem wildcardMatches_literal {pattern text : String} (hstar : '*' ∉ pattern.toList) (hany : '?' ∉ pattern.toList) :
    wildcardMatches pattern text = true ↔ text = pattern := by
  unfold wildcardMatches
  rw [kyvernoWildcard_literal hstar hany]
  exact String.toList_inj

theorem wildcardMatches_empty {text : String} : wildcardMatches "" text = true ↔ text = "" :=
  wildcardMatches_literal (by decide) (by decide)

def JmesPath.evaluate (request : AdmissionRequest) : JmesPath → ConditionValue
  | .nodeSelector label => .text ((request.pod.nodeSelector.get? label).getD "")
  | .tolerations key => .number (request.pod.tolerations.filter fun toleration => toleration.key == key).length
  | .affinity label => .flag (includes request.pod.affinity label)
  | .namespaceName => .text request.namespaceName
  | .nodeName => .text request.pod.nodeName
  | .username => .text request.username
  | .schedulerName => .text (if request.pod.schedulerName = "" then "default-scheduler" else request.pod.schedulerName)
  | .always => .flag true

/-- `Equals`: the text of a condition is a pattern. -/
def conditionEquals : ConditionValue → ConditionValue → Bool
  | .text key, .text value => wildcardMatches value key
  | key, value => key == value

def Condition.holds (request : AdmissionRequest) (condition : Condition) : Bool :=
  let key := condition.key.evaluate request
  match condition.operator with
  | .equals => conditionEquals key condition.value
  | .notEquals => !conditionEquals key condition.value
  | .greaterThan =>
    match key, condition.value with
    | .number n, .number m => decide (m < n)
    | _, _ => false

/-- The validation of a text by a pattern text, with its operators and ranges, is Kyverno's. -/
abbrev PatternText := String → String → Bool

variable (matchesText : PatternText)

/-- Every key of the pattern is there with a text that its pattern accepts. -/
def recordAccepts (pattern actual : Record String) : Bool :=
  pattern.properties.all fun p => (actual.get? p.1).any (matchesText p.2)

def tolerationAccepts (pattern actual : Toleration) : Bool :=
  matchesText pattern.key actual.key && matchesText pattern.operator actual.operator &&
    matchesText pattern.value actual.value && matchesText pattern.effect actual.effect

/-- `^(tolerations)` asks for some toleration that is accepted by each pattern of the list. -/
def PodPattern.accepts (pod : Pod) : PodPattern → Bool
  | .binding labels annotations serviceAccountName nodeSelector tolerations =>
    recordAccepts matchesText labels pod.labels && recordAccepts matchesText annotations pod.annotations &&
      matchesText serviceAccountName pod.serviceAccountName && !pod.automountServiceAccountToken &&
      recordAccepts matchesText nodeSelector pod.nodeSelector &&
      tolerations.all fun pattern => pod.tolerations.any (tolerationAccepts matchesText pattern)
  | .owner kind => pod.ownerReferences.all (fun owner => owner.controller && matchesText kind owner.kind) &&
      !pod.ownerReferences.isEmpty

def Validation.passes (request : AdmissionRequest) : Validation → Bool
  | .pod accepted => accepted.accepts matchesText request.pod
  | .deny all => !all.all (·.holds request)

/-- The rule is about Pods in the namespace of the request. -/
def Rule.selects (rule : Rule) (request : AdmissionRequest) : Bool :=
  rule.kinds.contains "Pod" && rule.namespaces.all fun namespaces =>
    namespaces.any fun pattern => wildcardMatches pattern request.namespaceName

def Rule.passes (request : AdmissionRequest) (rule : Rule) : Bool :=
  !rule.selects request || !(rule.preconditions.all fun conditions => conditions.any (·.holds request)) ||
    rule.validate.passes matchesText request

/-- The policy admits the Pod: no rule rejects it. -/
def ClusterPolicy.admits (policy : ClusterPolicy) (request : AdmissionRequest) : Bool :=
  policy.rules.all (Rule.passes matchesText request)

/-! ## Compiling the policy of a binding -/

inductive AwsDatabaseAccessClass
  | runtime | migration | bootstrap
deriving DecidableEq

def AwsDatabaseAccessClass.text : AwsDatabaseAccessClass → String
  | .runtime => "runtime"
  | .migration => "migration"
  | .bootstrap => "bootstrap"

structure PodScheduling where
  nodeSelector : Record String
  tolerations : List Toleration

structure AdmissionArgs where
  bindingId : String
  accessClass : AwsDatabaseAccessClass
  namespaceName : String
  serviceAccount : String
  bindingLabels : Record String
  requiredPodAnnotations : Record String
  requiredPodScheduling : PodScheduling

def awsDatabaseAccessReservationKey (rt : Runtime) (bindingId : String) (accessClass : AwsDatabaseAccessClass) : String :=
  let suffix := String.ofList ((rt.sha256 (bindingId ++ ":" ++ accessClass.text)).toList.take 16)
  "node-restriction.kubernetes.io/database-access-" ++ suffix

/-- `value` in lower case, with single dashes for what is no letter or digit. -/
def labelText (value : String) : String := String.ofList (trimDash (collapseDashes false (lowerDashed value)))

/-- A label has no wildcards. -/
theorem labelText_literal (value : String) : '*' ∉ (labelText value).toList ∧ '?' ∉ (labelText value).toList := by
  have hchars : ∀ c ∈ (labelText value).toList, isLabelChar c = true := by
    intro c hc
    unfold labelText at hc
    rw [String.toList_ofList] at hc
    exact lowerDashed_chars ((collapseDashes_sublist _ _).mem ((trimDash_sublist _).mem hc))
  exact ⟨fun h => absurd (hchars _ h) (by decide), fun h => absurd (hchars _ h) (by decide)⟩

def dnsLabel (value : String) : Except String String :=
  let result := labelText value
  if result = "" ∨ 63 < result.length then
    .error s!"'{value}' cannot become one exact Kubernetes DNS label."
  else .ok result

def usernameIsNone (usernames : List String) : List Condition :=
  usernames.map fun username => ⟨.username, .notEquals, .text username⟩

def compileAwsDatabaseAdmissionPolicy (rt : Runtime) (args : AdmissionArgs) : Except String ClusterPolicy := do
  let schedulingLabel := awsDatabaseAccessReservationKey rt args.bindingId args.accessClass
  let taintKey := schedulingLabel
  let managedResourceName ← dnsLabel (args.bindingId ++ "-" ++ args.accessClass.text ++ "-access")
  let schedulingValue ← dnsLabel (args.bindingId ++ "-" ++ args.accessClass.text ++ "-database-access")
  if args.requiredPodScheduling.nodeSelector.get? schedulingLabel ≠ some schedulingValue ∨
      ⟨taintKey, "Equal", schedulingValue, "NoSchedule"⟩ ∉ args.requiredPodScheduling.tolerations then
    .error s!"Database admission policy '{args.bindingId}/{args.accessClass.text}' requires its exact content-addressed node selector and taint toleration."
  let own := some [args.namespaceName]
  .ok
    { name := managedResourceName
      rules :=
        [{ name := "bind-exact-database-access-class"
           kinds := ["Pod"]
           namespaces := own
           preconditions := none
           message := "SEC_DATABASE_ACCESS_BINDING_DENIED"
           validate := .pod (.binding args.bindingLabels args.requiredPodAnnotations args.serviceAccount
             args.requiredPodScheduling.nodeSelector args.requiredPodScheduling.tolerations) },
         { name := "reserve-database-node-pool"
           kinds := ["Pod"]
           namespaces := none
           preconditions := some
             [⟨.nodeSelector schedulingLabel, .equals, .text schedulingValue⟩,
              ⟨.tolerations taintKey, .greaterThan, .number 0⟩,
              ⟨.affinity schedulingLabel, .equals, .flag true⟩]
           message := "SEC_DATABASE_NODE_POOL_RESERVED"
           validate := .deny [⟨.namespaceName, .notEquals, .text args.namespaceName⟩] },
         { name := "deny-direct-node-binding"
           kinds := ["Pod"]
           namespaces := own
           preconditions := none
           message := "SEC_DATABASE_NODE_NAME_DENIED"
           validate := .deny [⟨.nodeName, .notEquals, .text ""⟩] },
         { name := "require-database-pod-controller-identity"
           kinds := ["Pod"]
           namespaces := own
           preconditions := none
           message := "SEC_DATABASE_POD_ACTOR_DENIED"
           validate := .deny (usernameIsNone ["system:kube-controller-manager",
             "system:serviceaccount:kube-system:replicaset-controller",
             "system:serviceaccount:kube-system:job-controller"]) }] ++
        (if args.accessClass = .runtime then
          [{ name := "require-database-replicaset-controller-identity"
             kinds := ["apps/v1/ReplicaSet"]
             namespaces := own
             preconditions := none
             message := "SEC_DATABASE_CHILD_ACTOR_DENIED"
             validate := .deny (usernameIsNone ["system:kube-controller-manager",
               "system:serviceaccount:kube-system:replicaset-controller"]) }]
        else []) ++
        [{ name := "database-pod-bindings-scheduler-only"
           kinds := ["Pod/binding"]
           namespaces := own
           preconditions := none
           message := "SEC_DATABASE_POD_BINDING_DENIED"
           validate := .deny (usernameIsNone ["system:kube-scheduler"]) },
         { name := "database-pods-default-scheduler-only"
           kinds := ["Pod"]
           namespaces := own
           preconditions := none
           message := "SEC_DATABASE_CUSTOM_SCHEDULER_DENIED"
           validate := .deny [⟨.schedulerName, .notEquals, .text "default-scheduler"⟩] },
         { name := "require-database-pod-controller-owner"
           kinds := ["Pod"]
           namespaces := own
           preconditions := none
           message := "SEC_DATABASE_POD_OWNER_DENIED"
           validate := .pod (.owner (if args.accessClass = .runtime then "ReplicaSet" else "Job")) },
         { name := "restrict-database-workload-kind"
           kinds := if args.accessClass = .runtime then
               ["DaemonSet", "Job", "CronJob", "StatefulSet", "ReplicationController"]
             else ["Deployment", "DaemonSet", "CronJob", "StatefulSet", "ReplicaSet", "ReplicationController"]
           namespaces := own
           preconditions := none
           message := "SEC_DATABASE_WORKLOAD_KIND_DENIED"
           validate := .deny [⟨.always, .equals, .flag true⟩] }] }

end SecureSaas.Database
