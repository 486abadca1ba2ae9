import SecureSaas.Database.Admission

/-!
# The reserved nodes of a database

The nodes of a binding have a taint under its reservation key. The policy rejects the Pods of
other namespaces that name the key; a toleration with an empty key names none and tolerates every
taint, and a Pod that names a node is not scheduled at all.

* `admits_iff`: what the policy asks of a Pod.
* `reserved_iff`: **when an admitted Pod cannot be placed on the nodes.**
-/

namespace SecureSaas.Database

open Js

structure Taint where
  key : String
  value : String
  effect : String

/-- The toleration tolerates the taint, by the rule of Kubernetes. -/
def Toleration.tolerates (toleration : Toleration) (taint : Taint) : Prop :=
  (toleration.key = "" ∧ toleration.operator = "Exists" ∨ toleration.key = taint.key) ∧
    (toleration.operator = "Exists" ∨
      (toleration.operator = "" ∨ toleration.operator = "Equal") ∧ toleration.value = taint.value) ∧
    (toleration.effect = "" ∨ toleration.effect = taint.effect)

/-- The taint of the node pool of a binding. -/
def nodePoolTaint (rt : Runtime) (args : AdmissionArgs) : Taint where
  key := awsDatabaseAccessReservationKey rt args.bindingId args.accessClass
  value := labelText (args.bindingId ++ "-" ++ args.accessClass.text ++ "-database-access")
  effect := "NoSchedule"

/-- The Pod cannot be placed on nodes with the taint. -/
def KeptOut (taint : Taint) (pod : Pod) : Prop :=
  (∀ toleration ∈ pod.tolerations, ¬ toleration.tolerates taint) ∧ pod.nodeName = ""

/-- The Pod names the taint: in its selectors, in a toleration or in its affinity. -/
def Mentions (taint : Taint) (pod : Pod) : Prop :=
  pod.nodeSelector.get? taint.key = some taint.value ∨ (∃ toleration ∈ pod.tolerations, toleration.key = taint.key) ∨
    includes pod.affinity taint.key = true

/-- A toleration of every taint with the effect. -/
def CatchAll (effect : String) (toleration : Toleration) : Prop :=
  toleration.key = "" ∧ toleration.operator = "Exists" ∧ (toleration.effect = "" ∨ toleration.effect = effect)

def controllerUsernames : List String :=
  ["system:kube-controller-manager", "system:serviceaccount:kube-system:replicaset-controller",
    "system:serviceaccount:kube-system:job-controller"]

/-- The rules for the namespace of the binding accept the Pod. -/
structure AcceptedByNamespace (matchesText : PatternText) (args : AdmissionArgs) (request : AdmissionRequest) : Prop where
  binding : (PodPattern.binding args.bindingLabels args.requiredPodAnnotations args.serviceAccount
    args.requiredPodScheduling.nodeSelector args.requiredPodScheduling.tolerations).accepts matchesText request.pod = true
  nodeName : request.pod.nodeName = ""
  username : request.username ∈ controllerUsernames
  scheduler : request.pod.schedulerName = "" ∨ request.pod.schedulerName = "default-scheduler"
  owner : (PodPattern.owner (if args.accessClass = .runtime then "ReplicaSet" else "Job")).accepts matchesText
    request.pod = true

variable {rt : Runtime} {args : AdmissionArgs} {policy : ClusterPolicy} {matchesText : PatternText}
  {request : AdmissionRequest} {pod : Pod} {taint : Taint}

/-! ## Rules -/

/-- A rule for one namespace, on Pods. -/
def podRule (args : AdmissionArgs) (name message : String) (validate : Validation) : Rule :=
  ⟨name, ["Pod"], some [args.namespaceName], none, message, validate⟩

theorem podRule_passes {name message : String} {validate : Validation} :
    (podRule args name message validate).passes matchesText request = true ↔
      (wildcardMatches args.namespaceName request.namespaceName = true →
        validate.passes matchesText request = true) := by
  unfold Rule.passes Rule.selects podRule
  by_cases hns : wildcardMatches args.namespaceName request.namespaceName = true
  · simp [hns]
  · simp [hns]

/-- A rule that is not about Pods passes. -/
theorem passes_of_kinds {rule : Rule} (h : rule.kinds.contains "Pod" = false) : rule.passes matchesText request = true := by
  unfold Rule.passes Rule.selects
  rw [h, Bool.false_and]
  rfl

theorem notEquals_holds {key : JmesPath} {value actual : String} (hkey : key.evaluate request = .text actual)
    (hstar : '*' ∉ value.toList) (hany : '?' ∉ value.toList) :
    (Condition.mk key .notEquals (.text value)).holds request = true ↔ actual ≠ value := by
  unfold Condition.holds
  simp only [hkey, conditionEquals]
  rw [Bool.not_eq_true', ← Bool.not_eq_true, wildcardMatches_literal hstar hany]

/-- The rule for all namespaces passes what is in the namespace, and what does not name the taint. -/
def reservationRule (rt : Runtime) (args : AdmissionArgs) : Rule where
  name := "reserve-database-node-pool"
  kinds := ["Pod"]
  namespaces := none
  preconditions := some
    [⟨.nodeSelector (nodePoolTaint rt args).key, .equals, .text (nodePoolTaint rt args).value⟩,
     ⟨.tolerations (nodePoolTaint rt args).key, .greaterThan, .number 0⟩,
     ⟨.affinity (nodePoolTaint rt args).key, .equals, .flag true⟩]
  message := "SEC_DATABASE_NODE_POOL_RESERVED"
  validate := .deny [⟨.namespaceName, .notEquals, .text args.namespaceName⟩]

theorem mentions_iff (hvalue : (nodePoolTaint rt args).value ≠ "") :
    ((reservationRule rt args).preconditions.all fun conditions => conditions.any (·.holds request)) = true ↔
      Mentions (nodePoolTaint rt args) request.pod := by
  have hselector : (Condition.mk (.nodeSelector (nodePoolTaint rt args).key) .equals
      (.text (nodePoolTaint rt args).value)).holds request = true ↔
      request.pod.nodeSelector.get? (nodePoolTaint rt args).key = some (nodePoolTaint rt args).value := by
    have hliteral : '*' ∉ (nodePoolTaint rt args).value.toList ∧ '?' ∉ (nodePoolTaint rt args).value.toList :=
      labelText_literal _
    show wildcardMatches (nodePoolTaint rt args).value
      ((request.pod.nodeSelector.get? (nodePoolTaint rt args).key).getD "") = true ↔ _
    rw [wildcardMatches_literal hliteral.1 hliteral.2]
    cases hget : request.pod.nodeSelector.get? (nodePoolTaint rt args).key with
    | none => simpa using hvalue.symm
    | some value => simp
  have htolerations : (Condition.mk (.tolerations (nodePoolTaint rt args).key) .greaterThan (.number 0)).holds request = true ↔
      ∃ toleration ∈ request.pod.tolerations, toleration.key = (nodePoolTaint rt args).key := by
    show decide (0 < (request.pod.tolerations.filter fun toleration =>
      toleration.key == (nodePoolTaint rt args).key).length) = true ↔ _
    rw [decide_eq_true_eq, List.length_filter_pos_iff]
    simp only [beq_iff_eq]
  have haffinity : (Condition.mk (.affinity (nodePoolTaint rt args).key) .equals (.flag true)).holds request = true ↔
      includes request.pod.affinity (nodePoolTaint rt args).key = true := by
    show (ConditionValue.flag (includes request.pod.affinity (nodePoolTaint rt args).key) == .flag true) = true ↔ _
    rw [beq_iff_eq, ConditionValue.flag.injEq]
  unfold reservationRule Mentions
  simp only [Option.all_some, List.any_cons, List.any_nil, Bool.or_false, Bool.or_eq_true, hselector, htolerations, haffinity]

theorem reservationRule_passes (hvalue : (nodePoolTaint rt args).value ≠ "") :
    (reservationRule rt args).passes matchesText request = true ↔
      (wildcardMatches args.namespaceName request.namespaceName = false →
        ¬ Mentions (nodePoolTaint rt args) request.pod) := by
  have hselects : (reservationRule rt args).selects request = true := rfl
  have hvalidate : (reservationRule rt args).validate.passes matchesText request =
      wildcardMatches args.namespaceName request.namespaceName := by
    show (!((!wildcardMatches args.namespaceName request.namespaceName) && true)) = _
    rw [Bool.and_true, Bool.not_not]
  unfold Rule.passes
  rw [hselects, hvalidate, Bool.not_true, Bool.false_or, Bool.or_eq_true, Bool.not_eq_true', ← Bool.not_eq_true,
    mentions_iff hvalue]
  cases wildcardMatches args.namespaceName request.namespaceName with
  | true => simp
  | false => simp

/-! ## The compiled policy -/

theorem dnsLabel_ok {value label : String} (h : dnsLabel value = .ok label) : label = labelText value ∧ labelText value ≠ "" := by
  unfold dnsLabel at h
  dsimp only at h
  split at h
  · cases h
  · next hkept =>
    rw [not_or] at hkept
    exact ⟨(Except.ok.inj h).symm, hkept.1⟩

theorem actor_passes : (Validation.deny (usernameIsNone controllerUsernames)).passes matchesText request = true ↔
    request.username ∈ controllerUsernames := by
  have hkept : ∀ username ∈ controllerUsernames,
      ((Condition.mk .username .notEquals (.text username)).holds request = true ↔ request.username ≠ username) := by
    intro username husername
    have hliteral : ∀ text ∈ controllerUsernames, '*' ∉ text.toList ∧ '?' ∉ text.toList := by decide
    exact notEquals_holds rfl (hliteral username husername).1 (hliteral username husername).2
  show (!(usernameIsNone controllerUsernames).all (·.holds request)) = true ↔ _
  rw [Bool.not_eq_true', List.all_eq_false]
  unfold usernameIsNone
  constructor
  · rintro ⟨condition, hcondition, hfails⟩
    obtain ⟨username, husername, rfl⟩ := List.mem_map.1 hcondition
    rw [hkept username husername, not_not] at hfails
    rwa [hfails]
  · intro husername
    refine ⟨_, List.mem_map_of_mem husername, ?_⟩
    rw [hkept _ husername, not_not]

theorem deny_one_passes {key : JmesPath} {value actual : String} (hkey : key.evaluate request = .text actual)
    (hstar : '*' ∉ value.toList) (hany : '?' ∉ value.toList) :
    (Validation.deny [⟨key, .notEquals, .text value⟩]).passes matchesText request = true ↔ actual = value := by
  show (!((Condition.mk key .notEquals (.text value)).holds request && true)) = true ↔ _
  rw [Bool.and_true, Bool.not_eq_true', ← Bool.not_eq_true, notEquals_holds hkey hstar hany, not_not]

/-- **What the policy asks of a Pod.** -/
theorem admits_iff (h : compileAwsDatabaseAdmissionPolicy rt args = .ok policy) :
    policy.admits matchesText request = true ↔
      (wildcardMatches args.namespaceName request.namespaceName = true → AcceptedByNamespace matchesText args request) ∧
        (wildcardMatches args.namespaceName request.namespaceName = false →
          ¬ Mentions (nodePoolTaint rt args) request.pod) := by
  unfold compileAwsDatabaseAdmissionPolicy at h
  simp only [bind, Except.bind] at h
  cases hname : dnsLabel (args.bindingId ++ "-" ++ args.accessClass.text ++ "-access") with
  | error e => rw [hname] at h; cases h
  | ok name =>
    cases hscheduling : dnsLabel (args.bindingId ++ "-" ++ args.accessClass.text ++ "-database-access") with
    | error e => rw [hname, hscheduling] at h; cases h
    | ok schedulingValue =>
      obtain ⟨hvalue, hnonempty⟩ := dnsLabel_ok hscheduling
      rw [hname, hscheduling] at h
      dsimp only at h
      split at h
      · cases h
      · subst hvalue
        obtain rfl := Except.ok.inj h
        unfold ClusterPolicy.admits
        simp only [List.all_append, List.all_cons, List.all_nil, Bool.and_true, Bool.and_eq_true]
        constructor
        · rintro ⟨⟨⟨hbinding, hreserved, hnode, hactor⟩, -⟩, -, hscheduler, howner, -⟩
          refine ⟨fun hns => ?_, (reservationRule_passes hnonempty).1 hreserved⟩
          have hdefault := (deny_one_passes rfl (by decide) (by decide)).1 (podRule_passes.1 hscheduler hns)
          exact
            { binding := podRule_passes.1 hbinding hns
              nodeName := (deny_one_passes rfl (by decide) (by decide)).1 (podRule_passes.1 hnode hns)
              username := actor_passes.1 (podRule_passes.1 hactor hns)
              scheduler := by
                by_cases hempty : request.pod.schedulerName = ""
                · exact Or.inl hempty
                · rw [if_neg hempty] at hdefault
                  exact Or.inr hdefault
              owner := podRule_passes.1 howner hns }
        · rintro ⟨hown, hreserved⟩
          refine ⟨⟨⟨podRule_passes.2 fun hns => (hown hns).binding, (reservationRule_passes hnonempty).2 hreserved,
            podRule_passes.2 fun hns => (deny_one_passes rfl (by decide) (by decide)).2 (hown hns).nodeName,
            podRule_passes.2 fun hns => actor_passes.2 (hown hns).username⟩, ?_⟩, passes_of_kinds rfl,
            podRule_passes.2 fun hns => (deny_one_passes rfl (by decide) (by decide)).2 ?_,
            podRule_passes.2 fun hns => (hown hns).owner, passes_of_kinds ?_⟩
          · split_ifs
            · rw [List.all_cons, List.all_nil, Bool.and_true]
              exact passes_of_kinds rfl
            · rfl
          · obtain hempty | hdefault := (hown hns).scheduler
            · rw [if_pos hempty]
            · rw [hdefault]
              rfl
          · cases args.accessClass <;> rfl

/-! ## The reservation -/

/-- What does not name the taint tolerates it by a catch-all toleration only. -/
theorem tolerates_unnamed {toleration : Toleration} (hkey : toleration.key ≠ taint.key) :
    toleration.tolerates taint ↔ CatchAll taint.effect toleration := by
  unfold Toleration.tolerates CatchAll
  constructor
  · rintro ⟨⟨hempty, hexists⟩ | hkey', -, heffect⟩
    · exact ⟨hempty, hexists, heffect⟩
    · exact absurd hkey' hkey
  · rintro ⟨hempty, hexists, heffect⟩
    exact ⟨Or.inl ⟨hempty, hexists⟩, Or.inl hexists, heffect⟩

/-- A Pod that does not name the taint is kept out when it has no catch-all toleration and names no node. -/
theorem keptOut_unnamed (h : ¬ Mentions taint pod) : KeptOut taint pod ↔
    (∀ toleration ∈ pod.tolerations, ¬ CatchAll taint.effect toleration) ∧ pod.nodeName = "" := by
  unfold KeptOut
  refine and_congr_left fun _ => forall₂_congr fun toleration hmem => not_congr (tolerates_unnamed fun hkey => ?_)
  exact h (Or.inr (Or.inl ⟨toleration, hmem, hkey⟩))

/-- **When the policy keeps a Pod from the nodes.** -/
theorem reserved_iff (h : compileAwsDatabaseAdmissionPolicy rt args = .ok policy) :
    (policy.admits matchesText request = true → KeptOut (nodePoolTaint rt args) request.pod) ↔
      if wildcardMatches args.namespaceName request.namespaceName = true then
        AcceptedByNamespace matchesText args request →
          ∀ toleration ∈ request.pod.tolerations, ¬ toleration.tolerates (nodePoolTaint rt args)
      else Mentions (nodePoolTaint rt args) request.pod ∨
        (∀ toleration ∈ request.pod.tolerations, ¬ CatchAll "NoSchedule" toleration) ∧ request.pod.nodeName = "" := by
  rw [admits_iff h]
  split_ifs with hns
  · simp only [hns, Bool.true_eq_false, true_implies, false_implies, and_true]
    exact forall_congr' fun haccepted => and_iff_left haccepted.nodeName
  · rw [Bool.not_eq_true] at hns
    simp only [hns, Bool.false_eq_true, true_implies, false_implies, true_and]
    by_cases hmentions : Mentions (nodePoolTaint rt args) request.pod
    · simp [hmentions]
    · rw [keptOut_unnamed hmentions]
      simp only [hmentions, not_false_iff, true_implies, false_or]
      rfl

/-! ## A Pod that tolerates every taint -/

def ordersDigest : String := "7e21a0529574bacdfd4491aa4d6c3d389700273becc825e8643a22eabe8c095f"

/-- A runtime with the SHA-256 digest of the sample binding. -/
def ordersRuntime : Runtime := Runtime.tabulated [("orders:runtime", ordersDigest)] (fun _ => none) (by decide +kernel)

def ordersTaint : Taint where
  key := "node-restriction.kubernetes.io/database-access-7e21a0529574bacd"
  value := "orders-runtime-database-access"
  effect := "NoSchedule"

def ordersArgs : AdmissionArgs where
  bindingId := "orders"
  accessClass := .runtime
  namespaceName := "orders-database"
  serviceAccount := "orders"
  bindingLabels := Record.empty
  requiredPodAnnotations := Record.empty
  requiredPodScheduling :=
    { nodeSelector := Record.empty.set ordersTaint.key ordersTaint.value
      tolerations := [⟨ordersTaint.key, "Equal", ordersTaint.value, "NoSchedule"⟩] }

theorem ordersArgs_compiles : ∃ policy, compileAwsDatabaseAdmissionPolicy ordersRuntime ordersArgs = .ok policy :=
  exists_of_isOk (by decide +kernel)

/-- A Pod of another namespace; its only toleration is for every taint. -/
def agentRequest : AdmissionRequest where
  namespaceName := "tenant"
  username := "system:kube-controller-manager"
  pod :=
    { labels := Record.empty
      annotations := Record.empty
      serviceAccountName := "agent"
      automountServiceAccountToken := false
      nodeSelector := Record.empty
      tolerations := [⟨"", "Exists", "", ""⟩]
      affinity := "{}"
      nodeName := ""
      schedulerName := "default-scheduler"
      ownerReferences := [⟨"ReplicaSet", true⟩] }

theorem agentRequest_unnamed : ¬ Mentions (nodePoolTaint ordersRuntime ordersArgs) agentRequest.pod := by
  have hkey : (nodePoolTaint ordersRuntime ordersArgs).key ≠ "" := by decide +kernel
  have haffinity : includes agentRequest.pod.affinity (nodePoolTaint ordersRuntime ordersArgs).key = false := by decide +kernel
  rintro (hselector | ⟨toleration, hmem, heq⟩ | htext)
  · cases hselector
  · rw [List.mem_singleton.1 hmem] at heq
    exact hkey heq.symm
  · rw [haffinity] at htext
    cases htext

theorem agentRequest_elsewhere : wildcardMatches ordersArgs.namespaceName agentRequest.namespaceName = false := by
  decide +kernel

/-- The condition fails for that Pod: it is admitted and tolerates the taint. -/
theorem reserved_orders : ∃ policy, compileAwsDatabaseAdmissionPolicy ordersRuntime ordersArgs = .ok policy ∧
    ¬ (policy.admits wildcardMatches agentRequest = true →
      KeptOut (nodePoolTaint ordersRuntime ordersArgs) agentRequest.pod) := by
  obtain ⟨policy, hcompile⟩ := ordersArgs_compiles
  refine ⟨policy, hcompile, fun hkept => ?_⟩
  have hcondition := (reserved_iff hcompile).1 hkept
  rw [if_neg (by rw [agentRequest_elsewhere]; exact Bool.false_ne_true)] at hcondition
  obtain hmentions | ⟨hcatch, -⟩ := hcondition
  · exact agentRequest_unnamed hmentions
  · exact hcatch _ (List.mem_singleton_self _) ⟨rfl, rfl, Or.inl rfl⟩

/-- A Pod of another namespace gets onto the nodes. -/
theorem catchAll_placed : ¬ ∀ (rt : Runtime) (args : AdmissionArgs) (policy : ClusterPolicy) (matchesText : PatternText)
    (request : AdmissionRequest), compileAwsDatabaseAdmissionPolicy rt args = .ok policy →
      request.namespaceName ≠ args.namespaceName → policy.admits matchesText request = true →
        KeptOut (nodePoolTaint rt args) request.pod := by
  intro hclaim
  obtain ⟨policy, hcompile⟩ := ordersArgs_compiles
  have hadmits : policy.admits wildcardMatches agentRequest = true := by
    rw [admits_iff hcompile]
    refine ⟨fun hns => ?_, fun _ => agentRequest_unnamed⟩
    rw [agentRequest_elsewhere] at hns
    cases hns
  have hkept := hclaim _ _ policy wildcardMatches agentRequest hcompile (by decide) hadmits
  exact hkept.1 _ (List.mem_singleton_self _) ⟨Or.inl ⟨rfl, rfl⟩, Or.inl rfl, Or.inl rfl⟩

end SecureSaas.Database
