import SecureSaas.Controller.Authorize
import SecureSaas.Run

/-!
# Redemption of capabilities over a run

A host decides requests one after the other and adds every `capabilityToRedeem` to the
redeemed capabilities of the next decision.

* `HostStep`: one decision of the host, with the capability it redeems.
* `redeemed_stays`: a redeemed capability stays redeemed.
* `mutation_redeems_once`: a capability that a change was allowed with is never allowed again.
-/

namespace SecureSaas.Controller

open Js

/-- A request, with what else the host decides it on; the redeemed capabilities are the
host's own. -/
structure HostCall where
  value : Value
  state : InfrastructureAuthorizationState

/-- The state a call is decided in. -/
def HostCall.stateWith (call : HostCall) (redeemed : List String) : InfrastructureAuthorizationState :=
  { call.state with redeemedCapabilityIds := redeemed }

/-- The host decides a call and redeems the capability that the decision names. -/
def HostStep (rt : Runtime) (redeemed : List String)
    (label : HostCall × InfrastructureAuthorizationDecision) (redeemed' : List String) : Prop :=
  label.2 = authorizeInfrastructureControllerRequest rt (label.1.stateWith redeemed) label.1.value ∧
  redeemed' = redeemed ++ label.2.capabilityToRedeem.toList

/-- The call was allowed for this request. -/
def AllowedAs (rt : Runtime) (label : HostCall × InfrastructureAuthorizationDecision)
    (request : InfrastructureControllerRequest) : Prop :=
  parseInfrastructureControllerRequest rt label.1.value = .ok request ∧ label.2.allowed = true

variable {rt : Runtime} {redeemed redeemed' : List String}
  {label : HostCall × InfrastructureAuthorizationDecision} {request : InfrastructureControllerRequest}

/-- What an allowed step says of its request and of the capabilities redeemed after it. -/
theorem HostStep.allowed (hs : HostStep rt redeemed label redeemed') (ha : AllowedAs rt label request) :
    Authorized request (label.1.stateWith redeemed) ∧
      label.2.capabilityToRedeem =
        if request.operation.isMutation then some request.capability.capabilityId.1 else none := by
  obtain ⟨hd, -⟩ := hs
  obtain ⟨hp, ha⟩ := ha
  rw [hd] at ha ⊢
  obtain ⟨request', hp', hauth⟩ := allowed_iff.1 ha
  obtain rfl : request = request' := Except.ok.inj (hp.symm.trans hp')
  refine ⟨hauth, ?_⟩
  have hd := (denials_eq_nil request (label.1.stateWith redeemed)).2 hauth
  simp [authorizeInfrastructureControllerRequest, hp, parsedRequestDecision, hd]

/-- A redeemed capability stays redeemed. -/
theorem redeemed_stays {id : String} {h : List (HostCall × InfrastructureAuthorizationDecision)}
    (hr : Run (HostStep rt) redeemed h redeemed') (hid : id ∈ redeemed) : id ∈ redeemed' := by
  refine hr.invariant (I := fun ids => id ∈ ids) hid ?_
  intro m a t hm hs
  rw [hs.2]
  exact List.mem_append_left _ hm

/-- **A capability is allowed for at most one change**, presented for one use, and after it for no
request at all; requests that change nothing redeem nothing. -/
theorem mutation_redeems_once (rt : Runtime) (redeemed redeemed' : List String)
    (before between after : List (HostCall × InfrastructureAuthorizationDecision))
    (first later : HostCall × InfrastructureAuthorizationDecision)
    (request request' : InfrastructureControllerRequest)
    (hr : Run (HostStep rt) redeemed (before ++ first :: (between ++ later :: after)) redeemed')
    (hfirst : AllowedAs rt first request) (hlater : AllowedAs rt later request') :
    (request.operation.isMutation = true → request.capability.oneUse = true ∧
      first.2.capabilityToRedeem = some request.capability.capabilityId.1 ∧
      request'.capability.capabilityId ≠ request.capability.capabilityId) ∧
    (request.operation.isMutation = false → first.2.capabilityToRedeem = none) := by
  obtain ⟨m, m1, -, hs, hrest⟩ := hr.step_at
  obtain ⟨hauth, hredeem⟩ := hs.allowed hfirst
  refine ⟨fun hm => ?_, fun hm => by rw [hredeem, if_neg (by rw [hm]; decide)]⟩
  rw [if_pos hm] at hredeem
  refine ⟨hauth.oneUse hm, hredeem, ?_⟩
  -- the capability is redeemed after the first decision, so also before the later one
  obtain ⟨m2, m3, hbetween, hs', -⟩ := hrest.step_at
  have hmem : request.capability.capabilityId.1 ∈ m2 := by
    refine redeemed_stays hbetween ?_
    rw [hs.2, hredeem]
    exact List.mem_append_right _ (List.mem_singleton.2 rfl)
  have hfresh := (hs'.allowed hlater).1.unredeemed
  intro he
  exact hfresh (by rw [he]; exact hmem)

/-! ## The reference host -/

/-- A call that is decided in the reference state. -/
def referenceCall (value : Value) : HostCall := ⟨value, referenceState⟩

theorem PlanApproved.anywhere {request : InfrastructureControllerRequest}
    {plan : InfrastructurePlanBinding} (h : PlanApproved request referenceState plan) (value : Value)
    (ids : List String) : PlanApproved request ((referenceCall value).stateWith ids) plan :=
  ⟨h.targets, h.created, h.unexpired, h.lasts, h.destructive, h.bound, h.checked, h.approvals, h.enough⟩

/-- A request allowed in the reference state is allowed while its capability is not redeemed. -/
theorem Authorized.unless_redeemed {request : InfrastructureControllerRequest} {ids : List String}
    (h : Authorized request referenceState) (hid : request.capability.capabilityId.1 ∉ ids)
    (value : Value) : Authorized request ((referenceCall value).stateWith ids) := by
  refine ⟨h.authenticated, h.organization, h.tenant, h.permitted, h.granted, h.grantUnexpired,
    h.verified, h.issued, h.audience, h.subject, h.action, h.resource, h.generation, h.desired, h.timely,
    h.bounded, h.oneUse, hid, h.keyed, h.deadline, ?_⟩
  have hp := h.plan
  unfold PlanOk at hp ⊢
  split at hp
  · obtain ⟨plan, hplan, hok⟩ := hp
    rw [if_pos (by assumption)]
    exact ⟨plan, hplan, hok.anywhere value ids⟩
  · rw [if_neg (by assumption)]
    exact hp

/-- The step of the reference host on an input that is allowed there. -/
theorem reference_step {input : Value} {operation : InfrastructureOperation} {oneUse : Bool}
    {id : String} (ids : List String) (h : allowedCapability input = some (operation, oneUse, id))
    (hid : id ∉ ids) : ∃ decision request,
      HostStep referenceRuntime ids (referenceCall input, decision)
        (ids ++ if operation.isMutation then [id] else []) ∧
      AllowedAs referenceRuntime (referenceCall input, decision) request ∧
      request.operation = operation ∧ request.capability.oneUse = oneUse ∧
      request.capability.capabilityId.1 = id := by
  obtain ⟨request, hp, ha, rfl, rfl, rfl⟩ := allowedCapability_iff.1 h
  have hauth := ha.unless_redeemed hid input
  refine ⟨_, request, ⟨rfl, ?_⟩, ⟨hp, allowed_iff.2 ⟨request, hp, hauth⟩⟩, rfl, rfl, rfl⟩
  have hd := (denials_eq_nil request _).2 hauth
  simp only [hp, parsedRequestDecision, hd]
  cases request.operation.isMutation <;> rfl

theorem reference_plan_allowed : allowedCapability (referenceRequestInput .plan .production true) =
    some (.plan, true, "cap-plan-1") := by decide +kernel

/-- After the reference deletion the reference plan is still allowed: it has its own capability. -/
theorem mutation_redeems_once_delete : ∃ first later redeemed request request',
    Run (HostStep referenceRuntime) [] [first, later] redeemed ∧
    AllowedAs referenceRuntime first request ∧ AllowedAs referenceRuntime later request' ∧
    first.2.capabilityToRedeem = some request.capability.capabilityId.1 ∧
    request'.capability.capabilityId ≠ request.capability.capabilityId := by
  obtain ⟨first, request, hs1, ha1, ho1, -⟩ := reference_step [] reference_delete_allowed (by simp)
  obtain ⟨later, request', hs2, ha2, -⟩ :=
    reference_step ["cap-delete-1"] reference_plan_allowed (by decide)
  have hr := (Run.single hs1).trans (Run.single hs2)
  have hm : request.operation.isMutation = true := by rw [ho1]; rfl
  obtain ⟨-, hredeem, hne⟩ := (mutation_redeems_once referenceRuntime [] _ [] [] [] (_, first) (_, later)
    request request' hr ha1 ha2).1 hm
  exact ⟨_, _, _, request, request', hr, ha1, ha2, hredeem, hne⟩

/-- A capability presented with `oneUse` is not allowed twice among the decisions. -/
def AllowsOnce (rt : Runtime) (h : List (HostCall × InfrastructureAuthorizationDecision)) : Prop :=
  ∀ before between after first later request request', h = before ++ first :: (between ++ later :: after) →
    AllowedAs rt first request → AllowedAs rt later request' → request.capability.oneUse = true →
    request'.capability.capabilityId ≠ request.capability.capabilityId

/-- The reference plan, with a one-use capability, is allowed twice. -/
theorem plan_allowed_twice : ¬ ∀ (rt : Runtime) (redeemed : List String)
    (h : List (HostCall × InfrastructureAuthorizationDecision)) (redeemed' : List String),
    Run (HostStep rt) redeemed h redeemed' → AllowsOnce rt h := by
  intro hall
  obtain ⟨decision, request, hs, ha, -, hone, -⟩ := reference_step [] reference_plan_allowed (by simp)
  -- a plan redeems nothing, so the host decides the second call as it did the first
  have hr := (Run.single hs).trans (Run.single hs)
  exact hall referenceRuntime [] _ _ hr [] [] [] _ _ request request rfl ha ha hone rfl

end SecureSaas.Controller
