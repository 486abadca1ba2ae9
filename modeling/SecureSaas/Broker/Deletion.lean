import SecureSaas.Broker.Retry

/-!
# Deletion protection

A claim is deleted only through a request of its tenant: the request names the evidence that the
deletion has to present, and nothing but leases of the claim commits between the two.

* `BrokerStep.pending`: every step keeps the account of the claims that are being deleted.
* `deletion_protected`: **the history of a deletion.**
* `deletion_not_silent`: calls that only repeat an earlier answer do succeed in between.
-/

namespace SecureSaas.Broker

open Js

variable {rt : Runtime} {s s' m : ResourceBrokerState} {h : List BrokerLabel}

/-! ## Requests -/

/-- The claim a call names. -/
def BrokerCall.claimId : BrokerCall → String
  | .apply context _ => context.resourceId
  | .cancel context => context.resourceId
  | .delete context _ _ => context.resourceId
  | .lease args => args.claimId
  | .complete args _ _ _ => args.claimId
  | .fail args _ _ _ => args.claimId
  | .drift claimId _ _ _ _ => claimId
  | .acknowledge args _ => args.claimId
  | .completeDeletion args _ => args.claimId

/-- After the calls `before`, a deletion of the claim is requested: it is committed with a verified
`claim.delete` capability that is redeemed by it, from phase `available` or `cancelled`. -/
structure Requested (rt : Runtime) (claimId finalization : String) (before : List BrokerLabel)
    (request : BrokerLabel) (context : BrokerMutationContext) (found next : ResourceBrokerState)
    (claim : ResourceClaimState) : Prop where
  run : Run (BrokerStep rt) createResourceBrokerState before found
  step : BrokerStep rt found request next
  committed : request.transition.replayed = false
  call : ∃ approval, request.call = .delete context approval finalization
  named : context.resourceId = claimId
  operation : context.operation = .delete
  verified : context.capabilityVerified = true
  unredeemed : context.capabilityId ∉ found.redeemedCapabilityIds
  redeemed : context.capabilityId ∈ next.redeemedCapabilityIds
  source : findClaim found claimId = some claim
  phase : claim.phase = .available ∨ claim.phase = .cancelled

/-- Of the calls on the claim, only leases commit. -/
def OnlyLeased (claimId : String) (after : List BrokerLabel) : Prop :=
  ∀ l ∈ after, l.transition.replayed = false → l.call.claimId = claimId → ∃ args, l.call = .lease args

/-- A provider leases the claim. -/
def LeasedBy (claimId providerId : String) (after : List BrokerLabel) : Prop :=
  ∃ l ∈ after, ∃ args, l.call = .lease args ∧ args.claimId = claimId ∧ args.providerId = providerId

/-- The claims that are being deleted, each with its request and what has happened to it since. -/
def Pending (rt : Runtime) (h : List BrokerLabel) (s : ResourceBrokerState) : Prop :=
  ∀ claimId c, findClaim s claimId = some c → c.phase = .deleting →
    ∃ deletion before request after context found next claim, c.deletion = some deletion ∧
      h = before ++ request :: after ∧
      Requested rt claimId deletion.finalizationEvidenceRef before request context found next claim ∧
      OnlyLeased claimId after ∧ ∀ lease, c.lease = some lease → LeasedBy claimId lease.providerId after

theorem OnlyLeased.snoc {claimId : String} {after : List BrokerLabel} (ho : OnlyLeased claimId after) {l : BrokerLabel}
    (hl : l.transition.replayed = false → l.call.claimId = claimId → ∃ args, l.call = .lease args) :
    OnlyLeased claimId (after ++ [l]) := by
  intro x hx
  rcases List.mem_append.1 hx with hx | hx
  · exact ho x hx
  · obtain rfl := List.mem_singleton.1 hx
    exact hl

theorem LeasedBy.snoc {claimId providerId : String} {after : List BrokerLabel} (hl : LeasedBy claimId providerId after)
    (l : BrokerLabel) : LeasedBy claimId providerId (after ++ [l]) := by
  obtain ⟨x, hx, hargs⟩ := hl
  exact ⟨x, List.mem_append_left _ hx, hargs⟩

/-! ## Steps -/

/-- A call leaves behind the claim it names. -/
theorem ClaimEffect.claimId_eq {call : BrokerCall} {c : ResourceClaimState} (he : ClaimEffect rt s call c) :
    c.claimId = call.claimId := by
  cases he with
  | applied _ _ hctx => exact hctx.resourceId.symm
  | cancelled hf _ _ => exact (findClaim_mem hf).2
  | deleting hf _ _ => exact (findClaim_mem hf).2
  | leased hg _ => exact (findClaim_mem hg.found).2
  | completed hp _ => exact (findClaim_mem hp.found).2
  | failed hp => exact (findClaim_mem hp.found).2
  | drifted hf _ => exact (findClaim_mem hf).2
  | acknowledged hp _ => exact (findClaim_mem hp.found).2
  | deleted hp => exact (findClaim_mem hp.found).2

/-- **A claim is being deleted** through a request, or was before and has been leased. -/
theorem ClaimEffect.deleting_cases {call : BrokerCall} {c : ResourceClaimState} (he : ClaimEffect rt s call c)
    (hphase : c.phase = .deleting) :
    (∃ context approval finalization claim, call = .delete context approval finalization ∧
      findClaim s context.resourceId = some claim ∧ (claim.phase = .available ∨ claim.phase = .cancelled) ∧
      ContextOk context .delete claim.tenantId claim.claimId ∧
      c = deletingClaim claim context approval finalization) ∨
    ∃ args claim lease, call = .lease args ∧ findClaim s args.claimId = some claim ∧ claim.phase = .deleting ∧
      c.deletion = claim.deletion ∧ c.lease = some lease ∧ lease.providerId = args.providerId := by
  cases he with
  | @deleting context approval finalization claim hf hp hctx =>
    refine Or.inl ⟨context, approval, finalization, claim, rfl, hf, ?_, hctx, rfl⟩
    rw [Bool.or_eq_true, beq_iff_eq, beq_iff_eq] at hp
    exact hp
  | @leased args claim duration expiresAt hg _ =>
    refine Or.inr ⟨args, claim, _, rfl, hg.found, ?_, rfl, rfl, rfl⟩
    -- a claim in another phase would be reconciling now
    by_contra hp
    change (if claim.phase = .deleting then ResourceClaimPhase.deleting else .reconciling) = .deleting at hphase
    rw [if_neg hp] at hphase
    cases hphase
  | applied => cases hphase
  | @cancelled context claim _ _ _ =>
    change (if claim.phase == .reconciling then ResourceClaimPhase.cancelling else .cancelled) = .deleting at hphase
    split at hphase <;> cases hphase
  | completed => cases hphase
  | failed => cases hphase
  | drifted => cases hphase
  | acknowledged => cases hphase
  | deleted => cases hphase

/-- A claim that a commit leaves deleted was being deleted, and leased by the provider. -/
theorem ClaimEffect.deleted_cases {call : BrokerCall} {c : ResourceClaimState} (he : ClaimEffect rt s call c)
    (hphase : c.phase = .deleted) : ∃ args finalization claim lease, call = .completeDeletion args finalization ∧
      Presents s args .deleting claim lease := by
  cases he with
  | deleted hp => exact ⟨_, _, _, _, rfl, hp⟩
  | applied => cases hphase
  | @cancelled context claim _ _ _ =>
    change (if claim.phase == .reconciling then ResourceClaimPhase.cancelling else .cancelled) = .deleted at hphase
    split at hphase <;> cases hphase
  | deleting => cases hphase
  | @leased args claim duration expiresAt hg _ =>
    change (if claim.phase = .deleting then ResourceClaimPhase.deleting else .reconciling) = .deleted at hphase
    split at hphase <;> cases hphase
  | completed => cases hphase
  | failed => cases hphase
  | drifted => cases hphase
  | acknowledged => cases hphase

/-- **Every step keeps the account of the claims that are being deleted.** -/
theorem BrokerStep.pending {l : BrokerLabel} (hr : Run (BrokerStep rt) createResourceBrokerState h s)
    (hstep : BrokerStep rt s l s') (hp : Pending rt h s) : Pending rt (h ++ [l]) s' := by
  have hstep' := hstep
  obtain ⟨hexec, rfl⟩ := hstep
  obtain ⟨hs, -, hrep | ⟨c0, hcom⟩⟩ := exec_cases hexec
  · intro claimId c hc hphase
    rw [hrep.state] at hc
    obtain ⟨deletion, before, request, after, context, found, next, claim, hd, rfl, hreq, honly, hlease⟩ :=
      hp claimId c hc hphase
    refine ⟨deletion, before, request, after ++ [l], context, found, next, claim, hd, by simp, hreq,
      honly.snoc ?_, fun lease hl => (hlease lease hl).snoc l⟩
    intro hcommitted
    rw [hrep.replayed] at hcommitted
    cases hcommitted
  · intro claimId c hc hphase
    have hcall := hcom.effect.claimId_eq
    rw [hcom.find hs] at hc
    by_cases hid : claimId = c0.claimId
    · rw [if_pos hid] at hc
      obtain rfl := Option.some.inj hc
      rcases hcom.effect.deleting_cases hphase with
        ⟨context, approval, finalization, claim, hdelete, hf, hwas, hctx, rfl⟩ |
        ⟨args, claim, lease, hlease, hf, hwas, hd, hheld, hprovider⟩
      · -- the request itself
        obtain ⟨-, -, hfresh, hredeemed, -⟩ := hcom.mutated .delete context (by rw [hdelete]; rfl)
        have hnamed : context.resourceId = claimId := by rw [hid, hcall, hdelete]; rfl
        refine ⟨_, h, l, [], context, s, l.transition.state, claim, rfl, by simp, ?_, by simp [OnlyLeased], ?_⟩
        · refine ⟨hr, hstep', hcom.replayed, ⟨approval, hdelete⟩, hnamed, hctx.operation, hctx.verified, hfresh, ?_,
            hnamed ▸ hf, hwas⟩
          rw [hredeemed]
          exact List.mem_append_right _ (List.mem_singleton_self _)
        · -- an available or cancelled claim has no lease
          intro lease hl
          change claim.lease = some lease at hl
          have hphases := (hs.claims claim (findClaim_mem hf).1).lease_phase (by rw [hl]; rfl)
          rcases hwas with hw | hw <;> rw [hw] at hphases <;> simp at hphases
      · -- a lease of a claim whose deletion was requested before
        have hnamed : args.claimId = claimId := by rw [hid, hcall, hlease]; rfl
        obtain ⟨deletion, before, request, after, context, found, next, claim', hd', rfl, hreq, honly, -⟩ :=
          hp claimId claim (hnamed ▸ hf) hwas
        refine ⟨deletion, before, request, after ++ [l], context, found, next, claim', hd.trans hd', by simp, hreq,
          honly.snoc fun _ _ => ⟨args, hlease⟩, ?_⟩
        intro lease' hl
        rw [hheld] at hl
        obtain rfl := Option.some.inj hl
        exact ⟨l, List.mem_append_right _ (List.mem_singleton_self l), args, hlease, hnamed, hprovider.symm⟩
    · rw [if_neg hid] at hc
      obtain ⟨deletion, before, request, after, context, found, next, claim, hd, rfl, hreq, honly, hlease⟩ :=
        hp claimId c hc hphase
      refine ⟨deletion, before, request, after ++ [l], context, found, next, claim, hd, by simp, hreq,
        honly.snoc ?_, fun lease hl => (hlease lease hl).snoc l⟩
      intro _ hnamed
      exact absurd (hnamed.symm.trans hcall.symm) hid

theorem run_pending (hr : Run (BrokerStep rt) createResourceBrokerState h s) : Pending rt h s := by
  refine hr.history (I := Pending rt) ?_ fun h m l t hr hp hstep => hstep.pending hr hp
  intro claimId c hc
  cases hc

/-- **Deletion protection**: a step that leaves a claim deleted presents the evidence of a request
that was committed before, and between the two the claim was leased by the provider and nothing but
leases of it was committed. -/
theorem deletion_protected (rt : Runtime) {h : List BrokerLabel} {m s : ResourceBrokerState} {l : BrokerLabel}
    {claimId : String} {c : ResourceClaimState} (hr : Run (BrokerStep rt) createResourceBrokerState h m)
    (hstep : BrokerStep rt m l s) (hc : findClaim s claimId = some c) (hdeleted : c.phase = .deleted)
    (hbefore : ∀ d, findClaim m claimId = some d → d.phase ≠ .deleted) :
    ∃ args finalization before request after context found next claim,
      l.call = .completeDeletion args finalization ∧ args.claimId = claimId ∧ h = before ++ request :: after ∧
      Requested rt claimId finalization before request context found next claim ∧
      OnlyLeased claimId after ∧ LeasedBy claimId args.providerId after := by
  obtain ⟨hexec, rfl⟩ := hstep
  obtain ⟨hs, -, hrep | ⟨c0, hcom⟩⟩ := exec_cases hexec
  · rw [hrep.state] at hc
    exact absurd hdeleted (hbefore c hc)
  · rw [hcom.find hs] at hc
    by_cases hid : claimId = c0.claimId
    · rw [if_pos hid] at hc
      obtain rfl := Option.some.inj hc
      obtain ⟨args, finalization, claim, lease, hcall, hpresents⟩ := hcom.effect.deleted_cases hdeleted
      have hnamed : args.claimId = claimId := by
        rw [hid, hcom.effect.claimId_eq, hcall]
        rfl
      -- the evidence is that of the claim's own record
      rw [hcall] at hexec
      obtain ⟨t, ht, -⟩ := map_ok.1 hexec
      obtain ⟨-, -, claim', ⟨lease', hpresents'⟩, -, hevidence, -⟩ := completeResourceClaimDeletion_ok.1 ht
      obtain rfl := Option.some.inj (hpresents.found.symm.trans hpresents'.found)
      obtain ⟨deletion, before, request, after, context, found, next, claim'', hd, rfl, hreq, honly, hleased⟩ :=
        run_pending hr claimId claim (hnamed ▸ hpresents.found) hpresents.phase
      rw [hd, Option.map_some] at hevidence
      obtain rfl := Option.some.inj hevidence
      refine ⟨args, _, before, request, after, context, found, next, claim'', hcall, hnamed, rfl, hreq, honly, ?_⟩
      exact hpresents.providerId ▸ hleased lease hpresents.held
    · rw [if_neg hid] at hc
      exact absurd hdeleted (hbefore c hc)

/-! ## A sample deletion

A claim is applied and cancelled, and its deletion is requested; its application is sent again,
and a provider leases and deletes it. -/

def sampleDelete : BrokerMutationContext := sampleContext .delete "delete-1" "cap-delete-1" "2026-07-14T12:04:00.000Z"

def sampleDeleting : ResourceClaimState :=
  deletingClaim sampleCancelled sampleDelete "evidence://approval" "evidence://final"

def deletionLeaseArgs : LeaseArgs := { sampleLeaseArgs with occurredAt := "2026-07-14T12:05:00.000Z" }

section

variable (rt)

def deletionLease : ResourceProviderLease :=
  issuedLease rt sampleDeleting deletionLeaseArgs 4 "2026-07-14T12:10:00.000Z"

def deletionArgs : ProviderArgs where
  claimId := "claim-a"
  providerId := "fake-provider"
  workloadIdentityVerified := true
  fenceToken := (deletionLease rt).fenceToken
  generation := 1
  occurredAt := "2026-07-14T12:06:00.000Z"

def deletingState : ResourceBrokerState :=
  mutated (cancelledState rt) sampleDelete
    (deleteDigest rt sampleCancelled "evidence://approval" "evidence://final") [sampleDeleting]

def deletionLeasedState : ResourceBrokerState :=
  advanced (deletingState rt) [leasedClaim sampleDeleting (deletionLease rt)]

def deletedState : ResourceBrokerState :=
  advanced (deletionLeasedState rt) [deletedClaim (leasedClaim sampleDeleting (deletionLease rt))]

theorem cancelled_run : ∃ a k, Run (BrokerStep rt) createResourceBrokerState
    [⟨0, .apply sampleApply sampleRequest.toValue, a⟩, ⟨1, .cancel sampleCancel, k⟩] (cancelledState rt) :=
  ⟨_, _, (Run.single (sample_applied rt).choose_spec).snoc (pending_cancelled rt).choose_spec⟩

theorem deletion_requested : ∃ t, BrokerStep rt (cancelledState rt)
    ⟨2, .delete sampleDelete "evidence://approval" "evidence://final", t⟩ (deletingState rt) := by
  obtain ⟨_, _, hrun⟩ := cancelled_run rt
  obtain ⟨hs, hrev⟩ := run_checked hrun
  have hfound : findClaim (cancelledState rt) sampleDelete.resourceId = some sampleCancelled := rfl
  have hctx : ContextOk sampleDelete .delete "warden" "claim-a" := by
    constructor <;> decide
  have hnew : existingRecord (cancelledState rt) sampleDelete .delete = none := rfl
  have hcap : sampleDelete.capabilityId ∉ (cancelledState rt).redeemedCapabilityIds := by
    show sampleDelete.capabilityId ∉ ["cap-apply-1", "cap-cancel-1"]
    decide
  obtain ⟨t, ht, hstate⟩ := requestResourceClaimDeletion_succeeds rt hs hrev hfound (Or.inr rfl)
    (show isReference ["evidence"] "evidence://approval" = true by decide)
    (show isReference ["evidence", "snapshot"] "evidence://final" = true by decide) hctx hnew hcap
  exact ⟨_, map_ok.2 ⟨t, ht, rfl⟩, hstate.symm⟩

theorem deleting_run : ∃ a k d, Run (BrokerStep rt) createResourceBrokerState
    [⟨0, .apply sampleApply sampleRequest.toValue, a⟩, ⟨1, .cancel sampleCancel, k⟩,
      ⟨2, .delete sampleDelete "evidence://approval" "evidence://final", d⟩] (deletingState rt) := by
  obtain ⟨_, _, hrun⟩ := cancelled_run rt
  exact ⟨_, _, _, hrun.snoc (deletion_requested rt).choose_spec⟩

/-- The application of the claim is answered again while the claim is being deleted. -/
theorem deleting_reapplied : ∃ t, BrokerStep rt (deletingState rt)
    ⟨3, .apply sampleApply sampleRequest.toValue, t⟩ (deletingState rt) := by
  obtain ⟨_, _, _, hrun⟩ := deleting_run rt
  have hparse := parseResourceClaimRequest_toValue.2 ⟨rfl, sampleRequest_ok⟩
  have hanswers : Answers (deletingState rt) sampleApply .apply (applyDigest rt sampleRequest) sampleDeleting :=
    ⟨mutationRecord sampleApply (applyDigest rt sampleRequest) 1, rfl, rfl, rfl, rfl⟩
  have happly : applyResourceClaim rt (deletingState rt) 3 sampleApply sampleRequest.toValue =
      .ok (replayTransition (deletingState rt) sampleDeleting) :=
    applyResourceClaim_ok.2 ⟨(run_checked hrun).1, rfl, sampleRequest, hparse, Or.inl ⟨_, hanswers, rfl⟩⟩
  exact ⟨_, map_ok.2 ⟨_, happly, rfl⟩, rfl⟩

theorem deletion_leased : ∃ t, BrokerStep rt (deletingState rt) ⟨3, .lease deletionLeaseArgs, t⟩
    (deletionLeasedState rt) := by
  obtain ⟨_, _, _, hrun⟩ := deleting_run rt
  have hg : LeaseGuard (deletingState rt) deletionLeaseArgs sampleDeleting 300 := by
    constructor
    all_goals first | rfl | decide
  have hnow : dateParse deletionLeaseArgs.occurredAt = some 1784030700000 := by decide
  obtain ⟨t, ht, hstate⟩ := leaseResourceClaim_succeeds rt (run_checked hrun).1 hg (by decide) hnow
    (by decide) (by decide)
  have hiso : isoString (1784030700000 + 300 * 1000) = "2026-07-14T12:10:00.000Z" := by decide
  rw [hiso] at hstate
  exact ⟨_, map_ok.2 ⟨t, ht, rfl⟩, hstate.symm⟩

theorem deletion_leased_run : ∃ a k d a' g, Run (BrokerStep rt) createResourceBrokerState
    [⟨0, .apply sampleApply sampleRequest.toValue, a⟩, ⟨1, .cancel sampleCancel, k⟩,
      ⟨2, .delete sampleDelete "evidence://approval" "evidence://final", d⟩,
      ⟨3, .apply sampleApply sampleRequest.toValue, a'⟩, ⟨3, .lease deletionLeaseArgs, g⟩]
    (deletionLeasedState rt) := by
  obtain ⟨_, _, _, hrun⟩ := deleting_run rt
  exact ⟨_, _, _, _, _, (hrun.snoc (deleting_reapplied rt).choose_spec).snoc (deletion_leased rt).choose_spec⟩

theorem deletion_completed : ∃ t, BrokerStep rt (deletionLeasedState rt)
    ⟨4, .completeDeletion (deletionArgs rt) "evidence://final", t⟩ (deletedState rt) := by
  obtain ⟨_, _, _, _, _, hrun⟩ := deletion_leased_run rt
  have hp : Presents (deletionLeasedState rt) (deletionArgs rt) .deleting
      (leasedClaim sampleDeleting (deletionLease rt)) (deletionLease rt) := by
    have hidentity : isIdentifier "fake-provider" = true := by decide
    have hoccurred : isTimestamp "2026-07-14T12:06:00.000Z" = true := by decide
    have hunexpired : timeLT (dateParse "2026-07-14T12:10:00.000Z") (dateParse "2026-07-14T12:06:00.000Z") = false := by
      decide
    exact ⟨rfl, hidentity, rfl, hoccurred, rfl, rfl, rfl, rfl, rfl, rfl, hunexpired⟩
  obtain ⟨t, ht, hstate⟩ := completeResourceClaimDeletion_succeeds rt (run_checked hrun).1 hp
    (show _ = some (ResourceClaimDeletion.mk _ _ _ _) from rfl)
  exact ⟨_, map_ok.2 ⟨t, ht, rfl⟩, hstate.symm⟩

end

/-- `retryTable` with the digests of the sample deletion. -/
def deletionTable : List (String × String) := retryTable ++ [
  ("\x7b\"approvalEvidenceRef\":\"evidence://approval\",\"claimId\":\"claim-a\"," ++
      "\"finalizationEvidenceRef\":\"evidence://final\",\"generation\":1\x7d",
    "a0a206b0c825bed600f8f11b7870f08c1adce50d0cb2264ddfc92d682e60363e"),
  ("\x7b\"attempt\":1,\"claimId\":\"claim-a\",\"generation\":1," ++
      "\"occurredAt\":\"2026-07-14T12:05:00.000Z\",\"providerId\":\"fake-provider\"," ++
      "\"revision\":4\x7d",
    "5f3c643bcf0300d03bebda2097698e690234ceb5c10d1a917e0a8e6ffb7c17ed"),
  ("\x7b\"actorId\":\"warden-deployer\"," ++
      "\"apiVersion\":\"security.deus.dev/resource-broker-state/v1alpha1\"," ++
      "\"claimId\":\"claim-a\"," ++
      "\"desiredStateDigest\":\"aaaaaaaaaaaaaaaaaaaaaaaaaaaaaaaaaaaaaaaaaaaaaaaaaaaaaaaaaaaaaaaa\"," ++
      "\"generation\":1,\"occurredAt\":\"2026-07-14T12:04:00.000Z\",\"revision\":3," ++
      "\"tenantId\":\"warden\",\"type\":\"deletion-requested\"\x7d",
    "64620ab564114e691b0347dfe3c950c81206c61ddd437c227b899cdb1248d27e"),
  ("\x7b\"apiVersion\":\"security.deus.dev/resource-broker-state/v1alpha1\"," ++
      "\"claimId\":\"claim-a\"," ++
      "\"desiredStateDigest\":\"aaaaaaaaaaaaaaaaaaaaaaaaaaaaaaaaaaaaaaaaaaaaaaaaaaaaaaaaaaaaaaaa\"," ++
      "\"fenceToken\":\"5f3c643bcf0300d03bebda2097698e690234ceb5c10d1a917e0a8e6ffb7c17ed\"," ++
      "\"generation\":1,\"occurredAt\":\"2026-07-14T12:05:00.000Z\"," ++
      "\"providerId\":\"fake-provider\",\"revision\":4,\"tenantId\":\"warden\"," ++
      "\"type\":\"provider-leased\"\x7d",
    "31aaaaac692d105e83dedf6ac9daf69024c6d365894d69697e269771fd1cacb4"),
  ("\x7b\"apiVersion\":\"security.deus.dev/resource-broker-state/v1alpha1\"," ++
      "\"claimId\":\"claim-a\"," ++
      "\"desiredStateDigest\":\"aaaaaaaaaaaaaaaaaaaaaaaaaaaaaaaaaaaaaaaaaaaaaaaaaaaaaaaaaaaaaaaa\"," ++
      "\"fenceToken\":\"5f3c643bcf0300d03bebda2097698e690234ceb5c10d1a917e0a8e6ffb7c17ed\"," ++
      "\"generation\":1,\"occurredAt\":\"2026-07-14T12:06:00.000Z\"," ++
      "\"providerId\":\"fake-provider\",\"revision\":5,\"tenantId\":\"warden\"," ++
      "\"type\":\"claim-deleted\"\x7d",
    "e3fbd773d454f7a1529940ea14e7f871cd24b6098909b39b4ec64c3ecdfddae3")]

theorem deletionTable_hex : ∀ p ∈ deletionTable, isHexDigest p.2 = true := by
  refine List.forall_mem_append.2 ⟨retryTable_hex, ?_⟩
  repeat' first | exact hex_nil | refine hex_cons (by decide +kernel) (by decide +kernel) ?_

def deletionRuntime : Runtime := Runtime.tabulated deletionTable (fun _ => none) deletionTable_hex

/-- `deletion_protected` on the sample deletion. -/
theorem deletion_protected_sample : ∃ finalization before request after context found next claim,
    Requested deletionRuntime "claim-a" finalization before request context found next claim ∧
      OnlyLeased "claim-a" after ∧ LeasedBy "claim-a" "fake-provider" after := by
  obtain ⟨_, _, _, _, _, hrun⟩ := deletion_leased_run deletionRuntime
  obtain ⟨t, hstep⟩ := deletion_completed deletionRuntime
  obtain ⟨args, finalization, before, request, after, context, found, next, claim, hcall, -, -, hreq, honly, hleased⟩ :=
    deletion_protected deletionRuntime hrun hstep (show findClaim _ "claim-a" = some _ from rfl) rfl (fun d hd => by
      obtain rfl : leasedClaim sampleDeleting (deletionLease deletionRuntime) = d := Option.some.inj hd
      decide)
  cases hcall
  exact ⟨_, before, request, after, context, found, next, claim, hreq, honly, hleased⟩

/-- **Calls that repeat an earlier one succeed during a deletion**: not only leases of the claim
return between the request and the deletion. -/
theorem deletion_not_silent : ¬ ∀ (h : List BrokerLabel) (m s : ResourceBrokerState) (l : BrokerLabel)
    (claimId : String) (c : ResourceClaimState), Run (BrokerStep deletionRuntime) createResourceBrokerState h m →
      BrokerStep deletionRuntime m l s → findClaim s claimId = some c → c.phase = .deleted →
      (∀ d, findClaim m claimId = some d → d.phase ≠ .deleted) →
      ∃ before request after context approval finalization, h = before ++ request :: after ∧
        request.call = .delete context approval finalization ∧
        ∀ x ∈ after, x.call.claimId = claimId → ∃ args, x.call = .lease args := by
  intro hall
  obtain ⟨_, _, _, _, _, hrun⟩ := deletion_leased_run deletionRuntime
  obtain ⟨t, hstep⟩ := deletion_completed deletionRuntime
  obtain ⟨before, request, after, context, approval, finalization, heq, hcall, hafter⟩ :=
    hall _ _ _ _ "claim-a" _ hrun hstep rfl rfl (fun d hd => by
      obtain rfl : leasedClaim sampleDeleting (deletionLease deletionRuntime) = d := Option.some.inj hd
      decide)
  -- the request is the third call, and the application is sent again after it
  rcases before with _ | ⟨b0, _ | ⟨b1, _ | ⟨b2, _ | ⟨b3, _ | ⟨b4, rest⟩⟩⟩⟩⟩ <;>
    simp only [List.nil_append, List.cons_append, List.cons.injEq, List.nil_eq, List.append_eq_nil_iff,
      List.cons_ne_nil, and_false] at heq
  · rw [← heq.1] at hcall
    cases hcall
  · rw [← heq.2.1] at hcall
    cases hcall
  · rw [← heq.2.2.2] at hafter
    obtain ⟨args, hargs⟩ := hafter _ List.mem_cons_self rfl
    cases hargs
  · rw [← heq.2.2.2.1] at hcall
    cases hcall
  · rw [← heq.2.2.2.2.1] at hcall
    cases hcall

end SecureSaas.Broker
