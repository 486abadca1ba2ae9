import SecureSaas.Broker.Replay

/-!
# Retried mutations

A client that lost the answer of a mutation sends it again. The record it left is found, but the
digest of the request is computed anew, for a cancellation or a deletion from the claim's
generation too.

* `committed_text`: the record of a mutation holds the digest of the text hashed then.
* `payloadText_kept_iff`: a retry hashes the same text exactly while its claim's generation is
  kept, unless it applies a claim.
* `retry_replays_iff`: so that is when a retry is answered like the first call.
-/

namespace SecureSaas.Broker

open Js

variable {rt : Runtime} {s s' : ResourceBrokerState} {h : List BrokerLabel}

/-! ## What is hashed -/

/-- What the payload digest of a request is the hash of; `none` when the request is refused
before. -/
def payloadText (rt : Runtime) (s : ResourceBrokerState) : BrokerCall → Option String
  | .apply _ v => (parseResourceClaimRequest v).toOption.map fun claim => canonicalJson rt claim.toValue
  | .cancel context => (findClaim s context.resourceId).map fun claim => canonicalJson rt (cancelPayload claim)
  | .delete context approval finalization =>
    if isReference ["evidence"] approval = true ∧ isReference ["evidence", "snapshot"] finalization = true then
      (findClaim s context.resourceId).map fun claim =>
        canonicalJson rt (deletePayload claim approval finalization)
    else none
  | _ => none

theorem payloadText_apply {context : BrokerMutationContext} {v : Value} {text : String} :
    payloadText rt s (.apply context v) = some text ↔
      ∃ claim, parseResourceClaimRequest v = .ok claim ∧ canonicalJson rt claim.toValue = text := by
  show (parseResourceClaimRequest v).toOption.map _ = some text ↔ _
  cases parseResourceClaimRequest v with
  | error e => simp [Except.toOption]
  | ok claim => simp [Except.toOption]

theorem payloadText_cancel {context : BrokerMutationContext} {text : String} :
    payloadText rt s (.cancel context) = some text ↔
      ∃ claim, findClaim s context.resourceId = some claim ∧ canonicalJson rt (cancelPayload claim) = text :=
  Option.map_eq_some_iff

theorem payloadText_delete {context : BrokerMutationContext} {approval finalization text : String} :
    payloadText rt s (.delete context approval finalization) = some text ↔
      ∃ claim, findClaim s context.resourceId = some claim ∧ isReference ["evidence"] approval = true ∧
        isReference ["evidence", "snapshot"] finalization = true ∧
        canonicalJson rt (deletePayload claim approval finalization) = text := by
  show (if _ then Option.map _ _ else none) = some text ↔ _
  split
  · rename_i hrefs
    rw [Option.map_eq_some_iff]
    simp [hrefs]
  · rename_i hrefs
    constructor
    · intro h
      cases h
    · rintro ⟨claim, -, happ, hfin, -⟩
      exact absurd ⟨happ, hfin⟩ hrefs

/-- **A committed mutation leaves a record with the digest of its payload.** -/
theorem committed_text {rev : ℤ} {call : BrokerCall} {t : ResourceBrokerTransition BrokerResult}
    (hexec : call.exec rt s rev = .ok t) {operation : BrokerMutationOperation}
    {context : BrokerMutationContext} (hm : call.mutation = some (operation, context))
    (hfresh : t.replayed = false) :
    ∃ text, payloadText rt s call = some text ∧ t.state.idempotencyRecords =
      s.idempotencyRecords ++ [mutationRecord context (sha256 rt text) t.state.revision] := by
  cases call with
  | apply context v =>
    cases hm
    obtain ⟨t, ht, rfl⟩ := map_ok.1 hexec
    obtain ⟨-, -, claim, hp, ⟨c, -, rfl⟩ | ⟨-, hc⟩⟩ := applyResourceClaim_ok.1 ht
    · cases hfresh
    · obtain ⟨e, -, rfl⟩ := hc.answer
      exact ⟨_, payloadText_apply.2 ⟨claim, hp, rfl⟩, rfl⟩
  | cancel context =>
    cases hm
    obtain ⟨t, ht, rfl⟩ := map_ok.1 hexec
    obtain ⟨-, -, claim, hf, ⟨c, -, rfl⟩ | ⟨-, hc⟩⟩ := cancelResourceClaim_ok.1 ht
    · cases hfresh
    · obtain ⟨e, -, rfl⟩ := hc.answer
      exact ⟨_, payloadText_cancel.2 ⟨claim, hf, rfl⟩, rfl⟩
  | delete context approval finalization =>
    cases hm
    obtain ⟨t, ht, rfl⟩ := map_ok.1 hexec
    obtain ⟨-, -, claim, hf, happ, hfin, ⟨c, -, rfl⟩ | ⟨-, hc⟩⟩ := requestResourceClaimDeletion_ok.1 ht
    · cases hfresh
    · obtain ⟨e, -, rfl⟩ := hc.answer
      exact ⟨_, payloadText_delete.2 ⟨claim, hf, happ, hfin, rfl⟩, rfl⟩
  | _ => cases hm

/-- A mutation is answered from a record exactly when the record has the digest of its payload. -/
theorem replays_iff (hs : StateOk s) {call : BrokerCall} {operation : BrokerMutationOperation}
    {context : BrokerMutationContext} (hm : call.mutation = some (operation, context)) :
    (∃ t, call.exec rt s s.revision = .ok t ∧ t.replayed = true ∧ t.state = s) ↔
      ∃ text c, payloadText rt s call = some text ∧ Answers s context operation (sha256 rt text) c := by
  constructor
  · rintro ⟨t, hexec, hreplayed, -⟩
    cases call with
    | apply context v =>
      cases hm
      obtain ⟨t, ht, rfl⟩ := map_ok.1 hexec
      obtain ⟨-, -, claim, hp, ⟨c, ha, -⟩ | ⟨-, hc⟩⟩ := applyResourceClaim_ok.1 ht
      · exact ⟨_, c, payloadText_apply.2 ⟨claim, hp, rfl⟩, ha⟩
      · obtain ⟨e, -, rfl⟩ := hc.answer
        cases hreplayed
    | cancel context =>
      cases hm
      obtain ⟨t, ht, rfl⟩ := map_ok.1 hexec
      obtain ⟨-, -, claim, hf, ⟨c, ha, -⟩ | ⟨-, hc⟩⟩ := cancelResourceClaim_ok.1 ht
      · exact ⟨_, c, payloadText_cancel.2 ⟨claim, hf, rfl⟩, ha⟩
      · obtain ⟨e, -, rfl⟩ := hc.answer
        cases hreplayed
    | delete context approval finalization =>
      cases hm
      obtain ⟨t, ht, rfl⟩ := map_ok.1 hexec
      obtain ⟨-, -, claim, hf, happ, hfin, ⟨c, ha, -⟩ | ⟨-, hc⟩⟩ := requestResourceClaimDeletion_ok.1 ht
      · exact ⟨_, c, payloadText_delete.2 ⟨claim, hf, happ, hfin, rfl⟩, ha⟩
      · obtain ⟨e, -, rfl⟩ := hc.answer
        cases hreplayed
    | _ => cases hm
  · rintro ⟨text, c, htext, ha⟩
    refine ⟨(replayTransition s c).mapResult .claim, ?_, rfl, rfl⟩
    cases call with
    | apply context v =>
      cases hm
      obtain ⟨claim, hp, rfl⟩ := payloadText_apply.1 htext
      exact map_ok.2 ⟨_, applyResourceClaim_ok.2 ⟨hs, rfl, claim, hp, Or.inl ⟨c, ha, rfl⟩⟩, rfl⟩
    | cancel context =>
      cases hm
      obtain ⟨claim, hf, rfl⟩ := payloadText_cancel.1 htext
      exact map_ok.2 ⟨_, cancelResourceClaim_ok.2 ⟨hs, rfl, claim, hf, Or.inl ⟨c, ha, rfl⟩⟩, rfl⟩
    | delete context approval finalization =>
      cases hm
      obtain ⟨claim, hf, happ, hfin, rfl⟩ := payloadText_delete.1 htext
      exact map_ok.2 ⟨_, requestResourceClaimDeletion_ok.2
        ⟨hs, rfl, claim, hf, happ, hfin, Or.inl ⟨c, ha, rfl⟩⟩, rfl⟩
    | _ => cases hm

/-! ## When the text is kept -/

/-- The request applies a claim, or the claim it names has one generation in both states. -/
def GenerationKept (operation : BrokerMutationOperation) (claimId : String) (s s' : ResourceBrokerState) : Prop :=
  operation = .apply ∨
    (findClaim s claimId).map (fun c => c.generation) = (findClaim s' claimId).map (fun c => c.generation)

theorem cancelPayload_inj {c d : ResourceClaimState} (hid : c.claimId = d.claimId) :
    canonicalJson rt (cancelPayload c) = canonicalJson rt (cancelPayload d) ↔ c.generation = d.generation := by
  constructor
  · intro h
    have htext : textWith rt.sortedStyle (cancelPayload c) = textWith rt.sortedStyle (cancelPayload d) :=
      String.ofList_injective h
    have hjson : ∀ c : ResourceClaimState, isJson (cancelPayload c) = true := fun c => by
      simp [cancelPayload, isJson, isJsonEntries, int, Number.isFinite]
    have hentry : ∀ c : ResourceClaimState, ("generation", int c.generation) ∈
        [("claimId", .string c.claimId), ("generation", int c.generation)] := fun c => by simp
    exact object_int_inj rt.sortedStyle (hjson c) (hjson d) htext (by simp) (hentry c) (hentry d)
  · intro h
    unfold cancelPayload
    rw [hid, h]

theorem deletePayload_inj {c d : ResourceClaimState} (hid : c.claimId = d.claimId)
    (approval finalization : String) : canonicalJson rt (deletePayload c approval finalization) =
      canonicalJson rt (deletePayload d approval finalization) ↔ c.generation = d.generation := by
  constructor
  · intro h
    have htext : textWith rt.sortedStyle (deletePayload c approval finalization) =
        textWith rt.sortedStyle (deletePayload d approval finalization) := String.ofList_injective h
    have hjson : ∀ c : ResourceClaimState, isJson (deletePayload c approval finalization) = true := fun c => by
      simp [deletePayload, isJson, isJsonEntries, int, Number.isFinite]
    have hentry : ∀ c : ResourceClaimState, ("generation", int c.generation) ∈
        [("claimId", .string c.claimId), ("generation", int c.generation),
          ("approvalEvidenceRef", .string approval), ("finalizationEvidenceRef", .string finalization)] :=
      fun c => by simp
    exact object_int_inj rt.sortedStyle (hjson c) (hjson d) htext (by simp) (hentry c) (hentry d)
  · intro h
    unfold deletePayload
    rw [hid, h]

/-- **A request hashes the same text exactly while its claim's generation is kept**, unless it
applies a claim. -/
theorem payloadText_kept_iff {call : BrokerCall} {operation : BrokerMutationOperation}
    {context : BrokerMutationContext} (hm : call.mutation = some (operation, context)) {text : String}
    (htext : payloadText rt s call = some text)
    (hkept : ∀ c, findClaim s context.resourceId = some c → ∃ d, findClaim s' context.resourceId = some d) :
    payloadText rt s' call = some text ↔ GenerationKept operation context.resourceId s s' := by
  cases call with
  | apply context v =>
    cases hm
    obtain ⟨claim, hp, rfl⟩ := payloadText_apply.1 htext
    exact iff_of_true (payloadText_apply.2 ⟨claim, hp, rfl⟩) (Or.inl rfl)
  | cancel context =>
    cases hm
    obtain ⟨c, hc, rfl⟩ := payloadText_cancel.1 htext
    obtain ⟨d, hd⟩ := hkept c hc
    have hid : d.claimId = c.claimId := (findClaim_mem hd).2.trans (findClaim_mem hc).2.symm
    unfold GenerationKept
    simp only [payloadText_cancel, hc, hd, Option.some.injEq, exists_eq_left', cancelPayload_inj hid,
      Option.map_some, reduceCtorEq, false_or]
    exact eq_comm
  | delete context approval finalization =>
    cases hm
    obtain ⟨c, hc, happ, hfin, rfl⟩ := payloadText_delete.1 htext
    obtain ⟨d, hd⟩ := hkept c hc
    have hid : d.claimId = c.claimId := (findClaim_mem hd).2.trans (findClaim_mem hc).2.symm
    unfold GenerationKept
    simp only [payloadText_delete, hc, hd, happ, hfin, true_and, Option.some.injEq, exists_eq_left',
      deletePayload_inj hid, Option.map_some, reduceCtorEq, false_or]
    exact eq_comm
  | _ => cases hm

/-! ## Retries -/

/-- A stored record is the one found under its key. -/
theorem StateOk.existingRecord_of_mem (hs : StateOk s) {r : ResourceBrokerIdempotencyRecord}
    (hr : r ∈ s.idempotencyRecords) {context : BrokerMutationContext} {operation : BrokerMutationOperation}
    (htenant : r.tenantId = context.tenantId) (hop : r.operation = operation)
    (hclaim : r.claimId = context.resourceId) (hkey : r.key = context.idempotencyKey) :
    existingRecord s context operation = some r := by
  cases hfind : existingRecord s context operation with
  | none => exact absurd ⟨htenant, hop, hclaim, hkey⟩ (existingRecord_none.1 hfind r hr)
  | some r' =>
    have hmem : r' ∈ s.idempotencyRecords := List.mem_of_find?_eq_some hfind
    have hparts := List.find?_some hfind
    simp only [Bool.and_eq_true, beq_iff_eq] at hparts
    obtain ⟨⟨⟨h1, h2⟩, h3⟩, h4⟩ := hparts
    have hkeys : recordKey r' = recordKey r := by
      unfold recordKey
      rw [h1, h2, h3, h4, htenant, hop, hclaim, hkey]
    rw [List.inj_on_of_nodup_map hs.records_nodup hmem hr hkeys]

/-- **Retries**: in every run, a committed mutation that is sent again later, with the same
context and payload and the current revision, is answered from its record without a change of
state exactly while the generation of its claim is kept, or if it applies a claim. -/
theorem retry_replays_iff (rt : Runtime) {h h' : List BrokerLabel} {s s1 s' : ResourceBrokerState}
    {l : BrokerLabel} {operation : BrokerMutationOperation} {context : BrokerMutationContext}
    (hr : Run (BrokerStep rt) createResourceBrokerState h s) (hstep : BrokerStep rt s l s1)
    (hm : l.call.mutation = some (operation, context)) (hfresh : l.transition.replayed = false)
    (hr' : Run (BrokerStep rt) s1 h' s')
    (hcf : rt.CollisionFreeOn {text | payloadText rt s l.call = some text ∨ payloadText rt s' l.call = some text}) :
    (∃ t, l.call.exec rt s' s'.revision = .ok t ∧ t.replayed = true ∧ t.state = s') ↔
      GenerationKept operation context.resourceId s s' := by
  have hs' : StateOk s' := (run_checked ((hr.snoc hstep).trans hr')).1
  have hlater : Run (BrokerStep rt) s ([l] ++ h') s' := (Run.single hstep).trans hr'
  obtain ⟨text, htext, hrecords⟩ := committed_text hstep.1 hm hfresh
  -- the record of the mutation is still the one under its key
  have hexisting : existingRecord s' context operation =
      some (mutationRecord context (sha256 rt text) l.transition.state.revision) := by
    have hop : context.operation = operation := by
      obtain ⟨-, -, hrep | ⟨c, hcom⟩⟩ := exec_cases hstep.1
      · rw [hrep.replayed] at hfresh
        cases hfresh
      · exact (hcom.gate hm).2.operation
    refine hs'.existingRecord_of_mem ?_ rfl hop rfl rfl
    refine (run_records_extend hr').subset ?_
    rw [hstep.2, hrecords]
    exact List.mem_append_right _ (List.mem_singleton_self _)
  have hkept : ∀ c, findClaim s context.resourceId = some c → ∃ d, findClaim s' context.resourceId = some d := by
    intro c hc
    obtain ⟨d, hd, -⟩ := run_claim_kept hlater hc
    exact ⟨d, hd⟩
  rw [replays_iff hs' hm, ← payloadText_kept_iff hm htext hkept]
  constructor
  · rintro ⟨text', c, htext', r, hfind, hdigest, -, -⟩
    rw [hexisting] at hfind
    have hhash : rt.sha256 text = rt.sha256 text' := by
      rw [← Option.some.inj hfind] at hdigest
      exact hdigest
    rw [hcf (Or.inl htext) (Or.inr htext') hhash]
    exact htext'
  · intro htext'
    obtain ⟨c, hc, -⟩ := run_records_named ((hr.snoc hstep).trans hr') _ (List.mem_of_find?_eq_some hexisting)
    exact ⟨text, c, htext', _, hexisting, rfl, rfl, hc⟩

/-- `retry_replays_iff` on the sample cancellation, sent again at once. -/
theorem retry_replays_iff_cancelling : ∃ t, BrokerCall.exec sampleRuntime (cancellingState sampleRuntime) 3
    (.cancel sampleCancel) = .ok t ∧ t.replayed = true ∧ t.state = cancellingState sampleRuntime := by
  obtain ⟨t1, h1⟩ := sample_applied sampleRuntime
  obtain ⟨t2, h2⟩ := sample_leased sampleRuntime
  obtain ⟨t3, h3⟩ := sample_cancelled sampleRuntime
  have hfresh : t3.replayed = false := by
    obtain ⟨-, -, hrep | ⟨c, hcom⟩⟩ := exec_cases h3.1
    · have hsame := congrArg (fun s => s.revision) (h3.2.trans hrep.state)
      exact absurd hsame (by decide : (3 : ℤ) ≠ 2)
    · exact hcom.replayed
  -- the lease and the cancellation keep the generation, so only one text is hashed
  have hcf : sampleRuntime.CollisionFreeOn {text |
      payloadText sampleRuntime (leasedState sampleRuntime) (.cancel sampleCancel) = some text ∨
        payloadText sampleRuntime (cancellingState sampleRuntime) (.cancel sampleCancel) = some text} := by
    refine Set.Subsingleton.injOn ?_ _
    intro a ha b hb
    have hsame : payloadText sampleRuntime (cancellingState sampleRuntime) (.cancel sampleCancel) =
        payloadText sampleRuntime (leasedState sampleRuntime) (.cancel sampleCancel) := rfl
    rw [Set.mem_ofPred_eq, hsame, or_self] at ha hb
    exact Option.some.inj (ha.symm.trans hb)
  exact (retry_replays_iff sampleRuntime ((Run.single h1).snoc h2) h3 rfl hfresh Run.start hcf).2 (Or.inr rfl)

/-! ## A retry that fails

A claim is applied, cancelled and applied again; then the cancellation is sent again. -/

def sampleReapply : BrokerMutationContext := sampleContext .apply "apply-2" "cap-apply-2" "2026-07-14T12:03:00.000Z"

def secondRequest : ResourceClaimRequest := { sampleRequest with generation := 2 }

def sampleCancelled : ResourceClaimState := cancelledClaim samplePending sampleCancel

section

variable (rt)

def cancelledState : ResourceBrokerState :=
  mutated (pendingState rt) sampleCancel (cancelDigest rt samplePending) [sampleCancelled]

def reappliedState : ResourceBrokerState :=
  mutated (cancelledState rt) sampleReapply (applyDigest rt secondRequest)
    [nextClaim secondRequest (some sampleCancelled)]

theorem pending_cancelled : ∃ t, BrokerStep rt (pendingState rt) ⟨1, .cancel sampleCancel, t⟩
    (cancelledState rt) := by
  obtain ⟨hs, hrev⟩ := run_checked (Run.single (sample_applied rt).choose_spec)
  have hfound : findClaim (pendingState rt) sampleCancel.resourceId = some samplePending := rfl
  have hnew : existingRecord (pendingState rt) sampleCancel .cancel = none := rfl
  have hcap : sampleCancel.capabilityId ∉ (pendingState rt).redeemedCapabilityIds := by
    show sampleCancel.capabilityId ∉ ["cap-apply-1"]
    decide
  obtain ⟨t, ht, hstate⟩ := cancelResourceClaim_succeeds rt hs hrev hfound rfl sampleContext_ok.2 hnew hcap
  exact ⟨_, map_ok.2 ⟨t, ht, rfl⟩, hstate.symm⟩

theorem cancelled_reapplied : ∃ t, BrokerStep rt (cancelledState rt)
    ⟨2, .apply sampleReapply secondRequest.toValue, t⟩ (reappliedState rt) := by
  obtain ⟨hs, hrev⟩ := run_checked
    ((Run.single (sample_applied rt).choose_spec).snoc (pending_cancelled rt).choose_spec)
  have hwf : secondRequest.WellFormed := by
    constructor <;> decide
  have hctx : ContextOk sampleReapply .apply "warden" "claim-a" := by
    constructor <;> decide
  have hnew : existingRecord (cancelledState rt) sampleReapply .apply = none := rfl
  have hcap : sampleReapply.capabilityId ∉ (cancelledState rt).redeemedCapabilityIds := by
    show sampleReapply.capabilityId ∉ ["cap-apply-1", "cap-cancel-1"]
    decide
  obtain ⟨t, ht, hstate⟩ := applyResourceClaim_succeeds rt hs hrev hwf rfl hctx hnew hcap
  exact ⟨_, map_ok.2 ⟨t, ht, rfl⟩, hstate.symm⟩

end

/-- `sampleTable` with the digests of the cancelled and the reapplied claim. -/
def retryTable : List (String × String) :=
  ("\x7b\"claimId\":\"claim-a\",\"generation\":2\x7d",
    "7b5fe61b10176ac5b2b24e810821089a40aa5b8ac25347374f1b61855f3bfc1e") :: sampleTable ++ [
  ("\x7b\"actorId\":\"warden-deployer\"," ++
      "\"apiVersion\":\"security.deus.dev/resource-broker-state/v1alpha1\",\"claimId\":\"claim-a\"," ++
      "\"desiredStateDigest\":\"aaaaaaaaaaaaaaaaaaaaaaaaaaaaaaaaaaaaaaaaaaaaaaaaaaaaaaaaaaaaaaaa\"," ++
      "\"generation\":1,\"occurredAt\":\"2026-07-14T12:02:00.000Z\",\"revision\":2," ++
      "\"tenantId\":\"warden\",\"type\":\"claim-cancelled\"\x7d",
    "d1910667fc32dc5741a08abb30a8c1ef54d0425bf8a93511f8c10323a7814785"),
  ("\x7b\"apiVersion\":\"security.deus.dev/resource-broker/v1alpha1\",\"claimId\":\"claim-a\"," ++
      "\"desiredStateDigest\":\"aaaaaaaaaaaaaaaaaaaaaaaaaaaaaaaaaaaaaaaaaaaaaaaaaaaaaaaaaaaaaaaa\"," ++
      "\"desiredStateRef\":\"broker://claim-a/desired-state\",\"generation\":2," ++
      "\"kind\":\"ResourceClaim\",\"lifecycle\":\x7b\"deletionProtection\":true," ++
      "\"destructionApprovalRequired\":true,\"finalizationEvidenceRequired\":true," ++
      "\"maxReconcileAttempts\":3\x7d,\"requiredProviderCapabilities\":[\"private-network\"]," ++
      "\"resourceApiVersion\":\"security.deus.dev/managed-postgres/v1alpha1\"," ++
      "\"resourceKind\":\"ManagedPostgres\",\"tenantId\":\"warden\"\x7d",
    "b865cf3a53ab122294005711d2e17a4556e757434dc96199b0043e3a713d88b2"),
  ("\x7b\"actorId\":\"warden-deployer\"," ++
      "\"apiVersion\":\"security.deus.dev/resource-broker-state/v1alpha1\",\"claimId\":\"claim-a\"," ++
      "\"desiredStateDigest\":\"aaaaaaaaaaaaaaaaaaaaaaaaaaaaaaaaaaaaaaaaaaaaaaaaaaaaaaaaaaaaaaaa\"," ++
      "\"generation\":2,\"occurredAt\":\"2026-07-14T12:03:00.000Z\",\"revision\":3," ++
      "\"tenantId\":\"warden\",\"type\":\"claim-applied\"\x7d",
    "6768a9ccb0bac64e7a2af10abd810d6d1ddfcfe670fe4c98c901ff88279fd644")]

theorem retryTable_hex : ∀ p ∈ retryTable, isHexDigest p.2 = true := by
  refine List.forall_mem_append.2 ⟨hex_cons (by decide +kernel) (by decide +kernel) sampleTable_hex, ?_⟩
  repeat' first | exact hex_nil | refine hex_cons (by decide +kernel) (by decide +kernel) ?_

def retryRuntime : Runtime := Runtime.tabulated retryTable (fun _ => none) retryTable_hex

/-- The cancellation of the first generation fails when it is sent again after the second was
applied: not every retry is answered like the first call. -/
theorem late_retry_refused : ¬ ∀ (h h' : List BrokerLabel) (s s1 s' : ResourceBrokerState) (l : BrokerLabel)
    (operation : BrokerMutationOperation) (context : BrokerMutationContext),
    Run (BrokerStep retryRuntime) createResourceBrokerState h s → BrokerStep retryRuntime s l s1 →
      l.call.mutation = some (operation, context) → l.transition.replayed = false →
      Run (BrokerStep retryRuntime) s1 h' s' →
      ∃ t, l.call.exec retryRuntime s' s'.revision = .ok t ∧ t.replayed = true ∧ t.state = s' := by
  intro hretry
  obtain ⟨t1, h1⟩ := sample_applied retryRuntime
  obtain ⟨t2, h2⟩ := pending_cancelled retryRuntime
  obtain ⟨t3, h3⟩ := cancelled_reapplied retryRuntime
  have hrun := ((Run.single h1).snoc h2).snoc h3
  have hfresh : t2.replayed = false := by
    obtain ⟨-, -, hrep | ⟨c, hcom⟩⟩ := exec_cases h2.1
    · have hsame := congrArg (fun s => s.revision) (h2.2.trans hrep.state)
      exact absurd hsame (by decide : (2 : ℤ) ≠ 1)
    · exact hcom.replayed
  have hreplay := hretry _ _ _ _ _ _ _ _ (Run.single h1) h2 rfl hfresh (Run.single h3)
  obtain ⟨text, c, htext, r, hr, hdigest, -⟩ := (replays_iff (run_checked hrun).1 rfl).1 hreplay
  -- the record has the digest for generation 1, the retry that for generation 2
  obtain ⟨claim, hclaim, rfl⟩ := payloadText_cancel.1 htext
  obtain rfl : nextClaim secondRequest (some sampleCancelled) = claim := Option.some.inj hclaim
  obtain rfl : mutationRecord sampleCancel (cancelDigest retryRuntime samplePending) 2 = r := Option.some.inj hr
  revert hdigest
  decide

end SecureSaas.Broker
