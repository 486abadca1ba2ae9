import SecureSaas.Broker.Ledger

/-!
# Replayed mutations

A call that finds a record under its key is answered from the record, with the claim as it is
now and before its context is looked at.

* `run_claim_kept`: claims stay, with their tenant, and their generations do not fall.
* `run_records_named`: so a record names a claim of the state, and its tenant.
* `answered_gate_iff`: a mutation that returns was authorized unless a record answered it
  for a context that was not.
-/

namespace SecureSaas.Broker

open Js

variable {rt : Runtime} {s s' : ResourceBrokerState} {h : List BrokerLabel}

/-! ## Claims stay -/

/-- The claim a commit leaves behind is found under its id, the others as before. -/
theorem Committed.find (hs : StateOk s) {call : BrokerCall} {t : ResourceBrokerTransition BrokerResult}
    {c : ResourceClaimState} (hcom : Committed rt s call t c) (claimId : String) :
    findClaim t.state claimId = if claimId = c.claimId then some c else findClaim s claimId := by
  apply Option.ext
  intro d
  rw [hcom.checked.findClaim_iff, hcom.claims, mem_upsertClaim]
  by_cases hid : claimId = c.claimId
  · rw [if_pos hid, hid, Option.some.injEq]
    constructor
    · rintro ⟨rfl | ⟨-, hne⟩, heq⟩
      · rfl
      · exact absurd heq hne
    · rintro rfl
      exact ⟨Or.inl rfl, rfl⟩
  · rw [if_neg hid, hs.findClaim_iff]
    constructor
    · rintro ⟨rfl | ⟨hd, -⟩, heq⟩
      · exact absurd heq.symm hid
      · exact ⟨hd, heq⟩
    · rintro ⟨hd, heq⟩
      exact ⟨Or.inr ⟨hd, fun hc => hid (heq.symm.trans hc)⟩, heq⟩

/-- A call keeps the tenant of its claim and does not lower its generation. -/
theorem ClaimEffect.kept {call : BrokerCall} {c old : ResourceClaimState} (he : ClaimEffect rt s call c)
    (hold : findClaim s c.claimId = some old) : c.tenantId = old.tenantId ∧ old.generation ≤ c.generation := by
  -- all calls but an application only change other fields of a claim they find
  have hsame : ∀ {claimId : String} {claim : ResourceClaimState}, findClaim s claimId = some claim →
      c.claimId = claim.claimId → c.tenantId = claim.tenantId → c.generation = claim.generation →
      c.tenantId = old.tenantId ∧ old.generation ≤ c.generation := by
    intro claimId claim hfound hid htenant hgeneration
    rw [hid, (findClaim_mem hfound).2, hfound] at hold
    obtain rfl := Option.some.inj hold
    exact ⟨htenant, le_of_eq hgeneration.symm⟩
  cases he with
  | @applied context v claim hparse hadv _ =>
    have hfound : findClaim s claim.claimId = some old := hold
    rw [hfound] at hadv
    simp only [assertAdvance, bind_ok, throwUnless_ok, exists_unit, Bool.and_eq_true, beq_iff_eq] at hadv
    obtain ⟨⟨⟨htenant, -⟩, -⟩, hgeneration, -⟩ := hadv
    refine ⟨htenant.symm, ?_⟩
    show old.generation ≤ claim.generation
    omega
  | cancelled hf _ _ => exact hsame hf rfl rfl rfl
  | deleting hf _ _ => exact hsame hf rfl rfl rfl
  | leased hg _ => exact hsame hg.found rfl rfl rfl
  | completed hp _ => exact hsame hp.found rfl rfl rfl
  | failed hp => exact hsame hp.found rfl rfl rfl
  | drifted hf _ => exact hsame hf rfl rfl rfl
  | acknowledged hp _ => exact hsame hp.found rfl rfl rfl
  | deleted hp => exact hsame hp.found rfl rfl rfl

theorem BrokerStep.claim_kept {l : BrokerLabel} (hstep : BrokerStep rt s l s') {claimId : String}
    {old : ResourceClaimState} (hold : findClaim s claimId = some old) :
    ∃ c, findClaim s' claimId = some c ∧ c.tenantId = old.tenantId ∧ old.generation ≤ c.generation := by
  obtain ⟨hexec, rfl⟩ := hstep
  obtain ⟨hs, -, hrep | ⟨c, hcom⟩⟩ := exec_cases hexec
  · rw [hrep.state]
    exact ⟨old, hold, rfl, le_refl _⟩
  · rw [hcom.find hs]
    by_cases hid : claimId = c.claimId
    · rw [if_pos hid]
      exact ⟨c, rfl, hcom.effect.kept (hid ▸ hold)⟩
    · rw [if_neg hid]
      exact ⟨old, hold, rfl, le_refl _⟩

/-- **Claims stay**, with their tenant, and their generations do not fall. -/
theorem run_claim_kept (hr : Run (BrokerStep rt) s h s') {claimId : String} {old : ResourceClaimState}
    (hold : findClaim s claimId = some old) :
    ∃ c, findClaim s' claimId = some c ∧ c.tenantId = old.tenantId ∧ old.generation ≤ c.generation := by
  refine hr.invariant (I := fun m => ∃ c, findClaim m claimId = some c ∧ c.tenantId = old.tenantId ∧
    old.generation ≤ c.generation) ⟨old, hold, rfl, le_refl _⟩ ?_
  rintro m l t ⟨c, hc, htenant, hgeneration⟩ hstep
  obtain ⟨d, hd, htenant', hgeneration'⟩ := hstep.claim_kept hc
  exact ⟨d, hd, htenant'.trans htenant, hgeneration.trans hgeneration'⟩

/-- The context of a mutation that commits is authorized for the claim it leaves behind. -/
theorem ClaimEffect.authorized {call : BrokerCall} {c : ResourceClaimState} (he : ClaimEffect rt s call c)
    {operation : BrokerMutationOperation} {context : BrokerMutationContext}
    (hm : call.mutation = some (operation, context)) : ContextOk context operation c.tenantId c.claimId := by
  cases he with
  | applied _ _ hctx => cases hm; exact hctx
  | cancelled _ _ hctx => cases hm; exact hctx
  | deleting _ _ hctx => cases hm; exact hctx
  | _ => cases hm

/-- Every record is of a claim of the state and names its tenant. -/
def RecordsNamed (s : ResourceBrokerState) : Prop :=
  ∀ r ∈ s.idempotencyRecords, ∃ c, findClaim s r.claimId = some c ∧ c.tenantId = r.tenantId

theorem BrokerStep.records_named {l : BrokerLabel} (hstep : BrokerStep rt s l s') (hn : RecordsNamed s) :
    RecordsNamed s' := by
  have hkept : ∀ r ∈ s.idempotencyRecords, ∃ c, findClaim s' r.claimId = some c ∧ c.tenantId = r.tenantId := by
    intro r hr
    obtain ⟨c, hc, htenant⟩ := hn r hr
    obtain ⟨d, hd, htenant', -⟩ := hstep.claim_kept hc
    exact ⟨d, hd, htenant'.trans htenant⟩
  obtain ⟨hexec, rfl⟩ := hstep
  obtain ⟨hs, -, hrep | ⟨c, hcom⟩⟩ := exec_cases hexec
  · rw [hrep.state]
    exact hn
  · cases hm : l.call.mutation with
    | none =>
      intro r hr
      rw [(hcom.unmutated hm).1] at hr
      exact hkept r hr
    | some p =>
      obtain ⟨operation, context⟩ := p
      obtain ⟨-, -, -, -, payloadDigest, hrecords⟩ := hcom.mutated operation context hm
      have hctx := hcom.effect.authorized hm
      intro r hr
      rw [hrecords] at hr
      rcases List.mem_append.1 hr with hr | hr
      · exact hkept r hr
      · rw [List.mem_singleton.1 hr]
        refine ⟨c, ?_, hctx.tenantId.symm⟩
        have hid : context.resourceId = c.claimId := hctx.resourceId
        show findClaim l.transition.state context.resourceId = some c
        rw [hcom.find hs, if_pos hid]

theorem run_records_named (hr : Run (BrokerStep rt) createResourceBrokerState h s) : RecordsNamed s :=
  hr.invariant (I := RecordsNamed) (fun _ hm => absurd hm List.not_mem_nil)
    fun _ _ _ hn hstep => hstep.records_named hn

/-! ## Who is answered -/

/-- The caller of an operation is authorized for the claim it is answered with. -/
structure Gate (operation : BrokerMutationOperation) (context : BrokerMutationContext)
    (c : ResourceClaimState) : Prop where
  verified : context.capabilityVerified = true
  operation : context.operation = operation
  tenantId : context.tenantId = c.tenantId
  resourceId : context.resourceId = c.claimId

/-- A mutation that commits was authorized. -/
theorem Committed.gate {call : BrokerCall} {t : ResourceBrokerTransition BrokerResult} {c : ResourceClaimState}
    (hcom : Committed rt s call t c) {operation : BrokerMutationOperation} {context : BrokerMutationContext}
    (hm : call.mutation = some (operation, context)) : t.result = .claim c ∧ Gate operation context c := by
  have hctx := hcom.effect.authorized hm
  have hanswer : answerOf call c = some (.claim c) := by
    cases call <;> first | rfl | cases hm
  have hresult := Option.some.inj (hcom.answer.symm.trans hanswer)
  exact ⟨hresult, hctx.verified, hctx.operation, hctx.tenantId, hctx.resourceId⟩

/-- A replay shows the stored claim of the id its context names. -/
theorem Replayed.result {call : BrokerCall} {t : ResourceBrokerTransition BrokerResult}
    (hrep : Replayed s call t) {operation : BrokerMutationOperation} {context : BrokerMutationContext}
    (hm : call.mutation = some (operation, context)) :
    ∃ r c, existingRecord s context operation = some r ∧ r.tenantId = context.tenantId ∧
      findClaim s context.resourceId = some c ∧ r.claimId = context.resourceId ∧ t.result = .claim c := by
  obtain ⟨operation', context', payloadDigest, c, hm', ⟨r, hr, -, -, hc⟩, hresult⟩ := hrep.answered
  obtain ⟨rfl, rfl⟩ := Prod.mk.inj (Option.some.inj (hm.symm.trans hm'))
  have hkey := List.find?_some hr
  simp only [Bool.and_eq_true, beq_iff_eq] at hkey
  obtain ⟨⟨⟨htenant, -⟩, hclaim⟩, -⟩ := hkey
  exact ⟨r, c, hr, htenant, hclaim ▸ hc, hclaim, hresult⟩

/-- **Who is answered**: the caller of a mutation that returns is authorized, unless a record
answered it for a context that is not verified, names another operation, or names another tenant
than the stored claim's. -/
theorem answered_gate_iff (rt : Runtime) {s : ResourceBrokerState} {rev : ℤ} {call : BrokerCall}
    {t : ResourceBrokerTransition BrokerResult} {operation : BrokerMutationOperation}
    {context : BrokerMutationContext} (hexec : call.exec rt s rev = .ok t)
    (hm : call.mutation = some (operation, context)) :
    ∃ c, t.result = .claim c ∧ (Gate operation context c ↔ existingRecord s context operation = none ∨
      (context.capabilityVerified = true ∧ context.operation = operation ∧
        ∀ d, findClaim s context.resourceId = some d → d.tenantId = context.tenantId)) := by
  obtain ⟨-, -, hrep | ⟨c, hcom⟩⟩ := exec_cases hexec
  · obtain ⟨r, c, hr, -, hfound, -, hresult⟩ := hrep.result hm
    refine ⟨c, hresult, ?_⟩
    constructor
    · intro hg
      right
      refine ⟨hg.verified, hg.operation, ?_⟩
      intro d hd
      rw [hfound] at hd
      rw [← Option.some.inj hd, hg.tenantId]
    · rintro (hnone | ⟨hverified, hop, htenant⟩)
      · rw [hnone] at hr
        cases hr
      · exact ⟨hverified, hop, (htenant c hfound).symm, (findClaim_mem hfound).2.symm⟩
  · obtain ⟨hresult, hg⟩ := hcom.gate hm
    exact ⟨c, hresult, iff_of_true hg (Or.inl (hcom.mutated operation context hm).1)⟩

/-- In a reachable state the tenant needs no check: records name the tenant of their claim. -/
theorem reachable_gate_iff (hr : Run (BrokerStep rt) createResourceBrokerState h s) {rev : ℤ}
    {call : BrokerCall} {t : ResourceBrokerTransition BrokerResult} {operation : BrokerMutationOperation}
    {context : BrokerMutationContext} (hexec : call.exec rt s rev = .ok t)
    (hm : call.mutation = some (operation, context)) :
    ∃ c, t.result = .claim c ∧ (Gate operation context c ↔ existingRecord s context operation = none ∨
      (context.capabilityVerified = true ∧ context.operation = operation)) := by
  obtain ⟨-, -, hrep | ⟨c, hcom⟩⟩ := exec_cases hexec
  · obtain ⟨r, c, hrecord, htenant, hfound, hclaim, hresult⟩ := hrep.result hm
    obtain ⟨d, hd, hnamed⟩ := run_records_named hr r (List.mem_of_find?_eq_some hrecord)
    rw [hclaim, hfound] at hd
    obtain rfl := Option.some.inj hd
    refine ⟨c, hresult, ?_⟩
    constructor
    · exact fun hg => Or.inr ⟨hg.verified, hg.operation⟩
    · rintro (hnone | ⟨hverified, hop⟩)
      · rw [hnone] at hrecord
        cases hrecord
      · exact ⟨hverified, hop, (hnamed.trans htenant).symm, (findClaim_mem hfound).2.symm⟩
  · obtain ⟨hresult, hg⟩ := hcom.gate hm
    exact ⟨c, hresult, iff_of_true hg (Or.inl (hcom.mutated operation context hm).1)⟩

/-- The context of the sample application, without a verified capability. -/
def unverifiedApply : BrokerMutationContext := { sampleApply with capabilityVerified := false }

theorem unverified_replayed (rt : Runtime) :
    BrokerCall.exec rt (pendingState rt) 1 (.apply unverifiedApply sampleRequest.toValue) =
      .ok ((replayTransition (pendingState rt) samplePending).mapResult .claim) := by
  have hrun := Run.single (sample_applied rt).choose_spec
  have hparse := parseResourceClaimRequest_toValue.2 ⟨rfl, sampleRequest_ok⟩
  have hanswers : Answers (pendingState rt) unverifiedApply .apply (applyDigest rt sampleRequest) samplePending :=
    ⟨mutationRecord sampleApply (applyDigest rt sampleRequest) 1, rfl, rfl, rfl, rfl⟩
  have happly : applyResourceClaim rt (pendingState rt) 1 unverifiedApply sampleRequest.toValue =
      .ok (replayTransition (pendingState rt) samplePending) :=
    applyResourceClaim_ok.2 ⟨(run_checked hrun).1, rfl, sampleRequest, hparse, Or.inl ⟨_, hanswers, rfl⟩⟩
  exact map_ok.2 ⟨_, happly, rfl⟩

/-- `answered_gate_iff` on the replay of the sample application. -/
theorem answered_gate_iff_replayed : ∃ c, Gate .apply unverifiedApply c ↔
    existingRecord (pendingState sampleRuntime) unverifiedApply .apply = none ∨
      (unverifiedApply.capabilityVerified = true ∧ unverifiedApply.operation = .apply ∧
        ∀ d, findClaim (pendingState sampleRuntime) unverifiedApply.resourceId = some d →
          d.tenantId = unverifiedApply.tenantId) := by
  obtain ⟨c, -, hiff⟩ := answered_gate_iff sampleRuntime (unverified_replayed sampleRuntime) rfl
  exact ⟨c, hiff⟩

/-- A caller whose capability is not verified sees a claim: not every mutation that returns was
authorized. -/
theorem unverified_answered : ¬ ∀ (s : ResourceBrokerState) (rev : ℤ) (call : BrokerCall)
    (t : ResourceBrokerTransition BrokerResult) (operation : BrokerMutationOperation)
    (context : BrokerMutationContext), call.exec sampleRuntime s rev = .ok t →
      call.mutation = some (operation, context) → ∃ c, t.result = .claim c ∧ Gate operation context c := by
  intro hgate
  obtain ⟨c, -, hg⟩ := hgate _ _ _ _ _ _ (unverified_replayed sampleRuntime) rfl
  exact absurd hg.verified (by decide)

end SecureSaas.Broker
