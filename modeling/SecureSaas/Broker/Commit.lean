import SecureSaas.Broker.Step

/-!
# When a commit passes the state check

Every operation ends by checking the state it built. What it checks again is already known:

* `recordKey_inj`: the joined key of an idempotency record determines its four parts.
* `StateOk.advanced`, `StateOk.mutated`: a state stays valid when a valid claim replaces the
  one of its id.
* `nextClaim_ok` and its relatives: the claims the operations build are valid.
* `applyResourceClaim_succeeds` and its relatives: so an operation whose guards hold succeeds.
-/

namespace SecureSaas.Broker

open Js

variable {rt : Runtime} {s : ResourceBrokerState}

/-! ## Record keys -/

theorem isIdentifier_chars {s : String} (h : isIdentifier s = true) :
    ∀ c ∈ s.toList, isLowerAlnum c = true ∨ c = '.' ∨ c = '_' ∨ c = '-' := by
  have hmatch := Pattern.fullMatch_iff.1 h
  obtain ⟨m, hm, hr⟩ := Pattern.mem_seq.1 hmatch
  obtain ⟨c, hc, hcs⟩ := Pattern.mem_cls.1 hm
  rw [hcs]
  refine List.forall_mem_cons.2 ⟨Or.inl hc, ?_⟩
  rcases Pattern.mem_opt.1 hr with hr | hr
  · obtain ⟨m', hm', hr'⟩ := Pattern.mem_seq.1 hr
    obtain ⟨w, -, hw, rfl⟩ := Pattern.mem_upTo.1 hm'
    obtain ⟨d, hd, rfl⟩ := Pattern.mem_cls.1 hr'
    intro e he
    rcases List.mem_append.1 he with he | he
    · simpa [or_assoc] using hw e he
    · rw [List.mem_singleton.1 he]; exact Or.inl hd
  · rw [← hr]; nofun

theorem isIdentifier_slash {s : String} (h : isIdentifier s = true) : '/' ∉ s.toList := by
  intro hm
  have := isIdentifier_chars h _ hm
  revert this
  decide

theorem operation_slash (o : BrokerMutationOperation) : '/' ∉ o.text.toList := by
  cases o <;> decide

theorem operation_text_inj {o o' : BrokerMutationOperation} (h : o.text.toList = o'.text.toList) : o = o' := by
  cases o <;> cases o' <;> first | rfl | exact absurd h (by decide)

/-- **A record key determines its parts**: none of them contains the separator. -/
theorem recordKey_inj {r r' : ResourceBrokerIdempotencyRecord} (h : recordKey r = recordKey r')
    (ht : isIdentifier r.tenantId = true) (ht' : isIdentifier r'.tenantId = true)
    (hc : isIdentifier r.claimId = true) (hc' : isIdentifier r'.claimId = true) :
    r.tenantId = r'.tenantId ∧ r.operation = r'.operation ∧ r.claimId = r'.claimId ∧ r.key = r'.key := by
  have hsep : "/".toList = ['/'] := by decide
  have hlist := congrArg String.toList h
  unfold recordKey at hlist
  simp only [String.toList_append, hsep, List.append_assoc, List.cons_append, List.nil_append] at hlist
  obtain ⟨h1, hlist⟩ := separator_inj (isIdentifier_slash ht) (isIdentifier_slash ht') hlist
  obtain ⟨h2, hlist⟩ := separator_inj (operation_slash _) (operation_slash _) hlist
  obtain ⟨h3, h4⟩ := separator_inj (isIdentifier_slash hc) (isIdentifier_slash hc') hlist
  exact ⟨String.toList_inj.1 h1, operation_text_inj h2, String.toList_inj.1 h3, String.toList_inj.1 h4⟩

/-! ## States -/

theorem StateOk.upsert (hs : StateOk s) {c : ResourceClaimState} (hc : ClaimOk c) :
    (∀ d ∈ upsertClaim rt s.claims c, ClaimOk d) ∧
      ((upsertClaim rt s.claims c).map fun c => c.claimId).Nodup := by
  refine ⟨fun d hd => ?_, upsertClaim_nodup hs.claims_nodup⟩
  rcases mem_upsertClaim.1 hd with rfl | ⟨hold, -⟩
  · exact hc
  · exact hs.claims d hold

theorem StateOk.advanced (hs : StateOk s) {c : ResourceClaimState} (hc : ClaimOk c) :
    StateOk (advanced s (upsertClaim rt s.claims c)) :=
  ⟨(hs.upsert hc).1, (hs.upsert hc).2, hs.records, hs.records_nodup, hs.redeemed, hs.capabilities,
    hs.capabilities_nodup⟩

theorem existingRecord_none {context : BrokerMutationContext} {operation : BrokerMutationOperation} :
    existingRecord s context operation = none ↔ ∀ r ∈ s.idempotencyRecords,
      ¬ (r.tenantId = context.tenantId ∧ r.operation = operation ∧ r.claimId = context.resourceId ∧
        r.key = context.idempotencyKey) := by
  unfold existingRecord
  simp only [List.find?_eq_none, Bool.and_eq_true, beq_iff_eq, and_assoc]

/-- A mutation with an authorized context, an unused key and an unredeemed capability commits. -/
theorem StateOk.mutated (hs : StateOk s) (hrev : 0 ≤ s.revision) {c : ResourceClaimState} (hc : ClaimOk c)
    {context : BrokerMutationContext} {operation : BrokerMutationOperation} {payload : String}
    (hctx : ContextOk context operation c.tenantId c.claimId)
    (hnew : existingRecord s context operation = none)
    (hcap : context.capabilityId ∉ s.redeemedCapabilityIds) :
    StateOk (mutated s context (sha256 rt payload) (upsertClaim rt s.claims c)) := by
  have hreq := hc.wellFormed.request
  have htenant : isIdentifier context.tenantId = true := by rw [hctx.tenantId]; exact hreq.tenantId
  have hclaim : isIdentifier context.resourceId = true := by rw [hctx.resourceId]; exact hreq.claimId
  refine ⟨(hs.upsert hc).1, (hs.upsert hc).2, ?_, ?_, ?_, ?_, ?_⟩
  · intro r hr
    rcases List.mem_append.1 hr with hr | hr
    · exact hs.records r hr
    · rw [List.mem_singleton.1 hr]
      exact ⟨htenant, hclaim, hctx.idempotencyKey, rt.sha256_hex _, hctx.capabilityId,
        show 1 ≤ s.revision + 1 by omega⟩
  · show ((s.idempotencyRecords ++ [_]).map recordKey).Nodup
    rw [List.map_append, List.nodup_append]
    refine ⟨hs.records_nodup, List.nodup_singleton _, fun k hk k' hk' heq => ?_⟩
    obtain ⟨r, hr, rfl⟩ := List.mem_map.1 hk
    have hkey : recordKey r = recordKey (mutationRecord context (sha256 rt payload) (s.revision + 1)) :=
      heq.trans (List.mem_singleton.1 hk')
    obtain ⟨h1, h2, h3, h4⟩ := recordKey_inj hkey (hs.records r hr).tenantId htenant
      (hs.records r hr).claimId hclaim
    exact existingRecord_none.1 hnew r hr ⟨h1, h2.trans hctx.operation, h3, h4⟩
  · intro r hr
    rcases List.mem_append.1 hr with hr | hr
    · exact List.mem_append_left _ (hs.redeemed r hr)
    · rw [List.mem_singleton.1 hr]
      exact List.mem_append_right _ (List.mem_singleton_self _)
  · intro id hid
    rcases List.mem_append.1 hid with hid | hid
    · exact hs.capabilities id hid
    · rw [List.mem_singleton.1 hid]; exact hctx.capabilityId
  · show (s.redeemedCapabilityIds ++ [_]).Nodup
    rw [List.nodup_append]
    refine ⟨hs.capabilities_nodup, List.nodup_singleton _, fun a ha b hb heq => ?_⟩
    rw [List.mem_singleton.1 hb] at heq
    exact hcap (heq ▸ ha)

/-! ## Claims -/

theorem validateOutputs_nil : validateOutputs [] = .ok () := rfl

theorem nextClaim_ok {claim : ResourceClaimRequest} {existing : Option ResourceClaimState}
    (hclaim : claim.WellFormed) (hold : ∀ c, existing = some c → ClaimOk c)
    (hadv : assertAdvance claim existing = .ok ()) : ClaimOk (nextClaim claim existing) := by
  have hobserved : 0 ≤ (nextClaim claim existing).observedGeneration ∧
      (nextClaim claim existing).observedGeneration ≤ claim.generation := by
    cases existing with
    | none => exact ⟨le_refl 0, by have := hclaim.generation; show (0 : ℤ) ≤ claim.generation; omega⟩
    | some c =>
      have hc := hold c rfl
      simp only [assertAdvance, bind_ok, throwUnless_ok, exists_unit, beq_iff_eq] at hadv
      obtain ⟨-, hgen, -⟩ := hadv
      refine ⟨hc.wellFormed.observedGeneration, ?_⟩
      show c.observedGeneration ≤ claim.generation
      have := hc.observed_le
      omega
  have href : ∀ r, (nextClaim claim existing).providerResourceRef = some r →
      isReference ["provider"] r = true := by
    intro r hr
    cases existing with
    | none => cases hr
    | some c => exact (hold c rfl).wellFormed.providerResourceRef r hr
  refine ⟨⟨hclaim, hobserved.1, href, ?_, ?_, ?_, ?_, ?_, ?_⟩, hobserved.2, ?_, ?_, ?_, ?_,
    validateOutputs_nil⟩ <;> simp [nextClaim]

theorem cancelledClaim_ok {claim : ResourceClaimState} (hc : ClaimOk claim)
    {context : BrokerMutationContext} {operation : BrokerMutationOperation} {tenantId claimId : String}
    (hctx : ContextOk context operation tenantId claimId) : ClaimOk (cancelledClaim claim context) := by
  have hlease : ∀ l, (cancelledClaim claim context).lease = some l → claim.lease = some l ∧
      claim.phase = .reconciling := by
    intro l hl
    by_cases hp : claim.phase = .reconciling
    · exact ⟨by simpa [cancelledClaim, hp] using hl, hp⟩
    · simp [cancelledClaim, hp] at hl
  refine ⟨⟨hc.wellFormed.request, hc.wellFormed.observedGeneration, hc.wellFormed.providerResourceRef,
    ?_, fun l hl => hc.wellFormed.lease l (hlease l hl).1, hc.wellFormed.failure, hc.wellFormed.drift,
    hc.wellFormed.deletion, ?_⟩, hc.observed_le, ?_, ?_, ?_, ?_, validateOutputs_nil⟩
  · simp [cancelledClaim]
  · rintro k hk
    obtain rfl := Option.some.inj hk
    exact ⟨hctx.occurredAt, hctx.actorId, nofun⟩
  · by_cases hp : claim.phase = .reconciling
    · have := hc.lease_held (Or.inl hp)
      simp [cancelledClaim, hp, this]
    · simp [cancelledClaim, hp]
  · by_cases hp : claim.phase = .reconciling <;> simp [cancelledClaim, hp]
  · by_cases hp : claim.phase = .reconciling <;> simp [cancelledClaim, hp]
  · simp [cancelledClaim]

theorem leasedClaim_ok {claim : ResourceClaimState} (hc : ClaimOk claim) {lease : ResourceProviderLease}
    (hl : lease.WellFormed) : ClaimOk (leasedClaim claim lease) := by
  refine ⟨⟨hc.wellFormed.request, hc.wellFormed.observedGeneration, hc.wellFormed.providerResourceRef,
    hc.wellFormed.outputs, ?_, ?_, hc.wellFormed.drift, hc.wellFormed.deletion,
    hc.wellFormed.cancellation⟩, hc.observed_le, ?_, ?_, ?_, ?_, hc.outputs⟩
  · rintro l h
    rwa [← Option.some.inj h]
  · simp [leasedClaim]
  · simp [leasedClaim]
  all_goals by_cases hp : claim.phase = .deleting <;> simp [leasedClaim, hp]

theorem deletingClaim_ok {claim : ResourceClaimState} (hc : ClaimOk claim) (hlease : claim.lease = none)
    {context : BrokerMutationContext} {operation : BrokerMutationOperation} {tenantId claimId : String}
    (hctx : ContextOk context operation tenantId claimId) {approval finalization : String}
    (happ : isReference ["evidence"] approval = true)
    (hfin : isReference ["evidence", "snapshot"] finalization = true) :
    ClaimOk (deletingClaim claim context approval finalization) := by
  refine ⟨⟨hc.wellFormed.request, hc.wellFormed.observedGeneration, hc.wellFormed.providerResourceRef,
    ?_, hc.wellFormed.lease, hc.wellFormed.failure, hc.wellFormed.drift, ?_,
    hc.wellFormed.cancellation⟩, hc.observed_le, ?_, ?_, ?_, ?_, validateOutputs_nil⟩
  · simp [deletingClaim]
  · rintro d hd
    obtain rfl := Option.some.inj hd
    exact ⟨hctx.occurredAt, hctx.actorId, happ, hfin⟩
  all_goals simp [deletingClaim, hlease]

theorem cleanedClaim_ok {claim : ResourceClaimState} (hc : ClaimOk claim)
    {cancellation : ResourceClaimCancellation} (hk : claim.cancellation = some cancellation)
    {cleanup : String} (href : isReference ["evidence"] cleanup = true) :
    ClaimOk (cleanedClaim claim cancellation cleanup) := by
  have hwf := hc.wellFormed.cancellation cancellation hk
  refine ⟨⟨hc.wellFormed.request, hc.wellFormed.observedGeneration, hc.wellFormed.providerResourceRef,
    ?_, ?_, hc.wellFormed.failure, hc.wellFormed.drift, hc.wellFormed.deletion, ?_⟩, hc.observed_le,
    ?_, ?_, ?_, ?_, validateOutputs_nil⟩
  · simp [cleanedClaim]
  · simp [cleanedClaim]
  · rintro k hk'
    obtain rfl := Option.some.inj hk'
    refine ⟨hwf.requestedAt, hwf.requestedBy, fun r hr => ?_⟩
    rwa [← Option.some.inj hr]
  all_goals simp [cleanedClaim]

theorem deletedClaim_ok {claim : ResourceClaimState} (hc : ClaimOk claim) : ClaimOk (deletedClaim claim) := by
  have hgen : 0 ≤ claim.generation := by
    have := hc.wellFormed.request.generation
    omega
  refine ⟨⟨hc.wellFormed.request, hgen, ?_, ?_, ?_, hc.wellFormed.failure, hc.wellFormed.drift,
    hc.wellFormed.deletion, hc.wellFormed.cancellation⟩, le_refl claim.generation, ?_, ?_, ?_, ?_,
    validateOutputs_nil⟩ <;> simp [deletedClaim]

/-! ## Calls that succeed -/

theorem Commits.of_ok (rt : Runtime) (type : ResourceBrokerEventType) (hs : StateOk s) (hrev : 0 ≤ s.revision) {claim : ResourceClaimState}
    (hc : ClaimOk claim) {context : BrokerMutationContext} {operation : BrokerMutationOperation}
    {payload : String}
    (hctx : ContextOk context operation claim.tenantId claim.claimId)
    (hnew : existingRecord s context operation = none)
    (hcap : context.capabilityId ∉ s.redeemedCapabilityIds) :
    ∃ t, Commits rt s context operation (sha256 rt payload) claim.tenantId claim.claimId claim type t ∧
      t.state = mutated s context (sha256 rt payload) (upsertClaim rt s.claims claim) := by
  obtain ⟨e, he⟩ := event_ok.2 hctx.occurredAt
  exact ⟨_, ⟨hnew, hctx, hcap, hs.mutated hrev hc hctx hnew hcap, e, he, rfl⟩, rfl⟩

theorem Advances.of_ok {T : Type} (rt : Runtime) (type : ResourceBrokerEventType) (hs : StateOk s)
    {claim : ResourceClaimState} (hc : ClaimOk claim) (result : T) {occurredAt : String} (extra : ResourceBrokerEventExtra)
    (hat : isTimestamp occurredAt = true) :
    ∃ t, Advances rt s claim result type occurredAt extra t ∧
      t.state = advanced s (upsertClaim rt s.claims claim) := by
  obtain ⟨e, he⟩ := event_ok.2 hat
  exact ⟨_, ⟨hs.advanced hc, e, he, rfl⟩, rfl⟩

section

variable (rt) (hs : StateOk s) (hrev : 0 ≤ s.revision)
include hs hrev

theorem applyResourceClaim_succeeds {context : BrokerMutationContext} {claim : ResourceClaimRequest}
    (hclaim : claim.WellFormed) (hadv : assertAdvance claim (findClaim s claim.claimId) = .ok ())
    (hctx : ContextOk context .apply claim.tenantId claim.claimId)
    (hnew : existingRecord s context .apply = none)
    (hcap : context.capabilityId ∉ s.redeemedCapabilityIds) :
    ∃ t, applyResourceClaim rt s s.revision context claim.toValue = .ok t ∧
      t.state = mutated s context (applyDigest rt claim)
        (upsertClaim rt s.claims (nextClaim claim (findClaim s claim.claimId))) := by
  have hold : ∀ c, findClaim s claim.claimId = some c → ClaimOk c :=
    fun c hc => hs.claims c (findClaim_mem hc).1
  obtain ⟨t, ht, hstate⟩ := Commits.of_ok rt .claimApplied hs hrev
    (nextClaim_ok hclaim hold hadv) hctx hnew hcap
  have hparse := parseResourceClaimRequest_toValue.2 ⟨rfl, hclaim⟩
  exact ⟨t, applyResourceClaim_ok.2 ⟨hs, rfl, claim, hparse, Or.inr ⟨hadv, ht⟩⟩, hstate⟩

theorem cancelResourceClaim_succeeds {context : BrokerMutationContext} {claim : ResourceClaimState}
    (hf : findClaim s context.resourceId = some claim)
    (hphase : [ResourceClaimPhase.pending, .reconciling, .failed, .drifted].contains claim.phase = true)
    (hctx : ContextOk context .cancel claim.tenantId claim.claimId)
    (hnew : existingRecord s context .cancel = none)
    (hcap : context.capabilityId ∉ s.redeemedCapabilityIds) :
    ∃ t, cancelResourceClaim rt s s.revision context = .ok t ∧
      t.state = mutated s context (cancelDigest rt claim)
        (upsertClaim rt s.claims (cancelledClaim claim context)) := by
  have hc := cancelledClaim_ok (hs.claims claim (findClaim_mem hf).1) hctx
  obtain ⟨t, ht, hstate⟩ := Commits.of_ok rt _ hs hrev hc hctx hnew hcap
  exact ⟨t, cancelResourceClaim_ok.2 ⟨hs, rfl, claim, hf, Or.inr ⟨hphase, ht⟩⟩, hstate⟩

theorem requestResourceClaimDeletion_succeeds {context : BrokerMutationContext} {claim : ResourceClaimState}
    {approval finalization : String} (hf : findClaim s context.resourceId = some claim)
    (hphase : claim.phase = .available ∨ claim.phase = .cancelled)
    (happ : isReference ["evidence"] approval = true)
    (hfin : isReference ["evidence", "snapshot"] finalization = true)
    (hctx : ContextOk context .delete claim.tenantId claim.claimId)
    (hnew : existingRecord s context .delete = none)
    (hcap : context.capabilityId ∉ s.redeemedCapabilityIds) :
    ∃ t, requestResourceClaimDeletion rt s s.revision context approval finalization = .ok t ∧
      t.state = mutated s context (deleteDigest rt claim approval finalization)
        (upsertClaim rt s.claims (deletingClaim claim context approval finalization)) := by
  have hold := hs.claims claim (findClaim_mem hf).1
  have hlease : claim.lease = none := by
    by_contra hne
    have := hold.lease_phase (Option.isSome_iff_ne_none.2 hne)
    rcases hphase with hp | hp <;> simp [hp] at this
  have hc := deletingClaim_ok hold hlease hctx happ hfin
  obtain ⟨t, ht, hstate⟩ := Commits.of_ok rt _ hs hrev hc hctx hnew hcap
  have hguard : (claim.phase == .available || claim.phase == .cancelled) = true := by
    rcases hphase with hp | hp <;> simp [hp]
  exact ⟨t, requestResourceClaimDeletion_ok.2 ⟨hs, rfl, claim, hf, happ, hfin, Or.inr ⟨hguard, ht⟩⟩, hstate⟩

end

section

variable (rt) (hs : StateOk s)
include hs

theorem leaseResourceClaim_succeeds {args : LeaseArgs} {claim : ResourceClaimState} {duration now : ℤ}
    (hg : LeaseGuard s args claim duration) (hpos : 1 ≤ duration) (hnow : dateParse args.occurredAt = some now)
    (hmax : now + duration * 1000 ≤ maxIsoTime) (hattempt : 0 < nextAttempt claim) :
    ∃ t, leaseResourceClaim rt s s.revision args = .ok t ∧
      t.state = advanced s (upsertClaim rt s.claims (leasedClaim claim
        (issuedLease rt claim args (s.revision + 1) (isoString (now + duration * 1000))))) := by
  have hmin : minIsoTime ≤ now + duration * 1000 := by have := dateParse_ge hnow; omega
  have hexp : toISOString ((dateParse args.occurredAt).map fun now => now + duration * 1000) =
      .ok (isoString (now + duration * 1000)) := by
    rw [hnow]
    unfold toISOString
    simp only [Option.map_some]
    rw [if_pos]
    unfold maxTime
    unfold minIsoTime at hmin
    unfold maxIsoTime at hmax
    omega
  have hold := hs.claims claim (findClaim_mem hg.found).1
  have hlease : (issuedLease rt claim args (s.revision + 1) (isoString (now + duration * 1000))).WellFormed := by
    refine ⟨hg.identity, hold.wellFormed.request.generation, rt.sha256_hex _, ?_, hg.occurredAt, ?_, ?_⟩
    · show 1 ≤ nextAttempt claim
      omega
    · show isTimestamp (isoString (now + duration * 1000)) = true
      simp [isTimestamp, isTimestampText_isoString hmin hmax, dateParse_isoString hmin hmax]
    · show timeLE (dateParse (isoString (now + duration * 1000))) (dateParse args.occurredAt) = false
      rw [dateParse_isoString hmin hmax, hnow]
      exact decide_eq_false (by omega)
  obtain ⟨t, ht, hstate⟩ := Advances.of_ok rt .providerLeased hs
    (leasedClaim_ok hold hlease) (issuedLease rt claim args (s.revision + 1) _) _ hg.occurredAt
  exact ⟨t, leaseResourceClaim_ok.2 ⟨hs, rfl, claim, duration, _, hg, hexp, ht⟩, hstate⟩

theorem acknowledgeResourceClaimCancellation_succeeds {args : ProviderArgs} {claim : ResourceClaimState}
    {lease : ResourceProviderLease} {cancellation : ResourceClaimCancellation} {cleanup : String}
    (hp : Presents s args .cancelling claim lease) (hk : claim.cancellation = some cancellation)
    (href : isReference ["evidence"] cleanup = true) :
    ∃ t, acknowledgeResourceClaimCancellation rt s s.revision args cleanup = .ok t ∧
      t.state = advanced s (upsertClaim rt s.claims (cleanedClaim claim cancellation cleanup)) := by
  have hc := cleanedClaim_ok (hs.claims claim (findClaim_mem hp.found).1) hk href
  obtain ⟨t, ht, hstate⟩ := Advances.of_ok rt .claimCancelled hs hc _
    (byProvider args.providerId (some args.fenceToken)) hp.occurredAt
  exact ⟨t, acknowledgeResourceClaimCancellation_ok.2
    ⟨hs, rfl, claim, ⟨lease, hp⟩, href, cancellation, hk, ht⟩, hstate⟩

theorem completeResourceClaimDeletion_succeeds {args : ProviderArgs} {claim : ResourceClaimState}
    {lease : ResourceProviderLease} {deletion : ResourceClaimDeletion}
    (hp : Presents s args .deleting claim lease) (hd : claim.deletion = some deletion) :
    ∃ t, completeResourceClaimDeletion rt s s.revision args deletion.finalizationEvidenceRef = .ok t ∧
      t.state = advanced s (upsertClaim rt s.claims (deletedClaim claim)) := by
  have hold := hs.claims claim (findClaim_mem hp.found).1
  obtain ⟨t, ht, hstate⟩ := Advances.of_ok rt .claimDeleted hs (deletedClaim_ok hold)
    (deletedClaim claim) (byProvider args.providerId (some args.fenceToken)) hp.occurredAt
  refine ⟨t, completeResourceClaimDeletion_ok.2 ⟨hs, rfl, claim, ⟨lease, hp⟩, ?_, ?_, ht⟩, hstate⟩
  · exact (hold.wellFormed.deletion deletion hd).finalizationEvidenceRef
  · rw [hd, Option.map_some]

end

/-! ## Reachable states are valid -/

theorem run_checked {h : List BrokerLabel} (hr : Run (BrokerStep rt) createResourceBrokerState h s) :
    StateOk s ∧ 0 ≤ s.revision := by
  refine hr.invariant (I := fun s => StateOk s ∧ 0 ≤ s.revision) ?_ ?_
  · exact ⟨createResourceBrokerState_ok, le_refl 0⟩
  · rintro m l t ⟨hm, hrev⟩ ⟨hexec, rfl⟩
    obtain ⟨-, -, hrep | ⟨claim, hcom⟩⟩ := exec_cases hexec
    · rw [hrep.state]; exact ⟨hm, hrev⟩
    · refine ⟨hcom.checked, ?_⟩
      rw [hcom.revision]
      omega

/-! ## A sample run

A claim is applied, leased for five minutes and cancelled. Other modules exhibit their results
on this run and on its continuations. -/

def sampleRequest : ResourceClaimRequest where
  apiVersion := resourceClaimApiVersion
  kind := "ResourceClaim"
  claimId := "claim-a"
  tenantId := "warden"
  generation := 1
  resourceKind := "ManagedPostgres"
  resourceApiVersion := "security.deus.dev/managed-postgres/v1alpha1"
  desiredStateDigest := "aaaaaaaaaaaaaaaaaaaaaaaaaaaaaaaaaaaaaaaaaaaaaaaaaaaaaaaaaaaaaaaa"
  desiredStateRef := "broker://claim-a/desired-state"
  requiredProviderCapabilities := ["private-network"]
  lifecycle := ⟨true, true, true, 3⟩

def sampleContext (operation : BrokerMutationOperation) (idempotencyKey capabilityId occurredAt : String) :
    BrokerMutationContext where
  actorId := "warden-deployer"
  tenantId := "warden"
  operation := operation
  resourceId := "claim-a"
  capabilityId := capabilityId
  capabilityVerified := true
  idempotencyKey := idempotencyKey
  occurredAt := occurredAt

def sampleApply : BrokerMutationContext := sampleContext .apply "apply-1" "cap-apply-1" "2026-07-14T12:00:00.000Z"

def sampleCancel : BrokerMutationContext := sampleContext .cancel "cancel-1" "cap-cancel-1" "2026-07-14T12:02:00.000Z"

def sampleLeaseArgs : LeaseArgs where
  claimId := "claim-a"
  providerId := "fake-provider"
  providerCapabilities := ["private-network"]
  workloadIdentityVerified := true
  occurredAt := "2026-07-14T12:01:00.000Z"
  leaseDurationSeconds := .int 300

def samplePending : ResourceClaimState := nextClaim sampleRequest none

section

variable (rt)

def sampleLease : ResourceProviderLease :=
  issuedLease rt samplePending sampleLeaseArgs 2 "2026-07-14T12:06:00.000Z"

def sampleLeased : ResourceClaimState := leasedClaim samplePending (sampleLease rt)

def sampleCancelling : ResourceClaimState := cancelledClaim (sampleLeased rt) sampleCancel

def pendingState : ResourceBrokerState :=
  mutated createResourceBrokerState sampleApply (applyDigest rt sampleRequest) [samplePending]

def leasedState : ResourceBrokerState := advanced (pendingState rt) [sampleLeased rt]

def cancellingState : ResourceBrokerState :=
  mutated (leasedState rt) sampleCancel (cancelDigest rt (sampleLeased rt)) [sampleCancelling rt]

end

/-- What the sample calls hash, and the SHA-256 digests. -/
def sampleTable : List (String × String) := [
  ("\x7b\"claimId\":\"claim-a\",\"generation\":1\x7d",
    "997d831f886878b65a10745fcfc0f26097de206ebc63fb1bbb1afc52703a39a4"),
  ("\x7b\"attempt\":1,\"claimId\":\"claim-a\",\"generation\":1," ++
      "\"occurredAt\":\"2026-07-14T12:01:00.000Z\",\"providerId\":\"fake-provider\"," ++
      "\"revision\":2\x7d",
    "15f546b676b689160c3dd10434e92a478905afa01adb5c432bb96f02caa1ab2c"),
  ("\x7b\"apiVersion\":\"security.deus.dev/resource-broker/v1alpha1\",\"claimId\":\"claim-a\"," ++
      "\"desiredStateDigest\":\"aaaaaaaaaaaaaaaaaaaaaaaaaaaaaaaaaaaaaaaaaaaaaaaaaaaaaaaaaaaaaaaa\"," ++
      "\"desiredStateRef\":\"broker://claim-a/desired-state\",\"generation\":1," ++
      "\"kind\":\"ResourceClaim\",\"lifecycle\":\x7b\"deletionProtection\":true," ++
      "\"destructionApprovalRequired\":true,\"finalizationEvidenceRequired\":true," ++
      "\"maxReconcileAttempts\":3\x7d,\"requiredProviderCapabilities\":[\"private-network\"]," ++
      "\"resourceApiVersion\":\"security.deus.dev/managed-postgres/v1alpha1\"," ++
      "\"resourceKind\":\"ManagedPostgres\",\"tenantId\":\"warden\"\x7d",
    "8f7d51ed8a5c555bd6fc9f989985e1497f1509a32dcdf45a375e2e93f180ca42"),
  ("\x7b\"actorId\":\"warden-deployer\"," ++
      "\"apiVersion\":\"security.deus.dev/resource-broker-state/v1alpha1\",\"claimId\":\"claim-a\"," ++
      "\"desiredStateDigest\":\"aaaaaaaaaaaaaaaaaaaaaaaaaaaaaaaaaaaaaaaaaaaaaaaaaaaaaaaaaaaaaaaa\"," ++
      "\"generation\":1,\"occurredAt\":\"2026-07-14T12:00:00.000Z\",\"revision\":1," ++
      "\"tenantId\":\"warden\",\"type\":\"claim-applied\"\x7d",
    "c5c624b6067caa0b50205828a3983c06dbb4951fce7a7fc95d2fc84096bc415a"),
  ("\x7b\"apiVersion\":\"security.deus.dev/resource-broker-state/v1alpha1\"," ++
      "\"claimId\":\"claim-a\"," ++
      "\"desiredStateDigest\":\"aaaaaaaaaaaaaaaaaaaaaaaaaaaaaaaaaaaaaaaaaaaaaaaaaaaaaaaaaaaaaaaa\"," ++
      "\"fenceToken\":\"15f546b676b689160c3dd10434e92a478905afa01adb5c432bb96f02caa1ab2c\"," ++
      "\"generation\":1,\"occurredAt\":\"2026-07-14T12:01:00.000Z\"," ++
      "\"providerId\":\"fake-provider\",\"revision\":2,\"tenantId\":\"warden\"," ++
      "\"type\":\"provider-leased\"\x7d",
    "471bbc8819fd7ac12043e26caa1465dd207e3c7fc8e902bf453391e10a280644"),
  ("\x7b\"actorId\":\"warden-deployer\"," ++
      "\"apiVersion\":\"security.deus.dev/resource-broker-state/v1alpha1\",\"claimId\":\"claim-a\"," ++
      "\"desiredStateDigest\":\"aaaaaaaaaaaaaaaaaaaaaaaaaaaaaaaaaaaaaaaaaaaaaaaaaaaaaaaaaaaaaaaa\"," ++
      "\"generation\":1,\"occurredAt\":\"2026-07-14T12:02:00.000Z\",\"revision\":3," ++
      "\"tenantId\":\"warden\",\"type\":\"cancellation-requested\"\x7d",
    "23923e2e96670dc7a2b6f1a5fd5bf0135d3de91c6c85e276cf25336efc2f8903"),
  ("\x7b\"apiVersion\":\"security.deus.dev/resource-broker-state/v1alpha1\"," ++
      "\"claimId\":\"claim-a\"," ++
      "\"desiredStateDigest\":\"aaaaaaaaaaaaaaaaaaaaaaaaaaaaaaaaaaaaaaaaaaaaaaaaaaaaaaaaaaaaaaaa\"," ++
      "\"fenceToken\":\"15f546b676b689160c3dd10434e92a478905afa01adb5c432bb96f02caa1ab2c\"," ++
      "\"generation\":1,\"occurredAt\":\"2026-07-14T12:03:00.000Z\"," ++
      "\"providerId\":\"fake-provider\",\"revision\":4,\"tenantId\":\"warden\"," ++
      "\"type\":\"claim-cancelled\"\x7d",
    "7789ac0574b5fd45895b283f3f7815a50667dfe7619541eb451a965a831eab21")]

theorem sampleTable_hex : ∀ p ∈ sampleTable, isHexDigest p.2 = true := by
  repeat' first | exact hex_nil | refine hex_cons (by decide +kernel) (by decide +kernel) ?_

/-- The broker parses no URL. -/
def sampleRuntime : Runtime := Runtime.tabulated sampleTable (fun _ => none) sampleTable_hex

theorem sampleRequest_ok : sampleRequest.WellFormed := by
  constructor <;> decide

theorem sampleContext_ok : ContextOk sampleApply .apply "warden" "claim-a" ∧
    ContextOk sampleCancel .cancel "warden" "claim-a" := by
  constructor <;> constructor <;> decide

section

variable (rt)

theorem sample_applied : ∃ t, BrokerStep rt createResourceBrokerState
    ⟨0, .apply sampleApply sampleRequest.toValue, t⟩ (pendingState rt) := by
  obtain ⟨t, ht, hstate⟩ := applyResourceClaim_succeeds rt createResourceBrokerState_ok (le_refl 0)
    sampleRequest_ok rfl sampleContext_ok.1 rfl List.not_mem_nil
  exact ⟨_, map_ok.2 ⟨t, ht, rfl⟩, hstate.symm⟩

theorem sample_leased : ∃ t, BrokerStep rt (pendingState rt) ⟨1, .lease sampleLeaseArgs, t⟩
    (leasedState rt) := by
  have hrun : Run (BrokerStep rt) createResourceBrokerState [_] (pendingState rt) :=
    Run.single (sample_applied rt).choose_spec
  have hg : LeaseGuard (pendingState rt) sampleLeaseArgs samplePending 300 := by
    constructor
    all_goals first | rfl | decide
  have hnow : dateParse sampleLeaseArgs.occurredAt = some 1784030460000 := by decide
  obtain ⟨t, ht, hstate⟩ := leaseResourceClaim_succeeds rt (run_checked hrun).1 hg (by decide) hnow
    (by decide) (by decide)
  have hiso : isoString (1784030460000 + 300 * 1000) = "2026-07-14T12:06:00.000Z" := by decide
  rw [hiso] at hstate
  exact ⟨_, map_ok.2 ⟨t, ht, rfl⟩, hstate.symm⟩

theorem sample_cancelled : ∃ t, BrokerStep rt (leasedState rt) ⟨2, .cancel sampleCancel, t⟩
    (cancellingState rt) := by
  have hrun : Run (BrokerStep rt) createResourceBrokerState [_, _] (leasedState rt) :=
    (Run.single (sample_applied rt).choose_spec).snoc (sample_leased rt).choose_spec
  obtain ⟨hs, hrev⟩ := run_checked hrun
  have hnew : existingRecord (leasedState rt) sampleCancel .cancel = none := rfl
  have hcap : sampleCancel.capabilityId ∉ (leasedState rt).redeemedCapabilityIds := by
    show sampleCancel.capabilityId ∉ ["cap-apply-1"]
    decide
  obtain ⟨t, ht, hstate⟩ := cancelResourceClaim_succeeds rt hs hrev (show findClaim _ _ = some (sampleLeased rt) from rfl) rfl
    sampleContext_ok.2 hnew hcap
  exact ⟨_, map_ok.2 ⟨t, ht, rfl⟩, hstate.symm⟩

theorem sample_cancelling_run : ∃ h, Run (BrokerStep rt) createResourceBrokerState h (cancellingState rt) :=
  ⟨_, ((Run.single (sample_applied rt).choose_spec).snoc (sample_leased rt).choose_spec).snoc
    (sample_cancelled rt).choose_spec⟩

end

end SecureSaas.Broker
