import SecureSaas.Broker.Replay

/-!
# The frame of a broker call

What a call leaves as it was, whatever state it was sent to.

* `ClaimEffect.carried`: the claim a call replaces keeps its identity, and its generations do not fall.
* `ClaimEffect.changed`: the claim a commit leaves behind is not the one it found.
* `exec_framed`: **a call that returns changes one claim and appends to the histories; a call that
  throws changes nothing.**
* `run_framed`: the same along a run.
-/

namespace SecureSaas.Broker

open Js

variable {rt : Runtime} {s s' : ResourceBrokerState} {h : List BrokerLabel}

/-! ## The frame -/

/-- The claims are in the order that an upsert puts them in. -/
def Sorted (rt : Runtime) (s : ResourceBrokerState) : Prop :=
  s.claims.Pairwise fun a b => rt.localeLE a.claimId b.claimId = true

/-- What a claim carries over a call. -/
structure Carried (call : BrokerCall) (c c' : ResourceClaimState) : Prop where
  tenantId : c'.tenantId = c.tenantId
  resourceKind : c'.resourceKind = c.resourceKind
  resourceApiVersion : c'.resourceApiVersion = c.resourceApiVersion
  generation : c'.generation = c.generation ∨
    (∃ context v, call = .apply context v) ∧ c'.generation = c.generation + 1
  observedGeneration : c.observedGeneration ≤ c'.observedGeneration

/-- What a call that returns leaves of the state. -/
structure Framed (rt : Runtime) (s : ResourceBrokerState) (call : BrokerCall)
    (t : ResourceBrokerTransition BrokerResult) : Prop where
  replay : t.replayed = true → t.state = s
  revision : t.replayed = false → t.state.revision = s.revision + 1
  /-- One claim is not as it was, and all others are. -/
  one : t.replayed = false → ∃ claimId, findClaim t.state claimId ≠ findClaim s claimId ∧
    ∀ other, other ≠ claimId → findClaim t.state other = findClaim s other
  sorted : Sorted rt s → Sorted rt t.state
  unique : (t.state.claims.map fun c => c.claimId).Nodup
  claims : ∀ claimId c, findClaim s claimId = some c →
    ∃ c', findClaim t.state claimId = some c' ∧ Carried call c c'
  idempotencyRecords : s.idempotencyRecords <+: t.state.idempotencyRecords
  redeemedCapabilityIds : s.redeemedCapabilityIds <+: t.state.redeemedCapabilityIds

/-- The state a caller goes on with: an operation works on a clone of the caller's state, which
only the state it returns replaces. -/
def BrokerCall.stateAfter (rt : Runtime) (state : ResourceBrokerState) (expectedRevision : ℤ) (call : BrokerCall) :
    ResourceBrokerState :=
  match call.exec rt state expectedRevision with
  | .ok transition => transition.state
  | .error _ => state

/-! ## The claim a call replaces -/

theorem Carried.refl (call : BrokerCall) (c : ResourceClaimState) : Carried call c c :=
  ⟨rfl, rfl, rfl, Or.inl rfl, le_refl _⟩

/-- A call keeps what identifies its claim, and does not lower its generations. -/
theorem ClaimEffect.carried (hs : StateOk s) {call : BrokerCall} {c old : ResourceClaimState}
    (he : ClaimEffect rt s call c) (hold : findClaim s c.claimId = some old) : Carried call old c := by
  have hobserved := (hs.claims old (findClaim_mem hold).1).observed_le
  -- all calls but an application keep the request of a claim they find
  have hsame : ∀ {claimId : String} {claim : ResourceClaimState}, findClaim s claimId = some claim →
      c.toResourceClaimRequest = claim.toResourceClaimRequest →
      (c.observedGeneration = claim.observedGeneration ∨ c.observedGeneration = claim.generation) →
      Carried call old c := by
    intro claimId claim hfound hrequest hobs
    have hid : c.claimId = claim.claimId := by rw [hrequest]
    rw [hid, (findClaim_mem hfound).2, hfound] at hold
    obtain rfl := Option.some.inj hold
    refine ⟨by rw [hrequest], by rw [hrequest], by rw [hrequest], Or.inl (by rw [hrequest]), ?_⟩
    rcases hobs with hobs | hobs
    · rw [hobs]
    · rw [hobs]
      exact hobserved
  cases he with
  | @applied context v claim hparse hadv _ =>
    have hfound : findClaim s claim.claimId = some old := hold
    rw [hfound] at hadv ⊢
    simp only [assertAdvance, bind_ok, throwUnless_ok, exists_unit, Bool.and_eq_true, beq_iff_eq] at hadv
    obtain ⟨⟨⟨htenant, hkind⟩, hversion⟩, hgeneration, -⟩ := hadv
    exact ⟨htenant.symm, hkind.symm, hversion.symm, Or.inr ⟨⟨context, v, rfl⟩, hgeneration⟩, le_refl _⟩
  | cancelled hf _ _ => exact hsame hf rfl (Or.inl rfl)
  | deleting hf _ _ => exact hsame hf rfl (Or.inl rfl)
  | leased hg _ => exact hsame hg.found rfl (Or.inl rfl)
  | completed hp _ => exact hsame hp.found rfl (Or.inr rfl)
  | failed hp => exact hsame hp.found rfl (Or.inl rfl)
  | drifted hf _ => exact hsame hf rfl (Or.inl rfl)
  | acknowledged hp _ => exact hsame hp.found rfl (Or.inl rfl)
  | deleted hp => exact hsame hp.found rfl (Or.inr rfl)

/-- A claim in another phase, or with another lease, is another claim. -/
theorem not_found_of {claimId : String} {claim c : ResourceClaimState} (hf : findClaim s claimId = some claim)
    (hid : c.claimId = claim.claimId) (hne : c.phase ≠ claim.phase ∨ c.lease ≠ claim.lease) :
    findClaim s c.claimId ≠ some c := by
  intro hfound
  rw [hid, (findClaim_mem hf).2, hf] at hfound
  obtain rfl := Option.some.inj hfound
  exact hne.elim (fun h => h rfl) fun h => h rfl

/-- A new lease counts one attempt more than the lease it replaces. -/
theorem issuedLease_ne (claim : ResourceClaimState) (args : LeaseArgs) (revision : ℤ) (expiresAt : String) :
    some (issuedLease rt claim args revision expiresAt) ≠ claim.lease := by
  intro heq
  have hattempt : (issuedLease rt claim args revision expiresAt).attempt = nextAttempt claim := rfl
  have hnext : nextAttempt claim = (issuedLease rt claim args revision expiresAt).attempt + 1 := by
    conv_lhs => unfold nextAttempt
    rw [← heq]
    rfl
  omega

/-- A claim that is there advances by one generation. -/
theorem assertAdvance_generation {claim : ResourceClaimRequest} {existing : ResourceClaimState}
    (h : assertAdvance claim (some existing) = .ok ()) : claim.generation = existing.generation + 1 := by
  simp only [assertAdvance, bind_ok, throwUnless_ok, exists_unit, Bool.and_eq_true, beq_iff_eq] at h
  exact h.2.1

/-- **The claim a commit leaves behind is not the one it found.** -/
theorem ClaimEffect.changed {call : BrokerCall} {c : ResourceClaimState} (he : ClaimEffect rt s call c) :
    findClaim s c.claimId ≠ some c := by
  cases he with
  | @applied context v claim hparse hadv _ =>
    intro hfound
    change findClaim s claim.claimId = some _ at hfound
    -- the previous generation is one less
    rw [hfound] at hadv
    have hgeneration : claim.generation = claim.generation + 1 := assertAdvance_generation hadv
    omega
  | @cancelled context claim hf hphase _ =>
    refine not_found_of hf rfl (Or.inl ?_)
    intro hsame
    change (if claim.phase == .reconciling then ResourceClaimPhase.cancelling else .cancelled) = claim.phase at hsame
    rw [← hsame] at hphase
    split at hphase <;> exact absurd hphase (by decide)
  | @deleting context approval finalization claim hf hphase _ =>
    refine not_found_of hf rfl (Or.inl ?_)
    intro hsame
    change ResourceClaimPhase.deleting = claim.phase at hsame
    rw [← hsame] at hphase
    exact absurd hphase (by decide)
  | @leased args claim duration expiresAt hg _ =>
    exact not_found_of hg.found rfl (Or.inr (issuedLease_ne claim args _ _))
  | completed hp _ =>
    refine not_found_of hp.found rfl (Or.inl ?_)
    rw [hp.phase]
    exact nofun
  | failed hp =>
    refine not_found_of hp.found rfl (Or.inl ?_)
    rw [hp.phase]
    exact nofun
  | drifted hf hphase =>
    refine not_found_of hf rfl (Or.inl ?_)
    rw [hphase]
    exact nofun
  | acknowledged hp _ =>
    refine not_found_of hp.found rfl (Or.inl ?_)
    rw [hp.phase]
    exact nofun
  | deleted hp =>
    refine not_found_of hp.found rfl (Or.inl ?_)
    rw [hp.phase]
    exact nofun

/-! ## Calls -/

/-- An upsert sorts the claims. -/
theorem upsertClaim_sorted (claims : List ResourceClaimState) (claim : ResourceClaimState) :
    (upsertClaim rt claims claim).Pairwise fun a b => rt.localeLE a.claimId b.claimId = true := by
  have htotal : Std.Total fun a b : ResourceClaimState => rt.localeLE a.claimId b.claimId = true :=
    ⟨fun a b => rt.localeLE_total a.claimId b.claimId⟩
  have htrans : IsTrans ResourceClaimState fun a b => rt.localeLE a.claimId b.claimId = true :=
    ⟨fun a b c => rt.localeLE_trans a.claimId b.claimId c.claimId⟩
  exact List.pairwise_insertionSort _ _

theorem Replayed.framed (hs : StateOk s) {call : BrokerCall} {t : ResourceBrokerTransition BrokerResult}
    (hrep : Replayed s call t) : Framed rt s call t := by
  have hnot : t.replayed ≠ false := by
    rw [hrep.replayed]
    exact nofun
  refine ⟨fun _ => hrep.state, fun hf => absurd hf hnot, fun hf => absurd hf hnot, ?_, ?_, ?_, ?_, ?_⟩
  · exact fun hsorted => hrep.state ▸ hsorted
  · rw [hrep.state]
    exact hs.claims_nodup
  · intro claimId c hc
    rw [hrep.state]
    exact ⟨c, hc, Carried.refl call c⟩
  · exact hrep.state ▸ List.prefix_rfl
  · exact hrep.state ▸ List.prefix_rfl

theorem Committed.framed (hs : StateOk s) {call : BrokerCall} {t : ResourceBrokerTransition BrokerResult}
    {c : ResourceClaimState} (hcom : Committed rt s call t c) : Framed rt s call t := by
  refine ⟨?_, fun _ => hcom.revision, fun _ => ⟨c.claimId, ?_, ?_⟩, fun _ => ?_, hcom.checked.claims_nodup, ?_, ?_, ?_⟩
  · intro hreplayed
    rw [hcom.replayed] at hreplayed
    cases hreplayed
  · rw [hcom.find hs, if_pos rfl]
    exact fun heq => hcom.effect.changed heq.symm
  · intro other hother
    rw [hcom.find hs, if_neg hother]
  · unfold Sorted
    rw [hcom.claims]
    exact upsertClaim_sorted _ _
  · intro claimId old hold
    rw [hcom.find hs]
    by_cases hid : claimId = c.claimId
    · rw [if_pos hid]
      exact ⟨c, rfl, hcom.effect.carried hs (hid ▸ hold)⟩
    · rw [if_neg hid]
      exact ⟨old, hold, Carried.refl call old⟩
  · cases hm : call.mutation with
    | none =>
      exact (hcom.unmutated hm).1 ▸ List.prefix_rfl
    | some m =>
      obtain ⟨-, -, -, -, payloadDigest, hrecords⟩ := hcom.mutated m.1 m.2 hm
      rw [hrecords]
      exact List.prefix_append _ _
  · cases hm : call.mutation with
    | none =>
      exact (hcom.unmutated hm).2 ▸ List.prefix_rfl
    | some m =>
      obtain ⟨-, -, -, hredeemed, -⟩ := hcom.mutated m.1 m.2 hm
      rw [hredeemed]
      exact List.prefix_append _ _

theorem exec_ok_framed {rev : ℤ} {call : BrokerCall} {t : ResourceBrokerTransition BrokerResult}
    (ht : call.exec rt s rev = .ok t) : Framed rt s call t := by
  obtain ⟨hs, -, hrep | ⟨c, hcom⟩⟩ := exec_cases ht
  · exact hrep.framed hs
  · exact hcom.framed hs

/-- **Along a run** claims stay, keep what identifies them and do not fall behind, and histories only
grow. -/
theorem run_framed (hr : Run (BrokerStep rt) s h s') :
    s.revision ≤ s'.revision ∧ s.idempotencyRecords <+: s'.idempotencyRecords ∧
      s.redeemedCapabilityIds <+: s'.redeemedCapabilityIds ∧ (Sorted rt s → Sorted rt s') ∧
      ∀ claimId c, findClaim s claimId = some c → ∃ c', findClaim s' claimId = some c' ∧
        c'.tenantId = c.tenantId ∧ c'.resourceKind = c.resourceKind ∧ c'.resourceApiVersion = c.resourceApiVersion ∧
        c.generation ≤ c'.generation ∧ c.observedGeneration ≤ c'.observedGeneration := by
  induction hr with
  | start =>
    exact ⟨le_refl _, List.prefix_rfl, List.prefix_rfl, id,
      fun claimId c hc => ⟨c, hc, rfl, rfl, rfl, le_refl _, le_refl _⟩⟩
  | @snoc h m l t _ last ih =>
    obtain ⟨hexec, rfl⟩ := last
    obtain ⟨hrevision, hrecords, hredeemed, hsorted, hclaims⟩ := ih
    have hf := exec_ok_framed hexec
    refine ⟨?_, hrecords.trans hf.idempotencyRecords, hredeemed.trans hf.redeemedCapabilityIds,
      fun h => hf.sorted (hsorted h), ?_⟩
    · cases hreplayed : l.transition.replayed with
      | true =>
        rw [hf.replay hreplayed]
        exact hrevision
      | false =>
        have := hf.revision hreplayed
        omega
    · intro claimId c hc
      obtain ⟨d, hd, htenant, hkind, hversion, hgeneration, hobserved⟩ := hclaims claimId c hc
      obtain ⟨c', hc', hcarried⟩ := hf.claims claimId d hd
      refine ⟨c', hc', hcarried.tenantId.trans htenant, hcarried.resourceKind.trans hkind,
        hcarried.resourceApiVersion.trans hversion, ?_, hobserved.trans hcarried.observedGeneration⟩
      rcases hcarried.generation with heq | ⟨-, heq⟩ <;> omega

end SecureSaas.Broker
