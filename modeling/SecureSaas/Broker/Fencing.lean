import SecureSaas.Broker.Lifecycle

/-!
# Fencing

A provider may finish work on a claim only with the lease it was given last. The lease in the
state is tied to the history: it is the one issued last for its claim, and its token has not
been used. Tokens are told apart by the revision they are issued at.

* `text_revision`: equal fence payloads have equal revisions.
* `Fenced.replay`, `Fenced.issue`, `Fenced.finish`, `Fenced.keep`: what the four kinds of
  steps do to the invariant.
* `run_fenced`: it holds after every run.
* `finish_fenced`: so every finishing step presents the claim's last lease, once.
-/

namespace SecureSaas.Broker

open Js

variable {rt : Runtime} {s : ResourceBrokerState} {h : List BrokerLabel}

/-! ## Issued leases and finishing steps -/

/-- A lease, with the claim and the revision it was issued for. -/
structure Issue where
  claimId : String
  lease : ResourceProviderLease
  revision : ℤ
deriving DecidableEq

/-- What the token of an issued lease is the hash of. -/
def Issue.payload (i : Issue) : Value :=
  .object [("claimId", .string i.claimId), ("generation", int i.lease.generation),
    ("providerId", .string i.lease.providerId), ("attempt", int i.lease.attempt),
    ("revision", int i.revision), ("occurredAt", .string i.lease.acquiredAt)]

def Issue.text (rt : Runtime) (i : Issue) : String := canonicalJson rt i.payload

/-- The lease a call issued. -/
def BrokerLabel.issue (l : BrokerLabel) : Option Issue :=
  match l.call, l.transition.result with
  | .lease args, .lease lease => some ⟨args.claimId, lease, l.transition.state.revision⟩
  | _, _ => none

/-- What a finishing call presented. -/
def BrokerLabel.finish (l : BrokerLabel) : Option ProviderArgs :=
  match l.call with
  | .complete args _ _ _ | .fail args _ _ _ | .acknowledge args _ | .completeDeletion args _ => some args
  | _ => none

def issues (h : List BrokerLabel) : List Issue := h.filterMap BrokerLabel.issue

def finishes (h : List BrokerLabel) : List ProviderArgs := h.filterMap BrokerLabel.finish

/-- The last lease issued for a claim. -/
def latestIssue (h : List BrokerLabel) (claimId : String) : Option Issue :=
  ((issues h).filter fun i => i.claimId == claimId).getLast?

/-- The fence payloads hashed in a run. -/
def fenceTexts (rt : Runtime) (h : List BrokerLabel) : Set String := {text | ∃ i ∈ issues h, text = i.text rt}

@[simp] theorem issues_snoc (h : List BrokerLabel) (l : BrokerLabel) :
    issues (h ++ [l]) = issues h ++ l.issue.toList := by
  unfold issues
  rw [List.filterMap_append]
  cases hl : l.issue <;> simp [hl]

@[simp] theorem finishes_snoc (h : List BrokerLabel) (l : BrokerLabel) :
    finishes (h ++ [l]) = finishes h ++ l.finish.toList := by
  unfold finishes
  rw [List.filterMap_append]
  cases hl : l.finish <;> simp [hl]

theorem latestIssue_snoc_none {l : BrokerLabel} (hl : l.issue = none) (claimId : String) :
    latestIssue (h ++ [l]) claimId = latestIssue h claimId := by
  unfold latestIssue
  rw [issues_snoc, hl, Option.toList_none, List.append_nil]

theorem latestIssue_snoc_some {l : BrokerLabel} {i : Issue} (hl : l.issue = some i) (claimId : String) :
    latestIssue (h ++ [l]) claimId = if i.claimId = claimId then some i else latestIssue h claimId := by
  unfold latestIssue
  rw [issues_snoc, hl, Option.toList_some, List.filter_append]
  by_cases hi : i.claimId = claimId <;> simp [hi]

theorem latestIssue_mem {claimId : String} {i : Issue} (hi : latestIssue h claimId = some i) :
    i ∈ issues h ∧ i.claimId = claimId := by
  have hmem := List.mem_filter.1 (List.mem_of_getLast? hi)
  exact ⟨hmem.1, by simpa using hmem.2⟩

/-! ## Payloads -/

/-- **A fence payload determines its revision.** -/
theorem text_revision {i j : Issue} (hij : i.text rt = j.text rt) : i.revision = j.revision := by
  have htext : textWith rt.sortedStyle i.payload = textWith rt.sortedStyle j.payload :=
    String.ofList_injective hij
  have hjson : ∀ k : Issue, isJson k.payload = true := fun k => by
    simp [Issue.payload, isJson, isJsonEntries, int, Number.isFinite]
  have hentry : ∀ k : Issue, ("revision", int k.revision) ∈ [("claimId", .string k.claimId),
      ("generation", int k.lease.generation), ("providerId", .string k.lease.providerId),
      ("attempt", int k.lease.attempt), ("revision", int k.revision),
      ("occurredAt", .string k.lease.acquiredAt)] := fun k => by simp
  exact object_int_inj rt.sortedStyle (hjson i) (hjson j) htext (by simp) (hentry i) (hentry j)

/-- Leases issued at different revisions have different tokens. -/
theorem token_ne (hcf : rt.CollisionFreeOn (fenceTexts rt h)) {i j : Issue} (hi : i ∈ issues h)
    (hj : j ∈ issues h) (hti : i.lease.fenceToken = sha256 rt (i.text rt))
    (htj : j.lease.fenceToken = sha256 rt (j.text rt)) (hne : i.revision ≠ j.revision) :
    i.lease.fenceToken ≠ j.lease.fenceToken := by
  intro heq
  rw [hti, htj] at heq
  exact hne (text_revision (hcf ⟨i, hi, rfl⟩ ⟨j, hj, rfl⟩ heq))

/-! ## The invariant -/

/-- The leases in the state are the ones the history issued last, and still unused. -/
structure Fenced (rt : Runtime) (h : List BrokerLabel) (s : ResourceBrokerState) : Prop where
  token : ∀ i ∈ issues h, i.lease.fenceToken = sha256 rt (i.text rt)
  bounded : ∀ i ∈ issues h, i.revision ≤ s.revision
  ordered : (issues h).Pairwise fun i j => i.revision < j.revision
  stored : ∀ c ∈ s.claims, ∀ lease, c.lease = some lease →
    ∃ i, latestIssue h c.claimId = some i ∧ i.lease = lease
  unused : ∀ c ∈ s.claims, ∀ lease, c.lease = some lease →
    ∀ args ∈ finishes h, args.fenceToken ≠ lease.fenceToken
  used : ∀ args ∈ finishes h, ∃ i ∈ issues h, i.lease.fenceToken = args.fenceToken

/-- Two issued leases of one revision are the same. -/
theorem Fenced.revision_inj (hf : Fenced rt h s) {i j : Issue} (hi : i ∈ issues h) (hj : j ∈ issues h)
    (hij : i.revision = j.revision) : i = j := by
  have hnodup : ((issues h).map Issue.revision).Nodup :=
    (List.pairwise_map.2 hf.ordered).imp fun hlt => ne_of_lt hlt
  exact List.inj_on_of_nodup_map hnodup hi hj hij

/-- Different issued leases have different tokens. -/
theorem Fenced.token_ne (hf : Fenced rt h s) (hcf : rt.CollisionFreeOn (fenceTexts rt h)) {i j : Issue}
    (hi : i ∈ issues h) (hj : j ∈ issues h) (hne : i ≠ j) : i.lease.fenceToken ≠ j.lease.fenceToken :=
  Broker.token_ne hcf hi hj (hf.token i hi) (hf.token j hj) fun hrev => hne (hf.revision_inj hi hj hrev)

section

variable {l : BrokerLabel} {s' : ResourceBrokerState}

/-- A step that neither issues nor presents a lease, and leaves leases where they are. -/
theorem Fenced.keep (hf : Fenced rt h s) (hi : l.issue = none) (hn : l.finish = none)
    (hrev : s.revision ≤ s'.revision)
    (hc : ∀ c ∈ s'.claims, ∀ lease, c.lease = some lease →
      ∃ d ∈ s.claims, d.claimId = c.claimId ∧ d.lease = some lease) : Fenced rt (h ++ [l]) s' := by
  have hissues : issues (h ++ [l]) = issues h := by rw [issues_snoc, hi]; exact List.append_nil _
  have hfinishes : finishes (h ++ [l]) = finishes h := by rw [finishes_snoc, hn]; exact List.append_nil _
  refine ⟨?_, ?_, ?_, ?_, ?_, ?_⟩
  · rw [hissues]; exact hf.token
  · rw [hissues]; exact fun i hi => le_trans (hf.bounded i hi) hrev
  · rw [hissues]; exact hf.ordered
  · intro c hcm lease hl
    obtain ⟨d, hd, hid, hdl⟩ := hc c hcm lease hl
    rw [latestIssue_snoc_none hi, ← hid]
    exact hf.stored d hd lease hdl
  · intro c hcm lease hl
    obtain ⟨d, hd, -, hdl⟩ := hc c hcm lease hl
    rw [hfinishes]
    exact hf.unused d hd lease hdl
  · rw [hfinishes, hissues]; exact hf.used

/-- A provider presents the lease of its claim, and the claim drops it. -/
theorem Fenced.finish (hf : Fenced rt h s) (hcf : rt.CollisionFreeOn (fenceTexts rt h))
    {args : ProviderArgs} {phase : ResourceClaimPhase} {c : ResourceClaimState}
    {lease : ResourceProviderLease} (hp : Presents s args phase c lease) (hi : l.issue = none)
    (hn : l.finish = some args) (hrev : s.revision ≤ s'.revision)
    (hc : ∀ d ∈ s'.claims, ∀ le, d.lease = some le → d ∈ s.claims ∧ d.claimId ≠ args.claimId) :
    Fenced rt (h ++ [l]) s' := by
  have hissues : issues (h ++ [l]) = issues h := by rw [issues_snoc, hi]; exact List.append_nil _
  have hfinishes : finishes (h ++ [l]) = finishes h ++ [args] := by rw [finishes_snoc, hn]; rfl
  obtain ⟨hcm, hcid⟩ := findClaim_mem hp.found
  obtain ⟨i, hlatest, hlease⟩ := hf.stored c hcm lease hp.held
  obtain ⟨him, hiid⟩ := latestIssue_mem hlatest
  have htoken : args.fenceToken = i.lease.fenceToken := by rw [hlease]; exact hp.fenceToken.symm
  refine ⟨?_, ?_, ?_, ?_, ?_, ?_⟩
  · rw [hissues]; exact hf.token
  · rw [hissues]; exact fun i hi => le_trans (hf.bounded i hi) hrev
  · rw [hissues]; exact hf.ordered
  · intro d hd le hdl
    rw [latestIssue_snoc_none hi]
    exact hf.stored d (hc d hd le hdl).1 le hdl
  · intro d hd le hdl a ha
    obtain ⟨hdm, hdid⟩ := hc d hd le hdl
    rw [hfinishes] at ha
    rcases List.mem_append.1 ha with ha | ha
    · exact hf.unused d hdm le hdl a ha
    · -- the lease of another claim was issued at another revision
      obtain ⟨j, hjl, hjle⟩ := hf.stored d hdm le hdl
      obtain ⟨hjm, hjid⟩ := latestIssue_mem hjl
      have hne : i ≠ j := by
        rintro rfl
        exact hdid (hjid.symm.trans (hiid.trans hcid))
      rw [List.mem_singleton.1 ha, htoken, ← hjle]
      exact hf.token_ne hcf him hjm hne
  · intro a ha
    rw [hfinishes] at ha
    rw [hissues]
    rcases List.mem_append.1 ha with ha | ha
    · exact hf.used a ha
    · exact ⟨i, him, by rw [List.mem_singleton.1 ha, htoken]⟩

/-- A lease is issued, at a new revision. -/
theorem Fenced.issue (hf : Fenced rt h s) {i : Issue} (hi : l.issue = some i) (hn : l.finish = none)
    (hcf : rt.CollisionFreeOn (fenceTexts rt (h ++ [l])))
    (htoken : i.lease.fenceToken = sha256 rt (i.text rt)) (hnew : i.revision = s.revision + 1)
    (hrev : s'.revision = i.revision)
    (hc : ∀ d ∈ s'.claims, ∀ le, d.lease = some le →
      (d.claimId = i.claimId ∧ le = i.lease) ∨ (d ∈ s.claims ∧ d.claimId ≠ i.claimId)) :
    Fenced rt (h ++ [l]) s' := by
  have hissues : issues (h ++ [l]) = issues h ++ [i] := by rw [issues_snoc, hi]; rfl
  have hfinishes : finishes (h ++ [l]) = finishes h := by rw [finishes_snoc, hn]; exact List.append_nil _
  have hmem : ∀ j ∈ issues h, j ∈ issues (h ++ [l]) := fun j hj => by
    rw [hissues]; exact List.mem_append_left _ hj
  have himem : i ∈ issues (h ++ [l]) := by rw [hissues]; exact List.mem_append_right _ List.mem_cons_self
  refine ⟨?_, ?_, ?_, ?_, ?_, ?_⟩
  · intro j hj
    rw [hissues] at hj
    rcases List.mem_append.1 hj with hj | hj
    · exact hf.token j hj
    · rw [List.mem_singleton.1 hj]; exact htoken
  · intro j hj
    rw [hissues] at hj
    rcases List.mem_append.1 hj with hj | hj
    · have := hf.bounded j hj
      omega
    · rw [List.mem_singleton.1 hj, hrev]
  · rw [hissues, List.pairwise_append]
    refine ⟨hf.ordered, List.pairwise_singleton _ _, fun j hj k hk => ?_⟩
    have := hf.bounded j hj
    rw [List.mem_singleton.1 hk]
    omega
  · intro d hd le hdl
    rw [latestIssue_snoc_some hi]
    rcases hc d hd le hdl with ⟨hid, hle⟩ | ⟨hold, hid⟩
    · rw [if_pos hid.symm]; exact ⟨i, rfl, hle.symm⟩
    · rw [if_neg (Ne.symm hid)]; exact hf.stored d hold le hdl
  · intro d hd le hdl a ha
    rw [hfinishes] at ha
    rcases hc d hd le hdl with ⟨-, hle⟩ | ⟨hold, -⟩
    · -- the tokens used so far were issued at earlier revisions
      obtain ⟨j, hj, hja⟩ := hf.used a ha
      have hlt := hf.bounded j hj
      rw [← hja, hle]
      exact Broker.token_ne hcf (hmem j hj) himem (hf.token j hj) htoken (by omega)
    · exact hf.unused d hold le hdl a ha
  · intro a ha
    rw [hfinishes] at ha
    obtain ⟨j, hj, hja⟩ := hf.used a ha
    exact ⟨j, hmem j hj, hja⟩

end

/-! ## Steps and runs -/

/-- The leases after a commit: those of the other claims, and that of the new one. -/
theorem Committed.leases {call : BrokerCall} {t : ResourceBrokerTransition BrokerResult}
    {claim : ResourceClaimState} (hcom : Committed rt s call t claim) :
    ∀ c ∈ t.state.claims, c = claim ∨ (c ∈ s.claims ∧ c.claimId ≠ claim.claimId) := by
  intro c hc
  rw [hcom.claims] at hc
  exact mem_upsertClaim.1 hc

/-- A call that neither issues nor presents a lease keeps its claim's lease or drops it. -/
theorem Committed.keep {l : BrokerLabel} {claim : ResourceClaimState} (hf : Fenced rt h s)
    (hcom : Committed rt s l.call l.transition claim) (hi : l.issue = none) (hn : l.finish = none)
    (hkept : ∀ lease, claim.lease = some lease →
      ∃ d ∈ s.claims, d.claimId = claim.claimId ∧ d.lease = some lease) :
    Fenced rt (h ++ [l]) l.transition.state := by
  refine hf.keep hi hn (by rw [hcom.revision]; omega) fun c hc lease hl => ?_
  rcases hcom.leases c hc with rfl | ⟨hold, -⟩
  · exact hkept lease hl
  · exact ⟨c, hold, rfl, hl⟩

theorem Committed.finished {l : BrokerLabel} {claim c : ResourceClaimState} (hf : Fenced rt h s)
    (hcf : rt.CollisionFreeOn (fenceTexts rt h)) (hcom : Committed rt s l.call l.transition claim)
    {args : ProviderArgs} {phase : ResourceClaimPhase} {lease : ResourceProviderLease}
    (hp : Presents s args phase c lease) (hi : l.issue = none) (hn : l.finish = some args)
    (hid : claim.claimId = c.claimId) (hdrop : claim.lease = none) :
    Fenced rt (h ++ [l]) l.transition.state := by
  refine hf.finish hcf hp hi hn (by rw [hcom.revision]; omega) fun d hd le hl => ?_
  rcases hcom.leases d hd with rfl | ⟨hold, hne⟩
  · rw [hdrop] at hl; cases hl
  · exact ⟨hold, fun h => hne (h.trans ((findClaim_mem hp.found).2.symm.trans hid.symm))⟩

/-- **Every step keeps leases fenced.** -/
theorem BrokerStep.fenced {l : BrokerLabel} {s' : ResourceBrokerState} (hstep : BrokerStep rt s l s')
    (hf : Fenced rt h s) (hcf : rt.CollisionFreeOn (fenceTexts rt (h ++ [l]))) :
    Fenced rt (h ++ [l]) s' := by
  obtain ⟨hexec, rfl⟩ := hstep
  have hcf' : rt.CollisionFreeOn (fenceTexts rt h) := by
    refine hcf.mono ?_
    rintro text ⟨i, hi, rfl⟩
    exact ⟨i, by rw [issues_snoc]; exact List.mem_append_left _ hi, rfl⟩
  obtain ⟨rev, call, t⟩ := l
  obtain ⟨-, -, hrep | ⟨claim, hcom⟩⟩ := exec_cases hexec
  · obtain ⟨operation, context, d, c, hm, -, -⟩ := hrep.answered
    have hmutation : BrokerLabel.issue ⟨rev, call, t⟩ = none ∧ BrokerLabel.finish ⟨rev, call, t⟩ = none := by
      cases call <;> first | exact ⟨rfl, rfl⟩ | cases hm
    refine hf.keep hmutation.1 hmutation.2 (by rw [hrep.state]) fun c hc lease hl => ?_
    rw [hrep.state] at hc
    exact ⟨c, hc, rfl, hl⟩
  · cases hcom.effect with
    | applied => exact hcom.keep (l := ⟨rev, _, t⟩) hf rfl rfl nofun
    | @cancelled context c hfound _ _ =>
      refine hcom.keep (l := ⟨rev, _, t⟩) hf rfl rfl fun lease hl => ?_
      refine ⟨c, (findClaim_mem hfound).1, rfl, ?_⟩
      by_cases hp : c.phase = .reconciling
      · simpa [cancelledClaim, hp] using hl
      · simp [cancelledClaim, hp] at hl
    | @deleting context approval finalization c hfound _ _ =>
      exact hcom.keep (l := ⟨rev, _, t⟩) hf rfl rfl fun lease hl => ⟨c, (findClaim_mem hfound).1, rfl, hl⟩
    | @leased args c duration expiresAt hg _ =>
      have hresult : t.result = .lease (issuedLease rt c args (s.revision + 1) expiresAt) :=
        (Option.some.inj hcom.answer).symm
      have hcid : c.claimId = args.claimId := (findClaim_mem hg.found).2
      have hissue : BrokerLabel.issue ⟨rev, .lease args, t⟩ =
          some ⟨args.claimId, issuedLease rt c args (s.revision + 1) expiresAt, s.revision + 1⟩ := by
        have hrevision : t.state.revision = s.revision + 1 := hcom.revision
        simp [BrokerLabel.issue, hresult, hrevision]
      refine hf.issue hissue rfl hcf ?_ rfl hcom.revision fun d hd le hl => ?_
      · rw [← hcid]; rfl
      · rcases hcom.leases d hd with rfl | ⟨hold, hne⟩
        · exact Or.inl ⟨hcid, (Option.some.inj hl).symm⟩
        · exact Or.inr ⟨hold, fun h => hne (h.trans hcid.symm)⟩
    | completed hp _ => exact hcom.finished (l := ⟨rev, _, t⟩) hf hcf' hp rfl rfl rfl rfl
    | failed hp => exact hcom.finished (l := ⟨rev, _, t⟩) hf hcf' hp rfl rfl rfl rfl
    | @drifted claimId providerId observed occurredAt verified c hfound _ =>
      exact hcom.keep (l := ⟨rev, _, t⟩) hf rfl rfl fun lease hl => ⟨c, (findClaim_mem hfound).1, rfl, hl⟩
    | acknowledged hp _ => exact hcom.finished (l := ⟨rev, _, t⟩) hf hcf' hp rfl rfl rfl rfl
    | deleted hp => exact hcom.finished (l := ⟨rev, _, t⟩) hf hcf' hp rfl rfl rfl rfl

theorem run_fenced (hr : Run (BrokerStep rt) createResourceBrokerState h s)
    (hcf : rt.CollisionFreeOn (fenceTexts rt h)) : Fenced rt h s := by
  -- the payloads of a prefix are among those of the run
  refine hr.history (I := fun h s => rt.CollisionFreeOn (fenceTexts rt h) → Fenced rt h s) ?_ ?_ hcf
  · exact fun _ => ⟨nofun, nofun, List.Pairwise.nil, fun _ hc => absurd hc List.not_mem_nil,
      fun _ hc => absurd hc List.not_mem_nil, nofun⟩
  · intro h m l t _ ih hstep hcf
    refine hstep.fenced (ih (hcf.mono ?_)) hcf
    rintro text ⟨i, hi, rfl⟩
    exact ⟨i, by rw [issues_snoc]; exact List.mem_append_left _ hi, rfl⟩

/-- A finishing call that succeeds presents its claim's lease. -/
theorem BrokerStep.presents {l : BrokerLabel} {s' : ResourceBrokerState} (hstep : BrokerStep rt s l s')
    {args : ProviderArgs} (hn : l.finish = some args) :
    ∃ phase c lease, Presents s args phase c lease := by
  obtain ⟨hexec, rfl⟩ := hstep
  obtain ⟨rev, call, t⟩ := l
  obtain ⟨-, -, hrep | ⟨claim, hcom⟩⟩ := exec_cases hexec
  · obtain ⟨operation, context, d, c, hm, -, -⟩ := hrep.answered
    cases call <;> first | (cases hm; done) | cases hn
  · cases hcom.effect with
    | completed hp _ => obtain rfl := Option.some.inj hn; exact ⟨_, _, _, hp⟩
    | failed hp => obtain rfl := Option.some.inj hn; exact ⟨_, _, _, hp⟩
    | acknowledged hp _ => obtain rfl := Option.some.inj hn; exact ⟨_, _, _, hp⟩
    | deleted hp => obtain rfl := Option.some.inj hn; exact ⟨_, _, _, hp⟩
    | applied => cases hn
    | cancelled => cases hn
    | deleting => cases hn
    | leased => cases hn
    | drifted => cases hn

/-- **Fencing**: in every run, a finishing step presents exactly the lease issued last for its
claim. That lease is for the claim's current generation, no earlier finishing step presented
its token, and the tokens of all other leases differ from it. -/
theorem finish_fenced (rt : Runtime) {h before after : List BrokerLabel} {l : BrokerLabel}
    {args : ProviderArgs} {s : ResourceBrokerState} (hr : Run (BrokerStep rt) createResourceBrokerState h s)
    (hcf : rt.CollisionFreeOn (fenceTexts rt h)) (hat : h = before ++ l :: after)
    (hn : l.finish = some args) :
    ∃ i m c, latestIssue before args.claimId = some i ∧
      i.lease.providerId = args.providerId ∧ i.lease.generation = args.generation ∧
      i.lease.fenceToken = args.fenceToken ∧
      Run (BrokerStep rt) createResourceBrokerState before m ∧ findClaim m args.claimId = some c ∧
      i.lease.generation = c.generation ∧
      (∀ a ∈ finishes before, a.fenceToken ≠ args.fenceToken) ∧
      ∀ j ∈ issues before, j ≠ i → j.lease.fenceToken ≠ args.fenceToken := by
  subst hat
  obtain ⟨m, m', hrm, hstep, -⟩ := hr.step_at
  have hcfb : rt.CollisionFreeOn (fenceTexts rt before) := by
    refine hcf.mono ?_
    rintro text ⟨i, hi, rfl⟩
    refine ⟨i, ?_, rfl⟩
    unfold issues at hi ⊢
    rw [List.filterMap_append]
    exact List.mem_append_left _ hi
  have hf := run_fenced hrm hcfb
  obtain ⟨phase, c, lease, hp⟩ := hstep.presents hn
  obtain ⟨hcm, hcid⟩ := findClaim_mem hp.found
  obtain ⟨i, hlatest, hlease⟩ := hf.stored c hcm lease hp.held
  have htoken : i.lease.fenceToken = args.fenceToken := by rw [hlease]; exact hp.fenceToken
  have him := (latestIssue_mem hlatest).1
  refine ⟨i, m, c, hcid ▸ hlatest, ?_, ?_, htoken, hrm, hp.found, ?_, ?_, ?_⟩
  · rw [hlease]; exact hp.providerId
  · rw [hlease]; exact hp.leaseGeneration
  · rw [hlease, hp.leaseGeneration, hp.generation]
  · rw [← htoken, hlease]; exact hf.unused c hcm lease hp.held
  · intro j hj hne
    rw [← htoken]
    exact hf.token_ne hcfb hj him hne

/-- The provider of the sample run acknowledges the cancellation. -/
def sampleAcknowledge (rt : Runtime) : ProviderArgs where
  claimId := "claim-a"
  providerId := "fake-provider"
  generation := 1
  fenceToken := (sampleLease rt).fenceToken
  workloadIdentityVerified := true
  occurredAt := "2026-07-14T12:03:00.000Z"

theorem sample_acknowledged (rt : Runtime) : ∃ l s', BrokerStep rt (cancellingState rt) l s' ∧
    l.issue = none ∧ l.finish = some (sampleAcknowledge rt) := by
  obtain ⟨h, hrun⟩ := sample_cancelling_run rt
  have hidentity : isIdentifier "fake-provider" = true := by decide
  have hat : isTimestamp "2026-07-14T12:03:00.000Z" = true := by decide
  have hlive : timeLT (dateParse "2026-07-14T12:06:00.000Z") (dateParse "2026-07-14T12:03:00.000Z") = false := by
    decide
  have hp : Presents (cancellingState rt) (sampleAcknowledge rt) .cancelling (sampleCancelling rt)
      (sampleLease rt) :=
    ⟨rfl, hidentity, rfl, hat, rfl, rfl, rfl, rfl, rfl, rfl, hlive⟩
  have href : isReference ["evidence"] "evidence://cleanup" = true := by decide
  obtain ⟨t, ht, -⟩ := acknowledgeResourceClaimCancellation_succeeds rt (run_checked hrun).1 hp rfl href
  exact ⟨⟨3, .acknowledge (sampleAcknowledge rt) "evidence://cleanup", t.mapResult .claim⟩, t.state,
    ⟨map_ok.2 ⟨t, ht, rfl⟩, rfl⟩, rfl, rfl⟩

/-- `finish_fenced` on the sample run and its acknowledgement. -/
theorem finish_fenced_acknowledge : ∃ before l s i,
    Run (BrokerStep sampleRuntime) createResourceBrokerState (before ++ [l]) s ∧
    l.finish = some (sampleAcknowledge sampleRuntime) ∧ latestIssue before "claim-a" = some i ∧
    i.lease.fenceToken = (sampleAcknowledge sampleRuntime).fenceToken := by
  obtain ⟨l1, h1, hl1⟩ : ∃ l, BrokerStep sampleRuntime createResourceBrokerState l _ ∧ l.issue = none :=
    ⟨_, (sample_applied sampleRuntime).choose_spec, rfl⟩
  obtain ⟨l2, h2⟩ : ∃ l, BrokerStep sampleRuntime (pendingState sampleRuntime) l _ :=
    ⟨_, (sample_leased sampleRuntime).choose_spec⟩
  obtain ⟨l3, h3, hl3⟩ : ∃ l, BrokerStep sampleRuntime (leasedState sampleRuntime) l _ ∧ l.issue = none :=
    ⟨_, (sample_cancelled sampleRuntime).choose_spec, rfl⟩
  obtain ⟨l4, s', h4, hl4, hn⟩ := sample_acknowledged sampleRuntime
  have hrun := (((Run.single h1).snoc h2).snoc h3).snoc h4
  -- one lease is issued, so there are no two payloads to collide
  have hissues : issues ([l1] ++ [l2] ++ [l3] ++ [l4]) = l2.issue.toList := by
    have hfirst : issues [l1] = [] := by simp [issues, hl1]
    rw [issues_snoc, issues_snoc, issues_snoc, hl3, hl4, hfirst]
    simp
  have hcf : sampleRuntime.CollisionFreeOn (fenceTexts sampleRuntime ([l1] ++ [l2] ++ [l3] ++ [l4])) := by
    refine Set.Subsingleton.injOn ?_ _
    rintro a ⟨i, hi, rfl⟩ b ⟨j, hj, rfl⟩
    rw [hissues, Option.mem_toList] at hi hj
    rw [Option.some.inj (hi.symm.trans hj)]
  obtain ⟨i, m, c, hlatest, -, -, htoken, -⟩ := finish_fenced sampleRuntime hrun hcf rfl hn
  exact ⟨[l1] ++ [l2] ++ [l3], l4, s', i, hrun, hn, hlatest, htoken⟩

end SecureSaas.Broker
