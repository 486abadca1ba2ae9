import SecureSaas.Paas.Rollback

/-!
# Idempotency keys and capabilities

Enqueue and cancel commands share the idempotency keys of their tenant. The first one with a key
that changes the state leaves a record, which answers all later ones with that key.

* `call_keyed`: a keyed command changes the state by leaving its records, and only so.
* `run_recorded`, `run_redeemed`: records and redemptions stay.
* `keyed_answer`: how a record answers an authorized command.
* `run_idempotent`: **a key and a capability accompany one change of state, and what later commands
  are answered.**
-/

namespace SecureSaas.Paas

open Js

variable {rt : Runtime} {intent : PaasSecurityIntent} {s m : PaasControlState} {h : List PaasCall}
  {call : PaasCall} {c : PaasCommand}

/-! ## Keyed commands -/

/-- The tenant and the idempotency key of a command that has them. -/
def PaasCommand.key : PaasCommand → Option (String × String)
  | .enqueue command => some (command.tenantId, command.idempotencyKey)
  | .cancel command => some (command.tenantId, command.idempotencyKey)
  | _ => none

def PaasCommand.action : PaasCommand → Option PaasIdempotencyAction
  | .enqueue _ => some .enqueue
  | .cancel _ => some .cancel
  | _ => none

/-- The job that a keyed command names. -/
def PaasCommand.jobId : PaasCommand → Option String
  | .enqueue command => some command.jobId
  | .cancel command => some command.jobId
  | _ => none

/-- The fingerprint of a keyed command; that of a cancellation is of the job it finds. -/
def PaasCommand.fingerprint (rt : Runtime) (s : PaasControlState) : PaasCommand → Option String
  | .enqueue command => some (enqueueFingerprint rt command)
  | .cancel command => (s.jobs.get? command.jobId).map (cancelFingerprint rt command)
  | _ => none

/-- `capabilityToRedeem` -/
def PaasCommand.capability : PaasCommand → Option String
  | .enqueue command => command.authorization.capabilityToRedeem
  | .cancel command => command.authorization.capabilityToRedeem
  | _ => none

/-- The command is well formed, names a known tenant or an existing job, and its decision binds it. -/
def Authorized (intent : PaasSecurityIntent) (s : PaasControlState) : PaasCommand → Prop
  | .enqueue command => validEnqueueCommand command = true ∧ (intent.find command.tenantId).isSome = true ∧
      command.binds = true
  | .cancel command => ∃ current, s.jobs.get? command.jobId = some current ∧ current.tenantId = command.tenantId ∧
      validEpoch command.requestedAtEpochSeconds = true ∧ hasText command.idempotencyKey = true ∧
      current.createdAtEpochSeconds ≤ command.requestedAtEpochSeconds ∧ command.binds current = true
  | _ => False

/-- The call changes the state. -/
def Changes (rt : Runtime) (intent : PaasSecurityIntent) (call : PaasCall) : Prop :=
  call.after rt intent ≠ call.state

/-- The record of a keyed command that changes the state. -/
structure Recorded (rt : Runtime) (call : PaasCall) (tenantId idempotencyKey : String)
    (record : PaasIdempotencyRecord) : Prop where
  tenantId : record.tenantId = tenantId
  idempotencyKey : record.idempotencyKey = idempotencyKey
  action : call.command.action = some record.action
  fingerprint : call.command.fingerprint rt call.state = some record.fingerprint
  jobId : call.command.jobId = some record.jobId

/-- What a keyed command does when it changes the state. -/
structure Keyed (rt : Runtime) (intent : PaasSecurityIntent) (call : PaasCall) (tenantId idempotencyKey : String) :
    Prop where
  fresh : call.state.idempotency.get? (stateKey rt [tenantId, idempotencyKey]) = none
  record : ∃ record, (call.after rt intent).idempotency =
      call.state.idempotency.set (stateKey rt [tenantId, idempotencyKey]) record ∧
    Recorded rt call tenantId idempotencyKey record
  unredeemed : isRedeemed rt call.state (truthy call.command.capability) = false
  redeemed : ∀ capabilityId, truthy call.command.capability = some capabilityId → ∃ redemption,
    (call.after rt intent).redeemedCapabilities =
      call.state.redeemedCapabilities.set (stateKey rt [capabilityId]) redemption
  /-- A command without a capability redeems none. -/
  kept : truthy call.command.capability = none →
    (call.after rt intent).redeemedCapabilities = call.state.redeemedCapabilities

theorem redeem_idempotency (s : PaasControlState) (capabilityId : Option String) (tenantId jobId : String) (now : ℤ) :
    (redeem rt s capabilityId tenantId jobId now).idempotency = s.idempotency := by
  cases capabilityId <;> rfl

/-- The redemptions after a command has redeemed its capability. -/
theorem redeem_cases (s : PaasControlState) (capabilityId : Option String) (tenantId jobId : String) (now : ℤ) :
    (∀ id, capabilityId = some id → ∃ redemption, (redeem rt s capabilityId tenantId jobId now).redeemedCapabilities =
        s.redeemedCapabilities.set (stateKey rt [id]) redemption) ∧
      (capabilityId = none →
        (redeem rt s capabilityId tenantId jobId now).redeemedCapabilities = s.redeemedCapabilities) := by
  cases capabilityId with
  | none => exact ⟨nofun, fun _ => rfl⟩
  | some capabilityId =>
    refine ⟨?_, nofun⟩
    rintro id heq
    obtain rfl := Option.some.inj heq
    exact ⟨_, rfl⟩

/-- **A keyed command changes the state by leaving its records**, and only so. -/
theorem call_keyed {tenantId idempotencyKey : String} (hk : call.command.key = some (tenantId, idempotencyKey))
    (hc : Changes rt intent call) : Keyed rt intent call tenantId idempotencyKey := by
  obtain ⟨s, c⟩ := call
  rcases @exec_refused rt intent s c with ⟨-, hs, -⟩ | ha
  · exact absurd hs hc
  · cases c with
    | enqueue command =>
      obtain ⟨rfl, rfl⟩ := Prod.mk.inj (Option.some.inj hk)
      obtain ⟨-, -, tenant, -, -, ⟨existing, -, -, -, hs⟩ | ⟨hg, hs⟩⟩ := enqueue_accepted ha
      · exact absurd (congrArg PaasControlTransition.state hs) hc
      · have hafter : PaasCall.after rt intent ⟨s, .enqueue command⟩ = (enqueuedAnswer rt s command tenant).state :=
          congrArg PaasControlTransition.state hs
        refine ⟨hg.record, ⟨_, (congrArg PaasControlState.idempotency hafter).trans (redeem_idempotency ..),
          rfl, rfl, rfl, rfl, rfl⟩, hg.unredeemed, ?_, ?_⟩
        · intro capabilityId hcap
          obtain ⟨redemption, hr⟩ := (redeem_cases _ _ _ _ _).1 capabilityId hcap
          exact ⟨redemption, (congrArg PaasControlState.redeemedCapabilities hafter).trans hr⟩
        · intro hnone
          exact (congrArg PaasControlState.redeemedCapabilities hafter).trans ((redeem_cases _ _ _ _ _).2 hnone)
    | cancel command =>
      obtain ⟨rfl, rfl⟩ := Prod.mk.inj (Option.some.inj hk)
      obtain ⟨hcheck, current, hfound, -, -, -, -, -, ⟨existing, -, -, -, hs⟩ | ⟨hg, hs⟩⟩ := cancel_accepted ha
      · exact absurd (congrArg PaasControlTransition.state hs) hc
      · have hid := (stateInvariantError_none.1 hcheck).1.records.key_eq hfound
        have hidempotency : (PaasCall.after rt intent ⟨s, .cancel command⟩).idempotency =
            (withCancellation rt s command current (truthy command.authorization.capabilityToRedeem)).idempotency := by
          rcases hs with ⟨-, hs⟩ | ⟨-, hs⟩ <;> exact congrArg (fun t => t.state.idempotency) hs
        have hredeemed : (PaasCall.after rt intent ⟨s, .cancel command⟩).redeemedCapabilities =
            (withCancellation rt s command current
              (truthy command.authorization.capabilityToRedeem)).redeemedCapabilities := by
          rcases hs with ⟨-, hs⟩ | ⟨-, hs⟩ <;> exact congrArg (fun t => t.state.redeemedCapabilities) hs
        refine ⟨hg.record, ⟨_, hidempotency.trans (redeem_idempotency ..), rfl, rfl, rfl, ?_, ?_⟩, hg.unredeemed, ?_, ?_⟩
        · show (s.jobs.get? command.jobId).map _ = _
          rw [hfound]
          rfl
        · exact congrArg some hid
        · intro capabilityId hcap
          obtain ⟨redemption, hr⟩ := (redeem_cases _ _ _ _ _).1 capabilityId hcap
          exact ⟨redemption, hredeemed.trans hr⟩
        · intro hnone
          exact hredeemed.trans ((redeem_cases _ _ _ _ _).2 hnone)
    | _ => cases hk

/-- The other commands touch no record of a key or a capability. -/
theorem call_unkeyed (hk : call.command.key = none) :
    (call.after rt intent).idempotency = call.state.idempotency ∧
      (call.after rt intent).redeemedCapabilities = call.state.redeemedCapabilities := by
  obtain ⟨s, c⟩ := call
  rcases @exec_refused rt intent s c with ⟨-, hs, -⟩ | ha
  · exact ⟨congrArg PaasControlState.idempotency hs, congrArg PaasControlState.redeemedCapabilities hs⟩
  · cases c with
    | enqueue command => cases hk
    | schedule command => exact (schedule_records ha).2
    | complete command =>
      obtain ⟨current, -, hs⟩ := complete_state ha
      rcases hs with hs | hs | hs | ⟨-, hs⟩ <;>
        exact ⟨(congrArg PaasControlState.idempotency hs).trans rfl,
          (congrArg PaasControlState.redeemedCapabilities hs).trans rfl⟩
    | cancel command => cases hk
    | acknowledge command =>
      obtain ⟨-, current, -, hs⟩ := acknowledge_accepted ha
      exact ⟨congrArg (fun t => t.state.idempotency) hs, congrArg (fun t => t.state.redeemedCapabilities) hs⟩
    | sweep command => exact (sweep_records ha).2

/-! ## Records stay -/

theorem call_recorded {key : String} {record : PaasIdempotencyRecord}
    (h : call.state.idempotency.get? key = some record) :
    (call.after rt intent).idempotency.get? key = some record := by
  cases hk : call.command.key with
  | none =>
    rw [(call_unkeyed hk).1]
    exact h
  | some p =>
    obtain ⟨tenantId, idempotencyKey⟩ := p
    by_cases hc : Changes rt intent call
    · have hkeyed := call_keyed hk hc
      obtain ⟨written, hw, -⟩ := hkeyed.record
      -- the key it writes had no record
      have hne : key ≠ stateKey rt [tenantId, idempotencyKey] := by
        rintro rfl
        rw [hkeyed.fresh] at h
        cases h
      rw [hw, Record.get?_set_ne hne]
      exact h
    · rw [show call.after rt intent = call.state from not_not.1 hc]
      exact h

theorem call_redeemed {key : String} (h : (call.state.redeemedCapabilities.get? key).isSome = true) :
    ((call.after rt intent).redeemedCapabilities.get? key).isSome = true := by
  cases hk : call.command.key with
  | none =>
    rw [(call_unkeyed hk).2]
    exact h
  | some p =>
    obtain ⟨tenantId, idempotencyKey⟩ := p
    by_cases hc : Changes rt intent call
    · have hkeyed := call_keyed hk hc
      cases hcap : truthy call.command.capability with
      | none =>
        rw [hkeyed.kept hcap]
        exact h
      | some capabilityId =>
        obtain ⟨redemption, hr⟩ := hkeyed.redeemed capabilityId hcap
        rw [hr, Record.get?_set]
        split
        · rfl
        · exact h
    · rw [show call.after rt intent = call.state from not_not.1 hc]
      exact h

/-- A record stays in every run. -/
theorem run_recorded (hr : Run (CallStep rt intent) m h s) {key : String} {record : PaasIdempotencyRecord}
    (hrec : m.idempotency.get? key = some record) : s.idempotency.get? key = some record := by
  refine hr.invariant (I := fun s => s.idempotency.get? key = some record) hrec ?_
  rintro s call t hs ⟨rfl, rfl⟩
  exact call_recorded hs

/-- A capability stays redeemed in every run. -/
theorem run_redeemed (hr : Run (CallStep rt intent) m h s) {key : String}
    (hrec : (m.redeemedCapabilities.get? key).isSome = true) : (s.redeemedCapabilities.get? key).isSome = true := by
  refine hr.invariant (I := fun s => (s.redeemedCapabilities.get? key).isSome = true) hrec ?_
  rintro s call t hs ⟨rfl, rfl⟩
  exact call_redeemed hs

/-! ## Answers -/

theorem enqueue_answer {command : PaasEnqueueJobCommand} (hcheck : stateInvariantError rt s intent = none)
    (hauth : Authorized intent s (.enqueue command)) {existing : PaasIdempotencyRecord}
    (hrec : s.idempotency.get? (stateKey rt [command.tenantId, command.idempotencyKey]) = some existing) :
    enqueuePaasJob rt s intent command =
      if existing.action = .enqueue ∧ existing.fingerprint = enqueueFingerprint rt command then
        deduplicated s existing.jobId
      else rejected s .idempotencyConflict := by
  obtain ⟨hvalid, hknown, hbinds⟩ := hauth
  obtain ⟨tenant, ht⟩ := Option.isSome_iff_exists.1 hknown
  unfold enqueuePaasJob
  rw [hcheck, hvalid, ht]
  unfold PaasEnqueueJobCommand.binds at hbinds
  simp only [hbinds, hrec]
  rfl

theorem cancel_answer {command : PaasCancelJobCommand} (hcheck : stateInvariantError rt s intent = none)
    {current : PaasControlJob} (hfound : s.jobs.get? command.jobId = some current)
    (hauth : Authorized intent s (.cancel command)) {existing : PaasIdempotencyRecord}
    (hrec : s.idempotency.get? (stateKey rt [command.tenantId, command.idempotencyKey]) = some existing) :
    cancelPaasJob rt s intent command =
      if existing.action = .cancel ∧ existing.fingerprint = cancelFingerprint rt command current then
        deduplicated s command.jobId
      else rejected s .idempotencyConflict := by
  obtain ⟨current', hfound', htenant, hepoch, hkey, hcreated, hbinds⟩ := hauth
  obtain rfl := Option.some.inj (hfound.symm.trans hfound')
  have hid := (stateInvariantError_none.1 hcheck).1.records.key_eq hfound
  unfold cancelPaasJob
  unfold PaasCancelJobCommand.binds at hbinds
  rw [hcheck, hfound]
  simp only [Option.filter_some, htenant, beq_self_eq_true, if_true, hepoch, hkey, hbinds, hrec,
    decide_eq_false (not_lt.2 hcreated), ← hid]
  rfl

/-- The text whose hash is the fingerprint of a cancellation. -/
def cancelText (command : PaasCancelJobCommand) (job : PaasControlJob) : String :=
  jsonStringify (.object [("action", .string "cancel"), ("tenantId", .string command.tenantId),
    ("jobId", .string command.jobId), ("resource", .string job.resource)])

/-- What the cancellations of a run are hashed from. -/
def cancelTexts (h : List PaasCall) : Set String :=
  {text | ∃ call ∈ h, ∃ command job, call.command = .cancel command ∧
    call.state.jobs.get? command.jobId = some job ∧ text = cancelText command job}

/-- The fingerprint of a cancellation names its job. -/
theorem cancelText_jobId {command command' : PaasCancelJobCommand} {job job' : PaasControlJob}
    (h : cancelText command job = cancelText command' job') : command.jobId = command'.jobId := by
  have htext := object_member_text _ (by simp [isJson, isJsonEntries]) (by simp [isJson, isJsonEntries])
    (String.ofList_injective h) (by simp) (k := "jobId") (v := .string command.jobId) (w := .string command'.jobId)
    (by simp) (by simp) (by simp)
  rw [textWith, textWith] at htext
  exact quoteChars_injective htext

/-! ## Runs -/

/-- The command has the action and the fingerprint of an earlier call. -/
def Repeats (rt : Runtime) (first call : PaasCall) : Prop :=
  call.command.action = first.command.action ∧
    call.command.fingerprint rt call.state = first.command.fingerprint rt first.state

theorem key_capability {capabilityId : String} (hcap : call.command.capability = some capabilityId) :
    ∃ tenantId idempotencyKey, call.command.key = some (tenantId, idempotencyKey) := by
  obtain ⟨s, c⟩ := call
  cases c with
  | enqueue command => exact ⟨_, _, rfl⟩
  | cancel command => exact ⟨_, _, rfl⟩
  | _ => cases hcap

/-- **How a record answers** an authorized command with its key. -/
theorem keyed_answer {first : PaasCall} {tenantId idempotencyKey : String} {record : PaasIdempotencyRecord}
    (hfirst : Recorded rt first tenantId idempotencyKey record)
    (hk : call.command.key = some (tenantId, idempotencyKey))
    (hrec : call.state.idempotency.get? (stateKey rt [tenantId, idempotencyKey]) = some record)
    (hcheck : stateInvariantError rt call.state intent = none) (hauth : Authorized intent call.state call.command)
    (hcf : rt.CollisionFreeOn (cancelTexts [first, call])) :
    (Repeats rt first call → ∃ jobId, first.command.jobId = some jobId ∧
        call.transition rt intent = deduplicated call.state jobId) ∧
      (¬ Repeats rt first call → call.transition rt intent = rejected call.state .idempotencyConflict) := by
  obtain ⟨s, c⟩ := call
  cases c with
  | enqueue command =>
    obtain ⟨rfl, rfl⟩ := Prod.mk.inj (Option.some.inj hk)
    have hanswer := enqueue_answer hcheck hauth hrec
    have hiff : Repeats rt first ⟨s, .enqueue command⟩ ↔
        record.action = .enqueue ∧ record.fingerprint = enqueueFingerprint rt command := by
      unfold Repeats
      rw [hfirst.action, hfirst.fingerprint]
      exact and_congr (Option.some_inj.trans eq_comm) (Option.some_inj.trans eq_comm)
    exact ⟨fun h => ⟨record.jobId, hfirst.jobId, hanswer.trans (if_pos (hiff.1 h))⟩,
      fun h => hanswer.trans (if_neg (mt hiff.2 h))⟩
  | cancel command =>
    obtain ⟨rfl, rfl⟩ := Prod.mk.inj (Option.some.inj hk)
    obtain ⟨current, hfound, -⟩ := id hauth
    have hanswer := cancel_answer hcheck hfound hauth hrec
    have hfingerprint : (PaasCommand.cancel command).fingerprint rt s = some (cancelFingerprint rt command current) :=
      congrArg (Option.map (cancelFingerprint rt command)) hfound
    have hiff : Repeats rt first ⟨s, .cancel command⟩ ↔
        record.action = .cancel ∧ record.fingerprint = cancelFingerprint rt command current := by
      unfold Repeats
      rw [hfirst.action, hfirst.fingerprint, hfingerprint]
      exact and_congr (Option.some_inj.trans eq_comm) (Option.some_inj.trans eq_comm)
    refine ⟨?_, fun h => hanswer.trans (if_neg (mt hiff.2 h))⟩
    intro h
    refine ⟨command.jobId, ?_, hanswer.trans (if_pos (hiff.1 h))⟩
    -- the first command was a cancellation, and its fingerprint names the same job
    obtain ⟨m, c⟩ := first
    have haction := hfirst.action
    rw [(hiff.1 h).1] at haction
    cases c with
    | cancel earlier =>
      have hearlier := hfirst.fingerprint
      rw [(hiff.1 h).2] at hearlier
      obtain ⟨job, hjob, hsame⟩ := Option.map_eq_some_iff.1 hearlier
      have htext : cancelText earlier job = cancelText command current :=
        hcf ⟨_, List.mem_cons_self, earlier, job, rfl, hjob, rfl⟩
          ⟨_, List.mem_cons_of_mem _ List.mem_cons_self, command, current, rfl, hfound, rfl⟩ hsame
      exact congrArg some (cancelText_jobId htext)
    | _ => cases haction
  | _ => cases hk

theorem cancelTexts_mono {h' : List PaasCall} (hsub : h ⊆ h') : cancelTexts h ⊆ cancelTexts h' := by
  rintro text ⟨call, hmem, hcommand⟩
  exact ⟨call, hsub hmem, hcommand⟩

/-- **A key and a capability accompany one change of state**: no later command with the key changes
it, but is answered with the job of the first or with a conflict; and no later command that redeems
the same capability changes it. -/
theorem run_idempotent (rt : Runtime) (intent : PaasSecurityIntent) {before rest : List PaasCall} {first : PaasCall}
    {s : PaasControlState} (hr : CallRun rt intent (before ++ first :: rest) s)
    (hcf : rt.CollisionFreeOn (cancelTexts (first :: rest))) {tenantId idempotencyKey : String}
    (hk : first.command.key = some (tenantId, idempotencyKey)) (hc : Changes rt intent first) :
    (∀ later ∈ rest, later.command.key = some (tenantId, idempotencyKey) → ¬ Changes rt intent later ∧
      (Authorized intent later.state later.command → stateInvariantError rt later.state intent = none →
        (Repeats rt first later → ∃ jobId, first.command.jobId = some jobId ∧
          later.transition rt intent = deduplicated later.state jobId) ∧
        (¬ Repeats rt first later →
          later.transition rt intent = rejected later.state .idempotencyConflict))) ∧
    ∀ later ∈ rest, ∀ capabilityId, capabilityId ≠ "" → first.command.capability = some capabilityId →
      later.command.capability = some capabilityId → ¬ Changes rt intent later := by
  have hfirst := call_keyed hk hc
  -- every later call finds what the first one has left
  have hlater : ∀ later ∈ rest, ∃ h, Run (CallStep rt intent) (first.after rt intent) h later.state := by
    intro later hmem
    obtain ⟨l, l', rfl⟩ := List.append_of_mem hmem
    obtain ⟨m, m', -, ⟨rfl, rfl⟩, hrest⟩ := hr.step_at
    obtain ⟨m, m', hmid, ⟨rfl, -⟩, -⟩ := hrest.step_at
    exact ⟨l, hmid⟩
  constructor
  · intro later hmem hkey
    obtain ⟨h, hrun⟩ := hlater later hmem
    obtain ⟨record, hwritten, hrecorded⟩ := hfirst.record
    have hrec : later.state.idempotency.get? (stateKey rt [tenantId, idempotencyKey]) = some record :=
      run_recorded hrun (by rw [hwritten, Record.get?_set_self])
    refine ⟨?_, ?_⟩
    · intro hchanges
      have hfresh := (call_keyed hkey hchanges).fresh
      rw [hrec] at hfresh
      cases hfresh
    · intro hauth hcheck
      refine keyed_answer hrecorded hkey hrec hcheck hauth (hcf.mono (cancelTexts_mono ?_))
      intro call hcall
      rcases List.mem_cons.1 hcall with rfl | hcall
      · exact List.mem_cons_self
      · rw [List.mem_singleton.1 hcall]
        exact List.mem_cons_of_mem _ hmem
  · intro later hmem capabilityId hne hcap hcap' hchanges
    obtain ⟨h, hrun⟩ := hlater later hmem
    obtain ⟨redemption, hwritten⟩ := hfirst.redeemed capabilityId (truthy_some.2 ⟨hcap, hne⟩)
    have hredeemed : (later.state.redeemedCapabilities.get? (stateKey rt [capabilityId])).isSome = true :=
      run_redeemed hrun (by rw [hwritten, Record.get?_set_self]; rfl)
    obtain ⟨tenantId', idempotencyKey', hkey⟩ := key_capability hcap'
    have hunredeemed := (call_keyed hkey hchanges).unredeemed
    rw [truthy_some.2 ⟨hcap', hne⟩, isRedeemed, Option.any_some, hredeemed] at hunredeemed
    cases hunredeemed

/-! ## Samples -/

/-- The sample command is sent again with another revision. -/
def repeatedEnqueue : PaasEnqueueJobCommand := { sampleEnqueue with expectedRevision := 7 }

/-- The revision that a client expects is no part of a fingerprint. -/
theorem enqueueFingerprint_revision (command : PaasEnqueueJobCommand) (expectedRevision : ℤ) :
    enqueueFingerprint rt { command with expectedRevision } = enqueueFingerprint rt command := rfl

theorem first_run : CallRun sampleRuntime sampleIntent [⟨createPaasControlState sampleIntent, .enqueue sampleEnqueue⟩]
    sampleQueued := CallRun.send Run.start (.enqueue sampleEnqueue)

theorem first_changes : Changes sampleRuntime sampleIntent
    ⟨createPaasControlState sampleIntent, .enqueue sampleEnqueue⟩ := by
  show sampleQueued ≠ createPaasControlState sampleIntent
  decide +kernel

/-- `run_idempotent` on the repeated command. -/
theorem run_idempotent_repeated : ¬ Changes sampleRuntime sampleIntent ⟨sampleQueued, .enqueue repeatedEnqueue⟩ ∧
    ∃ jobId, (PaasCommand.enqueue sampleEnqueue).jobId = some jobId ∧
      PaasCall.transition sampleRuntime sampleIntent ⟨sampleQueued, .enqueue repeatedEnqueue⟩ =
        deduplicated sampleQueued jobId := by
  have hrun : CallRun sampleRuntime sampleIntent
      ([] ++ ⟨createPaasControlState sampleIntent, .enqueue sampleEnqueue⟩ :: [⟨sampleQueued, .enqueue repeatedEnqueue⟩])
      (enqueuePaasJob sampleRuntime sampleQueued sampleIntent repeatedEnqueue).state :=
    first_run.send (.enqueue repeatedEnqueue)
  have hcf : sampleRuntime.CollisionFreeOn (cancelTexts
      (⟨createPaasControlState sampleIntent, .enqueue sampleEnqueue⟩ :: [⟨sampleQueued, .enqueue repeatedEnqueue⟩])) := by
    rintro text ⟨call, hcall, command, -, hc, -⟩
    simp only [List.mem_cons, List.not_mem_nil, or_false] at hcall
    rcases hcall with rfl | rfl <;> cases hc
  obtain ⟨hkeyed, -⟩ := run_idempotent sampleRuntime sampleIntent hrun hcf rfl first_changes
  obtain ⟨hsame, hanswer⟩ := hkeyed _ List.mem_cons_self rfl
  dsimp only at hanswer
  have hauth : Authorized sampleIntent sampleQueued (.enqueue repeatedEnqueue) := by
    show validEnqueueCommand _ = true ∧ (sampleIntent.find _).isSome = true ∧ PaasEnqueueJobCommand.binds _ = true
    decide +kernel
  have hcheck : stateInvariantError sampleRuntime sampleQueued sampleIntent = none := by decide +kernel
  have hrepeats : Repeats sampleRuntime ⟨createPaasControlState sampleIntent, .enqueue sampleEnqueue⟩
      ⟨sampleQueued, .enqueue repeatedEnqueue⟩ := ⟨rfl, congrArg some (enqueueFingerprint_revision sampleEnqueue 7)⟩
  exact ⟨hsame, (hanswer hauth hcheck).1 hrepeats⟩

/-- The command with a capability to redeem. -/
def PaasEnqueueJobCommand.redeeming (command : PaasEnqueueJobCommand) (capabilityId : String) : PaasEnqueueJobCommand :=
  { command with
    authorization := { command.authorization with
      capabilityToRedeem := some capabilityId
      audit := { command.authorization.audit with capabilityId := some capabilityId } } }

/-- Two commands with the empty capability. -/
def emptyCapabilityCalls : List PaasCall :=
  callsFrom rollbackRuntime sampleIntent (createPaasControlState sampleIntent)
    [.enqueue ((sampleDeployment .deploy 0 1000 "job-1" "key-1" digestA).redeeming ""),
      .enqueue ((sampleDeployment .deploy 1 1030 "job-2" "key-2" digestB).redeeming "")]

/-- A repeated command is not deduplicated on a state that an early start has wedged, and the
capability `""` accompanies two changes of state. -/
theorem repeat_unanswered : (∃ s, CallRun sampleRuntime sampleIntent
      [⟨createPaasControlState sampleIntent, .enqueue sampleEnqueue⟩, ⟨sampleQueued, .schedule (sampleSchedule 500)⟩,
        ⟨sampleStarted 500, .enqueue sampleEnqueue⟩] s) ∧
    Changes sampleRuntime sampleIntent ⟨createPaasControlState sampleIntent, .enqueue sampleEnqueue⟩ ∧
    Authorized sampleIntent (sampleStarted 500) (.enqueue sampleEnqueue) ∧
    (enqueuePaasJob sampleRuntime (sampleStarted 500) sampleIntent sampleEnqueue).code = .stateInvariantViolation ∧
    (∃ s, CallRun rollbackRuntime sampleIntent emptyCapabilityCalls s) ∧ emptyCapabilityCalls.length = 2 ∧
    ∀ call ∈ emptyCapabilityCalls, call.command.capability = some "" ∧ Changes rollbackRuntime sampleIntent call := by
  refine ⟨?_, first_changes, ?_, ?_, ⟨_, callsFrom_run ..⟩, rfl, ?_⟩
  · have hstarted : CallRun sampleRuntime sampleIntent
        [⟨createPaasControlState sampleIntent, .enqueue sampleEnqueue⟩, ⟨sampleQueued, .schedule (sampleSchedule 500)⟩]
        (sampleStarted 500) := first_run.send (.schedule (sampleSchedule 500))
    exact ⟨_, hstarted.send (.enqueue sampleEnqueue)⟩
  · show validEnqueueCommand _ = true ∧ (sampleIntent.find _).isSome = true ∧ PaasEnqueueJobCommand.binds _ = true
    decide +kernel
  · decide +kernel
  · show ∀ call ∈ emptyCapabilityCalls, call.command.capability = some "" ∧
      call.after rollbackRuntime sampleIntent ≠ call.state
    decide +kernel

end SecureSaas.Paas