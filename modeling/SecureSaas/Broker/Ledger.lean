import SecureSaas.Broker.Commit
import Mathlib.Logic.Function.Basic

/-!
# The ledger of mutations

Clients send calls against the revision they read last, and the store takes the state of every
call that succeeds. The idempotency records and the redeemed capabilities of the store are the
list of committed mutations, in order.

* `BrokerStep.ledger_cases`: a step leaves the ledger alone or adds one mutation at its end.
* `run_ledgered`: so the ledger is the history of the run.
* `exactly_once`: no key and no capability commits twice, whatever the clients retry.
-/

namespace SecureSaas.Broker

open Js

variable {rt : Runtime} {s s' : ResourceBrokerState} {h : List BrokerLabel}

/-! ## Committed mutations -/

/-- A committed mutation, with the revision it produced. -/
structure Mutation where
  operation : BrokerMutationOperation
  context : BrokerMutationContext
  revision : ℤ

/-- What an idempotency key stands for: the tenant, the operation, the claim and the key. -/
def Mutation.key (m : Mutation) : String × BrokerMutationOperation × String × String :=
  (m.context.tenantId, m.operation, m.context.resourceId, m.context.idempotencyKey)

def Mutation.capabilityId (m : Mutation) : String := m.context.capabilityId

/-- The mutation a call committed; a replay commits none. -/
def BrokerLabel.committed (l : BrokerLabel) : Option Mutation :=
  match l.call.mutation with
  | some (operation, context) =>
    if l.transition.replayed then none else some ⟨operation, context, l.transition.state.revision⟩
  | none => none

def mutations (h : List BrokerLabel) : List Mutation := h.filterMap BrokerLabel.committed

@[simp] theorem mutations_snoc (h : List BrokerLabel) (l : BrokerLabel) :
    mutations (h ++ [l]) = mutations h ++ l.committed.toList := by
  unfold mutations
  rw [List.filterMap_append]
  cases hl : l.committed <;> simp [hl]

/-- The record of a mutation, but for the digest of its payload. -/
def Mutation.record (m : Mutation) : ResourceBrokerIdempotencyRecord := mutationRecord m.context "" m.revision

def undigested (r : ResourceBrokerIdempotencyRecord) : ResourceBrokerIdempotencyRecord :=
  { r with payloadDigest := "" }

/-! ## The ledger is the history -/

/-- **A step leaves the ledger alone or adds one mutation at its end.** -/
theorem BrokerStep.ledger_cases {l : BrokerLabel} (hstep : BrokerStep rt s l s') :
    (l.committed = none ∧ s'.idempotencyRecords = s.idempotencyRecords ∧
      s'.redeemedCapabilityIds = s.redeemedCapabilityIds ∧ s.revision ≤ s'.revision) ∨
    ∃ m payloadDigest, l.committed = some m ∧ m.context.operation = m.operation ∧
      m.revision = s.revision + 1 ∧ s'.revision = s.revision + 1 ∧
      s'.redeemedCapabilityIds = s.redeemedCapabilityIds ++ [m.capabilityId] ∧
      s'.idempotencyRecords = s.idempotencyRecords ++ [mutationRecord m.context payloadDigest m.revision] := by
  obtain ⟨hexec, rfl⟩ := hstep
  obtain ⟨-, -, hrep | ⟨claim, hcom⟩⟩ := exec_cases hexec
  · left
    obtain ⟨operation, context, payloadDigest, c, hm, -⟩ := hrep.answered
    have hnone : l.committed = none := by simp [BrokerLabel.committed, hm, hrep.replayed]
    rw [hrep.state]
    exact ⟨hnone, rfl, rfl, le_refl _⟩
  · have hrev := hcom.revision
    cases hm : l.call.mutation with
    | none =>
      left
      obtain ⟨hrecords, hredeemed⟩ := hcom.unmutated hm
      have hnone : l.committed = none := by simp [BrokerLabel.committed, hm]
      exact ⟨hnone, hrecords, hredeemed, by omega⟩
    | some p =>
      right
      obtain ⟨operation, context⟩ := p
      obtain ⟨-, hop, -, hredeemed, payloadDigest, hrecords⟩ := hcom.mutated operation context hm
      have hsome : l.committed = some ⟨operation, context, l.transition.state.revision⟩ := by
        simp [BrokerLabel.committed, hm, hcom.replayed]
      exact ⟨_, payloadDigest, hsome, hop, hrev, hrev, hredeemed, hrecords⟩

/-- The records and the redeemed capabilities of a state are the mutations of its history. -/
structure Ledgered (h : List BrokerLabel) (s : ResourceBrokerState) : Prop where
  records : s.idempotencyRecords.map undigested = (mutations h).map Mutation.record
  redeemed : s.redeemedCapabilityIds = (mutations h).map Mutation.capabilityId
  operation : ∀ m ∈ mutations h, m.context.operation = m.operation
  ordered : (mutations h).Pairwise fun m m' => m.revision < m'.revision
  bounded : ∀ m ∈ mutations h, m.revision ≤ s.revision

theorem Ledgered.step (hl : Ledgered h s) {l : BrokerLabel} (hstep : BrokerStep rt s l s') :
    Ledgered (h ++ [l]) s' := by
  rcases hstep.ledger_cases with ⟨hnone, hrecords, hredeemed, hrev⟩ |
    ⟨m, payloadDigest, hsome, hop, hm, hrev, hredeemed, hrecords⟩
  · have hsame : mutations (h ++ [l]) = mutations h := by rw [mutations_snoc, hnone]; simp
    refine ⟨?_, ?_, ?_, ?_, ?_⟩
    · rw [hsame, hrecords, hl.records]
    · rw [hsame, hredeemed, hl.redeemed]
    · rw [hsame]; exact hl.operation
    · rw [hsame]; exact hl.ordered
    · intro m hm
      rw [hsame] at hm
      have := hl.bounded m hm
      omega
  · have hmore : mutations (h ++ [l]) = mutations h ++ [m] := by rw [mutations_snoc, hsome]; rfl
    refine ⟨?_, ?_, ?_, ?_, ?_⟩
    · rw [hmore, hrecords, List.map_append, List.map_append, hl.records]
      rfl
    · rw [hmore, hredeemed, List.map_append, hl.redeemed]
      rfl
    · rw [hmore]
      exact List.forall_mem_append.2 ⟨hl.operation, List.forall_mem_singleton.2 hop⟩
    · -- the new revision is above all earlier ones
      rw [hmore, List.pairwise_append]
      refine ⟨hl.ordered, List.pairwise_singleton _ _, ?_⟩
      intro a ha b hb
      rw [List.mem_singleton.1 hb]
      have := hl.bounded a ha
      omega
    · rw [hmore]
      refine List.forall_mem_append.2 ⟨?_, List.forall_mem_singleton.2 (by omega)⟩
      intro a ha
      have := hl.bounded a ha
      omega

theorem run_ledgered (hr : Run (BrokerStep rt) createResourceBrokerState h s) : Ledgered h s := by
  refine hr.history (I := Ledgered) ?_ ?_
  · exact ⟨rfl, rfl, fun _ hm => absurd hm List.not_mem_nil, List.Pairwise.nil,
      fun _ hm => absurd hm List.not_mem_nil⟩
  · intro h m l t _ ih hstep
    exact ih.step hstep

/-- A step keeps every record where it is. -/
theorem BrokerStep.records_extend {l : BrokerLabel} (hstep : BrokerStep rt s l s') :
    s.idempotencyRecords <+: s'.idempotencyRecords := by
  rcases hstep.ledger_cases with ⟨-, hrecords, -⟩ | ⟨m, payloadDigest, -, -, -, -, -, hrecords⟩
  · exact hrecords ▸ List.prefix_refl _
  · rw [hrecords]
    exact List.prefix_append _ _

theorem run_records_extend (hr : Run (BrokerStep rt) s h s') : s.idempotencyRecords <+: s'.idempotencyRecords :=
  hr.invariant (I := fun m => s.idempotencyRecords <+: m.idempotencyRecords) (List.prefix_refl _)
    fun _ _ _ hm hstep => hm.trans hstep.records_extend

/-! ## Clients and their store -/

/-- The stored state and the revision each client read last. -/
structure Clients (Client : Type) where
  store : ResourceBrokerState
  lastRead : Client → ℤ

/-- An empty store; nothing is assumed of what the clients believe to be its revision. -/
def Clients.start {Client : Type} (lastRead : Client → ℤ) : Clients Client := ⟨createResourceBrokerState, lastRead⟩

inductive ClientLabel (Client : Type)
  | read (client : Client)
  | accepted (client : Client) (l : BrokerLabel)
  | refused (client : Client) (call : BrokerCall) (error : String)

/-- A client reads the revision, or sends any call, an earlier one included, against the
revision it read last. -/
inductive ClientStep {Client : Type} [DecidableEq Client] (rt : Runtime) :
    Clients Client → ClientLabel Client → Clients Client → Prop
  | read (w : Clients Client) (client : Client) :
      ClientStep rt w (.read client)
        { w with lastRead := Function.update w.lastRead client w.store.revision }
  | accepted (w : Clients Client) (client : Client) (l : BrokerLabel) (store : ResourceBrokerState)
      (sent : l.expectedRevision = w.lastRead client) (step : BrokerStep rt w.store l store) :
      ClientStep rt w (.accepted client l) { w with store := store }
  | refused (w : Clients Client) (client : Client) (call : BrokerCall) (error : String)
      (failed : call.exec rt w.store (w.lastRead client) = .error error) :
      ClientStep rt w (.refused client call error) w

/-- The calls the store took. -/
def ClientLabel.steps {Client : Type} : ClientLabel Client → List BrokerLabel
  | .accepted _ l => [l]
  | _ => []

/-- **What the clients do to the store is a run of the broker.** -/
theorem client_run {Client : Type} [DecidableEq Client] {w w' : Clients Client}
    {h : List (ClientLabel Client)} (hr : Run (ClientStep rt) w h w') :
    Run (BrokerStep rt) w.store (h.flatMap ClientLabel.steps) w'.store := by
  refine hr.simulate Clients.store ClientLabel.steps ?_
  intro m l t hstep
  cases hstep with
  | read => exact Run.start
  | accepted _ _ _ _ step => exact Run.single step
  | refused => exact Run.start

/-! ## Exactly once -/

/-- Items with different values of `f` are found by it alone. -/
theorem filter_unique {α β : Type} [DecidableEq β] {f : α → β} {items : List α}
    (hn : (items.map f).Nodup) {a : α} (ha : a ∈ items) : items.filter (fun b => f b = f a) = [a] := by
  have hperm : (items.filter fun b => f b = f a).Perm [a] := by
    rw [List.perm_ext_iff_of_nodup (hn.of_map.filter _) (List.nodup_singleton a)]
    intro b
    rw [List.mem_filter, List.mem_singleton, decide_eq_true_eq]
    constructor
    · rintro ⟨hb, hf⟩
      exact List.inj_on_of_nodup_map hn hb ha hf
    · rintro rfl
      exact ⟨ha, rfl⟩
  exact List.perm_singleton.1 hperm

/-- No key and no capability is used twice, every mutation has its one record, and the records
and the redeemed capabilities stand in the same order. -/
structure ExactlyOnce (ms : List Mutation) (s : ResourceBrokerState) : Prop where
  keys : (ms.map Mutation.key).Nodup
  capabilities : (ms.map Mutation.capabilityId).Nodup
  recorded : ∀ m ∈ ms, ∃ r, undigested r = m.record ∧
    s.idempotencyRecords.filter (fun r' => r'.committedRevision = m.revision) = [r]
  bijection : s.idempotencyRecords.map (fun r => r.capabilityId) = s.redeemedCapabilityIds
  distinct : s.redeemedCapabilityIds.Nodup

theorem Ledgered.exactlyOnce (hl : Ledgered h s) (hs : StateOk s) : ExactlyOnce (mutations h) s := by
  -- a part of the records that leaves their digests out is one of the mutations
  have hpart : ∀ {β : Type} (f : ResourceBrokerIdempotencyRecord → β), (∀ r, f (undigested r) = f r) →
      s.idempotencyRecords.map f = (mutations h).map fun m => f m.record := by
    intro β f hf
    have hmap := congrArg (List.map f) hl.records
    rw [List.map_map, List.map_map] at hmap
    rw [← List.map_congr_left fun r _ => hf r]
    exact hmap
  have hrevisions : (s.idempotencyRecords.map fun r => r.committedRevision).Nodup := by
    rw [hpart (fun r => r.committedRevision) fun _ => rfl]
    exact (List.pairwise_map.2 hl.ordered).imp fun hlt => ne_of_lt hlt
  have hcapabilities := hpart (fun r => r.capabilityId) fun _ => rfl
  refine ⟨?_, ?_, ?_, ?_, hs.capabilities_nodup⟩
  · -- two mutations with one key would have records with one key
    have hkeys : ((mutations h).map fun m => recordKey m.record).Nodup := by
      rw [← hpart recordKey fun _ => rfl]
      exact hs.records_nodup
    refine List.Nodup.of_map (fun k => k.1 ++ "/" ++ k.2.1.text ++ "/" ++ k.2.2.1 ++ "/" ++ k.2.2.2) ?_
    rw [List.map_map]
    refine (List.map_congr_left ?_) ▸ hkeys
    intro m hm
    show recordKey (mutationRecord m.context "" m.revision) = _
    unfold recordKey mutationRecord
    rw [hl.operation m hm]
    rfl
  · rw [← hl.redeemed]
    exact hs.capabilities_nodup
  · intro m hm
    have hrecord : m.record ∈ s.idempotencyRecords.map undigested := by
      rw [hl.records]
      exact List.mem_map_of_mem hm
    obtain ⟨r, hr, heq⟩ := List.mem_map.1 hrecord
    have hrev : m.revision = r.committedRevision := by
      have := congrArg (fun r => r.committedRevision) heq
      exact this.symm
    refine ⟨r, heq, ?_⟩
    rw [hrev]
    exact filter_unique hrevisions hr
  · rw [hcapabilities, hl.redeemed]
    rfl

/-- **Exactly-once mutations**: in every run of any clients, each key and each capability
commits at most one mutation. Every committed mutation has exactly one record of the revision it
produced, and later states keep it. -/
theorem exactly_once (rt : Runtime) {Client : Type} [DecidableEq Client] {lastRead : Client → ℤ}
    {h : List (ClientLabel Client)} {w : Clients Client}
    (hr : Run (ClientStep rt) (Clients.start lastRead) h w) :
    ExactlyOnce (mutations (h.flatMap ClientLabel.steps)) w.store ∧
      ∀ h' w', Run (ClientStep rt) w h' w' → w.store.idempotencyRecords <+: w'.store.idempotencyRecords := by
  have hrun := client_run hr
  refine ⟨(run_ledgered hrun).exactlyOnce (run_checked hrun).1, ?_⟩
  intro h' w' hr'
  exact run_records_extend (client_run hr')

/-- `exactly_once` on two clients that send the same request against one revision: the second
is refused. -/
theorem exactly_once_conflict : ∃ l error w,
    Run (ClientStep sampleRuntime) (Clients.start fun _ : ℕ => 0)
      [.accepted 0 l, .refused 1 (.apply sampleApply sampleRequest.toValue) error] w ∧
    l.call = .apply sampleApply sampleRequest.toValue ∧ ExactlyOnce (mutations [l]) w.store := by
  obtain ⟨t, hstep⟩ := sample_applied sampleRuntime
  obtain ⟨error, herror⟩ : ∃ error, BrokerCall.exec sampleRuntime (pendingState sampleRuntime) 0
      (.apply sampleApply sampleRequest.toValue) = .error error := by
    cases hexec : BrokerCall.exec sampleRuntime (pendingState sampleRuntime) 0
        (.apply sampleApply sampleRequest.toValue) with
    | error error => exact ⟨error, rfl⟩
    | ok t =>
      have hconflict := (exec_cases hexec).2.1
      exact absurd hconflict (by decide : (1 : ℤ) ≠ 0)
  have hfirst : ClientStep sampleRuntime (Clients.start fun _ : ℕ => 0) (.accepted 0 _) _ :=
    ClientStep.accepted _ 0 _ _ rfl hstep
  have hrun := (Run.single hfirst).snoc (ClientStep.refused _ 1 _ error herror)
  exact ⟨_, error, _, hrun, rfl, (exactly_once sampleRuntime hrun).1⟩

end SecureSaas.Broker
