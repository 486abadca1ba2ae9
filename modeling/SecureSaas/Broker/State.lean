import SecureSaas.Broker.Parse
import Mathlib.Data.List.Dedup

/-!
# The broker state and its check

* `assertResourceBrokerState_ok`: the check passes exactly on the states `StateOk` describes.
* `mem_upsertClaim`: an upsert replaces one claim and keeps the others.
-/

namespace SecureSaas.Broker

open Js

/-! ## The check -/

/-- `Boolean(text)` of an optional string. -/
def truthy (text : Option String) : Bool :=
  match text with
  | some s => s != ""
  | none => false

/-- The checks of one claim that the loop of `assertResourceBrokerState` makes after parsing it. -/
def assertClaim (claim : ResourceClaimState) : Except String Unit := do
  throwUnless (decide (claim.observedGeneration ≤ claim.generation))
    ("Resource claim '" ++ claim.claimId ++ "' observed a future generation.")
  throwUnless (!(([ResourceClaimPhase.reconciling, .cancelling].contains claim.phase && claim.lease.isNone) ||
      (claim.lease.isSome &&
        !([ResourceClaimPhase.reconciling, .cancelling, .deleting].contains claim.phase))))
    ("Resource claim '" ++ claim.claimId ++ "' has inconsistent lease state.")
  throwUnless (!(claim.phase == .available && (claim.observedGeneration != claim.generation ||
      !truthy claim.providerResourceRef || claim.outputs.length == 0)))
    ("Available resource claim '" ++ claim.claimId ++ "' lacks current observed state.")
  throwUnless (!(claim.phase == .deleted && claim.outputs.length != 0))
    ("Deleted resource claim '" ++ claim.claimId ++ "' retains outputs.")
  validateOutputs claim.outputs

/-- The loop over the claims, from position `index` on, with the claim ids seen so far. -/
def assertClaimsFrom : ℕ → List String → List ResourceClaimState → Except String Unit
  | _, _, [] => .ok ()
  | index, claimIds, rawClaim :: rest => do
    let claim ← parseClaimState rawClaim.toValue s!"resourceBrokerState.claims[{index}]"
    throwUnless (!claimIds.contains claim.claimId) ("Resource claim '" ++ claim.claimId ++ "' is duplicated.")
    assertClaim claim
    assertClaimsFrom (index + 1) (claimIds ++ [claim.claimId]) rest

def recordKey (r : ResourceBrokerIdempotencyRecord) : String :=
  r.tenantId ++ "/" ++ r.operation.text ++ "/" ++ r.claimId ++ "/" ++ r.key

/-- The loop over the idempotency records, with the record keys seen so far. -/
def assertRecordsFrom (redeemedCapabilityIds : List String) :
    ℕ → List String → List ResourceBrokerIdempotencyRecord → Except String Unit
  | _, _, [] => .ok ()
  | index, recordKeys, rawRecord :: rest => do
    let record ← parseIdempotencyRecord rawRecord.toValue
      s!"resourceBrokerState.idempotencyRecords[{index}]"
    throwUnless (!recordKeys.contains (recordKey record))
      ("Resource broker idempotency record '" ++ recordKey record ++ "' is duplicated.")
    throwUnless (redeemedCapabilityIds.contains record.capabilityId)
      ("Resource broker idempotency record '" ++ recordKey record ++ "' has no redeemed capability.")
    assertRecordsFrom redeemedCapabilityIds (index + 1) (recordKeys ++ [recordKey record]) rest

def assertResourceBrokerState (state : ResourceBrokerState) : Except String Unit := do
  assertClaimsFrom 0 [] state.claims
  assertRecordsFrom state.redeemedCapabilityIds 0 [] state.idempotencyRecords
  let ids ← uniqueIdentifiers (strings state.redeemedCapabilityIds) "resourceBrokerState.redeemedCapabilityIds"
  throwUnless (ids.dedup.length == state.redeemedCapabilityIds.length)
    "Resource broker capability redemption is duplicated."

/-! ## What it accepts -/

structure ClaimOk (c : ResourceClaimState) : Prop where
  wellFormed : c.WellFormed
  observed_le : c.observedGeneration ≤ c.generation
  lease_held : c.phase = .reconciling ∨ c.phase = .cancelling → c.lease.isSome = true
  lease_phase : c.lease.isSome = true → c.phase = .reconciling ∨ c.phase = .cancelling ∨ c.phase = .deleting
  available : c.phase = .available → c.observedGeneration = c.generation ∧
    truthy c.providerResourceRef = true ∧ c.outputs ≠ []
  deleted : c.phase = .deleted → c.outputs = []
  outputs : validateOutputs c.outputs = .ok ()

structure StateOk (s : ResourceBrokerState) : Prop where
  claims : ∀ c ∈ s.claims, ClaimOk c
  claims_nodup : (s.claims.map fun c => c.claimId).Nodup
  records : ∀ r ∈ s.idempotencyRecords, r.WellFormed
  records_nodup : (s.idempotencyRecords.map recordKey).Nodup
  redeemed : ∀ r ∈ s.idempotencyRecords, r.capabilityId ∈ s.redeemedCapabilityIds
  capabilities : ∀ id ∈ s.redeemedCapabilityIds, isIdentifier id = true
  capabilities_nodup : s.redeemedCapabilityIds.Nodup

theorem assertClaim_ok {c : ResourceClaimState} (hw : c.WellFormed) :
    assertClaim c = .ok () ↔ ClaimOk c := by
  have hlease : (!(([ResourceClaimPhase.reconciling, .cancelling].contains c.phase && c.lease.isNone) ||
      (c.lease.isSome && !([ResourceClaimPhase.reconciling, .cancelling, .deleting].contains c.phase)))) = true ↔
      (c.phase = .reconciling ∨ c.phase = .cancelling → c.lease.isSome = true) ∧
      (c.lease.isSome = true → c.phase = .reconciling ∨ c.phase = .cancelling ∨ c.phase = .deleting) := by
    rw [← Option.not_isSome]
    generalize c.lease.isSome = held
    cases held <;> cases c.phase <;> decide
  have havailable : (!(c.phase == .available && (c.observedGeneration != c.generation ||
      !truthy c.providerResourceRef || c.outputs.length == 0))) = true ↔
      (c.phase = .available → c.observedGeneration = c.generation ∧
        truthy c.providerResourceRef = true ∧ c.outputs ≠ []) := by
    by_cases hp : c.phase = .available
    · simp [hp, and_assoc]
    · simp [hp]
  have hdeleted : (!(c.phase == .deleted && c.outputs.length != 0)) = true ↔
      (c.phase = .deleted → c.outputs = []) := by
    by_cases hp : c.phase = .deleted
    · simp [hp]
    · simp [hp]
  unfold assertClaim
  simp only [bind_ok, throwUnless_ok, exists_unit, hlease, havailable, hdeleted, decide_eq_true_eq]
  constructor
  · rintro ⟨h1, ⟨h2, h3⟩, h4, h5, h6⟩
    exact ⟨hw, h1, h2, h3, h4, h5, h6⟩
  · intro h
    exact ⟨h.observed_le, ⟨h.lease_held, h.lease_phase⟩, h.available, h.deleted, h.outputs⟩

/-- An item is new when it is none of those seen, and the rest then avoids it too. -/
theorem fresh_cons {α : Type} {f : α → String} {a : α} {rest : List α} {seen : List String} :
    (f a ∉ seen ∧ (rest.map f).Nodup ∧ ∀ b ∈ rest, f b ∉ seen ++ [f a]) ↔
      ((a :: rest).map f).Nodup ∧ ∀ b ∈ a :: rest, f b ∉ seen := by
  simp only [List.map_cons, List.nodup_cons, List.mem_map, List.forall_mem_cons, List.mem_append,
    List.mem_singleton, not_or, not_exists, not_and]
  constructor
  · rintro ⟨ha, hn, hr⟩
    exact ⟨⟨fun b hb => (hr b hb).2, hn⟩, ha, fun b hb => (hr b hb).1⟩
  · rintro ⟨⟨hne, hn⟩, ha, hr⟩
    exact ⟨ha, hn, fun b hb => ⟨hr b hb, hne b hb⟩⟩

theorem assertClaimsFrom_ok {claims : List ResourceClaimState} {index : ℕ} {claimIds : List String} :
    assertClaimsFrom index claimIds claims = .ok () ↔ (∀ c ∈ claims, ClaimOk c) ∧
      (claims.map fun c => c.claimId).Nodup ∧ ∀ c ∈ claims, c.claimId ∉ claimIds := by
  induction claims generalizing index claimIds with
  | nil => simp [assertClaimsFrom]
  | cons c rest ih =>
    rw [← fresh_cons (f := fun c : ResourceClaimState => c.claimId), List.forall_mem_cons]
    simp only [assertClaimsFrom, bind_ok, throwUnless_ok, parseClaimState_toValue, exists_unit, and_assoc,
      exists_eq_left, ih, Bool.not_eq_true', List.contains_eq_mem, decide_eq_false_iff_not]
    constructor
    · rintro ⟨hw, hnew, hc, hr, hn, hseen⟩
      exact ⟨(assertClaim_ok hw).1 hc, hr, hnew, hn, hseen⟩
    · rintro ⟨hc, hr, hnew, hn, hseen⟩
      exact ⟨hc.wellFormed, hnew, (assertClaim_ok hc.wellFormed).2 hc, hr, hn, hseen⟩

theorem assertRecordsFrom_ok {redeemed : List String} {records : List ResourceBrokerIdempotencyRecord}
    {index : ℕ} {recordKeys : List String} :
    assertRecordsFrom redeemed index recordKeys records = .ok () ↔
      (∀ r ∈ records, r.WellFormed ∧ r.capabilityId ∈ redeemed) ∧
      (records.map recordKey).Nodup ∧ ∀ r ∈ records, recordKey r ∉ recordKeys := by
  induction records generalizing index recordKeys with
  | nil => simp [assertRecordsFrom]
  | cons r rest ih =>
    rw [← fresh_cons (f := recordKey), List.forall_mem_cons]
    simp only [assertRecordsFrom, bind_ok, throwUnless_ok, parseIdempotencyRecord_toValue, exists_unit,
      and_assoc, exists_eq_left, ih, Bool.not_eq_true', List.contains_eq_mem, decide_eq_false_iff_not,
      decide_eq_true_eq]
    constructor
    · rintro ⟨hw, hnew, hc, hr, hn, hseen⟩
      exact ⟨hw, hc, hr, hnew, hn, hseen⟩
    · rintro ⟨hw, hc, hr, hnew, hn, hseen⟩
      exact ⟨hw, hnew, hc, hr, hn, hseen⟩

/-- **The check accepts exactly the states `StateOk` describes.** -/
theorem assertResourceBrokerState_ok {s : ResourceBrokerState} :
    assertResourceBrokerState s = .ok () ↔ StateOk s := by
  unfold assertResourceBrokerState
  simp only [bind_ok, exists_unit, assertClaimsFrom_ok, assertRecordsFrom_ok, uniqueIdentifiers_strings,
    and_assoc, exists_eq_left, throwUnless_ok, beq_iff_eq]
  constructor
  · rintro ⟨hc, hcn, -, hr, hrn, -, hi, hin, -⟩
    exact ⟨hc, hcn, fun r h => (hr r h).1, hrn, fun r h => (hr r h).2, hi, hin⟩
  · intro h
    refine ⟨h.claims, h.claims_nodup, by simp, fun r hr => ⟨h.records r hr, h.redeemed r hr⟩,
      h.records_nodup, by simp, h.capabilities, h.capabilities_nodup, ?_⟩
    rw [h.capabilities_nodup.dedup]

theorem createResourceBrokerState_ok : StateOk createResourceBrokerState where
  claims _ h := absurd h List.not_mem_nil
  claims_nodup := List.nodup_nil
  records _ h := absurd h List.not_mem_nil
  records_nodup := List.nodup_nil
  redeemed _ h := absurd h List.not_mem_nil
  capabilities _ h := absurd h List.not_mem_nil
  capabilities_nodup := List.nodup_nil

/-! ## Claims in a state -/

def findClaim (state : ResourceBrokerState) (claimId : String) : Option ResourceClaimState :=
  state.claims.find? fun candidate => candidate.claimId == claimId

def requireClaim (state : ResourceBrokerState) (claimId : String) : Except String ResourceClaimState :=
  match findClaim state claimId with
  | some claim => .ok claim
  | none => .error ("Resource claim '" ++ claimId ++ "' does not exist.")

def upsertClaim (rt : Runtime) (claims : List ResourceClaimState) (claim : ResourceClaimState) :
    List ResourceClaimState :=
  rt.sortByKey (fun c => c.claimId) (claims.filter (fun candidate => candidate.claimId != claim.claimId) ++ [claim])

theorem requireClaim_ok {s : ResourceBrokerState} {claimId : String} {c : ResourceClaimState} :
    requireClaim s claimId = .ok c ↔ findClaim s claimId = some c := by
  unfold requireClaim
  cases findClaim s claimId <;> simp

theorem findClaim_mem {s : ResourceBrokerState} {claimId : String} {c : ResourceClaimState}
    (h : findClaim s claimId = some c) : c ∈ s.claims ∧ c.claimId = claimId :=
  ⟨List.mem_of_find?_eq_some h, by simpa using List.find?_some h⟩

theorem mem_upsertClaim {rt : Runtime} {claims : List ResourceClaimState} {claim c : ResourceClaimState} :
    c ∈ upsertClaim rt claims claim ↔ c = claim ∨ (c ∈ claims ∧ c.claimId ≠ claim.claimId) := by
  unfold upsertClaim
  rw [Runtime.mem_sortByKey, List.mem_append, List.mem_filter, List.mem_singleton, bne_iff_ne, or_comm]

/-- Claims are told apart by their ids. -/
theorem StateOk.findClaim_iff {s : ResourceBrokerState} (hs : StateOk s) {claimId : String}
    {c : ResourceClaimState} : findClaim s claimId = some c ↔ c ∈ s.claims ∧ c.claimId = claimId := by
  refine ⟨findClaim_mem, fun ⟨hm, hid⟩ => ?_⟩
  cases hf : findClaim s claimId with
  | none => exact absurd (List.find?_eq_none.1 hf c hm) (by simp [hid])
  | some d =>
    obtain ⟨hd, hdid⟩ := findClaim_mem hf
    rw [List.inj_on_of_nodup_map hs.claims_nodup hd hm (hdid.trans hid.symm)]

theorem upsertClaim_nodup {rt : Runtime} {claims : List ResourceClaimState} {claim : ResourceClaimState}
    (h : (claims.map fun c => c.claimId).Nodup) :
    ((upsertClaim rt claims claim).map fun c => c.claimId).Nodup := by
  unfold upsertClaim
  rw [((rt.sortByKey_perm _ _).map _).nodup_iff, List.map_append, List.nodup_append]
  refine ⟨h.sublist (List.filter_sublist.map _), List.nodup_singleton _, fun a ha b hb => ?_⟩
  obtain ⟨c, hc, rfl⟩ := List.mem_map.1 ha
  obtain rfl := List.mem_singleton.1 hb
  exact bne_iff_ne.1 (List.mem_filter.1 hc).2

end SecureSaas.Broker
