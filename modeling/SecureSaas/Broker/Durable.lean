import SecureSaas.Broker.Commit
import SecureSaas.Js.Wire

/-!
# The broker's state on disk

A state is stored as JSON and read back by `parseResourceBrokerState`, which checks every field
again. What the operations write is in the language of that parser.

* `parseClaimState_json`: the optional fields that JSON leaves out are read as `undefined`.
* `parseResourceBrokerState_ok`: what a parsed state is.
* `durable_round_trip`: **every reachable state, and every parsed one, is read back as it is.**
-/

namespace SecureSaas.Broker

open Js

variable {rt : Runtime} {s s' : ResourceBrokerState}

/-! ## The parser of states -/

def ResourceBrokerState.members (s : ResourceBrokerState) : List (String × Value) := [
  ("apiVersion", .string s.apiVersion),
  ("revision", int s.revision),
  ("claims", .array (s.claims.map ResourceClaimState.toValue)),
  ("idempotencyRecords", .array (s.idempotencyRecords.map ResourceBrokerIdempotencyRecord.toValue)),
  ("redeemedCapabilityIds", strings s.redeemedCapabilityIds)]

def ResourceBrokerState.toValue (s : ResourceBrokerState) : Value := .object s.members

def parseResourceBrokerState (value : Value) : Except String ResourceBrokerState := do
  let input ← exactObject value "resourceBrokerState" ["apiVersion", "revision", "claims", "idempotencyRecords",
    "redeemedCapabilityIds"]
  let apiVersion ← literal (Value.get input "apiVersion") "resourceBrokerState.apiVersion" resourceBrokerStateApiVersion
  let revision ← nonNegativeInteger (Value.get input "revision") "resourceBrokerState.revision"
  let claims ← array (Value.get input "claims") "resourceBrokerState.claims" parseClaimState
  let idempotencyRecords ← array (Value.get input "idempotencyRecords") "resourceBrokerState.idempotencyRecords"
    parseIdempotencyRecord
  let redeemedCapabilityIds ← uniqueIdentifiers (Value.get input "redeemedCapabilityIds")
    "resourceBrokerState.redeemedCapabilityIds"
  let state := { apiVersion := apiVersion, revision, claims, idempotencyRecords, redeemedCapabilityIds }
  assertResourceBrokerState state
  pure state

/-! ## What it accepts -/

/-- A state that its parser returns. -/
structure ResourceBrokerState.Parsed (s : ResourceBrokerState) : Prop where
  apiVersion : s.apiVersion = resourceBrokerStateApiVersion
  revision : 0 ≤ s.revision
  checked : StateOk s

theorem integerMatching_ok {test : ℤ → Bool} {message path : String} {v : Value} {n : ℤ}
    (h : integerMatching test message v path = .ok n) : test n = true := by
  unfold integerMatching at h
  split at h
  · split at h
    · rename_i htest
      cases h
      exact htest
    · cases h
  · cases h

theorem matching_ok {test : String → Bool} {message path t : String} {v : Value}
    (h : matching test message v path = .ok t) : test t = true := by
  unfold matching at h
  split at h
  · split at h
    · rename_i htest
      cases h
      exact htest
    · cases h
  · cases h

/-- **What is parsed has passed the check of states.** -/
theorem parseResourceBrokerState_ok {value : Value} (h : parseResourceBrokerState value = .ok s) : s.Parsed := by
  unfold parseResourceBrokerState at h
  simp only [bind_ok, pure_ok, exists_unit, assertResourceBrokerState_ok] at h
  obtain ⟨input, -, apiVersion, hversion, revision, hrevision, claims, -, records, -, ids, -, hchecked, rfl⟩ := h
  exact ⟨by simpa using matching_ok hversion, by simpa using integerMatching_ok hrevision, hchecked⟩

/-- A state is parsed as it is, where all its properties are present. -/
theorem parseResourceBrokerState_toValue : parseResourceBrokerState s.toValue = .ok s' ↔ s' = s ∧ s.Parsed := by
  have hkeys : exactObject s.toValue "resourceBrokerState" ["apiVersion", "revision", "claims", "idempotencyRecords",
      "redeemedCapabilityIds"] = .ok s.members := exactObject_keys rfl
  have hclaims : ∀ {claims path}, array (.array (s.claims.map ResourceClaimState.toValue)) path parseClaimState = .ok claims ↔
      claims = s.claims ∧ ∀ c ∈ s.claims, c.WellFormed := array_map fun _ _ _ => parseClaimState_toValue
  have hrecords : ∀ {records path}, array (.array (s.idempotencyRecords.map ResourceBrokerIdempotencyRecord.toValue)) path
      parseIdempotencyRecord = .ok records ↔ records = s.idempotencyRecords ∧ ∀ r ∈ s.idempotencyRecords, r.WellFormed :=
    array_map fun _ _ _ => parseIdempotencyRecord_toValue
  unfold parseResourceBrokerState
  simp only [hkeys, bind_ok, pure_ok, Except.ok.injEq, exists_eq_left', ResourceBrokerState.members, Value.get_cons,
    String.reduceEq, if_true, if_false, literal, matching_string, nonNegativeInteger, integerMatching_int, hclaims, hrecords,
    uniqueIdentifiers_strings, exists_unit, assertResourceBrokerState_ok, and_assoc, exists_eq_left, beq_iff_eq,
    decide_eq_true_eq]
  constructor
  · rintro ⟨hversion, hrevision, -, -, -, -, hchecked, rfl⟩
    exact ⟨rfl, hversion, hrevision, hchecked⟩
  · rintro ⟨rfl, h⟩
    exact ⟨h.apiVersion, h.revision, fun c hc => (h.checked.claims c hc).wellFormed, h.checked.records,
      h.checked.capabilities, h.checked.capabilities_nodup, h.checked, rfl⟩

/-! ## Stored as JSON -/

/-- An object of allowed fields passes as JSON when only optional ones hold `undefined`. -/
theorem exactObject_json {properties : List (String × Value)} {path : String} {allowed : List String}
    (h : properties.map Prod.fst = allowed)
    (hoptional : ∀ p ∈ properties, optionalStateField p.1 = false → p.2 ≠ .undefined) :
    exactObject (.object (jsonEntries properties)) path allowed = .ok (jsonEntries properties) := by
  have hunknown : (ownOrder (jsonEntries properties)).find? (fun p => !allowed.contains p.1) = none := by
    refine List.find?_eq_none.2 fun p hp => ?_
    obtain ⟨v, hv, -, -⟩ := mem_jsonEntries.1 (mem_ownOrder.1 hp : (p.1, p.2) ∈ _)
    have hmem : p.1 ∈ allowed := h ▸ List.mem_map.2 ⟨(p.1, v), hv, rfl⟩
    simpa using hmem
  have hmissing : allowed.find? (fun key => !Value.has (jsonEntries properties) key && !optionalStateField key) = none := by
    refine List.find?_eq_none.2 fun key hkey => ?_
    rw [← h] at hkey
    obtain ⟨p, hp, rfl⟩ := List.mem_map.1 hkey
    cases ho : optionalStateField p.1 with
    | true => simp
    | false =>
      have hmem : p.1 ∈ (jsonEntries properties).map Prod.fst :=
        List.mem_map.2 ⟨(p.1, jsonValue p.2), mem_jsonEntries.2 ⟨p.2, hp, hoptional p hp ho, rfl⟩, rfl⟩
      simp [Value.has, hmem]
  simp only [exactObject, hunknown, hmissing]

theorem jsonValue_object (properties : List (String × Value)) :
    jsonValue (.object properties) = .object (jsonEntries properties) := rfl

theorem jsonValue_strings (l : List String) : jsonValue (strings l) = strings l := by
  unfold strings
  rw [jsonValue_array fun _ => by exact nofun]
  rfl

/-- An optional member whose value is sent as it is. -/
theorem jsonValue_optional {α : Type} {g : α → Value} (hg : ∀ a, jsonValue (g a) = g a) (o : Option α) :
    jsonValue (optional g o) = optional g o := by
  cases o with
  | none => rfl
  | some a => exact hg a

theorem ResourceProviderLease.json (l : ResourceProviderLease) : jsonValue l.toValue = l.toValue := rfl

theorem ResourceClaimFailure.json (f : ResourceClaimFailure) : jsonValue f.toValue = f.toValue := rfl

theorem ResourceClaimDrift.json (d : ResourceClaimDrift) : jsonValue d.toValue = d.toValue := rfl

theorem ResourceClaimDeletion.json (d : ResourceClaimDeletion) : jsonValue d.toValue = d.toValue := rfl

theorem ResourceClaimLifecycle.json (l : ResourceClaimLifecycle) : jsonValue l.toValue = l.toValue := rfl

theorem ResourceBrokerIdempotencyRecord.json (r : ResourceBrokerIdempotencyRecord) : jsonValue r.toValue = r.toValue := rfl

/-- The numbers of well-formed outputs are finite. -/
theorem ResourceBrokerOutput.json {o : ResourceBrokerOutput} (h : o.WellFormed) : jsonValue o.toValue = o.toValue := by
  have hvalue : o.value.toValue ≠ .undefined ∧ jsonValue o.value.toValue = o.value.toValue := by
    have hbounded := h.bounded
    cases hv : o.value with
    | string s => exact ⟨nofun, rfl⟩
    | bool b => exact ⟨nofun, rfl⟩
    | number n =>
      rw [hv] at hbounded
      exact ⟨nofun, if_pos hbounded⟩
  show Value.object (("name", .string o.name) :: ("kind", .string o.kind.text) ::
    jsonEntries [("value", o.value.toValue)]) = _
  rw [jsonEntries_cons hvalue.1, hvalue.2]
  rfl

theorem ok_bind {α β : Type} (a : α) (f : α → Except String β) : (Except.ok a >>= f) = f a := rfl

def ResourceClaimCancellation.members (c : ResourceClaimCancellation) : List (String × Value) := [
  ("requestedAt", .string c.requestedAt),
  ("requestedBy", .string c.requestedBy),
  ("cleanupEvidenceRef", optional .string c.cleanupEvidenceRef)]

theorem parseCancellation_json (c : ResourceClaimCancellation) (path : String) :
    parseCancellation (jsonValue c.toValue) path = parseCancellation c.toValue path := by
  have hnames : c.members.map Prod.fst = ["requestedAt", "requestedBy", "cleanupEvidenceRef"] := rfl
  have hkeys : exactObject c.toValue path ["requestedAt", "requestedBy", "cleanupEvidenceRef"] = .ok c.members :=
    exactObject_keys hnames
  have hjson : exactObject (jsonValue c.toValue) path ["requestedAt", "requestedBy", "cleanupEvidenceRef"] =
      .ok (jsonEntries c.members) := by
    refine exactObject_json hnames ?_
    simp [optionalStateField]
  have hnodup : (c.members.map Prod.fst).Nodup := by
    rw [hnames]
    decide
  have hget := get_jsonEntries hnodup
  have hcleanup := jsonValue_optional jsonValue_string c.cleanupEvidenceRef
  unfold parseCancellation
  simp only [hkeys, hjson, ok_bind, hget]
  simp only [ResourceClaimCancellation.members, Value.get_cons, String.reduceEq, if_true, if_false, jsonValue_string,
    hcleanup]

def ResourceClaimState.stateMembers (c : ResourceClaimState) : List (String × Value) := c.members ++ [
  ("phase", .string c.phase.text),
  ("observedGeneration", int c.observedGeneration),
  ("providerResourceRef", optional .string c.providerResourceRef),
  ("outputs", .array (c.outputs.map ResourceBrokerOutput.toValue)),
  ("lease", optional ResourceProviderLease.toValue c.lease),
  ("failure", optional ResourceClaimFailure.toValue c.failure),
  ("drift", optional ResourceClaimDrift.toValue c.drift),
  ("deletion", optional ResourceClaimDeletion.toValue c.deletion),
  ("cancellation", optional ResourceClaimCancellation.toValue c.cancellation)]

/-- **A claim state is parsed from its JSON as from itself.** -/
theorem parseClaimState_json {c : ResourceClaimState} (houtputs : ∀ o ∈ c.outputs, o.WellFormed) (path : String) :
    parseClaimState (jsonValue c.toValue) path = parseClaimState c.toValue path := by
  have hnames : c.stateMembers.map Prod.fst = ["apiVersion", "kind", "claimId", "tenantId", "generation",
      "resourceKind", "resourceApiVersion", "desiredStateDigest", "desiredStateRef", "requiredProviderCapabilities",
      "lifecycle", "phase", "observedGeneration", "providerResourceRef", "outputs", "lease", "failure", "drift",
      "deletion", "cancellation"] := rfl
  have hkeys : exactObject c.toValue path ["apiVersion", "kind", "claimId", "tenantId", "generation",
      "resourceKind", "resourceApiVersion", "desiredStateDigest", "desiredStateRef", "requiredProviderCapabilities",
      "lifecycle", "phase", "observedGeneration", "providerResourceRef", "outputs", "lease", "failure", "drift",
      "deletion", "cancellation"] = .ok c.stateMembers := exactObject_keys hnames
  have hjson : exactObject (jsonValue c.toValue) path ["apiVersion", "kind", "claimId", "tenantId", "generation",
      "resourceKind", "resourceApiVersion", "desiredStateDigest", "desiredStateRef", "requiredProviderCapabilities",
      "lifecycle", "phase", "observedGeneration", "providerResourceRef", "outputs", "lease", "failure", "drift",
      "deletion", "cancellation"] = .ok (jsonEntries c.stateMembers) := by
    refine exactObject_json hnames ?_
    simp [ResourceClaimRequest.members, ResourceClaimLifecycle.toValue, optionalStateField, int, strings]
  have hnodup : (c.stateMembers.map Prod.fst).Nodup := by
    rw [hnames]
    decide
  have hget := get_jsonEntries hnodup
  have houtputs : jsonValue (.array (c.outputs.map ResourceBrokerOutput.toValue)) =
      .array (c.outputs.map ResourceBrokerOutput.toValue) := by
    rw [jsonValue_array fun _ => by rintro ⟨⟩]
    exact congrArg Value.array (List.map_congr_left fun o ho => ResourceBrokerOutput.json (houtputs o ho))
  have hint : ∀ n, jsonValue (int n) = int n := fun _ => rfl
  have hcancellation : ∀ path, ifPresent (jsonValue (optional ResourceClaimCancellation.toValue c.cancellation)) path
      parseCancellation = ifPresent (optional ResourceClaimCancellation.toValue c.cancellation) path parseCancellation := by
    intro path
    cases c.cancellation with
    | none => rfl
    | some k => exact congrArg (Except.map some) (parseCancellation_json k path)
  unfold parseClaimState
  simp only [hkeys, hjson, ok_bind, claimRequestView, List.map_cons, List.map_nil, hget]
  simp only [ResourceClaimState.stateMembers, ResourceClaimRequest.members, List.cons_append, List.nil_append,
    Value.get_cons, String.reduceEq, if_true, if_false, jsonValue_string, hint, jsonValue_strings,
    ResourceClaimLifecycle.json, houtputs, jsonValue_optional jsonValue_string, jsonValue_optional ResourceProviderLease.json,
    jsonValue_optional ResourceClaimFailure.json, jsonValue_optional ResourceClaimDrift.json,
    jsonValue_optional ResourceClaimDeletion.json, hcancellation]

/-- Items that are parsed alike make arrays that are. -/
theorem parseItems_congr {α β : Type} {parser : Value → String → Except String β} {f g : α → Value} {items : List α}
    (h : ∀ a ∈ items, ∀ path, parser (f a) path = parser (g a) path) (path : String) (index : ℕ) :
    parseItems parser path index (items.map f) = parseItems parser path index (items.map g) := by
  induction items generalizing index with
  | nil => rfl
  | cons a rest ih =>
    rw [List.map_cons, List.map_cons, parseItems, parseItems, h a List.mem_cons_self,
      ih fun b hb => h b (List.mem_cons_of_mem _ hb)]

/-- **A state is parsed from its JSON as from itself.** -/
theorem parseResourceBrokerState_json (h : StateOk s) :
    parseResourceBrokerState (jsonValue s.toValue) = parseResourceBrokerState s.toValue := by
  have hnames : s.members.map Prod.fst = ["apiVersion", "revision", "claims", "idempotencyRecords",
      "redeemedCapabilityIds"] := rfl
  have hkeys : exactObject s.toValue "resourceBrokerState" ["apiVersion", "revision", "claims", "idempotencyRecords",
      "redeemedCapabilityIds"] = .ok s.members := exactObject_keys hnames
  have hjson : exactObject (jsonValue s.toValue) "resourceBrokerState" ["apiVersion", "revision", "claims",
      "idempotencyRecords", "redeemedCapabilityIds"] = .ok (jsonEntries s.members) := by
    refine exactObject_json hnames ?_
    simp [ResourceBrokerState.members, int, strings]
  have hnodup : (s.members.map Prod.fst).Nodup := by
    rw [hnames]
    decide
  have hget := get_jsonEntries hnodup
  have hint : ∀ n, jsonValue (int n) = int n := fun _ => rfl
  have hclaims : ∀ path, array (jsonValue (.array (s.claims.map ResourceClaimState.toValue))) path parseClaimState =
      array (.array (s.claims.map ResourceClaimState.toValue)) path parseClaimState := by
    intro path
    rw [jsonValue_array fun _ => by rintro ⟨⟩]
    exact parseItems_congr (fun c hc => parseClaimState_json (h.claims c hc).wellFormed.outputs) path 0
  have hrecords : jsonValue (.array (s.idempotencyRecords.map ResourceBrokerIdempotencyRecord.toValue)) =
      .array (s.idempotencyRecords.map ResourceBrokerIdempotencyRecord.toValue) := by
    rw [jsonValue_array fun _ => by rintro ⟨⟩]
    rfl
  unfold parseResourceBrokerState
  simp only [hkeys, hjson, ok_bind, hget]
  simp only [ResourceBrokerState.members, Value.get_cons, String.reduceEq, if_true, if_false, jsonValue_string, hint, hclaims,
    hrecords, jsonValue_strings]

/-! ## Reachable states -/

theorem Commits.apiVersion {context : BrokerMutationContext} {operation : BrokerMutationOperation}
    {payloadDigest tenantId claimId : String} {claim : ResourceClaimState} {type : ResourceBrokerEventType}
    {t : ResourceBrokerTransition ResourceClaimState}
    (h : Commits rt s context operation payloadDigest tenantId claimId claim type t) :
    t.state.apiVersion = s.apiVersion := by
  obtain ⟨e, -, rfl⟩ := h.answer
  rfl

theorem Advances.apiVersion {T : Type} {claim : ResourceClaimState} {result : T} {type : ResourceBrokerEventType}
    {occurredAt : String} {extra : ResourceBrokerEventExtra} {t : ResourceBrokerTransition T}
    (h : Advances rt s claim result type occurredAt extra t) : t.state.apiVersion = s.apiVersion := by
  obtain ⟨e, -, rfl⟩ := h.answer
  rfl

/-- No call changes the version of the state. -/
theorem exec_apiVersion {call : BrokerCall} {expectedRevision : ℤ} {t : ResourceBrokerTransition BrokerResult}
    (h : call.exec rt s expectedRevision = .ok t) : t.state.apiVersion = s.apiVersion := by
  cases call with
  | apply context v =>
    obtain ⟨t, ht, rfl⟩ := map_ok.1 h
    obtain ⟨-, -, claim, -, ⟨c, -, rfl⟩ | ⟨-, hc⟩⟩ := applyResourceClaim_ok.1 ht
    · rfl
    · exact hc.apiVersion
  | cancel context =>
    obtain ⟨t, ht, rfl⟩ := map_ok.1 h
    obtain ⟨-, -, claim, -, ⟨c, -, rfl⟩ | ⟨-, hc⟩⟩ := cancelResourceClaim_ok.1 ht
    · rfl
    · exact hc.apiVersion
  | delete context approval finalization =>
    obtain ⟨t, ht, rfl⟩ := map_ok.1 h
    obtain ⟨-, -, claim, -, -, -, ⟨c, -, rfl⟩ | ⟨-, hc⟩⟩ := requestResourceClaimDeletion_ok.1 ht
    · rfl
    · exact hc.apiVersion
  | lease args =>
    obtain ⟨t, ht, rfl⟩ := map_ok.1 h
    obtain ⟨-, -, claim, duration, expiresAt, -, -, hadv⟩ := leaseResourceClaim_ok.1 ht
    exact hadv.apiVersion
  | complete args observed ref outputs =>
    obtain ⟨t, ht, rfl⟩ := map_ok.1 h
    obtain ⟨-, -, claim, -, -, -, -, -, -, hadv⟩ := completeResourceClaim_ok.1 ht
    exact hadv.apiVersion
  | fail args code message retryable =>
    obtain ⟨t, ht, rfl⟩ := map_ok.1 h
    obtain ⟨-, -, claim, -, -, -, -, hadv⟩ := failResourceClaim_ok.1 ht
    exact hadv.apiVersion
  | drift claimId providerId verified observed occurredAt =>
    obtain ⟨t, ht, rfl⟩ := map_ok.1 h
    obtain ⟨-, -, claim, -, -, -, -, -, -, -, hadv⟩ := reportResourceClaimDrift_ok.1 ht
    exact hadv.apiVersion
  | acknowledge args cleanup =>
    obtain ⟨t, ht, rfl⟩ := map_ok.1 h
    obtain ⟨-, -, claim, -, -, cancellation, -, hadv⟩ := acknowledgeResourceClaimCancellation_ok.1 ht
    exact hadv.apiVersion
  | completeDeletion args finalization =>
    obtain ⟨t, ht, rfl⟩ := map_ok.1 h
    obtain ⟨-, -, claim, -, -, -, hadv⟩ := completeResourceClaimDeletion_ok.1 ht
    exact hadv.apiVersion

theorem run_parsed {h : List BrokerLabel} (hr : Run (BrokerStep rt) createResourceBrokerState h s) : s.Parsed := by
  obtain ⟨hchecked, hrevision⟩ := run_checked hr
  have hversion : s.apiVersion = resourceBrokerStateApiVersion := by
    refine hr.invariant (I := fun s => s.apiVersion = resourceBrokerStateApiVersion) rfl ?_
    rintro m l t hm ⟨hexec, rfl⟩
    exact (exec_apiVersion hexec).trans hm
  exact ⟨hversion, hrevision, hchecked⟩

theorem ResourceBrokerState.Parsed.round_trip (h : s.Parsed) : parseResourceBrokerState (jsonValue s.toValue) = .ok s ∧
    parseResourceBrokerState s.toValue = .ok s := by
  have hself := parseResourceBrokerState_toValue.2 ⟨rfl, h⟩
  exact ⟨(parseResourceBrokerState_json h.checked).trans hself, hself⟩

/-- **Every reachable state is read back from its JSON, and so is every state that the parser returns.** -/
theorem durable_round_trip (rt : Runtime) :
    (∀ h s, Run (BrokerStep rt) createResourceBrokerState h s → parseResourceBrokerState (jsonValue s.toValue) = .ok s ∧
      parseResourceBrokerState s.toValue = .ok s) ∧
    (∀ value s, parseResourceBrokerState value = .ok s → parseResourceBrokerState (jsonValue s.toValue) = .ok s ∧
      parseResourceBrokerState s.toValue = .ok s) :=
  ⟨fun _ _ hr => (run_parsed hr).round_trip, fun _ _ h => (parseResourceBrokerState_ok h).round_trip⟩

/-- `durable_round_trip` on a claim whose cancellation awaits its cleanup. -/
theorem durable_round_trip_cancelling :
    parseResourceBrokerState (jsonValue (cancellingState sampleRuntime).toValue) = .ok (cancellingState sampleRuntime) ∧
    parseResourceBrokerState (cancellingState sampleRuntime).toValue = .ok (cancellingState sampleRuntime) := by
  obtain ⟨h, hr⟩ := sample_cancelling_run sampleRuntime
  have hjson := ((durable_round_trip sampleRuntime).1 h _ hr).1
  exact (durable_round_trip sampleRuntime).2 _ _ hjson

end SecureSaas.Broker
