import SecureSaas.Protocol.Responses

/-!
# Reason codes (`src/core/infrastructureControllerProtocol.ts`)

The catalog gives every reason code a category and says whether a request may be tried again.
The parsers test a code with the `in` operator, which follows the prototype of the catalog.

* `Accepted.reasonCodes_eq`: the codes of a parsed value are the texts of its own list, each of
  them a key of the catalog or of the prototype.
* `reason_codes_declared_iff`: **the codes of an accepted value all have an entry just when it
  names no inherited key.**
-/

namespace SecureSaas.Protocol

open Js

/-! ## The catalog -/

inductive ReasonCodeCategory
  | authorization | compatibility | internal | policy | provider | request | state | watch
deriving DecidableEq

structure ReasonCodeEntry where
  category : ReasonCodeCategory
  retryable : Bool
deriving DecidableEq

/-- `INFRASTRUCTURE_PROTOCOL_REASON_CODES`, with its values. -/
def reasonCodeCatalog : List (String × ReasonCodeEntry) := [
  ("INFRA_PROTOCOL_UNSUPPORTED_VERSION", ⟨.compatibility, false⟩),
  ("INFRA_PROTOCOL_REQUIRED_FEATURE_UNAVAILABLE", ⟨.compatibility, false⟩),
  ("INFRA_PROTOCOL_DEPRECATED_VERSION", ⟨.compatibility, false⟩),
  ("INFRA_PROTOCOL_VERSION_SUNSET", ⟨.compatibility, false⟩),
  ("INFRA_PROTOCOL_REQUEST_INVALID", ⟨.request, false⟩),
  ("INFRA_PROTOCOL_AUTHENTICATION_REQUIRED", ⟨.authorization, false⟩),
  ("INFRA_PROTOCOL_ORGANIZATION_DENIED", ⟨.authorization, false⟩),
  ("INFRA_PROTOCOL_TENANT_DENIED", ⟨.authorization, false⟩),
  ("INFRA_PROTOCOL_OPERATION_DENIED", ⟨.authorization, false⟩),
  ("INFRA_PROTOCOL_CLAIM_CONFLICT", ⟨.state, false⟩),
  ("INFRA_PROTOCOL_IDEMPOTENCY_CONFLICT", ⟨.state, false⟩),
  ("INFRA_PROTOCOL_PLAN_REQUIRED", ⟨.policy, false⟩),
  ("INFRA_PROTOCOL_PLAN_STALE", ⟨.policy, false⟩),
  ("INFRA_PROTOCOL_APPROVAL_REQUIRED", ⟨.policy, false⟩),
  ("INFRA_PROTOCOL_DEADLINE_EXCEEDED", ⟨.request, true⟩),
  ("INFRA_PROTOCOL_OPERATION_NOT_FOUND", ⟨.state, false⟩),
  ("INFRA_PROTOCOL_CURSOR_INVALID", ⟨.watch, false⟩),
  ("INFRA_PROTOCOL_CURSOR_EXPIRED", ⟨.watch, true⟩),
  ("INFRA_PROTOCOL_CURSOR_SUBJECT_MISMATCH", ⟨.authorization, false⟩),
  ("INFRA_PROTOCOL_PROVIDER_UNAVAILABLE", ⟨.provider, true⟩),
  ("INFRA_PROTOCOL_POLICY_DENIED", ⟨.policy, false⟩),
  ("INFRA_PROTOCOL_INTERNAL", ⟨.internal, true⟩)]

/-- `INFRASTRUCTURE_PROTOCOL_REASON_CODES[code]` among the catalog's own keys. -/
def reasonCodeEntry (code : String) : Option ReasonCodeEntry := reasonCodeCatalog.lookup code

theorem catalog_keys : reasonCodeCatalog.map Prod.fst = infrastructureProtocolReasonCodes := rfl

theorem mem_keys_iff {α : Type} {l : List (String × α)} {key : String} :
    key ∈ l.map Prod.fst ↔ ∃ a, l.lookup key = some a := by
  induction l with
  | nil => simp
  | cons p l ih =>
    obtain ⟨k, a⟩ := p
    rw [List.map_cons, List.mem_cons, ih, List.lookup_cons]
    cases hkey : key == k with
    | true => simpa using Or.inl (beq_iff_eq.1 hkey)
    | false => simpa using fun heq : key = k => absurd heq (beq_eq_false_iff_ne.1 hkey)

/-- A code has an entry when it is an own key. -/
theorem declared_iff {code : String} :
    (∃ entry, reasonCodeEntry code = some entry) ↔ code ∈ infrastructureProtocolReasonCodes := by
  rw [← catalog_keys, mem_keys_iff]
  rfl

theorem any_lookup {α : Type} {test : α → Bool} {key : String} : ∀ {l : List (String × α)},
    (l.map Prod.fst).Nodup → ((l.lookup key).any test = true ↔ key ∈ (l.filter fun p => test p.2).map Prod.fst)
  | [], _ => by simp
  | (k, a) :: l, h => by
    obtain ⟨hk, hl⟩ := List.nodup_cons.1 h
    have ih : (l.lookup key).any test = true ↔ key ∈ (l.filter fun p => test p.2).map Prod.fst := any_lookup hl
    have hother : k ∉ (l.filter fun p => test p.2).map Prod.fst :=
      fun hmem => hk ((List.filter_sublist.map Prod.fst).subset hmem)
    rw [List.lookup_cons, List.filter_cons]
    cases hkey : key == k with
    | true =>
      obtain rfl := beq_iff_eq.1 hkey
      cases htest : test a with
      | true => simp [htest]
      | false => simpa [htest] using hother
    | false =>
      have hne : key ≠ k := beq_eq_false_iff_ne.1 hkey
      cases htest : test a <;> simp only [ih, List.map_cons, List.mem_cons, hne, false_or, if_true, Bool.false_eq_true,
        if_false]

/-- The retry policy that the builder and the parser read is the one of the entry. -/
theorem isRetryable_eq (code : String) : isRetryable code = (reasonCodeEntry code).any fun entry => entry.retryable := by
  have hkeys : (reasonCodeCatalog.map Prod.fst).Nodup := by decide
  rw [Bool.eq_iff_iff, reasonCodeEntry, any_lookup hkeys, isRetryable, List.contains_iff_mem]
  rfl

/-- No inherited key is a declared code. -/
theorem inherited_not_declared : ∀ name ∈ objectPrototypeKeys, name ∉ infrastructureProtocolReasonCodes := by decide

/-! ## Accepted values -/

/-- The texts in the list of reason codes of a value, as it comes in. -/
def namedReasonCodes : Value → List String
  | .object properties =>
    match Value.get properties "reasonCodes" with
    | .array items => items.filterMap fun
      | .string s => some s
      | _ => none
    | _ => []
  | _ => []

/-- A value that a parser of the protocol accepts, with the reason codes of the result. -/
inductive Accepted (rt : Runtime) (value : Value) : List String → Prop
  | versionResponse {response : InfrastructureControllerVersionResponse}
      (h : parseInfrastructureControllerVersionResponse value = .ok response) : Accepted rt value response.reasonCodes
  | operationResponse {response : InfrastructureOperationResponse}
      (h : parseInfrastructureOperationResponse value = .ok response) : Accepted rt value response.reasonCodes
  | operationEvent {event : InfrastructureOperationEvent} {index : ℕ}
      (h : parseOperationEvent rt value index = .ok event) : Accepted rt value event.reasonCodes

section
variable {rt : Runtime} {value : Value}

theorem namedReasonCodes_of {properties : List (String × Value)} {codes : List String}
    (h : Value.get properties "reasonCodes" = .array (codes.map .string)) :
    namedReasonCodes (.object properties) = codes := by
  rw [namedReasonCodes, h]
  simp [List.filterMap_map]

theorem versionResponse_codes {response : InfrastructureControllerVersionResponse}
    (h : parseInfrastructureControllerVersionResponse value = .ok response) :
    response.reasonCodes = namedReasonCodes value ∧ ∀ code ∈ response.reasonCodes, isReasonCode code = true := by
  unfold parseInfrastructureControllerVersionResponse at h
  simp only [bind_ok, pure_ok, exactObject_ok, uniqueTexts_ok @reasonCode_ok] at h
  obtain ⟨root, ⟨rfl, -⟩, _, -, _, -, _, -, _, -, codes, ⟨hcodes, hall, -⟩, _, -, -, -, -, -, -, -, _, -, _, -, _, -, -, -,
    rfl⟩ := h
  exact ⟨(namedReasonCodes_of hcodes).symm, hall⟩

theorem operationResponse_codes {response : InfrastructureOperationResponse}
    (h : parseInfrastructureOperationResponse value = .ok response) :
    response.reasonCodes = namedReasonCodes value ∧ ∀ code ∈ response.reasonCodes, isReasonCode code = true := by
  unfold parseInfrastructureOperationResponse at h
  simp only [bind_ok, pure_ok, exactObject_ok, uniqueTexts_ok @reasonCode_ok] at h
  obtain ⟨root, ⟨rfl, -⟩, _, -, _, -, codes, ⟨hcodes, hall, -⟩, _, -, -, -, -, -, -, -, -, -, _, -, _, -, rfl⟩ := h
  exact ⟨(namedReasonCodes_of hcodes).symm, hall⟩

theorem operationEvent_codes {event : InfrastructureOperationEvent} {index : ℕ}
    (h : parseOperationEvent rt value index = .ok event) :
    event.reasonCodes = namedReasonCodes value ∧ ∀ code ∈ event.reasonCodes, isReasonCode code = true := by
  unfold parseOperationEvent at h
  simp only [bind_ok, pure_ok, exactObject_ok, uniqueTexts_ok @reasonCode_ok] at h
  obtain ⟨root, ⟨rfl, -⟩, _, -, _, -, codes, ⟨hcodes, hall, -⟩, h⟩ := h
  obtain ⟨-, -, -, -, _, -, _, -, _, -, _, -, _, -, _, -, _, -, _, -, _, -, _, -, _, -, _, -, _, -, -, -, rfl⟩ := h
  exact ⟨(namedReasonCodes_of hcodes).symm, hall⟩

/-- **The codes of an accepted value** are the texts that it names, all of them keys that the `in` operator finds. -/
theorem Accepted.reasonCodes_eq {codes : List String} (h : Accepted rt value codes) :
    codes = namedReasonCodes value ∧ ∀ code ∈ codes, isReasonCode code = true := by
  cases h with
  | versionResponse h => exact versionResponse_codes h
  | operationResponse h => exact operationResponse_codes h
  | operationEvent h => exact operationEvent_codes h

end

/-- **The codes of an accepted value all have an entry in the catalog just when the value names no key that the catalog
inherits from `Object.prototype`.** -/
theorem reason_codes_declared_iff (rt : Runtime) (value : Value) (codes : List String) (h : Accepted rt value codes) :
    (∀ code ∈ codes, ∃ entry, reasonCodeEntry code = some entry) ↔
      ∀ name ∈ objectPrototypeKeys, name ∉ namedReasonCodes value := by
  obtain ⟨rfl, hcodes⟩ := h.reasonCodes_eq
  simp only [declared_iff]
  constructor
  · intro hdeclared name hname hmem
    exact inherited_not_declared name hname (hdeclared name hmem)
  · intro hplain code hcode
    have hkey := hcodes code hcode
    rw [isReasonCode, Bool.or_eq_true, List.contains_iff_mem, List.contains_iff_mem] at hkey
    exact hkey.resolve_right fun hinherited => hplain code hinherited hcode

/-- A rejection with the given codes. -/
def rejection (reasonCodes : List String) : InfrastructureOperationResponse :=
  ⟨"2026-07-16", "request-1", .rejected, none, reasonCodes, none⟩

theorem rejection_accepted {code : String} (h : isReasonCode code = true) (rt : Runtime) :
    Accepted rt (rejection [code]).toValue [code] := by
  have hversion : isProtocolVersion "2026-07-16" = true := by decide +kernel
  have hid : isIdentifier "request-1" = true := by decide +kernel
  have hparsed : parseInfrastructureOperationResponse (rejection [code]).toValue = .ok (rejection [code]) := by
    refine parseOperationResponse_toValue.2 ⟨hversion, hid, nofun, ⟨?_, ?_⟩, nofun, rfl⟩
    · simpa [rejection] using h
    · simp [rejection]
  exact .operationResponse hparsed

/-- A rejection because of a policy: its code has an entry. -/
theorem policy_denied_declared :
    Accepted (.tabulated [] (fun _ => none) hex_nil) (rejection ["INFRA_PROTOCOL_POLICY_DENIED"]).toValue
      ["INFRA_PROTOCOL_POLICY_DENIED"] ∧
    ∀ code ∈ ["INFRA_PROTOCOL_POLICY_DENIED"], ∃ entry, reasonCodeEntry code = some entry := by
  have haccepted := rejection_accepted (show isReasonCode "INFRA_PROTOCOL_POLICY_DENIED" = true by decide)
    (.tabulated [] (fun _ => none) hex_nil)
  exact ⟨haccepted, (reason_codes_declared_iff _ _ _ haccepted).2 (by decide)⟩

/-- A rejection because of `toString` is accepted, and the catalog has no entry for it. -/
theorem inherited_code_accepted :
    parseInfrastructureOperationResponse (rejection ["toString"]).toValue = .ok (rejection ["toString"]) ∧
      ¬ ∀ code ∈ (rejection ["toString"]).reasonCodes, ∃ entry, reasonCodeEntry code = some entry := by
  have hsound : (rejection ["toString"]).Sound :=
    ⟨by decide +kernel, by decide +kernel, nofun, ⟨by decide, by decide⟩, nofun, rfl⟩
  refine ⟨parseOperationResponse_toValue.2 hsound, fun hdeclared => ?_⟩
  obtain ⟨entry, hentry⟩ := hdeclared "toString" (by decide)
  exact nomatch (show none = some entry from hentry)

end SecureSaas.Protocol
