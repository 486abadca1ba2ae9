import SecureSaas.Protocol.Event

/-!
# What the event writer and the event parser accept

Both rebuild an event from checked fields. One predicate on events, `Sound`, says what they
check; the writer and the parser differ only in what they compare the event with.

* `parseOperationEvent_ok`: the parser accepts exactly the sound events with their own digest.
* `createInfrastructureOperationEvent_ok`: the writer makes exactly those that follow its
  previous event.
-/

namespace SecureSaas.Protocol

open Js

/-! ## Field checks -/

theorem text_ok {test : String → Bool} {message : String} {v : Value} {path s : String} :
    text test message v path = .ok s ↔ v = .string s ∧ test s = true := by
  unfold text
  simp only [map_val_ok, checkedText_ok]
  exact ⟨fun ⟨h, hv⟩ => ⟨hv, h⟩, fun ⟨hv, h⟩ => ⟨h, hv⟩⟩

theorem identifier_ok {v : Value} {path s : String} :
    identifier v path = .ok s ↔ v = .string s ∧ isIdentifier s = true := text_ok

theorem digest_ok {v : Value} {path s : String} :
    digest v path = .ok s ↔ v = .string s ∧ isHexDigest s = true := text_ok

theorem reasonCode_ok {v : Value} {path s : String} :
    reasonCode v path = .ok s ↔ v = .string s ∧ isReasonCode s = true := text_ok

/-- A protocol version is the text of a calendar date. -/
def isProtocolVersion (s : String) : Bool := isDateText s && isCalendarDate s

theorem protocolVersion_ok {v : Value} {path s : String} :
    protocolVersion v path = .ok s ↔ v = .string s ∧ isProtocolVersion s = true := by
  unfold protocolVersion isProtocolVersion
  simp only [bind_ok, text_ok, Value.string.injEq, Bool.and_eq_true]
  constructor
  · rintro ⟨_, ⟨hv, ht⟩, rfl, hc⟩
    exact ⟨hv, ht, hc⟩
  · rintro ⟨hv, ht, hc⟩
    exact ⟨s, ⟨hv, ht⟩, rfl, hc⟩

theorem timestamp_ok {v : Value} {path s : String} :
    timestamp v path = .ok s ↔ v = .string s ∧ isCanonicalTimestamp s = true := by
  unfold timestamp
  simp only [bind_ok, text_ok, Value.string.injEq]
  constructor
  · rintro ⟨_, ⟨hv, -⟩, rfl, hc⟩
    exact ⟨hv, hc⟩
  · rintro ⟨hv, hc⟩
    exact ⟨s, ⟨hv, trivial⟩, rfl, hc⟩

theorem positiveInteger_ok {v : Value} {path : String} {n : ℤ} :
    positiveInteger v path = .ok n ↔ v = .number (.int n) ∧ 1 ≤ n ∧ n ≤ maxSafeInteger := by
  unfold positiveInteger
  simp only [map_val_ok, checkedInteger_ok, decide_eq_true_eq]
  constructor
  · rintro ⟨⟨hle, hpos⟩, hv, -⟩
    exact ⟨hv, hpos, hle⟩
  · rintro ⟨hv, hpos, hle⟩
    refine ⟨⟨hle, hpos⟩, hv, ?_⟩
    unfold maxSafeInteger
    omega

theorem uniqueTexts_ok {parse : Parser String} {test : String → Bool}
    (hp : ∀ v path s, parse v path = .ok s ↔ v = .string s ∧ test s = true) {v : Value} {path : String}
    {l : List String} : uniqueTexts parse v path = .ok l ↔
      v = .array (l.map .string) ∧ (∀ s ∈ l, test s = true) ∧ l.Nodup := by
  unfold uniqueTexts
  simp only [map_val_ok, uniqueArray_ok hp]
  constructor
  · rintro ⟨hn, hv, hall⟩
    exact ⟨hv, hall, hn.of_map _⟩
  · rintro ⟨hv, hall, hn⟩
    exact ⟨hn.map jsonStringify_string_inj, hv, hall⟩

theorem InfrastructureOperationPhase.text_injective :
    Function.Injective InfrastructureOperationPhase.text := by
  intro a b h
  cases a <;> cases b <;> first | rfl | exact absurd h (by decide)

theorem InfrastructureOperationPhase.mem_all (a : InfrastructureOperationPhase) : a ∈ all := by
  cases a <;> decide

theorem phase_ok {v : Value} {path : String} {a : InfrastructureOperationPhase} :
    enumeration invalid InfrastructureOperationPhase.text InfrastructureOperationPhase.all v path = .ok a ↔
      v = .string a.text :=
  (enumeration_ok InfrastructureOperationPhase.text_injective).trans
    (and_iff_left (InfrastructureOperationPhase.mem_all a))

theorem nullableDigest_ok {v : Value} {path : String} {o : Option String} :
    nullable digest v path = .ok o ↔ v = o.elim .null .string ∧ ∀ s, o = some s → isHexDigest s = true :=
  nullable_ok (g := .string) (fun _ h => by cases h) fun _ _ => digest_ok

/-! ## Sound events -/

/-- The fields of the contents are what the writer and the parser check alike. -/
structure EventWithoutDigest.Sound (e : EventWithoutDigest) : Prop where
  protocolVersion : isProtocolVersion e.protocolVersion = true
  operationId : isIdentifier e.operationId = true
  organizationId : isIdentifier e.organizationId = true
  tenantId : isIdentifier e.tenantId = true
  eventId : isIdentifier e.eventId = true
  sequence : 1 ≤ e.sequence ∧ e.sequence ≤ maxSafeInteger
  terminal : e.terminal = e.phase.isTerminal
  generation : 1 ≤ e.generation ∧ e.generation ≤ maxSafeInteger
  desiredStateDigest : isHexDigest e.desiredStateDigest = true
  occurredAt : isCanonicalTimestamp e.occurredAt = true
  reasonCodes : (∀ s ∈ e.reasonCodes, isReasonCode s = true) ∧ e.reasonCodes.Nodup
  reasoned : e.phase = .failed ↔ e.reasonCodes ≠ []

/-- A sound event with the digest of its contents and a digest of the event before it. -/
structure InfrastructureOperationEvent.Ok (rt : Runtime) (e : InfrastructureOperationEvent) : Prop where
  sound : e.Sound
  previousEventDigest : ∀ s, e.previousEventDigest = some s → isHexDigest s = true
  eventDigest : e.eventDigest = e.digest rt

variable {rt : Runtime}

theorem reasoned_iff {phase : InfrastructureOperationPhase} {reasons : List String} :
    ((phase == .failed) = !reasons.isEmpty) ↔ (phase = .failed ↔ reasons ≠ []) := by
  rw [Bool.eq_iff_iff]
  simp

/-- **What the parser returns is a sound event with its own digest.** -/
theorem parseOperationEvent_ok {v : Value} {index : ℕ} {e : InfrastructureOperationEvent}
    (h : parseOperationEvent rt v index = .ok e) : e.Ok rt := by
  unfold parseOperationEvent at h
  simp only [bind_ok, pure_ok, phase_ok, checkedBoolean_ok, booleanValue, uniqueTexts_ok @reasonCode_ok,
    ensure_ok, literal_ok, protocolVersion_ok, identifier_ok, positiveInteger_ok, digest_ok, timestamp_ok,
    nullableDigest_ok, beq_iff_eq] at h
  obtain ⟨root, -, phase, -, terminal, -, reasons, ⟨-, hr, hn⟩, -, ht, -, hf, -, -, -, -, version,
    ⟨-, hv⟩, operation, ⟨-, ho⟩, organization, ⟨-, hg⟩, tenant, ⟨-, htn⟩, event, ⟨-, he⟩, sequence, ⟨-, hs⟩,
    generation, ⟨-, hgen⟩, desired, ⟨-, hd⟩, occurred, ⟨-, hat⟩, previous, ⟨-, hp⟩, own, ⟨-, -⟩, -, hown,
    rfl⟩ := h
  exact ⟨⟨hv, ho, hg, htn, he, hs, ht, hgen, hd, hat, ⟨hr, hn⟩, reasoned_iff.1 hf⟩, hp, hown⟩

/-- **A sound event with its own digest is parsed as it is.** -/
theorem parseOperationEvent_toValue {e : InfrastructureOperationEvent} (h : e.Ok rt) (index : ℕ) :
    parseOperationEvent rt e.toValue index = .ok e := by
  have hkeys : exactObject invalid e.toValue s!"events[{index}]" ["apiVersion", "kind", "protocolVersion",
      "operationId", "organizationId", "tenantId", "eventId", "sequence", "phase", "terminal", "generation",
      "desiredStateDigest", "occurredAt", "reasonCodes", "previousEventDigest", "eventDigest"] =
      .ok (e.members ++ [("eventDigest", .string e.eventDigest)]) := exactObject_keys rfl
  have hdigest : isHexDigest e.eventDigest = true := by
    rw [h.eventDigest]
    exact rt.sha256_hex _
  unfold parseOperationEvent
  simp only [hkeys, bind_ok, pure_ok, phase_ok, checkedBoolean_ok, booleanValue, uniqueTexts_ok @reasonCode_ok,
    ensure_ok, literal_ok, protocolVersion_ok, identifier_ok, positiveInteger_ok, digest_ok, timestamp_ok,
    nullableDigest_ok, beq_iff_eq, Except.ok.injEq, exists_eq_left', EventWithoutDigest.members,
    List.cons_append, List.nil_append, Value.get_cons, String.reduceEq, if_true, if_false]
  refine ⟨e.phase, rfl, e.terminal, rfl, e.reasonCodes, ⟨rfl, h.sound.reasonCodes⟩, (), h.sound.terminal, (),
    reasoned_iff.2 h.sound.reasoned, ⟨_, rfl⟩, trivial, ⟨_, rfl⟩, trivial, _, ⟨rfl, h.sound.protocolVersion⟩, _,
    ⟨rfl, h.sound.operationId⟩, _, ⟨rfl, h.sound.organizationId⟩, _, ⟨rfl, h.sound.tenantId⟩, _,
    ⟨rfl, h.sound.eventId⟩, _, ⟨rfl, h.sound.sequence⟩, _, ⟨rfl, h.sound.generation⟩, _,
    ⟨rfl, h.sound.desiredStateDigest⟩, _, ⟨rfl, h.sound.occurredAt⟩, _, ⟨rfl, h.previousEventDigest⟩, _,
    ⟨rfl, hdigest⟩, (), h.eventDigest, rfl⟩

/-! ## The writer -/

/-- The part of an event that its caller chose. -/
def InfrastructureOperationEvent.draft (e : InfrastructureOperationEvent) : EventDraft where
  protocolVersion := e.protocolVersion
  operationId := e.operationId
  organizationId := e.organizationId
  tenantId := e.tenantId
  eventId := e.eventId
  sequence := e.sequence
  phase := e.phase
  generation := e.generation
  desiredStateDigest := e.desiredStateDigest
  occurredAt := e.occurredAt
  reasonCodes := e.reasonCodes

/-- An event may follow this one: it is not terminal, and has the same subject. -/
def InfrastructureOperationEvent.Continues (prior e : InfrastructureOperationEvent) : Prop :=
  prior.terminal = false ∧ prior.SameSubject e.operationId e.organizationId e.tenantId e.generation
    e.desiredStateDigest

/-- A first event has no event before it, a later one continues the event of the sequence before. -/
def InfrastructureOperationEvent.Follows (e : InfrastructureOperationEvent) :
    Option InfrastructureOperationEvent → Prop
  | none => e.sequence = 1
  | some previous => 1 < e.sequence ∧ previous.sequence = e.sequence - 1 ∧ previous.Continues e

theorem followsPrevious_ok {e : InfrastructureOperationEvent} {previous : Option InfrastructureOperationEvent}
    {u : Unit} (hpos : 1 ≤ e.sequence) :
    followsPrevious { e.draft with previousEvent := previous } e.sequence = .ok u ↔ e.Follows previous := by
  unfold followsPrevious InfrastructureOperationEvent.Follows
  by_cases hs : e.sequence > 1
  · have hne : e.sequence ≠ 1 := by omega
    cases previous with
    | none => simp [hs, hne]
    | some p =>
      simp only [hs, InfrastructureOperationEvent.Continues, InfrastructureOperationEvent.draft, bind_ok,
        ensure_ok, exists_unit, if_true, beq_iff_eq, true_and, Bool.not_eq_true', beq_eq_false_iff_ne.2 hne, Bool.false_and, Bool.not_false]
      exact and_congr_right fun _ =>
        ⟨fun h => ⟨h.2, of_decide_eq_true h.1⟩, fun h => ⟨decide_eq_true h.2, h.1⟩⟩
  · have he : e.sequence = 1 := by omega
    cases previous <;> simp [he]

/-- **What the writer returns** is a sound event with its own digest and that of the event it
follows, made from its draft. -/
theorem createInfrastructureOperationEvent_ok {draft : EventDraft}
    {previous : Option InfrastructureOperationEvent} {e : InfrastructureOperationEvent} :
    createInfrastructureOperationEvent rt { draft with previousEvent := previous } = .ok e ↔
      draft = e.draft ∧ e.Sound ∧ e.Follows previous ∧
        e.previousEventDigest = previous.map (fun p => p.eventDigest) ∧ e.eventDigest = e.digest rt := by
  unfold createInfrastructureOperationEvent
  simp only [bind_ok, pure_ok, phase_ok, uniqueTexts_ok @reasonCode_ok, ensure_ok, protocolVersion_ok,
    identifier_ok, positiveInteger_ok, digest_ok, timestamp_ok, Value.string.injEq, Value.number.injEq,
    Number.int.injEq, Value.array.injEq]
  constructor
  · intro h
    obtain ⟨phase, hphase, reasons, ⟨hreasons, hr, hn⟩, -, hf1, -, hf2, sequence, ⟨hseq, hs⟩, _, hfollows,
      version, ⟨hv, hv'⟩, operation, ⟨ho, ho'⟩, organization, ⟨hg, hg'⟩, tenant, ⟨ht, ht'⟩, event, ⟨he, he'⟩,
      generation, ⟨hgen, hgen'⟩, desired, ⟨hd, hd'⟩, occurred, ⟨hat, hat'⟩, rfl⟩ := h
    obtain rfl := InfrastructureOperationPhase.text_injective hphase
    obtain rfl := List.map_injective_iff.2 (fun _ _ => Value.string.inj) hreasons
    subst hseq hv ho hg ht he hgen hd hat
    have hreasoned : draft.phase = .failed ↔ draft.reasonCodes ≠ [] := by
      by_cases hp : draft.phase = .failed <;> simp [hp] at hf1 hf2 ⊢ <;> assumption
    exact ⟨rfl, ⟨hv', ho', hg', ht', he', hs, rfl, hgen', hd', hat', ⟨hr, hn⟩, hreasoned⟩,
      (followsPrevious_ok hs.1).1 hfollows, rfl, rfl⟩
  · rintro ⟨rfl, hsound, hfollows, hprevious, hdigest⟩
    have hreasoned := hsound.reasoned
    refine ⟨e.phase, rfl, e.reasonCodes, ⟨rfl, hsound.reasonCodes⟩, (), ?_, (), ?_, e.sequence,
      ⟨rfl, hsound.sequence⟩, (), (followsPrevious_ok hsound.sequence.1).2 hfollows, e.protocolVersion,
      ⟨rfl, hsound.protocolVersion⟩, e.operationId, ⟨rfl, hsound.operationId⟩, e.organizationId,
      ⟨rfl, hsound.organizationId⟩, e.tenantId, ⟨rfl, hsound.tenantId⟩, e.eventId, ⟨rfl, hsound.eventId⟩,
      e.generation, ⟨rfl, hsound.generation⟩, e.desiredStateDigest, ⟨rfl, hsound.desiredStateDigest⟩,
      e.occurredAt, ⟨rfl, hsound.occurredAt⟩, ?_⟩
    · by_cases hp : e.phase = .failed
      · simp [hreasoned.1 hp]
      · simp [hp]
    · by_cases hp : e.phase = .failed
      · simp [hp]
      · have hempty : e.reasonCodes = [] := by_contra fun hne => hp (hreasoned.2 hne)
        simp [hempty]
    · obtain ⟨⟨version, operation, organization, tenant, event, sequence, phase, terminal, generation,
        desired, occurred, reasons, previousDigest⟩, own⟩ := e
      have hterminal := hsound.terminal
      simp only at hterminal hprevious hdigest
      subst hterminal hprevious
      simp only [hdigest]

end SecureSaas.Protocol
