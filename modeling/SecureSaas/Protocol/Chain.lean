import SecureSaas.Protocol.Accepted
import Mathlib.Data.List.Induction

/-!
# The chain of operation events

A validated page is a list of sound events linked by sequence, previous digest and subject.

* `validate_ok`: the validator accepts exactly the linked pages.
* `written_iff`: a chain from the start is what the writer makes of its own drafts.
* `events_chained`: writer and validator agree, and no event but the last can be changed.
-/

namespace SecureSaas.Protocol

open Js

variable {rt : Runtime}

/-! ## Linked events -/

/-- What the loop of the validator checks, from an expected sequence and digest and a prior event. -/
def Linked (sequence : ℤ) (previous : Option String) (prior : Option InfrastructureOperationEvent) :
    List InfrastructureOperationEvent → Prop
  | [] => True
  | e :: rest => e.sequence = sequence ∧ e.previousEventDigest = previous ∧
      (∀ p, prior = some p → p.Continues e) ∧ Linked (sequence + 1) (some e.eventDigest) (some e) rest

theorem validateChain_ok {events : List InfrastructureOperationEvent} : ∀ {sequence : ℤ}
    {previous : Option String} {prior : Option InfrastructureOperationEvent} {u : Unit},
    validateChain sequence previous prior events = .ok u ↔ Linked sequence previous prior events := by
  induction events with
  | nil =>
    intro sequence previous prior u
    simp [validateChain, Linked]
  | cons e rest ih =>
    intro sequence previous prior u
    cases prior with
    | none =>
      simp only [validateChain, Linked, bind_ok, ensure_ok, beq_iff_eq, ih, exists_const, reduceCtorEq,
        false_implies, implies_true, true_and]
    | some p =>
      simp only [validateChain, Linked, bind_ok, ensure_ok, exists_unit, beq_iff_eq, ih, Option.some.injEq,
        forall_eq', Bool.and_eq_true, Bool.not_eq_true', InfrastructureOperationEvent.Continues]
      refine and_congr_right fun _ => and_congr_right fun _ => and_congr_left fun _ =>
        and_congr_right fun _ => decide_eq_true_iff

/-- The values of a page parse one by one, whatever their index. -/
theorem parseOperationEvents_toValue {events : List InfrastructureOperationEvent}
    (h : ∀ e ∈ events, e.Ok rt) : ∀ index : ℕ,
    parseOperationEvents rt index (events.map InfrastructureOperationEvent.toValue) = .ok events := by
  induction events with
  | nil => exact fun _ => rfl
  | cons e rest ih =>
    intro index
    rw [List.forall_mem_cons] at h
    simp only [List.map_cons, parseOperationEvents, parseOperationEvent_toValue h.1, bind_ok, pure_ok]
    exact ⟨e, rfl, rest, ih h.2 (index + 1), rfl⟩

theorem parseOperationEvents_ok {values : List Value} : ∀ {index : ℕ}
    {events : List InfrastructureOperationEvent}, parseOperationEvents rt index values = .ok events →
    (∀ e ∈ events, e.Ok rt) ∧ events.length = values.length := by
  induction values with
  | nil =>
    intro index events h
    obtain rfl : [] = events := Except.ok.inj h
    exact ⟨by simp, rfl⟩
  | cons v rest ih =>
    intro index events h
    simp only [parseOperationEvents, bind_ok, pure_ok] at h
    obtain ⟨e, he, es, hrest, rfl⟩ := h
    obtain ⟨hok, hlen⟩ := ih hrest
    exact ⟨List.forall_mem_cons.2 ⟨parseOperationEvent_ok he, hok⟩, by simp [hlen]⟩

theorem parseOperationEvents_append {values rest : List Value} : ∀ {index : ℕ}
    {events : List InfrastructureOperationEvent}, parseOperationEvents rt index (values ++ rest) = .ok events ↔
      ∃ first second, parseOperationEvents rt index values = .ok first ∧
        parseOperationEvents rt (index + values.length) rest = .ok second ∧ events = first ++ second := by
  induction values with
  | nil =>
    intro index events
    simp [parseOperationEvents, eq_comm]
  | cons v vs ih =>
    intro index events
    simp only [List.cons_append, parseOperationEvents, bind_ok, pure_ok, ih, List.length_cons]
    rw [show index + 1 + vs.length = index + (vs.length + 1) by omega]
    constructor
    · rintro ⟨e, he, es, ⟨first, second, h1, h2, rfl⟩, rfl⟩
      exact ⟨e :: first, second, ⟨e, he, first, h1, rfl⟩, h2, rfl⟩
    · rintro ⟨_, second, ⟨e, he, first, h1, rfl⟩, h2, rfl⟩
      exact ⟨e, he, first ++ second, ⟨first, second, h1, h2, rfl⟩, rfl⟩

/-- **The validator accepts exactly the linked pages**, and returns what it parsed. -/
theorem validate_ok {values : List Value} {options : ValidationOptions}
    {events : List InfrastructureOperationEvent} :
    validateInfrastructureOperationEvents rt values options = .ok events ↔
      values ≠ [] ∧ parseOperationEvents rt 0 values = .ok events ∧
        Linked (options.expectedFirstSequence.getD 1) options.expectedPreviousEventDigest none events := by
  unfold validateInfrastructureOperationEvents
  simp only [bind_ok, pure_ok, ensure_ok, exists_unit, validateChain_ok, Bool.not_eq_true',
    List.isEmpty_eq_false_iff]
  constructor
  · rintro ⟨hne, es, hp, hl, rfl⟩
    exact ⟨hne, hp, hl⟩
  · rintro ⟨hne, hp, hl⟩
    exact ⟨hne, events, hp, hl, rfl⟩

/-! ## Written chains -/

/-- What the writer makes of drafts, from a previous event. -/
def Written (rt : Runtime) (previous : Option InfrastructureOperationEvent) :
    List InfrastructureOperationEvent → Prop
  | [] => True
  | e :: rest => e.Sound ∧ e.Follows previous ∧
      e.previousEventDigest = previous.map (fun p => p.eventDigest) ∧ e.eventDigest = e.digest rt ∧
      Written rt (some e) rest

theorem createEvents_ok {drafts : List EventDraft} : ∀ {previous : Option InfrastructureOperationEvent}
    {events : List InfrastructureOperationEvent},
    createInfrastructureOperationEvents rt previous drafts = .ok events ↔
      drafts = events.map InfrastructureOperationEvent.draft ∧ Written rt previous events := by
  induction drafts with
  | nil =>
    intro previous events
    cases events <;> simp [createInfrastructureOperationEvents, Written]
  | cons draft drafts ih =>
    intro previous events
    simp only [createInfrastructureOperationEvents, bind_ok, pure_ok, createInfrastructureOperationEvent_ok, ih]
    constructor
    · rintro ⟨e, ⟨rfl, hsound, hfollows, hprevious, hdigest⟩, es, ⟨rfl, hwritten⟩, rfl⟩
      exact ⟨rfl, hsound, hfollows, hprevious, hdigest, hwritten⟩
    · intro h
      obtain ⟨hmap, hwritten⟩ := h
      cases events with
      | nil => simp at hmap
      | cons e es =>
        obtain ⟨rfl, rfl⟩ := List.cons.inj hmap
        obtain ⟨hsound, hfollows, hprevious, hdigest, hrest⟩ := hwritten
        exact ⟨e, ⟨rfl, hsound, hfollows, hprevious, hdigest⟩, es, ⟨rfl, hrest⟩, rfl⟩

/-- **The writer and the validator have the same rules.** The writer compares an event with the
one before it, the validator with what the position in the list makes it expect. -/
theorem written_iff {events : List InfrastructureOperationEvent} :
    ∀ {previous : Option InfrastructureOperationEvent}, (∀ p, previous = some p → p.Ok rt) →
      (Written rt previous events ↔ (∀ e ∈ events, e.Ok rt) ∧
        Linked (previous.elim 1 fun p => p.sequence + 1) (previous.map fun p => p.eventDigest) previous
          events) := by
  induction events with
  | nil => exact fun _ => by simp [Written, Linked]
  | cons e rest ih =>
    intro previous hprevious
    simp only [Written, Linked, List.forall_mem_cons]
    have hnext := @ih (some e)
    simp only [Option.some.injEq, forall_eq', Option.elim, Option.map_some] at hnext
    -- an event follows the previous one exactly when it stands where the list expects it
    have hfollows : e.Sound → (e.Follows previous ↔
        e.sequence = (previous.elim 1 fun p => p.sequence + 1) ∧ ∀ p, previous = some p → p.Continues e) := by
      intro hs
      cases previous with
      | none => simp [InfrastructureOperationEvent.Follows]
      | some p =>
        have hpos := (hprevious p rfl).sound.sequence.1
        simp only [InfrastructureOperationEvent.Follows, Option.elim, Option.some.injEq, forall_eq']
        constructor
        · rintro ⟨-, h1, h2⟩
          exact ⟨by omega, h2⟩
        · rintro ⟨h1, h2⟩
          exact ⟨by omega, by omega, h2⟩
    constructor
    · rintro ⟨hs, hf, hp, hd, hw⟩
      have hok : e.Ok rt := by
        refine ⟨hs, fun s hsome => ?_, hd⟩
        rw [hp, Option.map_eq_some_iff] at hsome
        obtain ⟨p, hpsome, rfl⟩ := hsome
        rw [(hprevious p hpsome).eventDigest]
        exact rt.sha256_hex _
      obtain ⟨hall, hlinked⟩ := (hnext hok).1 hw
      obtain ⟨hseq, hcont⟩ := (hfollows hs).1 hf
      exact ⟨⟨hok, hall⟩, hseq, hp, hcont, hseq ▸ hlinked⟩
    · rintro ⟨⟨hok, hall⟩, hseq, hp, hcont, hlinked⟩
      exact ⟨hok.sound, (hfollows hok.sound).2 ⟨hseq, hcont⟩, hp, hok.eventDigest,
        (hnext hok).2 ⟨hall, hseq ▸ hlinked⟩⟩

/-! ## What a page in order looks like -/

/-- What no event of a chain changes. -/
def EventWithoutDigest.subject (e : EventWithoutDigest) : String × String × String × ℤ × String :=
  (e.operationId, e.organizationId, e.tenantId, e.generation, e.desiredStateDigest)

theorem continues_iff {p e : InfrastructureOperationEvent} :
    p.Continues e ↔ p.terminal = false ∧ p.subject = e.subject := by
  unfold InfrastructureOperationEvent.Continues EventWithoutDigest.SameSubject EventWithoutDigest.subject
  simp only [Prod.mk.injEq]

/-- Every event of a linked page stands at its sequence, after the event it continues. -/
theorem Linked.at {events : List InfrastructureOperationEvent} : ∀ {sequence : ℤ} {previous : Option String}
    {prior : Option InfrastructureOperationEvent}, Linked sequence previous prior events →
      (∀ (i : ℕ) (h : i < events.length), (events[i]).sequence = sequence + i) ∧
      ∀ (i : ℕ) (h : i + 1 < events.length), (events[i + 1]).previousEventDigest = some (events[i]).eventDigest ∧
        (events[i]).Continues events[i + 1] := by
  induction events with
  | nil => exact fun _ => ⟨fun i h => absurd h (by simp), fun i h => absurd h (by simp)⟩
  | cons e rest ih =>
    intro sequence previous prior h
    obtain ⟨hseq, -, -, hrest⟩ := h
    obtain ⟨hat, hnext⟩ := ih hrest
    refine ⟨fun i hi => ?_, fun i hi => ?_⟩
    · cases i with
      | zero => simpa using hseq
      | succ i =>
        have := hat i (by simpa using hi)
        simp only [List.getElem_cons_succ, this]
        push_cast
        omega
    · cases i with
      | zero =>
        cases rest with
        | nil => simp at hi
        | cons f rest =>
          obtain ⟨-, hprev, hcont, -⟩ := hrest
          exact ⟨hprev, hcont e rfl⟩
      | succ i => exact hnext i (by simpa using hi)

theorem Linked.subject {events : List InfrastructureOperationEvent} : ∀ {sequence : ℤ}
    {previous : Option String} {prior : Option InfrastructureOperationEvent},
    Linked sequence previous prior events → ∀ e ∈ events, ∀ f ∈ events, e.subject = f.subject := by
  induction events with
  | nil => exact fun _ e he => absurd he List.not_mem_nil
  | cons e rest ih =>
    intro sequence previous prior h
    obtain ⟨-, -, -, hrest⟩ := h
    -- every event has the subject of the first
    have hfirst : ∀ f ∈ rest, f.subject = e.subject := by
      intro f hf
      cases rest with
      | nil => exact absurd hf List.not_mem_nil
      | cons g rest =>
        rw [ih hrest f hf g List.mem_cons_self]
        exact (continues_iff.1 (hrest.2.2.1 e rfl)).2.symm
    have hall : ∀ f ∈ e :: rest, f.subject = e.subject := List.forall_mem_cons.2 ⟨rfl, hfirst⟩
    intro f hf g hg
    rw [hall f hf, hall g hg]

/-! ## The digest binds the contents -/

theorem members_json (e : EventWithoutDigest) : isJson (.object e.members) = true := by
  have hreasons := isJsonItems_strings e.reasonCodes
  cases hp : e.previousEventDigest <;>
    simp [EventWithoutDigest.members, isJson, isJsonEntries, Number.isFinite, hreasons, hp]

/-- **The canonical text determines the contents of an event.** -/
theorem canonicalText_inj {e f : EventWithoutDigest} (h : e.canonicalText rt = f.canonicalText rt) :
    e = f := by
  have htext := String.ofList_injective h
  -- the two texts agree at each member, so the members agree
  have hmember : ∀ {k : String} {v w : Value}, (k, v) ∈ e.members → (k, w) ∈ f.members → v ≠ .undefined →
      textWith rt.sortedStyle v = textWith rt.sortedStyle w := fun hv hw hd =>
    object_member_text rt.sortedStyle (members_json e) (members_json f) htext (by
      simp [EventWithoutDigest.members]) hv hw hd
  have hstring : ∀ {k s t : String}, (k, .string s) ∈ e.members → (k, .string t) ∈ f.members → s = t := by
    intro k s t hs ht
    have := hmember hs ht (by simp)
    rw [textWith, textWith] at this
    exact quoteChars_injective this
  have hint : ∀ {k : String} {m n : ℤ}, (k, .number (.int m)) ∈ e.members →
      (k, .number (.int n)) ∈ f.members → m = n := fun hm hn =>
    object_int_inj rt.sortedStyle (members_json e) (members_json f) htext (by
      simp [EventWithoutDigest.members]) hm hn
  have hmem : ∀ (g : EventWithoutDigest) (i : ℕ) (p : String × Value), g.members[i]? = some p →
      p ∈ g.members := fun g i p hp => List.mem_of_getElem? hp
  have hversion := hstring (hmem e 2 _ rfl) (hmem f 2 _ rfl)
  have hoperation := hstring (hmem e 3 _ rfl) (hmem f 3 _ rfl)
  have horganization := hstring (hmem e 4 _ rfl) (hmem f 4 _ rfl)
  have htenant := hstring (hmem e 5 _ rfl) (hmem f 5 _ rfl)
  have hevent := hstring (hmem e 6 _ rfl) (hmem f 6 _ rfl)
  have hsequence := hint (hmem e 7 _ rfl) (hmem f 7 _ rfl)
  have hphase := InfrastructureOperationPhase.text_injective
    (hstring (hmem e 8 _ rfl) (hmem f 8 _ rfl))
  have hterminal : e.terminal = f.terminal := by
    have := hmember (hmem e 9 _ rfl) (hmem f 9 _ rfl) (by simp)
    generalize e.terminal = a at this ⊢
    generalize f.terminal = b at this ⊢
    cases a <;> cases b <;> simp [textWith] at this ⊢
  have hgeneration := hint (hmem e 10 _ rfl) (hmem f 10 _ rfl)
  have hdesired := hstring (hmem e 11 _ rfl) (hmem f 11 _ rfl)
  have hoccurred := hstring (hmem e 12 _ rfl) (hmem f 12 _ rfl)
  have hreasons := strings_textWith_inj _ (hmember (hmem e 13 _ rfl) (hmem f 13 _ rfl) (by simp))
  have hprevious : e.previousEventDigest = f.previousEventDigest := by
    have := hmember (hmem e 14 _ rfl) (hmem f 14 _ rfl) (by cases e.previousEventDigest <;> simp)
    generalize e.previousEventDigest = a at this ⊢
    generalize f.previousEventDigest = b at this ⊢
    cases a with
    | none => cases b <;> simp [textWith, quoteChars] at this ⊢
    | some s =>
      cases b with
      | none => simp [textWith, quoteChars] at this
      | some t =>
        simp only [Option.elim, textWith] at this
        exact congrArg some (quoteChars_injective this)
  cases e
  cases f
  simp only [EventWithoutDigest.mk.injEq]
  exact ⟨hversion, hoperation, horganization, htenant, hevent, hsequence, hphase, hterminal, hgeneration,
    hdesired, hoccurred, hreasons, hprevious⟩

/-- Two events with the same digest of their own contents are the same. -/
theorem eq_of_eventDigest {e f : InfrastructureOperationEvent} {S : Set String} (hcf : rt.CollisionFreeOn S)
    (he : e.eventDigest = e.digest rt) (hf : f.eventDigest = f.digest rt) (hes : e.canonicalText rt ∈ S)
    (hfs : f.canonicalText rt ∈ S) (h : e.eventDigest = f.eventDigest) : e = f := by
  have htext : e.canonicalText rt = f.canonicalText rt :=
    hcf hes hfs (by rw [he, hf] at h; exact h)
  have hcontents : e.toEventWithoutDigest = f.toEventWithoutDigest := canonicalText_inj htext
  cases e
  cases f
  simp only [InfrastructureOperationEvent.mk.injEq]
  exact ⟨hcontents, h⟩

theorem linked_append {events rest : List InfrastructureOperationEvent} : ∀ {sequence : ℤ}
    {previous : Option String} {prior : Option InfrastructureOperationEvent},
    Linked sequence previous prior (events ++ rest) ↔ Linked sequence previous prior events ∧
      Linked (sequence + events.length) (events.getLast?.elim previous fun e => some e.eventDigest)
        (events.getLast?.or prior) rest := by
  induction events with
  | nil => simp [Linked]
  | cons e events ih =>
    intro sequence previous prior
    have hseq : sequence + 1 + (events.length : ℤ) = sequence + ((e :: events).length : ℕ) := by
      rw [List.length_cons]
      omega
    have hlast : (events.getLast?.elim (some e.eventDigest) fun e => some e.eventDigest) =
        (e :: events).getLast?.elim previous fun e => some e.eventDigest := by
      rw [List.getLast?_cons]
      cases events.getLast? <;> rfl
    have hprior : events.getLast?.or (some e) = (e :: events).getLast?.or prior := by
      simp [List.getLast?_cons]
    simp only [List.cons_append, Linked, ih, hseq, hlast, hprior, and_assoc]

/-- **The last event of a page determines the events before it.** Each digest names the event
before, so the argument goes backwards from the last event. -/
theorem Linked.eq_of_last {S : Set String} (hcf : rt.CollisionFreeOn S) {sequence : ℤ}
    {previous : Option String} {prior : Option InfrastructureOperationEvent}
    {events : List InfrastructureOperationEvent} : ∀ {events' : List InfrastructureOperationEvent}
    {last : InfrastructureOperationEvent}, Linked sequence previous prior (events ++ [last]) →
      Linked sequence previous prior (events' ++ [last]) →
      (∀ e ∈ events ++ events', e.eventDigest = e.digest rt ∧ e.canonicalText rt ∈ S) → events = events' := by
  induction events using List.reverseRecOn with
  | nil =>
    intro events' last h h' _
    -- both pages end at the sequence of the last event
    have hseq : last.sequence = sequence + (0 : ℕ) := (linked_append.1 h).2.1
    have hseq' : last.sequence = sequence + events'.length := (linked_append.1 h').2.1
    have hlen : events'.length = 0 := by omega
    exact (List.length_eq_zero_iff.1 hlen).symm
  | append_singleton events e ih =>
    intro events' last h h' hall
    have hseq : last.sequence = sequence + ((events ++ [e]).length : ℕ) := (linked_append.1 h).2.1
    have hseq' : last.sequence = sequence + events'.length := (linked_append.1 h').2.1
    rcases List.eq_nil_or_concat events' with rfl | ⟨events', e', rfl⟩
    · simp only [List.length_append, List.length_nil, List.length_singleton] at hseq hseq'
      omega
    · have hprev := (linked_append.1 h).2.2.1
      have hprev' := (linked_append.1 h').2.2.1
      simp only [List.concat_eq_append, List.getLast?_append, List.getLast?_singleton, Option.some_or,
        Option.elim] at hprev hprev'
      obtain ⟨hd, hs⟩ := hall e (by simp)
      obtain ⟨hd', hs'⟩ := hall e' (by simp)
      obtain rfl : e = e' :=
        eq_of_eventDigest hcf hd hd' hs hs' (Option.some.inj (hprev.symm.trans hprev'))
      rw [List.concat_eq_append] at h' ⊢
      rw [ih (linked_append.1 h).1 (linked_append.1 h').1 fun f hf => hall f (by
        simp only [List.concat_eq_append, List.mem_append] at hf ⊢
        tauto)]

/-! ## A sample chain -/

def sampleDraft (eventId : String) (sequence : ℤ) (phase : InfrastructureOperationPhase)
    (occurredAt : String) : EventDraft where
  protocolVersion := "2026-07-16"
  operationId := "operation-1"
  organizationId := "acme"
  tenantId := "shop"
  eventId := eventId
  sequence := sequence
  phase := phase
  generation := 3
  desiredStateDigest := "9999999999999999999999999999999999999999999999999999999999999999"
  occurredAt := occurredAt
  reasonCodes := []

/-- The event of a draft. -/
def EventDraft.event (d : EventDraft) (previous : Option String) (own : String) :
    InfrastructureOperationEvent where
  protocolVersion := d.protocolVersion
  operationId := d.operationId
  organizationId := d.organizationId
  tenantId := d.tenantId
  eventId := d.eventId
  sequence := d.sequence
  phase := d.phase
  terminal := d.phase.isTerminal
  generation := d.generation
  desiredStateDigest := d.desiredStateDigest
  occurredAt := d.occurredAt
  reasonCodes := d.reasonCodes
  previousEventDigest := previous
  eventDigest := own

def acceptedDigest : String := "56dfa25eb2516134afc3dae5cd11a65afdc2227eca20e213a385627c5033879a"

def succeededDigest : String := "24289ab6d0547eae80979fb88c3cb8e78ce7d6af29ecb1682ede2f4736bf573c"

def reopenedDigest : String := "3f34d38c79446824c9ca362041c38f5b6c32441dfb734720013bce82f657dd31"

def acceptedEvent : InfrastructureOperationEvent :=
  (sampleDraft "event-1" 1 .accepted "2026-07-17T10:00:00.000Z").event none acceptedDigest

def succeededEvent : InfrastructureOperationEvent :=
  (sampleDraft "event-2" 2 .succeeded "2026-07-17T10:05:00.000Z").event (some acceptedDigest) succeededDigest

/-- An event after the end of its operation. -/
def reopenedEvent : InfrastructureOperationEvent :=
  (sampleDraft "event-3" 3 .reconciling "2026-07-17T10:06:00.000Z").event (some succeededDigest) reopenedDigest

def plainRuntime : Runtime :=
  Runtime.tabulated [] (fun _ => none) hex_nil

def chainTable : List (String × String) := [
  (acceptedEvent.canonicalText plainRuntime, acceptedDigest),
  (succeededEvent.canonicalText plainRuntime, succeededDigest),
  (reopenedEvent.canonicalText plainRuntime, reopenedDigest)]

theorem chainTable_hex : ∀ p ∈ chainTable, isHexDigest p.2 = true := by
  repeat' first | exact hex_nil | refine hex_cons (by decide +kernel) (by decide +kernel) ?_

/-- A runtime with the SHA-256 digests of the sample events. -/
def chainRuntime : Runtime := Runtime.tabulated chainTable (fun _ => none) chainTable_hex

/-- Every sample event has its own digest; the texts differ because the contents do. -/
theorem sample_digest : ∀ e ∈ [acceptedEvent, succeededEvent, reopenedEvent],
    e.eventDigest = e.digest chainRuntime := by
  have hne : ∀ {e f : EventWithoutDigest}, e ≠ f →
      (e.canonicalText plainRuntime == f.canonicalText plainRuntime) = false := fun h =>
    beq_eq_false_iff_ne.2 fun heq => h (canonicalText_inj heq)
  have htext : ∀ e : EventWithoutDigest, e.canonicalText chainRuntime = e.canonicalText plainRuntime := by
    intro e
    unfold EventWithoutDigest.canonicalText chainRuntime plainRuntime
    rw [Runtime.tabulated_sortedStyle]
  intro e he
  rw [EventWithoutDigest.digest, htext, chainRuntime, Runtime.tabulated_sha256, chainTable]
  simp only [List.mem_cons, List.not_mem_nil, or_false] at he
  rcases he with rfl | rfl | rfl
  · rw [List.lookup_cons_self]
    rfl
  · rw [List.lookup_cons, hne (by decide), List.lookup_cons_self]
    rfl
  · rw [List.lookup_cons, hne (by decide), List.lookup_cons, hne (by decide), List.lookup_cons_self]
    rfl

theorem sample_ok : ∀ e ∈ [acceptedEvent, succeededEvent, reopenedEvent], e.Ok chainRuntime := by
  have hsound : ∀ e ∈ [acceptedEvent, succeededEvent, reopenedEvent], e.Sound := by
    intro e he
    simp only [List.mem_cons, List.not_mem_nil, or_false] at he
    rcases he with rfl | rfl | rfl <;>
      exact ⟨by decide +kernel, by decide, by decide, by decide, by decide, by decide, rfl, by decide, by decide,
        by decide +kernel, by decide, by decide⟩
  refine fun e he => ⟨hsound e he, ?_, sample_digest e he⟩
  simp only [List.mem_cons, List.not_mem_nil, or_false] at he
  rcases he with rfl | rfl | rfl
  · intro s hs
    cases hs
  · intro s hs
    obtain rfl := Option.some.inj hs
    exact (by decide : isHexDigest acceptedDigest = true)
  · intro s hs
    obtain rfl := Option.some.inj hs
    exact (by decide : isHexDigest succeededDigest = true)

/-! ## The writer and the validator -/

/-- **Writer and validator agree on chains.** What the writer makes of drafts is accepted as it
is. What the validator accepts from the start is numbered from one, linked by digests and about
one subject, and is what the writer makes of its drafts. The last event determines all others. -/
theorem events_chained (rt : Runtime) :
    (∀ (drafts : List EventDraft) (events : List InfrastructureOperationEvent), drafts ≠ [] →
      createInfrastructureOperationEvents rt none drafts = .ok events →
      validateInfrastructureOperationEvents rt (events.map InfrastructureOperationEvent.toValue) .fromStart =
        .ok events) ∧
    (∀ (values : List Value) (events : List InfrastructureOperationEvent),
      validateInfrastructureOperationEvents rt values .fromStart = .ok events →
      (∀ (i : ℕ) (h : i < events.length), (events[i]).sequence = 1 + i) ∧
      (∀ e ∈ events.head?, e.previousEventDigest = none) ∧
      (∀ (i : ℕ) (h : i + 1 < events.length),
        (events[i + 1]).previousEventDigest = some ((events[i]).digest rt) ∧ (events[i]).terminal = false) ∧
      (∀ e ∈ events, ∀ f ∈ events, e.subject = f.subject) ∧
      createInfrastructureOperationEvents rt none (events.map InfrastructureOperationEvent.draft) = .ok events) ∧
    (∀ (values values' : List Value) (events events' : List InfrastructureOperationEvent)
      (last : InfrastructureOperationEvent),
      validateInfrastructureOperationEvents rt values .fromStart = .ok (events ++ [last]) →
      validateInfrastructureOperationEvents rt values' .fromStart = .ok (events' ++ [last]) →
      rt.CollisionFreeOn {text | ∃ e ∈ events ++ events', text = e.canonicalText rt} → events = events') := by
  refine ⟨?_, ?_, ?_⟩
  · intro drafts events hne h
    obtain ⟨hdrafts, hwritten⟩ := createEvents_ok.1 h
    obtain ⟨hok, hlinked⟩ := (written_iff fun _ h => by cases h).1 hwritten
    refine validate_ok.2 ⟨?_, parseOperationEvents_toValue hok 0, hlinked⟩
    rintro hnil
    exact hne (by rw [hdrafts, List.map_eq_nil_iff.1 hnil, List.map_nil])
  · intro values events h
    obtain ⟨-, hparse, hlinked⟩ := validate_ok.1 h
    have hok := (parseOperationEvents_ok hparse).1
    obtain ⟨hat, hnext⟩ := Linked.at hlinked
    refine ⟨hat, ?_, fun i hi => ?_, Linked.subject hlinked, createEvents_ok.2 ⟨rfl, ?_⟩⟩
    · intro e he
      obtain ⟨rest, rfl⟩ : ∃ rest, events = e :: rest := List.head?_eq_some_iff.1 he
      exact hlinked.2.1
    · obtain ⟨hprev, hcont⟩ := hnext i hi
      rw [hprev, (hok _ (List.getElem_mem _)).eventDigest]
      exact ⟨rfl, hcont.1⟩
    · exact (written_iff fun _ h => by cases h).2 ⟨hok, hlinked⟩
  · intro values values' events events' last h h' hcf
    obtain ⟨-, hparse, hlinked⟩ := validate_ok.1 h
    obtain ⟨-, hparse', hlinked'⟩ := validate_ok.1 h'
    have hok : ∀ e ∈ events ++ events', e.Ok rt := by
      intro e he
      rcases List.mem_append.1 he with he | he
      · exact (parseOperationEvents_ok hparse).1 e (List.mem_append_left _ he)
      · exact (parseOperationEvents_ok hparse').1 e (List.mem_append_left _ he)
    exact Linked.eq_of_last hcf hlinked hlinked' fun e he => ⟨(hok e he).eventDigest, e, he, rfl⟩

/-- The sample operation is accepted, then succeeds. -/
theorem events_chained_sample :
    validateInfrastructureOperationEvents chainRuntime
        ([acceptedEvent, succeededEvent].map InfrastructureOperationEvent.toValue) .fromStart =
      .ok [acceptedEvent, succeededEvent] ∧
    (succeededEvent.previousEventDigest = some (acceptedEvent.digest chainRuntime) ∧
      acceptedEvent.terminal = false) := by
  have hwritten : createInfrastructureOperationEvents chainRuntime none
      ([acceptedEvent, succeededEvent].map InfrastructureOperationEvent.draft) =
        .ok [acceptedEvent, succeededEvent] := by
    refine createEvents_ok.2 ⟨rfl, (written_iff fun _ h => by cases h).2 ⟨fun e he => sample_ok e ?_, ?_⟩⟩
    · simp only [List.mem_cons, List.not_mem_nil, or_false] at he ⊢
      tauto
    · have hcontinues : acceptedEvent.Continues succeededEvent := continues_iff.2 ⟨rfl, rfl⟩
      refine ⟨rfl, rfl, fun p hp => ?_, rfl, rfl, fun p hp => ?_, trivial⟩
      · exact absurd hp (by simp)
      · exact Option.some.inj hp ▸ hcontinues
  have hvalid := (events_chained chainRuntime).1 _ _ (by decide) hwritten
  exact ⟨hvalid, ((events_chained chainRuntime).2.1 _ _ hvalid).2.2.1 0 (by decide)⟩

end SecureSaas.Protocol
