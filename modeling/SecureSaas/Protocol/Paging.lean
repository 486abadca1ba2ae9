import SecureSaas.Protocol.Chain

/-!
# Reading a chain page by page

A client continues from a page with the sequence and the digest of its last event. The validator
then compares the first event of the next page with these two, and with nothing else of the page
before: neither its end nor its subject.

* `atOnce_iff`, `byPages_iff`: what both readings accept, in the same terms.
* `readings_agree_iff`: they agree exactly when the second page continues the first.
* `terminal_page_continued`: they do not agree after a terminal event.
-/

namespace SecureSaas.Protocol

open Js

variable {rt : Runtime}

/-! ## Pages and their indices -/

/-- The index of a value is part of the errors only. -/
theorem parseOperationEvent_index {v : Value} {i j : ℕ} {e : InfrastructureOperationEvent}
    (h : parseOperationEvent rt v i = .ok e) : parseOperationEvent rt v j = .ok e := by
  unfold parseOperationEvent at h ⊢
  simp only [bind_ok, pure_ok, exactObject_ok, phase_ok, checkedBoolean_ok, booleanValue,
    uniqueTexts_ok @reasonCode_ok, ensure_ok, literal_ok, protocolVersion_ok, identifier_ok,
    positiveInteger_ok, digest_ok, timestamp_ok, nullableDigest_ok] at h ⊢
  exact h

theorem parseOperationEvents_index {values : List Value} : ∀ {i j : ℕ}
    {events : List InfrastructureOperationEvent}, parseOperationEvents rt i values = .ok events →
    parseOperationEvents rt j values = .ok events := by
  induction values with
  | nil => exact fun h => h
  | cons v rest ih =>
    intro i j events h
    simp only [parseOperationEvents, bind_ok, pure_ok] at h ⊢
    obtain ⟨e, he, es, hes, rfl⟩ := h
    exact ⟨e, parseOperationEvent_index he, es, ih hes, rfl⟩

/-! ## Two readings of a chain -/

/-- The options for the page after an event. -/
def ValidationOptions.after (last : InfrastructureOperationEvent) : ValidationOptions :=
  ⟨some (last.sequence + 1), some last.eventDigest⟩

/-- The validator accepts two pages as one. -/
def AcceptedAtOnce (rt : Runtime) (p1 p2 : List Value) : Prop :=
  ∃ events, validateInfrastructureOperationEvents rt (p1 ++ p2) .fromStart = .ok events

/-- The validator accepts a first page, and the second after the last event of the first. -/
def AcceptedByPages (rt : Runtime) (p1 p2 : List Value) : Prop :=
  ∃ first last second, validateInfrastructureOperationEvents rt p1 .fromStart = .ok (first ++ [last]) ∧
    validateInfrastructureOperationEvents rt p2 (.after last) = .ok second

/-- Two pages in order, the second linked to the first by sequence and digest. -/
def InOrder (rt : Runtime) (p1 p2 : List Value) (last next : InfrastructureOperationEvent) : Prop :=
  ∃ first rest, parseOperationEvents rt 0 p1 = .ok (first ++ [last]) ∧
    parseOperationEvents rt 0 p2 = .ok (next :: rest) ∧ Linked 1 none none (first ++ [last]) ∧
    Linked (last.sequence + 1) (some last.eventDigest) none (next :: rest)

theorem parsed_ne_nil {values : List Value} (h : values ≠ []) {i : ℕ}
    {events : List InfrastructureOperationEvent} (hp : parseOperationEvents rt i values = .ok events) :
    events ≠ [] := by
  intro hnil
  have hlen := (parseOperationEvents_ok hp).2
  rw [hnil, List.length_nil] at hlen
  exact h (List.length_eq_zero_iff.1 hlen.symm)

theorem linked_last {first : List InfrastructureOperationEvent} {last : InfrastructureOperationEvent}
    (h : Linked 1 none none (first ++ [last])) : last.sequence = 1 + first.length :=
  (linked_append.1 h).2.1

theorem byPages_iff {p1 p2 : List Value} (h1 : p1 ≠ []) (h2 : p2 ≠ []) :
    AcceptedByPages rt p1 p2 ↔ ∃ last next, InOrder rt p1 p2 last next := by
  constructor
  · rintro ⟨first, last, second, hfirst, hsecond⟩
    obtain ⟨-, hparse1, hlinked1⟩ := validate_ok.1 hfirst
    obtain ⟨-, hparse2, hlinked2⟩ := validate_ok.1 hsecond
    obtain ⟨next, rest, rfl⟩ := List.exists_cons_of_ne_nil (parsed_ne_nil h2 hparse2)
    exact ⟨last, next, first, rest, hparse1, hparse2, hlinked1, hlinked2⟩
  · rintro ⟨last, next, first, rest, hparse1, hparse2, hlinked1, hlinked2⟩
    exact ⟨first, last, next :: rest, validate_ok.2 ⟨h1, hparse1, hlinked1⟩,
      validate_ok.2 ⟨h2, hparse2, hlinked2⟩⟩

theorem atOnce_iff {p1 p2 : List Value} (h1 : p1 ≠ []) (h2 : p2 ≠ []) :
    AcceptedAtOnce rt p1 p2 ↔ ∃ last next, InOrder rt p1 p2 last next ∧ last.Continues next := by
  have hseq : ∀ {first : List InfrastructureOperationEvent} {last : InfrastructureOperationEvent},
      Linked 1 none none (first ++ [last]) →
      (1 : ℤ) + ((first ++ [last]).length : ℕ) = last.sequence + 1 := by
    intro first last h
    rw [linked_last h, List.length_append, List.length_singleton]
    omega
  constructor
  · rintro ⟨events, h⟩
    obtain ⟨-, hparse, hlinked⟩ := validate_ok.1 h
    obtain ⟨es, fs, hparse1, hparse2, rfl⟩ := parseOperationEvents_append.1 hparse
    obtain ⟨first, last, rfl⟩ := (List.eq_nil_or_concat es).resolve_left (parsed_ne_nil h1 hparse1)
    obtain ⟨next, rest, rfl⟩ := List.exists_cons_of_ne_nil (parsed_ne_nil h2 hparse2)
    rw [List.concat_eq_append] at hparse1 hlinked
    obtain ⟨hlinked1, hnext, hprev, hcont, hrest⟩ := linked_append.1 hlinked
    have hstart := hseq hlinked1
    simp only [List.getLast?_append, List.getLast?_singleton, Option.some_or, Option.elim] at hprev hcont
    refine ⟨last, next, ⟨first, rest, hparse1, parseOperationEvents_index hparse2, hlinked1, ?_⟩, hcont last rfl⟩
    exact ⟨hnext.trans hstart, hprev, fun p hp => absurd hp (by simp), hstart ▸ hrest⟩
  · rintro ⟨last, next, ⟨first, rest, hparse1, hparse2, hlinked1, hnext, hprev, -, hrest⟩, hcont⟩
    have hstart := hseq hlinked1
    refine ⟨first ++ [last] ++ next :: rest, validate_ok.2 ⟨by simp [h1], ?_, linked_append.2 ⟨hlinked1, ?_⟩⟩⟩
    · exact parseOperationEvents_append.2 ⟨_, _, hparse1, parseOperationEvents_index hparse2, rfl⟩
    · simp only [List.getLast?_append, List.getLast?_singleton, Option.some_or, Option.elim]
      refine ⟨hnext.trans hstart.symm, hprev, fun p hp => ?_, hstart.symm ▸ hrest⟩
      exact Option.some.inj hp ▸ hcont

/-- **Reading by pages and at once agree exactly where the second page continues the first**: the
last event before the boundary is not terminal and has the subject of the event after it. -/
theorem readings_agree_iff (rt : Runtime) (p1 p2 : List Value) (h1 : p1 ≠ []) (h2 : p2 ≠ []) :
    (AcceptedAtOnce rt p1 p2 ↔ AcceptedByPages rt p1 p2) ↔
      ∀ last next, InOrder rt p1 p2 last next → last.Continues next := by
  rw [atOnce_iff h1 h2, byPages_iff h1 h2]
  constructor
  · intro hagree last next horder
    obtain ⟨last', next', horder', hcont⟩ := hagree.2 ⟨last, next, horder⟩
    -- the pages have one last and one first event
    obtain ⟨first, rest, hparse1, hparse2, -⟩ := horder
    obtain ⟨first', rest', hparse1', hparse2', -⟩ := horder'
    have hlast := Except.ok.inj (hparse1.symm.trans hparse1')
    have hnext := Except.ok.inj (hparse2.symm.trans hparse2')
    obtain rfl : last = last' := by simpa using (List.append_inj' hlast rfl).2
    obtain ⟨rfl, -⟩ := List.cons.inj hnext
    exact hcont
  · intro hcont
    constructor
    · rintro ⟨last, next, horder, -⟩
      exact ⟨last, next, horder⟩
    · rintro ⟨last, next, horder⟩
      exact ⟨last, next, horder, hcont last next horder⟩

def page (events : List InfrastructureOperationEvent) : List Value :=
  events.map InfrastructureOperationEvent.toValue

theorem sample_page (events : List InfrastructureOperationEvent)
    (h : ∀ e ∈ events, e ∈ [acceptedEvent, succeededEvent, reopenedEvent]) :
    parseOperationEvents chainRuntime 0 (page events) = .ok events :=
  parseOperationEvents_toValue (fun e he => sample_ok e (h e he)) 0

/-- The sample operation is read alike in one page and in two. -/
theorem readings_agree_sample :
    AcceptedAtOnce chainRuntime (page [acceptedEvent]) (page [succeededEvent]) ↔
      AcceptedByPages chainRuntime (page [acceptedEvent]) (page [succeededEvent]) := by
  refine (readings_agree_iff chainRuntime (page [acceptedEvent]) (page [succeededEvent]) (by simp [page])
    (by simp [page])).2 ?_
  rintro last next ⟨first, rest, hparse1, hparse2, -⟩
  have hlast := Except.ok.inj (hparse1.symm.trans (sample_page [acceptedEvent] (by simp)))
  have hnext := Except.ok.inj (hparse2.symm.trans (sample_page [succeededEvent] (by simp)))
  obtain rfl : last = acceptedEvent := by simpa using (@List.append_inj' _ first [last] [] [acceptedEvent] hlast rfl).2
  obtain ⟨rfl, -⟩ := List.cons.inj hnext
  exact continues_iff.2 ⟨rfl, rfl⟩

/-- **An event after the end of its operation is accepted on a page of its own**, and refused
on the page of the event that ended it. -/
theorem terminal_page_continued :
    ¬ (AcceptedAtOnce chainRuntime (page [acceptedEvent, succeededEvent]) (page [reopenedEvent]) ↔
      AcceptedByPages chainRuntime (page [acceptedEvent, succeededEvent]) (page [reopenedEvent])) := by
  have hne : ∀ {e : InfrastructureOperationEvent} {es : List InfrastructureOperationEvent},
      page (e :: es) ≠ [] := by simp [page]
  have hparse1 := sample_page [acceptedEvent, succeededEvent] (by simp)
  have hparse2 := sample_page [reopenedEvent] (by simp)
  have hcontinues : acceptedEvent.Continues succeededEvent := continues_iff.2 ⟨rfl, rfl⟩
  have hlinked1 : Linked 1 none none ([acceptedEvent] ++ [succeededEvent]) :=
    ⟨rfl, rfl, fun _ h => absurd h (by simp), rfl, rfl, fun p hp => Option.some.inj hp ▸ hcontinues, trivial⟩
  have hlinked2 : Linked (succeededEvent.sequence + 1) (some succeededEvent.eventDigest) none [reopenedEvent] :=
    ⟨rfl, rfl, fun _ h => absurd h (by simp), trivial⟩
  intro hagree
  obtain ⟨last, next, ⟨first, rest, hparse, -⟩, hcont⟩ := (atOnce_iff hne hne).1
    (hagree.2 ((byPages_iff hne hne).2 ⟨_, _, [acceptedEvent], [], hparse1, hparse2, hlinked1, hlinked2⟩))
  have hlast := Except.ok.inj (hparse.symm.trans hparse1)
  obtain rfl : last = succeededEvent := by
    simpa using (@List.append_inj' _ first [last] [acceptedEvent] [succeededEvent] hlast rfl).2
  -- the last event of the first page is terminal
  exact absurd hcont.1 (by decide)

end SecureSaas.Protocol
