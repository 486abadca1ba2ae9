import SecureSaas.Dependencies.Audit
import SecureSaas.Js.Collect
import Mathlib.Data.List.Dedup

/-!
# Advisories that hide others

The gate looks at the last entry for the id and the package of an advisory only.

* `passes_iff`: when the gate reports nothing.
* `gate_sound_iff`: **the reports on which a silent gate has seen everything.**
* `advisory_masked`: a moderate advisory that a later, milder entry of the same package hides.
-/

namespace SecureSaas.Dependencies

open Js

variable {parseDate : DateReader} {report file : Value} {now : ℤ} {packages : List VulnerablePackage}
  {advisories : List DependencyAdvisory} {exceptions : List DependencyException}

/-! ## What a silent gate has seen -/

/-- `Date.parse` reads the texts of UTC times. -/
def ReadsUtc (parseDate : DateReader) : Prop := ∀ text t, dateParse text = some t → parseDate text = some t

/-- At least moderate. -/
def Severity.Significant (severity : Severity) : Prop := severity = .moderate ∨ severity = .high ∨ severity = .critical

/-- An exception for this advisory and severity that has not expired. -/
def Covers (parseDate : DateReader) (now : ℤ) (exception : DependencyException) (advisory : DependencyAdvisory) : Prop :=
  exception.advisoryId = advisory.advisoryId ∧ exception.severity = advisory.severity ∧
    ∃ expiresAt, parseDate exception.expiresAt = some expiresAt ∧ now < expiresAt

/-- No package is high or critical, and an exception covers each advisory that is at least moderate. -/
structure Complete (parseDate : DateReader) (now : ℤ) (packages : List VulnerablePackage)
    (exceptions : List DependencyException) : Prop where
  mild : ∀ package ∈ packages, package.severity ≠ .high ∧ package.severity ≠ .critical
  covered : ∀ package ∈ packages, ∀ advisory ∈ package.concrete, advisory.severity.Significant →
    ∃ exception ∈ exceptions, Covers parseDate now exception advisory

/-- The gate reports no failure. -/
def Passes (parseDate : DateReader) (report file : Value) (now : ℤ) : Prop :=
  ∃ evaluation, evaluateDependencyAudit parseDate report file now = .ok evaluation ∧ evaluation.failures = []

/-- A silent gate has seen everything, whatever the exceptions and the time are. -/
def GateSound (parseDate : DateReader) (report : Value) (packages : List VulnerablePackage) : Prop :=
  ∀ (file : Value) (exceptions : List DependencyException) (now : ℤ), parseExceptionFile parseDate file = .ok exceptions →
    Passes parseDate report file now → Complete parseDate now packages exceptions

/-! ## The reports on which it has -/

/-- An entry that no exception can accept: an exception names an advisory that is not blank, and is at most moderate. -/
def Unacceptable (advisory : DependencyAdvisory) : Prop :=
  advisory.severity = .high ∨ advisory.severity = .critical ∨
    advisory.severity = .moderate ∧ hasText advisory.advisoryId = false

/-- An entry that no later one with its id and package replaces. -/
def Remaining (packages : List VulnerablePackage) (advisory : DependencyAdvisory) : Prop :=
  LastWith DependencyAdvisory.key (findings packages) advisory

/-- No package is high or critical, and each advisory that is at least moderate is moderate and remains, or another
moderate one with its id does. -/
structure Visible (packages : List VulnerablePackage) : Prop where
  mild : ∀ package ∈ packages, package.severity ≠ .high ∧ package.severity ≠ .critical
  remains : ∀ package ∈ packages, ∀ advisory ∈ package.concrete, advisory.severity.Significant →
    advisory.severity = .moderate ∧ ∃ other, Remaining packages other ∧ other.severity = .moderate ∧
      other.advisoryId = advisory.advisoryId

/-- The report carries an error, an entry that remains cannot be accepted, or nothing is hidden. -/
def Unmasked (report : Value) (packages : List VulnerablePackage) : Prop :=
  (∃ root, report = .object root ∧ Value.get root "error" ≠ .undefined) ∨
    (∃ advisory, Remaining packages advisory ∧ Unacceptable advisory) ∨ Visible packages

/-! ## The map of advisories -/

theorem asRecord_ok {value : Value} {label : String} {properties : List (String × Value)} :
    asRecord value label = .ok properties ↔ value = .object properties := by
  unfold asRecord
  cases value with
  | object other => simp
  | _ => simp

/-- **The advisories of a report** are the entries that remain. -/
theorem extractAdvisories_ok (h : extractAdvisories report = .ok advisories) :
    ∃ packages, reportedPackages report = .ok packages ∧ ∀ advisory, advisory ∈ advisories ↔ Remaining packages advisory := by
  simp only [extractAdvisories, bind_ok, pure_ok] at h
  obtain ⟨packages, hpackages, _, -, -, -, rfl⟩ := h
  exact ⟨packages, hpackages, fun _ => mem_fromEntries_iff⟩

/-! ## Exceptions -/

theorem parseExceptionFile_nodup (h : parseExceptionFile parseDate file = .ok exceptions) :
    (exceptions.map (·.advisoryId)).Nodup := by
  simp only [parseExceptionFile, bind_ok] at h
  obtain ⟨input, -, h⟩ := h
  split at h
  · simp only [bind_ok, throwUnless_ok, exists_unit, pure_ok, decide_eq_true_eq] at h
    obtain ⟨_, -, hnodup, rfl⟩ := h
    exact hnodup
  · cases h

theorem parseExceptions_all {P : DependencyException → Prop} (hP : ∀ index raw exception,
      parseException parseDate index raw = .ok exception → P exception) : ∀ {entries : List Value} {index : ℕ}
    {exceptions : List DependencyException}, parseExceptions parseDate index entries = .ok exceptions →
      ∀ exception ∈ exceptions, P exception := by
  intro entries
  induction entries with
  | nil =>
    intro index exceptions h
    obtain rfl := Except.ok.inj h
    exact fun _ hmem => absurd hmem List.not_mem_nil
  | cons raw rest ih =>
    intro index exceptions h
    simp only [parseExceptions, bind_ok, pure_ok] at h
    obtain ⟨exception, hexception, others, hothers, rfl⟩ := h
    exact List.forall_mem_cons.2 ⟨hP index raw exception hexception, ih hothers⟩

/-- An exception names an advisory, and its date is one. -/
theorem parseException_ok {index : ℕ} {raw : Value} {exception : DependencyException}
    (h : parseException parseDate index raw = .ok exception) :
    hasText exception.advisoryId = true ∧ (parseDate exception.expiresAt).isSome = true := by
  simp only [parseException, bind_ok] at h
  obtain ⟨entry, -, severity, -, h⟩ := h
  split at h
  · simp only [bind_ok, throwUnless_ok, exists_unit, pure_ok] at h
    obtain ⟨advisoryId, -, expiresAt, -, hid, hdate, controls, -, -, owner, -, reason, -, rfl⟩ := h
    exact ⟨hid, hdate⟩
  · cases h

theorem parseExceptionFile_ok (h : parseExceptionFile parseDate file = .ok exceptions) : ∀ exception ∈ exceptions,
    hasText exception.advisoryId = true ∧ (parseDate exception.expiresAt).isSome = true := by
  simp only [parseExceptionFile, bind_ok] at h
  obtain ⟨input, -, h⟩ := h
  split at h
  · simp only [bind_ok, throwUnless_ok, exists_unit, pure_ok] at h
    obtain ⟨_, hparsed, -, rfl⟩ := h
    exact parseExceptions_all (fun _ _ _ => parseException_ok) hparsed
  · cases h

/-- The exception for an id, when no two have the same. -/
theorem exceptionById_get? (hnodup : (exceptions.map (·.advisoryId)).Nodup) {advisoryId : String}
    {exception : DependencyException} :
    (Record.fromEntries (exceptions.map fun entry => (entry.advisoryId, entry))).get? advisoryId = some exception ↔
      exception ∈ exceptions ∧ exception.advisoryId = advisoryId := by
  constructor
  · intro h
    obtain ⟨hlast, hid⟩ := (@fromEntries_get?_last _ _ _ (fun entry : DependencyException => entry.advisoryId) _).1 h
    exact ⟨hlast.mem, hid⟩
  · rintro ⟨hmem, rfl⟩
    exact Record.fromEntries_map_get? hnodup hmem

/-! ## A silent gate -/

theorem exceptionFailures_nil (h : exceptionFailures parseDate now exception = []) {expiresAt : ℤ}
    (hdate : parseDate exception.expiresAt = some expiresAt) : now < expiresAt := by
  unfold exceptionFailures at h
  obtain ⟨hexpired, -⟩ := List.append_eq_nil_iff.1 h
  rw [hdate, Option.any_some] at hexpired
  by_contra hnot
  rw [if_pos (decide_eq_true (by omega))] at hexpired
  cases hexpired

/-- What the gate lets through: mild entries, and moderate ones with a moderate exception. -/
theorem advisoryFailures_nil (hnodup : (exceptions.map (·.advisoryId)).Nodup) {advisory : DependencyAdvisory} :
    advisoryFailures (Record.fromEntries (exceptions.map fun entry => (entry.advisoryId, entry))) advisory = [] ↔
      ¬ advisory.severity.Significant ∨ advisory.severity = .moderate ∧
        ∃ exception ∈ exceptions, exception.advisoryId = advisory.advisoryId ∧ exception.severity = .moderate := by
  unfold advisoryFailures Severity.Significant
  by_cases hsevere : advisory.severity = .critical ∨ advisory.severity = .high
  · rw [if_pos hsevere]
    refine iff_of_false (List.cons_ne_nil _ _) ?_
    rintro (hnot | ⟨hmoderate, -⟩)
    · exact hnot (Or.inr hsevere.symm)
    · rcases hsevere with h | h <;> rw [hmoderate] at h <;> cases h
  · rw [if_neg hsevere]
    by_cases hmoderate : advisory.severity = .moderate
    · rw [if_pos hmoderate]
      simp only [hmoderate, true_or, not_true_eq_false, false_or, true_and]
      cases hget : (Record.fromEntries (exceptions.map fun entry => (entry.advisoryId, entry))).get?
          advisory.advisoryId with
      | none =>
        refine iff_of_false (List.cons_ne_nil _ _) ?_
        rintro ⟨exception, hmem, hid, -⟩
        rw [(exceptionById_get? hnodup).2 ⟨hmem, hid⟩] at hget
        cases hget
      | some exception =>
        obtain ⟨hmem, hid⟩ := (exceptionById_get? hnodup).1 hget
        by_cases hseverity : exception.severity = .moderate
        · simp only [ne_eq, hseverity, not_true_eq_false, if_false, true_iff]
          exact ⟨exception, hmem, hid, hseverity⟩
        · simp only [ne_eq, hseverity, not_false_eq_true, if_true, reduceCtorEq, false_iff]
          rintro ⟨other, hother, hotherId, hotherSeverity⟩
          obtain rfl := List.inj_on_of_nodup_map hnodup hother hmem (hotherId.trans hid.symm)
          exact hseverity hotherSeverity
    · rw [if_neg hmoderate]
      refine iff_of_true rfl (Or.inl ?_)
      rintro (h | h | h)
      · exact hmoderate h
      · exact hsevere (Or.inr h)
      · exact hsevere (Or.inl h)

/-- **When the gate reports nothing.** -/
theorem passes_iff (hpackages : reportedPackages report = .ok packages)
    (hadvisories : extractAdvisories report = .ok advisories)
    (hexceptions : parseExceptionFile parseDate file = .ok exceptions) : Passes parseDate report file now ↔
      (∀ root, report = .object root → Value.get root "error" = .undefined) ∧
        (∀ exception ∈ exceptions, exceptionFailures parseDate now exception = []) ∧
        ∀ advisory, Remaining packages advisory → ¬ advisory.severity.Significant ∨ advisory.severity = .moderate ∧
          ∃ exception ∈ exceptions, exception.advisoryId = advisory.advisoryId ∧ exception.severity = .moderate := by
  have hnodup := parseExceptionFile_nodup hexceptions
  obtain ⟨others, hothers, hmem⟩ := extractAdvisories_ok hadvisories
  obtain rfl := Except.ok.inj (hothers.symm.trans hpackages)
  -- a report that is read is an object
  have hroot : ∃ root, report = .object root := by
    simp only [reportedPackages, bind_ok, asRecord_ok] at hpackages
    obtain ⟨root, hroot, -⟩ := hpackages
    exact ⟨root, hroot⟩
  obtain ⟨root, rfl⟩ := hroot
  have herror : isUndefined (Value.get root "error") = true ↔ Value.get root "error" = .undefined := by
    unfold isUndefined
    cases Value.get root "error" <;> simp
  simp only [Passes, evaluateDependencyAudit, bind_ok, throwUnless_ok, exists_unit, pure_ok, asRecord_ok,
    Value.object.injEq, exists_eq_left', herror, hexceptions, Except.ok.injEq, hadvisories]
  constructor
  · rintro ⟨_, ⟨hnone, rfl⟩, hfailures⟩
    obtain ⟨hexception, hadvisory⟩ := List.append_eq_nil_iff.1 (distinct_eq_nil.1 hfailures)
    refine ⟨fun _ heq => heq ▸ hnone, List.flatMap_eq_nil_iff.1 hexception, fun advisory hremaining => ?_⟩
    exact (advisoryFailures_nil hnodup).1 (List.flatMap_eq_nil_iff.1 hadvisory advisory ((hmem advisory).2 hremaining))
  · rintro ⟨hnone, hexception, hadvisory⟩
    refine ⟨_, ⟨hnone root rfl, rfl⟩, distinct_eq_nil.2 (List.append_eq_nil_iff.2
      ⟨List.flatMap_eq_nil_iff.2 hexception, List.flatMap_eq_nil_iff.2 fun advisory hin => ?_⟩)⟩
    exact (advisoryFailures_nil hnodup).2 (hadvisory advisory ((hmem advisory).1 hin))

/-! ## Reports on which nothing is hidden -/

def exceptionProperties (advisoryId : String) : List (String × Value) := [
  ("advisoryId", .string advisoryId),
  ("severity", .string "moderate"),
  ("owner", .string "security"),
  ("reason", .string "reviewed"),
  ("expiresAt", .string "2999-01-01T00:00:00.000Z"),
  ("compensatingControls", .array [.string "reviewed"])]

/-- An exception for a moderate advisory. -/
def reviewedException (advisoryId : String) : DependencyException where
  advisoryId := advisoryId
  severity := .moderate
  owner := "security"
  reason := "reviewed"
  expiresAt := "2999-01-01T00:00:00.000Z"
  compensatingControls := ["reviewed"]

def exceptionFile (advisoryIds : List String) : Value := .object [
  ("schemaVersion", .number (.int 1)),
  ("exceptions", .array (advisoryIds.map fun advisoryId => .object (exceptionProperties advisoryId)))]

theorem reviewed_date (hdates : ReadsUtc parseDate) :
    parseDate "2999-01-01T00:00:00.000Z" = some 32472144000000 := hdates _ _ (by decide +kernel)

theorem parseException_value (hdates : ReadsUtc parseDate) {index : ℕ} {advisoryId : String}
    (hid : hasText advisoryId = true) :
    parseException parseDate index (.object (exceptionProperties advisoryId)) = .ok (reviewedException advisoryId) := by
  have hcontrols : Value.get (exceptionProperties advisoryId) "compensatingControls" = .array [.string "reviewed"] := rfl
  have htexts : [Value.string "reviewed"].mapM toText = .ok ["reviewed"] := by
    simp only [List.mapM_cons, List.mapM_nil, toText_string]
    rfl
  have hdate : (parseDate "2999-01-01T00:00:00.000Z").isSome = true := by
    rw [reviewed_date hdates, Option.isSome_some]
  have hreviewed : ["reviewed"].all hasText = true := by decide
  have htext : ∀ s, textOrEmpty (.string s) = .ok s := fun s => toText_string s
  rw [parseException, bind_ok]
  refine ⟨exceptionProperties advisoryId, rfl, ?_⟩
  rw [bind_ok]
  refine ⟨.moderate, rfl, ?_⟩
  simp only [hcontrols, bind_ok, throwUnless_ok, exists_unit, pure_ok]
  exact ⟨advisoryId, htext _, _, htext _, hid, hdate, _, htexts, hreviewed, "security", htext _, "reviewed", htext _, rfl⟩

/-- An exception file that names the advisories is read. -/
theorem parseExceptionFile_value (hdates : ReadsUtc parseDate) {advisoryIds : List String}
    (hids : ∀ advisoryId ∈ advisoryIds, hasText advisoryId = true) (hnodup : advisoryIds.Nodup) :
    parseExceptionFile parseDate (exceptionFile advisoryIds) = .ok (advisoryIds.map reviewedException) := by
  have hentries : ∀ (advisoryIds : List String) (index : ℕ), (∀ advisoryId ∈ advisoryIds, hasText advisoryId = true) →
      parseExceptions parseDate index (advisoryIds.map fun advisoryId => .object (exceptionProperties advisoryId)) =
        .ok (advisoryIds.map reviewedException) := by
    intro advisoryIds
    induction advisoryIds with
    | nil => exact fun _ _ => rfl
    | cons advisoryId rest ih =>
      intro index h
      obtain ⟨hid, hrest⟩ := List.forall_mem_cons.1 h
      rw [List.map_cons, parseExceptions, parseException_value hdates hid, ih _ hrest]
      rfl
  have hmap : (advisoryIds.map reviewedException).map (·.advisoryId) = advisoryIds := by
    rw [List.map_map]
    exact List.map_id _
  rw [parseExceptionFile, bind_ok]
  refine ⟨_, rfl, ?_⟩
  have hversion : Value.get [("schemaVersion", .number (.int 1)), ("exceptions", .array (advisoryIds.map fun advisoryId =>
      .object (exceptionProperties advisoryId)))] "schemaVersion" = .number (.int 1) := rfl
  have hvalues : Value.get [("schemaVersion", .number (.int 1)), ("exceptions", .array (advisoryIds.map fun advisoryId =>
      .object (exceptionProperties advisoryId)))] "exceptions" =
        .array (advisoryIds.map fun advisoryId => .object (exceptionProperties advisoryId)) := rfl
  simp only [hversion, hvalues, bind_ok, throwUnless_ok, exists_unit, pure_ok, decide_eq_true_eq]
  exact ⟨_, hentries advisoryIds 0 hids, by rwa [hmap], rfl⟩

theorem exceptionFailures_reviewed (hdates : ReadsUtc parseDate) (advisoryId : String) :
    exceptionFailures parseDate 0 (reviewedException advisoryId) = [] := by
  have hdate := reviewed_date hdates
  have hreviewed : hasText "reviewed" = true := by decide
  have howner : hasText "security" = true := by decide
  simp [exceptionFailures, reviewedException, hdate, hreviewed, howner]

/-- **The reports on which a silent gate has seen everything**: the gate never is silent on the report, or nothing is
hidden. -/
theorem gate_sound_iff (hdates : ReadsUtc parseDate) (h : extractAdvisories report = .ok advisories) :
    ∃ packages, reportedPackages report = .ok packages ∧ (GateSound parseDate report packages ↔ Unmasked report packages) := by
  obtain ⟨packages, hpackages, -⟩ := extractAdvisories_ok h
  refine ⟨packages, hpackages, fun hsound => ?_, fun hunmasked file exceptions now hexceptions hpasses => ?_⟩
  · by_cases herror : ∃ root, report = .object root ∧ Value.get root "error" ≠ .undefined
    · exact Or.inl herror
    by_cases hunacceptable : ∃ advisory, Remaining packages advisory ∧ Unacceptable advisory
    · exact Or.inr (Or.inl hunacceptable)
    obtain ⟨packages', hpackages', hmem⟩ := extractAdvisories_ok h
    obtain rfl := Except.ok.inj (hpackages'.symm.trans hpackages)
    -- exceptions for the moderate advisories that remain, and for nothing else
    set advisoryIds := ((advisories.filter fun advisory => advisory.severity = .moderate).map (·.advisoryId)).dedup
      with hdef
    have hids : ∀ advisoryId, advisoryId ∈ advisoryIds ↔
        ∃ advisory, Remaining packages' advisory ∧ advisory.severity = .moderate ∧ advisory.advisoryId = advisoryId := by
      intro advisoryId
      simp only [hdef, List.mem_dedup, List.mem_map, List.mem_filter, hmem, decide_eq_true_eq, and_assoc]
    have hnamed : ∀ advisoryId ∈ advisoryIds, hasText advisoryId = true := by
      intro advisoryId hin
      obtain ⟨advisory, hremaining, hmoderate, rfl⟩ := (hids advisoryId).1 hin
      by_contra hblank
      exact hunacceptable ⟨advisory, hremaining, Or.inr (Or.inr ⟨hmoderate, by simpa using hblank⟩)⟩
    have hexceptions := parseExceptionFile_value hdates hnamed (List.nodup_dedup _)
    have hpasses : Passes parseDate report (exceptionFile advisoryIds) 0 := by
      refine (passes_iff hpackages h hexceptions).2 ⟨fun root hroot => ?_, fun exception hin => ?_, fun advisory hin => ?_⟩
      · by_contra hpresent
        exact herror ⟨root, hroot, hpresent⟩
      · obtain ⟨advisoryId, -, rfl⟩ := List.mem_map.1 hin
        exact exceptionFailures_reviewed hdates advisoryId
      · by_cases hmoderate : advisory.severity = .moderate
        · exact Or.inr ⟨hmoderate, _, List.mem_map_of_mem ((hids _).2 ⟨advisory, hin, hmoderate, rfl⟩), rfl, rfl⟩
        · refine Or.inl fun hsignificant => hunacceptable ⟨advisory, hin, ?_⟩
          rcases hsignificant with hsame | hhigh | hcritical
          · exact absurd hsame hmoderate
          · exact Or.inl hhigh
          · exact Or.inr (Or.inl hcritical)
    obtain ⟨hmild, hcovered⟩ := hsound _ _ 0 hexceptions hpasses
    refine Or.inr (Or.inr ⟨hmild, fun package hpackage advisory hadvisory hsignificant => ?_⟩)
    obtain ⟨exception, hin, hid, hseverity, -⟩ := hcovered package hpackage advisory hadvisory hsignificant
    obtain ⟨advisoryId, hname, rfl⟩ := List.mem_map.1 hin
    obtain ⟨other, hremaining, hmoderate, hother⟩ := (hids advisoryId).1 hname
    exact ⟨hseverity.symm, other, hremaining, hmoderate, hother.trans hid⟩
  · obtain ⟨hnone, hfresh, hremaining⟩ := (passes_iff hpackages h hexceptions).1 hpasses
    have hparsed := parseExceptionFile_ok hexceptions
    rcases hunmasked with ⟨root, hroot, hpresent⟩ | ⟨advisory, hin, hunacceptable⟩ | ⟨hmild, hvisible⟩
    · exact absurd (hnone root hroot) hpresent
    · -- the gate is not silent about an entry that cannot be accepted
      exfalso
      rcases hremaining advisory hin with hnot | ⟨hmoderate, exception, hexception, hid, -⟩
      · rcases hunacceptable with hhigh | hcritical | ⟨hmoderate, -⟩
        · exact hnot (Or.inr (Or.inl hhigh))
        · exact hnot (Or.inr (Or.inr hcritical))
        · exact hnot (Or.inl hmoderate)
      · rcases hunacceptable with hhigh | hcritical | ⟨-, hblank⟩
        · rw [hmoderate] at hhigh
          cases hhigh
        · rw [hmoderate] at hcritical
          cases hcritical
        · rw [← hid, (hparsed exception hexception).1] at hblank
          cases hblank
    · refine ⟨hmild, fun package hpackage advisory hadvisory hsignificant => ?_⟩
      obtain ⟨hmoderate, other, hother, hotherModerate, hsame⟩ := hvisible package hpackage advisory hadvisory hsignificant
      rcases hremaining other hother with hnot | ⟨-, exception, hexception, hid, hseverity⟩
      · exact absurd (Or.inl hotherModerate) hnot
      · obtain ⟨expiresAt, hdate⟩ := Option.isSome_iff_exists.1 (hparsed exception hexception).2
        exact ⟨exception, hexception, hid.trans hsame, hseverity.trans hmoderate.symm, expiresAt, hdate,
          exceptionFailures_nil (hfresh exception hexception) hdate⟩

/-! ## A report on which an advisory is hidden -/

/-- A package with these advisories of one address. -/
def sampleReport (severities : List String) : Value := .object [
  ("vulnerabilities", .object [("example", .object [
    ("severity", .string "moderate"),
    ("via", .array (severities.map fun severity => .object [
      ("severity", .string severity),
      ("title", .string "synthetic advisory"),
      ("url", .string "https://github.com/advisories/GHSA-moderate")]))])]),
  ("metadata", .object [("vulnerabilities", .object [
    ("info", .number (.int 0)),
    ("low", .number (.int 0)),
    ("moderate", .number (.int 1)),
    ("high", .number (.int 0)),
    ("critical", .number (.int 0)),
    ("total", .number (.int 1))])])]

theorem gate_sound_sample : ∃ packages, reportedPackages (sampleReport ["moderate"]) = .ok packages ∧
    (GateSound dateParse (sampleReport ["moderate"]) packages ↔ Unmasked (sampleReport ["moderate"]) packages) := by
  have haccepted : (extractAdvisories (sampleReport ["moderate"])).isOk = true := by decide +kernel
  obtain ⟨advisories, h⟩ := exists_of_isOk haccepted
  exact gate_sound_iff (fun _ _ hdate => hdate) h

/-- **A moderate advisory** that a later, milder entry of the same package hides passes without an exception. -/
theorem advisory_masked : ¬ ∀ (parseDate : DateReader), ReadsUtc parseDate → ∀ (report : Value)
    (advisories : List DependencyAdvisory) (packages : List VulnerablePackage),
      extractAdvisories report = .ok advisories → reportedPackages report = .ok packages →
        GateSound parseDate report packages := by
  intro hclaim
  have haccepted : (extractAdvisories (sampleReport ["moderate", "low"])).isOk = true := by decide +kernel
  obtain ⟨advisories, h⟩ := exists_of_isOk haccepted
  obtain ⟨packages, hpackages, -⟩ := extractAdvisories_ok h
  have hempty : parseExceptionFile dateParse (exceptionFile []) = .ok [] := rfl
  have hsilent : ((evaluateDependencyAudit dateParse (sampleReport ["moderate", "low"]) (exceptionFile []) 0).toOption.any
      fun evaluation => evaluation.failures.isEmpty) = true := by decide +kernel
  have hseen : ((reportedPackages (sampleReport ["moderate", "low"])).toOption.any fun packages => packages.any fun package =>
      package.concrete.any fun advisory => advisory.severity = .moderate) = true := by decide +kernel
  have hpasses : Passes dateParse (sampleReport ["moderate", "low"]) (exceptionFile []) 0 := by
    cases hevaluation : evaluateDependencyAudit dateParse (sampleReport ["moderate", "low"]) (exceptionFile []) 0 with
    | error message =>
      rw [hevaluation] at hsilent
      cases hsilent
    | ok evaluation =>
      rw [hevaluation] at hsilent
      exact ⟨evaluation, hevaluation, List.isEmpty_iff.1 hsilent⟩
  rw [hpackages] at hseen
  obtain ⟨package, hpackage, hseen⟩ := List.any_eq_true.1 hseen
  obtain ⟨advisory, hadvisory, hmoderate⟩ := List.any_eq_true.1 hseen
  have hcomplete := hclaim dateParse (fun _ _ hdate => hdate) _ advisories packages h hpackages _ [] 0 hempty hpasses
  obtain ⟨exception, hin, -⟩ :=
    hcomplete.covered package hpackage advisory hadvisory (Or.inl (of_decide_eq_true hmoderate))
  exact List.not_mem_nil hin

end SecureSaas.Dependencies
