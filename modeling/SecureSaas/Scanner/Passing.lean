import SecureSaas.Scanner.Documents

/-!
# The scans that pass

A report passes when nothing was found: the exceptions are valid and all used, the sources
parse, and every document is quiet, of its own name, and needs only what is excepted.

* `validateExceptions_effect`: the exceptions that a scan goes by.
* `pass_iff`: **when a scan passes.**
-/

namespace SecureSaas.Scanner

open Js

variable {rt : Runtime} {parse : YamlParser} {args : ScanArgs} {state : ScanState} {nowMs : ℤ}

def WorkloadTokenException.key (exception : WorkloadTokenException) : String :=
  exceptionKey exception.resource exception.issue

/-! ## Sources -/

/-- The documents of a YAML document that was parsed. -/
def yamlDocuments (sourcePath : String) (document : YamlDocument × ℕ) : List (Value × Place) :=
  if document.1.errors ≠ [] then []
  else match document.1.value with
    | .error _ => []
    | .ok value => if isMissing value then [] else documents value ⟨sourcePath, document.2, "$"⟩

def sourceDocuments (parse : YamlParser) (source : RenderedManifestSource) : List (Value × Place) :=
  (parse source.yaml).zipIdx.flatMap (yamlDocuments source.path)

/-- All documents of the sources. -/
def allDocuments (parse : YamlParser) (sources : List RenderedManifestSource) : List (Value × Place) :=
  sources.flatMap (sourceDocuments parse)

def isParsed (document : YamlDocument) : Prop := document.errors = [] ∧ ∃ value, document.value = .ok value

/-- What is reported of no document in the list. -/
def AllQuiet (found : List (Value × Place)) : Prop := ∀ document ∈ found, isQuiet document.1 = true

def keysOf (found : List (Value × Place)) : List String := found.flatMap fun document => documentKeys document.1

def usesOf (found : List (Value × Place)) : List String := found.flatMap fun document => documentUses document.1

theorem documents_effect (found : List (Value × Place)) (state : ScanState) :
    Effect state (found.foldl scanOne state) (AllQuiet found) (keysOf found) (usesOf found) :=
  Effect.foldl scanOne_effect found state

theorem scanDocument_effect (sourcePath : String) (state : ScanState) (document : YamlDocument × ℕ) :
    Effect state (scanDocument sourcePath state document)
      (isParsed document.1 ∧ AllQuiet (yamlDocuments sourcePath document))
      (keysOf (yamlDocuments sourcePath document)) (usesOf (yamlDocuments sourcePath document)) := by
  unfold scanDocument yamlDocuments isParsed
  dsimp only
  by_cases herrors : document.1.errors = []
  · rw [if_neg (not_not.2 herrors), if_neg (not_not.2 herrors)]
    cases document.1.value with
    | error message => simpa [keysOf, usesOf] using Effect.finding state _
    | ok value =>
      have htrue : (document.1.errors = [] ∧ ∃ v, Except.ok value = (Except.ok v : Except String Value)) = True :=
        eq_true ⟨herrors, value, rfl⟩
      rw [htrue, true_and]
      dsimp only
      split_ifs
      · simpa [AllQuiet, keysOf, usesOf] using Effect.refl state
      · rw [scanResource_eq]
        exact documents_effect _ state
  · rw [if_pos herrors, if_pos herrors]
    simpa [herrors, keysOf, usesOf] using Effect.finding state _

theorem allQuiet_flatMap {α : Type} {items : List α} {f : α → List (Value × Place)} :
    AllQuiet (items.flatMap f) ↔ ∀ a ∈ items, AllQuiet (f a) := by
  unfold AllQuiet
  simp only [List.mem_flatMap, forall_exists_index, and_imp]
  exact ⟨fun h a ha document hdocument => h document a ha hdocument, fun h document a ha hdocument => h a ha document hdocument⟩

theorem keysOf_flatMap {α : Type} {items : List α} {f : α → List (Value × Place)} :
    keysOf (items.flatMap f) = items.flatMap fun a => keysOf (f a) := List.flatMap_assoc

theorem usesOf_flatMap {α : Type} {items : List α} {f : α → List (Value × Place)} :
    usesOf (items.flatMap f) = items.flatMap fun a => usesOf (f a) := List.flatMap_assoc

theorem forall_mem_zipIdx {α : Type} {items : List α} {p : α → Prop} : (∀ a ∈ items.zipIdx, p a.1) ↔ ∀ a ∈ items, p a := by
  conv_rhs => rw [← List.zipIdx_map_fst 0 items]
  rw [List.forall_mem_map]

/-- The documents of all sources are scanned one after another. -/
theorem sources_effect (parse : YamlParser) (sources : List RenderedManifestSource) (state : ScanState) :
    Effect state (sources.foldl (scanSource parse) state)
      ((∀ source ∈ sources, ∀ document ∈ parse source.yaml, isParsed document) ∧ AllQuiet (allDocuments parse sources))
      (keysOf (allDocuments parse sources)) (usesOf (allDocuments parse sources)) := by
  have hsource : ∀ (state : ScanState) (source : RenderedManifestSource), Effect state (scanSource parse state source)
      ((∀ document ∈ parse source.yaml, isParsed document) ∧ AllQuiet (sourceDocuments parse source))
      (keysOf (sourceDocuments parse source)) (usesOf (sourceDocuments parse source)) := by
    intro state source
    have hrun := Effect.foldl (scanDocument_effect source.path) (parse source.yaml).zipIdx state
    unfold sourceDocuments
    rw [allQuiet_flatMap, keysOf_flatMap, usesOf_flatMap, ← forall_mem_zipIdx, ← forall₂_and]
    exact hrun
  have hrun := Effect.foldl hsource sources state
  unfold allDocuments
  rw [allQuiet_flatMap, keysOf_flatMap, usesOf_flatMap, ← forall₂_and]
  exact hrun

/-! ## Exceptions -/

theorem validateException_quiet {exception : WorkloadTokenException} :
    (validateException state exception).findings = [] ↔ state.findings = [] ∧
      exceptionError state.nowMs exception = .ok () ∧ state.exceptions.get? exception.key = none := by
  unfold validateException
  cases hvalid : exceptionError state.nowMs exception with
  | error message => simp [addFinding]
  | ok u =>
    dsimp only
    unfold WorkloadTokenException.key
    split_ifs with hseen
    · rw [Option.isSome_iff_ne_none] at hseen
      simp [addFinding, hseen]
    · rw [Option.isSome_iff_ne_none, not_not] at hseen
      simp [hseen]

theorem validateException_eq {exception : WorkloadTokenException} (hvalid : exceptionError state.nowMs exception = .ok ())
    (hnew : state.exceptions.get? exception.key = none) :
    validateException state exception = { state with exceptions := state.exceptions.set exception.key exception } := by
  unfold validateException
  unfold WorkloadTokenException.key at hnew ⊢
  rw [hvalid]
  simp [hnew]

/-- The exceptions that are validated without a finding are those of the list. -/
theorem validateExceptions_quiet : ∀ (exceptions : List WorkloadTokenException) (state : ScanState),
    (validateExceptions exceptions state).findings = [] ↔ state.findings = [] ∧
      (∀ exception ∈ exceptions, exceptionError state.nowMs exception = .ok ()) ∧
      (exceptions.map WorkloadTokenException.key).Nodup ∧
      ∀ exception ∈ exceptions, state.exceptions.get? exception.key = none := by
  intro exceptions
  induction exceptions with
  | nil => intro state; simp [validateExceptions]
  | cons exception exceptions ih =>
    intro state
    unfold validateExceptions at ih ⊢
    rw [List.foldl_cons, ih, validateException_quiet, List.map_cons, List.nodup_cons, List.forall_mem_cons,
      List.forall_mem_cons]
    constructor
    · rintro ⟨⟨hfindings, hvalid, hnew⟩, hrest, hnodup, hrestNew⟩
      rw [validateException_eq hvalid hnew] at hrest hrestNew
      have hother : ∀ other ∈ exceptions, other.key ≠ exception.key ∧ state.exceptions.get? other.key = none := by
        intro other hmem
        have hget := hrestNew other hmem
        rw [Record.get?_set] at hget
        split_ifs at hget with hkey
        exact ⟨hkey, hget⟩
      refine ⟨hfindings, ⟨hvalid, hrest⟩, ⟨?_, hnodup⟩, hnew, fun other hmem => (hother other hmem).2⟩
      rw [List.mem_map]
      rintro ⟨other, hmem, hkey⟩
      exact (hother other hmem).1 hkey
    · rintro ⟨hfindings, ⟨hvalid, hrest⟩, ⟨hkey, hnodup⟩, hnew, hrestNew⟩
      rw [validateException_eq hvalid hnew]
      refine ⟨⟨hfindings, hvalid, hnew⟩, hrest, hnodup, fun other hmem => ?_⟩
      have hne : other.key ≠ exception.key := by
        intro heq
        rw [← heq] at hkey
        exact hkey (List.mem_map_of_mem hmem)
      rw [Record.get?_set_ne hne]
      exact hrestNew other hmem

/-- The state that a scan starts from, when its exceptions are validated without a finding. -/
theorem validateExceptions_state : ∀ (exceptions : List WorkloadTokenException) (state : ScanState),
    (validateExceptions exceptions state).findings = [] →
      (validateExceptions exceptions state).resourceKeys = state.resourceKeys ∧
      (validateExceptions exceptions state).exceptionsUsed = state.exceptionsUsed ∧
      ∀ key exception, (validateExceptions exceptions state).exceptions.get? key = some exception ↔
        state.exceptions.get? key = some exception ∨ (exception ∈ exceptions ∧ exception.key = key) := by
  intro exceptions
  induction exceptions with
  | nil => intro state _; simp [validateExceptions]
  | cons first exceptions ih =>
    intro state h
    obtain ⟨hfindings, hvalid, hnodup, hnew⟩ := (validateExceptions_quiet _ _).1 h
    have hfirst := validateException_eq (hvalid first List.mem_cons_self) (hnew first List.mem_cons_self)
    unfold validateExceptions at h ih ⊢
    rw [List.foldl_cons, hfirst] at h ⊢
    obtain ⟨hkeys, hused, hget⟩ := ih _ h
    refine ⟨hkeys, hused, fun key exception => ?_⟩
    rw [hget, Record.get?_set]
    split_ifs with hkey
    · have hnone : state.exceptions.get? key = none := by
        rw [hkey]
        exact hnew first List.mem_cons_self
      rw [List.mem_cons, hnone]
      simp only [Option.some.injEq, reduceCtorEq, false_or]
      constructor
      · rintro (rfl | ⟨hmem, hexception⟩)
        · exact ⟨Or.inl rfl, hkey.symm⟩
        · exact ⟨Or.inr hmem, hexception⟩
      · rintro ⟨rfl | hmem, hexception⟩
        · exact Or.inl rfl
        · exact Or.inr ⟨hmem, hexception⟩
    · rw [List.mem_cons]
      refine or_congr_right (and_congr_left fun hexception => ?_)
      exact ⟨Or.inr, fun h => h.resolve_left fun heq => hkey (by rw [← hexception, heq])⟩

/-- An exception that was not used is reported. -/
theorem reportUnused_quiet : (reportUnused state).findings = [] ↔ state.findings = [] ∧
    ∀ key exception, state.exceptions.get? key = some exception → exception.id ∈ state.exceptionsUsed := by
  have hrun : ∀ (exceptions : List WorkloadTokenException) (state : ScanState),
      (exceptions.foldl (fun state exception =>
        if state.exceptionsUsed.contains exception.id then state
        else addFinding state
          (exceptionPlace.finding .exceptionUnused (some exception.resource) exception.id
            ("exception '" ++ exception.id ++ "' does not match a denied token use"))) state).findings = [] ↔
        state.findings = [] ∧ ∀ exception ∈ exceptions, exception.id ∈ state.exceptionsUsed := by
    intro exceptions
    induction exceptions with
    | nil => intro state; simp
    | cons exception exceptions ih =>
      intro state
      rw [List.foldl_cons, ih, List.forall_mem_cons]
      split_ifs with hused
      · rw [List.contains_iff_mem] at hused
        simp [hused]
      · rw [List.contains_iff_mem] at hused
        simp [addFinding, hused]
  unfold reportUnused
  rw [hrun]
  simp only [List.mem_map, Prod.exists, exists_eq_right, forall_exists_index, Record.get?_eq_some_iff]
  refine and_congr_right fun _ => ⟨fun h key exception hmem => h exception key hmem, fun h exception key hmem => h key exception hmem⟩

/-- What was used is not changed by the report on what was not. -/
theorem reportUnused_used (state : ScanState) : (reportUnused state).exceptionsUsed = state.exceptionsUsed := by
  unfold reportUnused
  refine List.foldlRecOn (motive := fun s : ScanState => s.exceptionsUsed = state.exceptionsUsed) _ _ rfl
    fun s hs exception _ => ?_
  split_ifs
  · exact hs
  · exact hs

/-! ## Passing -/

def scanTime (args : ScanArgs) : ℤ := (dateParse args.scannedAt).getD 0

/-- The inputs in which nothing is found. -/
structure Clean (parse : YamlParser) (args : ScanArgs) : Prop where
  exceptions : ∀ exception ∈ args.exceptions, exceptionError (scanTime args) exception = .ok ()
  exceptionKeys : (args.exceptions.map WorkloadTokenException.key).Nodup
  parsed : ∀ source ∈ args.sources, ∀ document ∈ parse source.yaml, isParsed document
  quiet : AllQuiet (allDocuments parse args.sources)
  resourceKeys : (keysOf (allDocuments parse args.sources)).Nodup
  excepted : ∀ use ∈ usesOf (allDocuments parse args.sources), ∃ exception ∈ args.exceptions, exception.key = use
  used : ∀ exception ∈ args.exceptions, ∃ other ∈ args.exceptions,
    other.key ∈ usesOf (allDocuments parse args.sources) ∧ other.id = exception.id

/-- What a scan that returns reports. -/
theorem scan_ok {report : WorkloadTokenScanReport} (h : scanRenderedWorkloadTokens rt parse args = .ok report) :
    ∃ sources : List RenderedManifestSource, sources.Perm args.sources ∧ (report.pass = true ↔
      (reportUnused (sources.foldl (scanSource parse)
        (validateExceptions args.exceptions (initialState (scanTime args))))).findings = []) ∧
      ∀ id, id ∈ report.exceptionsUsed ↔ id ∈ (sources.foldl (scanSource parse)
        (validateExceptions args.exceptions (initialState (scanTime args)))).exceptionsUsed := by
  unfold scanRenderedWorkloadTokens at h
  simp only [bind_ok, pure_ok] at h
  obtain ⟨nowMs, hnow, -, -, sources, hsources, rfl⟩ := h
  have htime : nowMs = scanTime args := by
    unfold exactTimestamp at hnow
    unfold scanTime
    cases hparse : dateParse args.scannedAt with
    | none => rw [hparse] at hnow; cases hnow
    | some t =>
      rw [hparse] at hnow
      dsimp only at hnow
      split_ifs at hnow
      exact (Except.ok.inj hnow).symm
  subst htime
  have hperm : sources.Perm args.sources := by
    unfold normalizeSources at hsources
    obtain ⟨-, -, hsources⟩ := bind_ok.1 hsources
    dsimp only at hsources
    split at hsources
    · cases hsources
    · rw [← Except.ok.inj hsources]
      exact rt.sortByKey_perm _ _
  refine ⟨sources, hperm, ?_, fun id => ?_⟩
  · dsimp only
    rw [List.isEmpty_iff, ← List.length_eq_zero_iff, (rt.sortByKey_perm _ _).length_eq, List.length_eq_zero_iff]
  · dsimp only
    rw [List.mem_insertionSort, reportUnused_used]

theorem allDocuments_perm (parse : YamlParser) {sources sources' : List RenderedManifestSource} (h : sources.Perm sources') :
    (allDocuments parse sources).Perm (allDocuments parse sources') := h.flatMap_right _

/-- **When a scan passes.** -/
theorem pass_iff {report : WorkloadTokenScanReport} (h : scanRenderedWorkloadTokens rt parse args = .ok report) :
    report.pass = true ↔ Clean parse args := by
  obtain ⟨sources, hperm, hpass, -⟩ := scan_ok h
  have hdocuments := allDocuments_perm parse hperm
  have hkeys : (keysOf (allDocuments parse sources)).Perm (keysOf (allDocuments parse args.sources)) :=
    hdocuments.flatMap_right _
  have huses : (usesOf (allDocuments parse sources)).Perm (usesOf (allDocuments parse args.sources)) :=
    hdocuments.flatMap_right _
  have heffect := sources_effect parse sources (validateExceptions args.exceptions (initialState (scanTime args)))
  have hquiet := validateExceptions_quiet args.exceptions (initialState (scanTime args))
  have hstart : (validateExceptions args.exceptions (initialState (scanTime args))).findings = [] →
      (validateExceptions args.exceptions (initialState (scanTime args))).resourceKeys = [] ∧
      (validateExceptions args.exceptions (initialState (scanTime args))).exceptionsUsed = [] ∧
      ∀ key exception,
        (validateExceptions args.exceptions (initialState (scanTime args))).exceptions.get? key = some exception ↔
          exception ∈ args.exceptions ∧ exception.key = key := by
    intro hvalid
    obtain ⟨hkeysStart, husedStart, hget⟩ := validateExceptions_state _ _ hvalid
    refine ⟨hkeysStart, husedStart, fun key exception => ?_⟩
    rw [hget]
    simp [initialState]
  rw [hpass, reportUnused_quiet, heffect.findings, heffect.exceptions]
  constructor
  · rintro ⟨⟨hvalid, ⟨hparsed, hall⟩, -, hnodup, hexcepted⟩, hused⟩
    obtain ⟨-, hexceptions, hexceptionKeys, -⟩ := hquiet.1 hvalid
    obtain ⟨-, husedStart, hget⟩ := hstart hvalid
    refine ⟨hexceptions, hexceptionKeys, fun source hsource => hparsed source (hperm.mem_iff.2 hsource),
      fun document hdocument => hall document (hdocuments.mem_iff.2 hdocument), hkeys.nodup_iff.1 hnodup,
      fun use huse => ?_, fun exception hexception => ?_⟩
    · obtain ⟨exception, hexception⟩ := Option.isSome_iff_exists.1 (hexcepted use (huses.mem_iff.2 huse))
      exact ⟨exception, (hget use exception).1 hexception⟩
    · have hid := (heffect.exceptionsUsed exception.id).1 (hused exception.key exception ((hget _ _).2 ⟨hexception, rfl⟩))
      rw [husedStart] at hid
      obtain hnil | ⟨use, huse, other, hother, hsame⟩ := hid
      · exact absurd hnil List.not_mem_nil
      · obtain ⟨hmem, rfl⟩ := (hget use other).1 hother
        exact ⟨other, hmem, huses.mem_iff.1 huse, hsame⟩
  · intro hclean
    have hvalid := hquiet.2 ⟨rfl, hclean.exceptions, hclean.exceptionKeys, fun exception _ => rfl⟩
    obtain ⟨hkeysStart, -, hget⟩ := hstart hvalid
    refine ⟨⟨hvalid, ⟨fun source hsource => hclean.parsed source (hperm.mem_iff.1 hsource),
      fun document hdocument => hclean.quiet document (hdocuments.mem_iff.1 hdocument)⟩, fun key _ => ?_,
      hkeys.nodup_iff.2 hclean.resourceKeys, fun use huse => ?_⟩, fun key exception hexception => ?_⟩
    · rw [hkeysStart]
      exact List.not_mem_nil
    · obtain ⟨exception, hexception⟩ := hclean.excepted use (huses.mem_iff.1 huse)
      exact Option.isSome_iff_exists.2 ⟨exception, (hget use exception).2 hexception⟩
    · obtain ⟨hmem, -⟩ := (hget key exception).1 hexception
      obtain ⟨other, hother, huse, hsame⟩ := hclean.used exception hmem
      exact (heffect.exceptionsUsed exception.id).2
        (Or.inr ⟨other.key, huses.mem_iff.2 huse, other, (hget _ _).2 ⟨hother, rfl⟩, hsame⟩)

end SecureSaas.Scanner
