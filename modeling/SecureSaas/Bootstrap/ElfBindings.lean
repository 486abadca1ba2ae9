import SecureSaas.Bootstrap.ElfComplete

/-!
# The bindings of the closure

The closure is written once, with its bindings in order, and read again before each run: each file is bound anew and
compared.

* `analysis_written`: **what is written**: files that only root can change, in order, no loader among the libraries.
* `written_closure_accepted`: **when the launcher accepts what was written**.
-/

namespace SecureSaas.Bootstrap

open Js Go

variable {files : RuntimeFiles}

/-! ## Nothing is found twice -/

/-- The loaders and the external files are sets. -/
structure Distinct (s : ElfSearch) : Prop where
  loaders : s.loaders.Nodup
  external : s.external.Nodup

theorem addInterpreter_distinct {current interpreter : Bytes} {runpaths : List Bytes} {s s' : ElfSearch}
    (h : addInterpreter files current interpreter runpaths s = .ok s') (hs : Distinct s) : Distinct s' := by
  unfold addInterpreter at h
  split_ifs at h
  · obtain rfl := Except.ok.inj h
    exact hs
  · obtain ⟨resolved, -, h⟩ := bind_ok.1 h
    obtain ⟨pending, -, h⟩ := bind_ok.1 h
    obtain rfl := Except.ok.inj h
    exact ⟨hs.loaders.insert, hs.external⟩

theorem addLibraries_distinct {ownedRoot current : Bytes} {runpaths libraries : List Bytes} {s s' : ElfSearch}
    (h : addLibraries files ownedRoot current runpaths libraries s = .ok s') (hs : Distinct s) : Distinct s' := by
  induction libraries generalizing s with
  | nil =>
    obtain rfl := Except.ok.inj h
    exact hs
  | cons library rest ih =>
    unfold addLibraries at h
    obtain ⟨resolved, -, h⟩ := bind_ok.1 h
    obtain ⟨pending, -, h⟩ := bind_ok.1 h
    refine ih h ⟨hs.loaders, ?_⟩
    dsimp only
    split_ifs
    · exact hs.external
    · exact hs.external.insert

theorem searchRound_distinct {ownedRoot : Bytes} {s s' : ElfSearch} (hs : Distinct s)
    (h : searchRound files ownedRoot s = some (.ok s')) : Distinct s' := by
  unfold searchRound at h
  split at h
  · exact absurd h (by simp)
  · have h := Option.some.inj h
    unfold expand at h
    obtain ⟨binary, -, h⟩ := bind_ok.1 h
    obtain ⟨interpreter, -, h⟩ := bind_ok.1 h
    obtain ⟨runpaths, -, h⟩ := bind_ok.1 h
    obtain ⟨libraries, -, h⟩ := bind_ok.1 h
    obtain ⟨middle, hmiddle, h⟩ := bind_ok.1 h
    obtain ⟨last, hlast, h⟩ := bind_ok.1 h
    obtain ⟨⟨⟩, -, h⟩ := bind_ok.1 h
    obtain rfl := Except.ok.inj h
    exact addLibraries_distinct hlast (addInterpreter_distinct hmiddle ⟨hs.loaders, hs.external⟩)

theorem addOptional_distinct {optionals : List Bytes} {s s' : ElfSearch} (h : addOptional files optionals s = .ok s')
    (hs : Distinct s) : Distinct s' := by
  induction optionals generalizing s with
  | nil =>
    obtain rfl := Except.ok.inj h
    exact hs
  | cons optional rest ih =>
    unfold addOptional at h
    split at h
    · exact ih h hs
    · obtain ⟨pending, -, h⟩ := bind_ok.1 h
      exact ih h ⟨hs.loaders, hs.external.insert⟩

theorem search_distinct {inputs : List Bytes} {ownedRoot : Bytes} {rounds : ℕ} {start final : ElfSearch}
    (h : startSearch files inputs = .ok start) (hsearch : search files ownedRoot rounds start = some (.ok final)) :
    Distinct final := by
  unfold startSearch at h
  obtain ⟨pending, -, hoptional⟩ := bind_ok.1 h
  have hstart := addOptional_distinct hoptional ⟨List.nodup_nil, List.nodup_nil⟩
  exact (loop_invariant (fun s s' hs hround => searchRound_distinct hs hround) hstart hsearch).1

theorem insertAll_nodup {set : List Bytes} (h : set.Nodup) (values : List Bytes) : (insertAll set values).Nodup := by
  unfold insertAll
  induction values generalizing set with
  | nil => exact h
  | cons value rest ih => exact ih h.insert

/-! ## The bindings that are written -/

/-- The bindings of one list, in the order in which they are written. -/
structure Written (files : RuntimeFiles) (executable : Bool) (bindings : List SystemFileBinding) : Prop where
  sorted : bindings.Pairwise fun a b => Before a.path b.path
  observed : ∀ binding ∈ bindings, bindSystemFile files binding.path executable = .ok binding
  bound : ∀ binding ∈ bindings, Bound files binding.path executable binding

theorem written_sorted {paths : List Bytes} {executable : Bool} {bindings : List SystemFileBinding} (hnodup : paths.Nodup)
    (hclean : ∀ path ∈ paths, clean path = path) (h : paths.mapM (bindSystemFile files · executable) = .ok bindings) :
    Written files executable (sortBy SystemFileBinding.path bindings) ∧ bindings.map (·.path) = paths := by
  have hpaths : bindings.map (·.path) = paths := by
    have hkept : bindings.map (·.path) = paths.map id :=
      mapM_map_mem (fun path hpath binding hbinding => (bindSystemFile_path hbinding).trans (hclean path hpath)) h
    rw [hkept, List.map_id]
  have hsource : ∀ binding ∈ sortBy SystemFileBinding.path bindings,
      bindSystemFile files binding.path executable = .ok binding ∧ clean binding.path = binding.path := by
    intro binding hmem
    obtain ⟨path, hpath, hbinding⟩ := mapM_source h (mem_sortBy.1 hmem)
    rw [bindSystemFile_path hbinding, hclean path hpath]
    exact ⟨hbinding, hclean path hpath⟩
  refine ⟨⟨sortBy_pairwise (hpaths ▸ hnodup), fun binding hmem => (hsource binding hmem).1, fun binding hmem => ?_⟩,
    hpaths⟩
  exact bindSystemFile_ok (hsource binding hmem).2 (hsource binding hmem).1

theorem analysis_written {inputs produced : List Bytes} {ownedRoot : Bytes} {analysis : ElfAnalysis}
    (h : AnalyzesELFClosure files inputs ownedRoot produced analysis) :
    Written files true analysis.closure.loaders ∧ Written files false analysis.closure.libraries ∧
      ∀ loader ∈ analysis.closure.loaders, ∀ library ∈ analysis.closure.libraries, loader.path ≠ library.path := by
  obtain ⟨start, rounds, final, hstart, hsearch, -, -, hbind⟩ := h.run
  have hdistinct := search_distinct hstart hsearch
  have hclean : ∀ path ∈ extended files (externalFiles ownedRoot final) produced, clean path = path :=
    found_clean hstart hsearch
  unfold bindClosure at hbind
  obtain ⟨loaders, hloaders, hbind⟩ := bind_ok.1 hbind
  obtain ⟨libraries, hlibraries, hbind⟩ := bind_ok.1 hbind
  obtain rfl := Except.ok.inj hbind
  have hexternal : (extended files (externalFiles ownedRoot final) produced).Nodup :=
    insertAll_nodup (insertAll_nodup hdistinct.external _) _
  obtain ⟨hwrittenLoaders, hloaderPaths⟩ := written_sorted (hdistinct.loaders.filter _)
    (fun path hpath => hclean path (mem_extended.2 (Or.inl (mem_insertAll.2 (Or.inr hpath))))) hloaders
  obtain ⟨hwrittenLibraries, hlibraryPaths⟩ := written_sorted (hexternal.filter _)
    (fun path hpath => hclean path (List.mem_filter.1 hpath).1) hlibraries
  refine ⟨hwrittenLoaders, hwrittenLibraries, fun loader hloader library hlibrary heq => ?_⟩
  have hfirst := List.mem_map_of_mem (f := SystemFileBinding.path) (mem_sortBy.1 hloader)
  rw [hloaderPaths] at hfirst
  have hsecond := List.mem_map_of_mem (f := SystemFileBinding.path) (mem_sortBy.1 hlibrary)
  rw [hlibraryPaths, ← heq] at hsecond
  exact of_decide_eq_true (List.mem_filter.1 hsecond).2 hfirst

/-! ## The launcher's check -/

/-- `isSHA256(value)`. -/
def isSHA256 (value : Bytes) : Bool :=
  value.length == 64 && value.all fun c => (byte '0' ≤ c && c ≤ byte '9') || (byte 'a' ≤ c && c ≤ byte 'f')

/-- One round of the loop over a list of bindings, with `last` and `seen`. -/
def checkBinding (files : RuntimeFiles) (executable : Bool) (state : Bytes × List Bytes) (expected : SystemFileBinding) :
    Except Failure (Bytes × List Bytes) := do
  ensure (decide (Before state.1 expected.path) && !state.2.contains expected.path && isSHA256 expected.sha256)
    { format := "runtime provenance system closure is not exact and sorted" }
  ensure ((bindSystemFile files expected.path executable).toOption == some expected)
    { format := "system runtime binding changed at %s", arguments := [expected.path] }
  return (expected.path, expected.path :: state.2)

/-- The checks of `loadBoundSystemRuntimeClosure` on the closure of a provenance document. -/
def checkBoundClosure (files : RuntimeFiles) (closure : SystemRuntimeClosure) : Except Failure Unit := do
  ensure (closure.apiVersion == systemRuntimeClosureAPIVersion && closure.architecture == goarch files &&
      decide (0 < closure.loaders.length) && decide (closure.loaders.length ≤ 8) &&
        decide (closure.libraries.length ≤ 512))
    { format := "runtime provenance system closure is malformed" }
  let loaders ← closure.loaders.foldlM (checkBinding files true) ([], [])
  let _ ← closure.libraries.foldlM (checkBinding files false) ([], loaders.2)
  return ()

/-- A list is accepted as it was written. -/
theorem checkBindings_ok {executable : Bool} (hdigest : ∀ path digest, files.digestFile path = .ok digest →
      isSHA256 digest = true) {bindings : List SystemFileBinding} {last : Bytes} {seen : List Bytes}
    (hwritten : Written files executable bindings) (hlast : ∀ binding ∈ bindings, Before last binding.path)
    (hseen : ∀ binding ∈ bindings, binding.path ∉ seen) :
    ∃ final, bindings.foldlM (checkBinding files executable) (last, seen) = .ok final ∧
      ∀ path ∈ final.2, path ∈ seen ∨ path ∈ bindings.map (·.path) := by
  induction bindings generalizing last seen with
  | nil => exact ⟨(last, seen), rfl, fun path hpath => Or.inl hpath⟩
  | cons binding rest ih =>
    obtain ⟨hfirst, hsorted⟩ := List.pairwise_cons.1 hwritten.sorted
    have hrest : Written files executable rest := ⟨hsorted, fun other hother => hwritten.observed other
      (List.mem_cons_of_mem _ hother), fun other hother => hwritten.bound other (List.mem_cons_of_mem _ hother)⟩
    have hnext : ∀ other ∈ rest, other.path ∉ binding.path :: seen := by
      intro other hother hmem
      rcases List.mem_cons.1 hmem with heq | hold
      · exact before_irrefl _ (heq ▸ hfirst other hother)
      · exact hseen other (List.mem_cons_of_mem _ hother) hold
    obtain ⟨final, hfinal, hpaths⟩ := ih hrest hfirst hnext
    have hround : checkBinding files executable (last, seen) binding = .ok (binding.path, binding.path :: seen) := by
      have hhex := hdigest _ _ (hwritten.bound binding List.mem_cons_self).digest
      have hsame := hwritten.observed binding List.mem_cons_self
      have hbefore := hlast binding List.mem_cons_self
      have hnew := hseen binding List.mem_cons_self
      unfold checkBinding
      refine bind_ok.2 ⟨(), ensure_ok.2 ?_, bind_ok.2 ⟨(), ensure_ok.2 ?_, rfl⟩⟩
      · simp [hbefore, hnew, hhex]
      · simp [hsame, Except.toOption]
    refine ⟨final, ?_, fun path hpath => ?_⟩
    · rw [List.foldlM_cons]
      exact bind_ok.2 ⟨_, hround, hfinal⟩
    · rw [List.map_cons, List.mem_cons]
      rcases hpaths path hpath with hmem | hmem
      · rcases List.mem_cons.1 hmem with heq | hold
        · exact Or.inr (Or.inl heq)
        · exact Or.inl hold
      · exact Or.inr (Or.inr hmem)

theorem Bound.after_start {path : Bytes} {executable : Bool} {binding : SystemFileBinding}
    (h : Bound files path executable binding) : Before [] path := by
  cases path with
  | nil => exact absurd h.system (by decide)
  | cons first rest => exact List.nil_lt_cons _ _

/-- **The launcher accepts the closure that was written, while the files do not change, exactly if it has a loader, no
more than 8 of them, and no more than 512 libraries.** -/
theorem written_closure_accepted {inputs produced : List Bytes} {ownedRoot : Bytes} {analysis : ElfAnalysis}
    (hdigest : ∀ path digest, files.digestFile path = .ok digest → isSHA256 digest = true)
    (h : AnalyzesELFClosure files inputs ownedRoot produced analysis) :
    checkBoundClosure files analysis.closure = .ok () ↔ 0 < analysis.closure.loaders.length ∧
      analysis.closure.loaders.length ≤ 8 ∧ analysis.closure.libraries.length ≤ 512 := by
  obtain ⟨hloaders, hlibraries, hapart⟩ := analysis_written h
  have hclosure : analysis.closure.apiVersion = systemRuntimeClosureAPIVersion ∧
      analysis.closure.architecture = goarch files := by
    obtain ⟨start, rounds, final, -, -, -, -, hbind⟩ := h.run
    unfold bindClosure at hbind
    obtain ⟨loaders, -, hbind⟩ := bind_ok.1 hbind
    obtain ⟨libraries, -, hbind⟩ := bind_ok.1 hbind
    obtain rfl := Except.ok.inj hbind
    exact ⟨rfl, rfl⟩
  unfold checkBoundClosure
  constructor
  · intro hchecked
    obtain ⟨⟨⟩, hcounts, -⟩ := bind_ok.1 hchecked
    simpa [hclosure, and_assoc] using ensure_ok.1 hcounts
  · rintro ⟨hsome, hloaderCount, hlibraryCount⟩
    obtain ⟨seen, hseen, hpaths⟩ := checkBindings_ok hdigest hloaders
      (fun binding hmem => (hloaders.bound binding hmem).after_start) (fun binding hmem => List.not_mem_nil)
    have hunseen : ∀ library ∈ analysis.closure.libraries, library.path ∉ seen.2 := by
      intro library hlibrary hmem
      rcases hpaths _ hmem with hnone | hloader
      · exact List.not_mem_nil hnone
      · obtain ⟨loader, hloader, heq⟩ := List.mem_map.1 hloader
        exact hapart loader hloader library hlibrary heq
    obtain ⟨last, hlast, -⟩ := checkBindings_ok hdigest hlibraries
      (fun binding hmem => (hlibraries.bound binding hmem).after_start) hunseen
    refine bind_ok.2 ⟨(), ensure_ok.2 ?_, bind_ok.2 ⟨seen, hseen, bind_ok.2 ⟨last, hlast, rfl⟩⟩⟩
    simp [hclosure, hsome, hloaderCount, hlibraryCount]

theorem pathDigest_hex (path : Bytes) : isSHA256 (pathDigest path) = true := by
  have hdigit : ∀ n < 16, (byte '0' ≤ byte (Nat.digitChar n) && byte (Nat.digitChar n) ≤ byte '9' ||
      byte 'a' ≤ byte (Nat.digitChar n) && byte (Nat.digitChar n) ≤ byte 'f') = true := by decide
  rw [isSHA256, Bool.and_eq_true, pathDigest, List.all_eq_true]
  refine ⟨by simp, fun c hc => ?_⟩
  obtain ⟨i, -, rfl⟩ := List.mem_map.1 hc
  exact hdigit _ (Nat.mod_lt _ (by omega))

theorem written_closure_sample : ∃ produced analysis,
    AnalyzesELFClosure sampleFiles [utf8 "/kit/node"] (utf8 "/kit") produced analysis ∧
      checkBoundClosure sampleFiles analysis.closure = .ok () := by
  obtain ⟨produced, analysis, h, hloaders, hlibraries⟩ := sample_analyzed
  have hloaderCount : analysis.closure.loaders.length = 1 := by simpa using congrArg List.length hloaders
  have hlibraryCount : analysis.closure.libraries.length = 2 := by simpa using congrArg List.length hlibraries
  refine ⟨produced, analysis, h, (written_closure_accepted (fun path digest hdigest => ?_) h).2 ?_⟩
  · exact Except.ok.inj hdigest ▸ pathDigest_hex path
  · omega

end SecureSaas.Bootstrap
