import SecureSaas.Bootstrap.ElfSearch
import Mathlib.Data.List.Dedup

/-!
# Completeness of the closure

The variants of external files are bound, but they are not put in the queue: what a variant needs is bound only if
something else needs it too.

* `bindClosure_iff`: what is bound.
* `closure_complete_iff`: **when everything that is mapped outside of the owned root is bound**.
* `closure_incomplete`: the library of a variant is not bound.
-/

namespace SecureSaas.Bootstrap

open Js Go

variable {files : RuntimeFiles}

/-! ## When the closure is complete -/

/-- The files that are found for the inputs alone. -/
def inputQueue (files : RuntimeFiles) (inputs : List Bytes) : Except Failure ElfQueue :=
  inputs.foldlM (fun pending input => addELFInputs files input pending) { queue := [], queued := [] }

/-- The files that are mapped for the roots, through any chain of interpreters, libraries and variants. -/
inductive Mapped (files : RuntimeFiles) (roots : List Bytes) : Bytes → Prop
  | root {current resolved : Bytes} (mem : current ∈ roots) (needs : Needs files current resolved) :
      Mapped files roots resolved
  | needed {current resolved : Bytes} (before : Mapped files roots current) (needs : Needs files current resolved) :
      Mapped files roots resolved
  | variant {library optimized : Bytes} (before : Mapped files roots library)
      (mem : optimized ∈ glibcHWCapsVariants files library) : Mapped files roots optimized

/-- The files that are mapped when a variant is, and the variant itself. -/
inductive Behind (files : RuntimeFiles) (optimized : Bytes) : Bytes → Prop
  | self : Behind files optimized optimized
  | needed {current resolved : Bytes} (before : Behind files optimized current) (needs : Needs files current resolved) :
      Behind files optimized resolved
  | variant {library other : Bytes} (before : Behind files optimized library)
      (mem : other ∈ glibcHWCapsVariants files library) : Behind files optimized other

/-- The file is bound with its digest. -/
def IsBound (files : RuntimeFiles) (analysis : ElfAnalysis) (path : Bytes) : Prop :=
  (∃ binding ∈ analysis.closure.loaders, Bound files path true binding) ∨
    ∃ binding ∈ analysis.closure.libraries, Bound files path false binding

/-- All files outside of the owned root that are mapped for the inputs are bound. -/
def Complete (files : RuntimeFiles) (inputs : List Bytes) (ownedRoot : Bytes) (analysis : ElfAnalysis) : Prop :=
  ∀ pending, inputQueue files inputs = .ok pending → ∀ path, Mapped files pending.queued path →
    withinPath ownedRoot path = false → IsBound files analysis path

/-- What the search finds, and the variants of that. -/
def Covered (files : RuntimeFiles) (ownedRoot : Bytes) (start : ElfSearch) (path : Bytes) : Prop :=
  External files ownedRoot start path ∨
    ∃ library, External files ownedRoot start library ∧ path ∈ glibcHWCapsVariants files library

/-- What the variants map is found without them too. -/
def VariantsCovered (files : RuntimeFiles) (inputs : List Bytes) (ownedRoot : Bytes) : Prop :=
  ∀ pending start, inputQueue files inputs = .ok pending → startSearch files inputs = .ok start →
    ∀ library optimized path, Mapped files pending.queued library → optimized ∈ glibcHWCapsVariants files library →
      Behind files optimized path → withinPath ownedRoot path = false → Covered files ownedRoot start path

theorem Mapped.behind {roots : List Bytes} {library optimized path : Bytes} (hlibrary : Mapped files roots library)
    (hoptimized : optimized ∈ glibcHWCapsVariants files library) (h : Behind files optimized path) :
    Mapped files roots path := by
  induction h with
  | self => exact .variant hlibrary hoptimized
  | needed _ hneeds ih => exact .needed ih hneeds
  | variant _ hmem ih => exact .variant ih hmem

/-- A file that is mapped is needed by a file of the search, or it is behind a variant. -/
theorem Mapped.cases_variant {roots queued : List Bytes} {path : Bytes} (hroots : roots ⊆ queued)
    (h : Mapped files roots path) : (∃ current, Reached files queued current ∧ Needs files current path) ∨
      ∃ library optimized, Mapped files roots library ∧ optimized ∈ glibcHWCapsVariants files library ∧
        Behind files optimized path := by
  induction h with
  | root hmem hneeds => exact Or.inl ⟨_, .root (hroots hmem), hneeds⟩
  | @needed current resolved _ hneeds ih =>
    rcases ih with ⟨before, hreached, hbefore⟩ | ⟨library, optimized, hlibrary, hoptimized, hbehind⟩
    · exact Or.inl ⟨current, .needed hreached hbefore hbefore.resolved.1 hneeds.magic, hneeds⟩
    · exact Or.inr ⟨library, optimized, hlibrary, hoptimized, .needed hbehind hneeds⟩
  | variant hbefore hmem _ => exact Or.inr ⟨_, _, hbefore, hmem, .self⟩

theorem variant_clean {library path : Bytes} (h : path ∈ glibcHWCapsVariants files library) : clean path = path := by
  unfold glibcHWCapsVariants at h
  dsimp only at h
  split at h
  · exact absurd h List.not_mem_nil
  · obtain ⟨entry, -, hvariant⟩ := List.mem_filterMap.1 h
    unfold hwcapsVariant at hvariant
    split_ifs at hvariant
    dsimp only at hvariant
    split at hvariant
    · rename_i real _ hreal
      exact Option.some.inj hvariant ▸ files.evalSymlinks_clean hreal
    · exact absurd hvariant (by simp)

theorem optional_clean {optionals : List Bytes} {s s' : ElfSearch} (h : addOptional files optionals s = .ok s')
    (hs : ∀ path ∈ s.external, clean path = path) : ∀ path ∈ s'.external, clean path = path := by
  induction optionals generalizing s with
  | nil =>
    obtain rfl := Except.ok.inj h
    exact hs
  | cons optional rest ih =>
    unfold addOptional at h
    split at h
    · exact ih h hs
    · rename_i resolved hresolved
      obtain ⟨pending, -, h⟩ := bind_ok.1 h
      refine ih h fun path hpath => ?_
      rcases List.mem_insert_iff.1 hpath with rfl | hold
      · exact (resolveRuntimeFile_ok hresolved).2
      · exact hs path hold

theorem External.clean_eq {ownedRoot path : Bytes} {inputs : List Bytes} {start : ElfSearch}
    (hstart : startSearch files inputs = .ok start) (h : External files ownedRoot start path) : clean path = path := by
  cases h with
  | optional hmem =>
    unfold startSearch at hstart
    obtain ⟨pending, -, hoptional⟩ := bind_ok.1 hstart
    exact optional_clean hoptional (by simp) path hmem
  | needed _ hneeds _ => exact hneeds.resolved.2

theorem bindSystemFile_path {value : Bytes} {executable : Bool} {binding : SystemFileBinding}
    (h : bindSystemFile files value executable = .ok binding) : binding.path = clean value := by
  unfold bindSystemFile at h
  obtain ⟨⟨⟩, -, h⟩ := bind_ok.1 h
  obtain ⟨⟨⟩, -, h⟩ := bind_ok.1 h
  obtain ⟨digest, -, h⟩ := bind_ok.1 h
  obtain rfl := Except.ok.inj h
  rfl

theorem mem_extended {external produced : List Bytes} {path : Bytes} : path ∈ extended files external produced ↔
    path ∈ external ∨ ∃ library ∈ produced, path ∈ glibcHWCapsVariants files library := by
  rw [extended, mem_insertAll, List.mem_flatMap]

theorem bindClosure_iff {ownedRoot : Bytes} {produced : List Bytes} {s : ElfSearch} {analysis : ElfAnalysis}
    (h : bindClosure files ownedRoot produced s = .ok analysis) {path : Bytes}
    (hclean : ∀ value ∈ extended files (externalFiles ownedRoot s) produced, clean value = value) :
    IsBound files analysis path ↔ path ∈ extended files (externalFiles ownedRoot s) produced := by
  unfold bindClosure at h
  obtain ⟨loaders, hloaders, h⟩ := bind_ok.1 h
  obtain ⟨libraries, hlibraries, h⟩ := bind_ok.1 h
  obtain rfl := Except.ok.inj h
  have hloader : ∀ value ∈ externalLoaders ownedRoot s, value ∈ extended files (externalFiles ownedRoot s) produced :=
    fun value hvalue => mem_extended.2 (Or.inl (mem_insertAll.2 (Or.inr hvalue)))
  constructor
  · rintro (⟨binding, hmem, hbound⟩ | ⟨binding, hmem, hbound⟩)
    · obtain ⟨value, hvalue, hbinding⟩ := mapM_source hloaders (mem_sortBy.1 hmem)
      have hmem := hloader value hvalue
      rw [← hbound.path_eq, bindSystemFile_path hbinding, hclean value hmem]
      exact hmem
    · obtain ⟨value, hvalue, hbinding⟩ := mapM_source hlibraries (mem_sortBy.1 hmem)
      have hmem := (List.mem_filter.1 hvalue).1
      rw [← hbound.path_eq, bindSystemFile_path hbinding, hclean value hmem]
      exact hmem
  · intro hpath
    by_cases hisLoader : path ∈ externalLoaders ownedRoot s
    · obtain ⟨binding, hmem, hbinding⟩ := mapM_ok hloaders path hisLoader
      exact Or.inl ⟨binding, mem_sortBy.2 hmem, bindSystemFile_ok (hclean path hpath) hbinding⟩
    · obtain ⟨binding, hmem, hbinding⟩ := mapM_ok hlibraries path
        (List.mem_filter.2 ⟨hpath, decide_eq_true hisLoader⟩)
      exact Or.inr ⟨binding, mem_sortBy.2 hmem, bindSystemFile_ok (hclean path hpath) hbinding⟩

/-- Fewer variants are bound too. -/
theorem bindClosure_fewer {ownedRoot : Bytes} {produced fewer : List Bytes} {s : ElfSearch} {analysis : ElfAnalysis}
    (h : bindClosure files ownedRoot produced s = .ok analysis) (hfewer : fewer ⊆ produced) :
    ∃ other, bindClosure files ownedRoot fewer s = .ok other := by
  unfold bindClosure at h
  obtain ⟨loaders, hloaders, h⟩ := bind_ok.1 h
  obtain ⟨libraries, hlibraries, h⟩ := bind_ok.1 h
  obtain ⟨others, hothers⟩ : ∃ others, ((extended files (externalFiles ownedRoot s) fewer).filter fun value =>
      value ∉ externalLoaders ownedRoot s).mapM (bindSystemFile files · false) = .ok others := by
    refine mapM_succeeds fun value hvalue => ?_
    obtain ⟨hmem, hloader⟩ := List.mem_filter.1 hvalue
    have hmore : value ∈ extended files (externalFiles ownedRoot s) produced := by
      rcases mem_extended.1 hmem with hexternal | ⟨library, hlibrary, hvariant⟩
      · exact mem_extended.2 (Or.inl hexternal)
      · exact mem_extended.2 (Or.inr ⟨library, hfewer hlibrary, hvariant⟩)
    obtain ⟨binding, -, hbinding⟩ := mapM_ok hlibraries value (List.mem_filter.2 ⟨hmore, hloader⟩)
    exact ⟨binding, hbinding⟩
  exact ⟨_, bind_ok.2 ⟨loaders, hloaders, bind_ok.2 ⟨others, hothers, rfl⟩⟩⟩

theorem inputQueue_subset {inputs : List Bytes} {start : ElfSearch} {pending : ElfQueue}
    (hstart : startSearch files inputs = .ok start) (h : inputQueue files inputs = .ok pending) :
    pending.queued ⊆ start.queued := by
  unfold startSearch at hstart
  obtain ⟨other, hother, hoptional⟩ := bind_ok.1 hstart
  obtain rfl := Except.ok.inj (h.symm.trans hother)
  exact (addOptional_ok hoptional).subset

theorem startSearch_inputs {inputs : List Bytes} {start : ElfSearch} (hstart : startSearch files inputs = .ok start) :
    ∃ pending, inputQueue files inputs = .ok pending := by
  unfold startSearch at hstart
  obtain ⟨pending, hpending, -⟩ := bind_ok.1 hstart
  exact ⟨pending, hpending⟩

theorem found_clean {inputs produced : List Bytes} {ownedRoot : Bytes} {start final : ElfSearch} {rounds : ℕ}
    (hstart : startSearch files inputs = .ok start) (hsearch : search files ownedRoot rounds start = some (.ok final)) :
    ∀ value ∈ extended files (externalFiles ownedRoot final) produced, clean value = value := by
  intro value hvalue
  rcases mem_extended.1 hvalue with hexternal | ⟨library, -, hvariant⟩
  · exact ((mem_externalFiles hstart hsearch).1 hexternal).clean_eq hstart
  · exact variant_clean hvariant

theorem complete_of_covered {inputs produced : List Bytes} {ownedRoot : Bytes} {analysis : ElfAnalysis}
    (hcovered : VariantsCovered files inputs ownedRoot)
    (h : AnalyzesELFClosure files inputs ownedRoot produced analysis) : Complete files inputs ownedRoot analysis := by
  obtain ⟨start, rounds, final, hstart, hsearch, -, hproduced, hbind⟩ := h.run
  intro pending hpending path hmapped houtside
  refine (bindClosure_iff hbind (found_clean hstart hsearch)).2 (mem_extended.2 ?_)
  rcases hmapped.cases_variant (inputQueue_subset hstart hpending) with ⟨current, hreached, hneeds⟩ |
    ⟨library, optimized, hlibrary, hoptimized, hbehind⟩
  · exact Or.inl ((mem_externalFiles hstart hsearch).2 (.needed hreached hneeds houtside))
  · rcases hcovered pending start hpending hstart library optimized path hlibrary hoptimized hbehind houtside with
      hexternal | ⟨other, hother, hvariant⟩
    · exact Or.inl ((mem_externalFiles hstart hsearch).2 hexternal)
    · exact Or.inr ⟨other, hproduced ((mem_externalFiles hstart hsearch).2 hother), hvariant⟩

/-- The loop that skips every entry that it adds. -/
theorem analyzes_skipping {inputs : List Bytes} {ownedRoot : Bytes} {start final : ElfSearch} {rounds : ℕ}
    {analysis : ElfAnalysis} (hstart : startSearch files inputs = .ok start)
    (hsearch : search files ownedRoot rounds start = some (.ok final))
    (hbind : bindClosure files ownedRoot (externalFiles ownedRoot final).dedup final = .ok analysis) :
    AnalyzesELFClosure files inputs ownedRoot (externalFiles ownedRoot final).dedup analysis := by
  refine ⟨start, rounds, final, hstart, hsearch, ⟨List.nodup_dedup _, ?_⟩, List.subset_dedup _, hbind⟩
  intro before value after hsplit
  refine Or.inl (List.mem_dedup.1 ?_)
  rw [hsplit]
  exact List.mem_append_right _ List.mem_cons_self

theorem covered_of_complete {inputs produced : List Bytes} {ownedRoot : Bytes} {analysis : ElfAnalysis}
    (h : AnalyzesELFClosure files inputs ownedRoot produced analysis)
    (hall : ∀ produced analysis, AnalyzesELFClosure files inputs ownedRoot produced analysis →
      Complete files inputs ownedRoot analysis) : VariantsCovered files inputs ownedRoot := by
  obtain ⟨start, rounds, final, hstart, hsearch, -, hproduced, hbind⟩ := h.run
  obtain ⟨other, hother⟩ := bindClosure_fewer hbind fun value hvalue => hproduced (List.mem_dedup.1 hvalue)
  have hcomplete := hall _ _ (analyzes_skipping hstart hsearch hother)
  intro pending start' hpending hstart' library optimized path hlibrary hoptimized hbehind houtside
  obtain rfl := Except.ok.inj (hstart.symm.trans hstart')
  have hbound := hcomplete pending hpending path (hlibrary.behind hoptimized hbehind) houtside
  rcases mem_extended.1 ((bindClosure_iff hother (found_clean hstart hsearch)).1 hbound) with
    hexternal | ⟨other, hmem, hvariant⟩
  · exact Or.inl ((mem_externalFiles hstart hsearch).1 hexternal)
  · exact Or.inr ⟨other, (mem_externalFiles hstart hsearch).1 (List.mem_dedup.1 hmem), hvariant⟩

/-- **The search ends, and the closure is complete, in every order of the loop over `external`, exactly if what the
variants map is found without them too.** -/
theorem closure_complete_iff (files : RuntimeFiles) (inputs : List Bytes) (ownedRoot : Bytes) :
    (∀ start, startSearch files inputs = .ok start →
      (search files ownedRoot (files.paths.length + 1) start).isSome = true) ∧
    ((∃ produced analysis, AnalyzesELFClosure files inputs ownedRoot produced analysis) →
      ((∀ produced analysis, AnalyzesELFClosure files inputs ownedRoot produced analysis →
        Complete files inputs ownedRoot analysis) ↔ VariantsCovered files inputs ownedRoot)) := by
  refine ⟨fun start hstart => search_terminates ownedRoot hstart, ?_⟩
  rintro ⟨produced, analysis, h⟩
  exact ⟨covered_of_complete h, fun hcovered produced analysis hrun => complete_of_covered hcovered hrun⟩

/-! ## A host without links -/

/-- A hexadecimal digest for the file at a path. -/
def pathDigest (path : Bytes) : Bytes :=
  (List.range 64).map fun i => byte (Nat.digitChar ((path.getD i 0).toNat % 16))

/-- A host whose files are programs and libraries, all of root's, in directories of root's. -/
def plainFiles (programs : List (Bytes × ElfBinary)) (directories : List Bytes)
    (variants : List (Bytes × List DirectoryEntry)) (h : ∀ program ∈ programs, clean program.1 = program.1) :
    RuntimeFiles where
  architecture := .amd64
  paths := programs.map Prod.fst
  lstat path :=
    if path ∈ programs.map Prod.fst then .ok { type := .regular, permissions := 0o755, privileged := false, uid := 0 }
    else if path ∈ directories then .ok { type := .directory, permissions := 0o755, privileged := false, uid := 0 }
    else .error { format := "no such file or directory" }
  stat path :=
    if path ∈ programs.map Prod.fst then .ok .regular else .error { format := "no such file or directory" }
  evalSymlinks path :=
    if path ∈ programs.map Prod.fst then .ok path else .error { format := "no such file or directory" }
  openHeader path :=
    if path ∈ programs.map Prod.fst then .ok (some elfMagic) else .error { format := "no such file or directory" }
  digestFile path := .ok (pathDigest path)
  readDir path := (variants.lookup path).elim (.error { format := "no such file or directory" }) .ok
  walkDir _ := []
  elfOpen path := (programs.lookup path).elim (.error { format := "no such file or directory" }) .ok
  evalSymlinks_mem {path real} hreal := by
    split_ifs at hreal with hmem
    exact Except.ok.inj hreal ▸ hmem
  evalSymlinks_clean {path real} hreal := by
    split_ifs at hreal with hmem
    obtain rfl := Except.ok.inj hreal
    obtain ⟨program, hprogram, rfl⟩ := List.mem_map.1 hmem
    exact h program hprogram
  evalSymlinks_idem {path real} hreal := by
    split_ifs at hreal with hmem
    obtain rfl := Except.ok.inj hreal
    exact if_pos hmem
  evalSymlinks_type {path real info} hreal hinfo := by
    split_ifs at hreal with hmem
    obtain rfl := Except.ok.inj hreal
    rw [if_pos hmem] at hinfo
    obtain rfl := Except.ok.inj hinfo
    simp
  elfOpen_magic {path binary} hbinary := by
    refine if_pos ?_
    cases hfound : programs.lookup path with
    | none => simp [hfound] at hbinary
    | some found =>
      obtain ⟨before, after, rfl, -⟩ := List.lookup_eq_some_iff.1 hfound
      exact List.mem_map.2 ⟨(path, found), by simp, rfl⟩

theorem plainFiles_lstat {programs : List (Bytes × ElfBinary)} {directories : List Bytes}
    {variants : List (Bytes × List DirectoryEntry)} {h : ∀ program ∈ programs, clean program.1 = program.1} {path : Bytes}
    (hpath : path ∈ programs.map Prod.fst) : (plainFiles programs directories variants h).lstat path =
      .ok { type := .regular, permissions := 0o755, privileged := false, uid := 0 } := if_pos hpath

theorem plainFiles_evalSymlinks {programs : List (Bytes × ElfBinary)} {directories : List Bytes}
    {variants : List (Bytes × List DirectoryEntry)} {h : ∀ program ∈ programs, clean program.1 = program.1} {path : Bytes}
    (hpath : path ∈ programs.map Prod.fst) : (plainFiles programs directories variants h).evalSymlinks path = .ok path :=
  if_pos hpath

theorem addELFInputs_regular {input : Bytes} {info : FileInfo} {pending : ElfQueue}
    (hinfo : files.lstat input = .ok info) (hregular : info.type = .regular) :
    addELFInputs files input pending = enqueueELF files input pending := by
  unfold addELFInputs
  split
  · simp_all
  · rename_i found hfound
    obtain rfl := Except.ok.inj (hinfo.symm.trans hfound)
    rw [dif_neg (by simp [hregular]), hregular]
    rfl

theorem inputQueue_regular {input : Bytes} {info : FileInfo} (hinfo : files.lstat input = .ok info)
    (hregular : info.type = .regular) :
    inputQueue files [input] = enqueueELF files input { queue := [], queued := [] } := by
  rw [inputQueue, List.foldlM_cons, addELFInputs_regular hinfo hregular]
  simp only [List.foldlM_nil, bind_pure]

/-- The analysis of one input that is a file. The loop over `external` produces what it has when it begins. -/
def analyzeFile (files : RuntimeFiles) (input ownedRoot : Bytes) (rounds : ℕ) : Except Failure (Option ElfAnalysis) := do
  let pending ← enqueueELF files input { queue := [], queued := [] }
  let start ← addOptional files optionalLibraries { pending with loaders := [], external := [], dynamicExecutables := [] }
  match search files ownedRoot rounds start with
  | none => return none
  | some result => do
    let final ← result
    let analysis ← bindClosure files ownedRoot (externalFiles ownedRoot final).dedup final
    return some analysis

theorem analyzeFile_ok {input ownedRoot : Bytes} {rounds : ℕ} {analysis : ElfAnalysis} {info : FileInfo}
    (hinfo : files.lstat input = .ok info) (hregular : info.type = .regular)
    (h : analyzeFile files input ownedRoot rounds = .ok (some analysis)) :
    ∃ produced, AnalyzesELFClosure files [input] ownedRoot produced analysis := by
  unfold analyzeFile at h
  obtain ⟨pending, hpending, h⟩ := bind_ok.1 h
  obtain ⟨start, hstart, h⟩ := bind_ok.1 h
  split at h
  · exact absurd (Except.ok.inj h) (by simp)
  · rename_i result hresult
    obtain ⟨final, hfinal, h⟩ := bind_ok.1 h
    obtain ⟨other, hbind, h⟩ := bind_ok.1 h
    rw [hfinal] at hresult
    obtain rfl := Option.some.inj (Except.ok.inj h)
    refine ⟨_, analyzes_skipping (bind_ok.2 ⟨pending, ?_, hstart⟩) hresult hbind⟩
    exact (inputQueue_regular hinfo hregular).trans hpending

/-- A program without a search path of its own. -/
def program (interp : Option Bytes) (libraries : List Bytes) : ElfBinary where
  interp := interp.map .ok
  runpath := .ok []
  rpath := .ok []
  importedLibraries := .ok libraries

/-- The runtime with its loader, and a library with a variant that needs another library. -/
def sampleFiles : RuntimeFiles :=
  plainFiles [
      (utf8 "/kit/node", program (some (utf8 "/lib/ld.so")) [utf8 "libm.so"]),
      (utf8 "/lib/ld.so", program none []),
      (utf8 "/lib/libm.so", program none []),
      (utf8 "/lib/glibc-hwcaps/v3/libm.so", program none [utf8 "libv.so"]),
      (utf8 "/lib/libv.so", program none [])]
    [utf8 "/kit", utf8 "/lib", utf8 "/lib/glibc-hwcaps", utf8 "/lib/glibc-hwcaps/v3"]
    [(utf8 "/lib/glibc-hwcaps", [{ name := utf8 "v3", type := .directory }])] (by decide +kernel)

theorem sampleFiles_node : sampleFiles.lstat (utf8 "/kit/node") =
    .ok { type := .regular, permissions := 0o755, privileged := false, uid := 0 } :=
  plainFiles_lstat (by decide +kernel)

def sampleAnalysis : Except Failure (Option ElfAnalysis) := analyzeFile sampleFiles (utf8 "/kit/node") (utf8 "/kit") 6

theorem sampleAnalysis_paths : (sampleAnalysis.toOption.join.map fun analysis =>
    (analysis.closure.loaders.map (·.path), analysis.closure.libraries.map (·.path))) =
      some ([utf8 "/lib/ld.so"], [utf8 "/lib/glibc-hwcaps/v3/libm.so", utf8 "/lib/libm.so"]) := by
  decide +kernel

theorem sample_analyzed : ∃ produced analysis,
    AnalyzesELFClosure sampleFiles [utf8 "/kit/node"] (utf8 "/kit") produced analysis ∧
      analysis.closure.loaders.map (·.path) = [utf8 "/lib/ld.so"] ∧
      analysis.closure.libraries.map (·.path) = [utf8 "/lib/glibc-hwcaps/v3/libm.so", utf8 "/lib/libm.so"] := by
  obtain ⟨analysis, hanalysis, hpaths⟩ := Option.map_eq_some_iff.1 sampleAnalysis_paths
  obtain ⟨hloaders, hlibraries⟩ := Prod.mk.inj hpaths
  have hresult : sampleAnalysis = .ok (some analysis) := by
    cases hrun : sampleAnalysis with
    | error failure => simp [hrun, Except.toOption] at hanalysis
    | ok result =>
      rw [hrun] at hanalysis
      exact congrArg Except.ok hanalysis
  obtain ⟨produced, hrun⟩ := analyzeFile_ok sampleFiles_node rfl hresult
  exact ⟨produced, analysis, hrun, hloaders, hlibraries⟩

theorem closure_complete_sample : ∃ produced analysis,
    AnalyzesELFClosure sampleFiles [utf8 "/kit/node"] (utf8 "/kit") produced analysis ∧
      ((∀ produced analysis, AnalyzesELFClosure sampleFiles [utf8 "/kit/node"] (utf8 "/kit") produced analysis →
        Complete sampleFiles [utf8 "/kit/node"] (utf8 "/kit") analysis) ↔
          VariantsCovered sampleFiles [utf8 "/kit/node"] (utf8 "/kit")) := by
  obtain ⟨produced, analysis, h, -⟩ := sample_analyzed
  exact ⟨produced, analysis, h,
    (closure_complete_iff sampleFiles [utf8 "/kit/node"] (utf8 "/kit")).2 ⟨produced, analysis, h⟩⟩

/-- The libraries of a file. -/
def neededFiles (files : RuntimeFiles) (current : Bytes) : Except Failure (List Bytes) := do
  let binary ← files.elfOpen current
  let runpaths ← elfSearchPaths files binary (dir current)
  let libraries ← binary.importedLibraries
  libraries.mapM fun library => resolveRuntimeFile files library (dir current) runpaths

theorem needs_of_mem {current path : Bytes} {found : List Bytes}
    (h : (neededFiles files current).toOption = some found) (hmem : path ∈ found) : Needs files current path := by
  have h : neededFiles files current = .ok found := by
    cases hrun : neededFiles files current with
    | error failure => simp [hrun, Except.toOption] at h
    | ok result =>
      rw [hrun] at h
      exact congrArg Except.ok (Option.some.inj h)
  unfold neededFiles at h
  obtain ⟨binary, hbinary, h⟩ := bind_ok.1 h
  obtain ⟨runpaths, hrunpaths, h⟩ := bind_ok.1 h
  obtain ⟨libraries, hlibraries, h⟩ := bind_ok.1 h
  obtain ⟨library, hlibrary, hfound⟩ := mapM_source h hmem
  exact .library hbinary hlibraries hlibrary hrunpaths hfound

/-- The sample's files that are mapped for the runtime. -/
theorem sample_mapped {pending : ElfQueue} (h : inputQueue sampleFiles [utf8 "/kit/node"] = .ok pending) :
    Mapped sampleFiles pending.queued (utf8 "/lib/libv.so") := by
  obtain ⟨real, hreal, hrecorded⟩ := (enqueueELF_ok ((inputQueue_regular sampleFiles_node rfl).symm.trans h)).2
  have hnode : sampleFiles.evalSymlinks (utf8 "/kit/node") = .ok (utf8 "/kit/node") :=
    plainFiles_evalSymlinks (by decide +kernel)
  obtain rfl := Except.ok.inj (hnode.symm.trans hreal)
  obtain ⟨hlibm, hvariant, hlibv⟩ :
      (neededFiles sampleFiles (utf8 "/kit/node")).toOption = some [utf8 "/lib/libm.so"] ∧
        utf8 "/lib/glibc-hwcaps/v3/libm.so" ∈ glibcHWCapsVariants sampleFiles (utf8 "/lib/libm.so") ∧
          (neededFiles sampleFiles (utf8 "/lib/glibc-hwcaps/v3/libm.so")).toOption = some [utf8 "/lib/libv.so"] := by
    decide +kernel
  have hneeds := needs_of_mem hlibm List.mem_cons_self
  exact .needed (.variant (.root (hrecorded hneeds.magic) hneeds) hvariant) (needs_of_mem hlibv List.mem_cons_self)

theorem path_of_bound {path : Bytes} {executable : Bool} {bindings : List SystemFileBinding}
    (h : ∃ binding ∈ bindings, Bound files path executable binding) : path ∈ bindings.map (·.path) := by
  obtain ⟨binding, hmem, hbound⟩ := h
  exact List.mem_map.2 ⟨binding, hmem, hbound.path_eq⟩

/-- **The library of a variant is not bound.** -/
theorem closure_incomplete : ∃ produced analysis,
    AnalyzesELFClosure sampleFiles [utf8 "/kit/node"] (utf8 "/kit") produced analysis ∧
      ¬ Complete sampleFiles [utf8 "/kit/node"] (utf8 "/kit") analysis := by
  obtain ⟨produced, analysis, h, hloaders, hlibraries⟩ := sample_analyzed
  refine ⟨produced, analysis, h, fun hcomplete => ?_⟩
  obtain ⟨start, rounds, final, hstart, -⟩ := h.run
  obtain ⟨pending, hpending⟩ := startSearch_inputs hstart
  have hmissing : utf8 "/lib/libv.so" ∉ [utf8 "/lib/ld.so"] ∧
      utf8 "/lib/libv.so" ∉ [utf8 "/lib/glibc-hwcaps/v3/libm.so", utf8 "/lib/libm.so"] ∧
        withinPath (utf8 "/kit") (utf8 "/lib/libv.so") = false := by
    decide +kernel
  rcases hcomplete pending hpending _ (sample_mapped hpending) hmissing.2.2 with hbound | hbound
  · exact hmissing.1 (hloaders ▸ path_of_bound hbound)
  · exact hmissing.2.1 (hlibraries ▸ path_of_bound hbound)

/-! ## What the search reads -/

/-- **The search reads exactly the ELF files that are reached**, each of them once. -/
theorem search_exact {inputs : List Bytes} {ownedRoot : Bytes} {rounds : ℕ} {start final : ElfSearch}
    (h : startSearch files inputs = .ok start) (hsearch : search files ownedRoot rounds start = some (.ok final)) :
    final.queued.Nodup ∧ ∀ path, path ∈ final.queued ↔ Reached files start.queued path := by
  obtain ⟨horderly, -⟩ := loop_invariant (fun s s' hs hround => (searchRound_less hs hround).1) (startSearch_ok h).1 hsearch
  exact ⟨horderly.nodup, fun path => ⟨(search_sound h hsearch).queued path, search_reached h hsearch⟩⟩

theorem search_exact_sample : ∃ start rounds final, startSearch sampleFiles [utf8 "/kit/node"] = .ok start ∧
    search sampleFiles (utf8 "/kit") rounds start = some (.ok final) ∧
      final.queued.Nodup ∧ ∀ path, path ∈ final.queued ↔ Reached sampleFiles start.queued path := by
  obtain ⟨produced, analysis, h, -⟩ := sample_analyzed
  obtain ⟨start, rounds, final, hstart, hsearch, -⟩ := h.run
  exact ⟨start, rounds, final, hstart, hsearch, search_exact hstart hsearch⟩

end SecureSaas.Bootstrap
