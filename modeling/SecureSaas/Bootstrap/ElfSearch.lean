import SecureSaas.Bootstrap.ElfClosure
import SecureSaas.Js.Collect
import Mathlib.Data.List.Perm.Subperm

/-!
# The search for shared objects

A round of the search takes a file from the queue, and records its interpreter and its libraries.

* `expand_ok`: what a round adds.
* `search_terminates`: **the search ends**, since the record has each file of the host once.
* `search_expanded`: every file in the record has been expanded when the search has ended.
* `mem_externalFiles`: **what the search finds outside of the owned root**.
-/

namespace SecureSaas.Bootstrap

open Js Go

variable {files : RuntimeFiles}

/-! ## Rounds -/

/-- The resolved file is in the queue's record, or is no ELF file. -/
def Recorded (files : RuntimeFiles) (path : Bytes) (pending : ElfQueue) : Prop :=
  ∃ real, files.evalSymlinks path = .ok real ∧
    (files.openHeader real = .ok (some elfMagic) → real ∈ pending.queued)

/-- Files are added at the ends of the queue and of its record. -/
structure Grows (files : RuntimeFiles) (pending pending' : ElfQueue) : Prop where
  added : ∃ added, pending'.queue = pending.queue ++ added ∧ pending'.queued = pending.queued ++ added
  nodup : pending.queued.Nodup → pending'.queued.Nodup
  paths : pending.queued ⊆ files.paths → pending'.queued ⊆ files.paths

theorem Grows.refl (pending : ElfQueue) : Grows files pending pending :=
  ⟨⟨[], by simp⟩, id, id⟩

theorem Grows.trans {a b c : ElfQueue} (hab : Grows files a b) (hbc : Grows files b c) : Grows files a c := by
  obtain ⟨first, hqueue, hqueued⟩ := hab.added
  obtain ⟨second, hqueue', hqueued'⟩ := hbc.added
  exact ⟨⟨first ++ second, by simp [hqueue', hqueue], by simp [hqueued', hqueued]⟩, hbc.nodup ∘ hab.nodup,
    hbc.paths ∘ hab.paths⟩

theorem Grows.subset {a b : ElfQueue} (h : Grows files a b) : a.queued ⊆ b.queued := by
  obtain ⟨added, -, hqueued⟩ := h.added
  rw [hqueued]
  exact List.subset_append_left _ _

theorem Recorded.mono {path : Bytes} {a b : ElfQueue} (h : Recorded files path a) (hab : a.queued ⊆ b.queued) :
    Recorded files path b := by
  obtain ⟨real, hreal, hmem⟩ := h
  exact ⟨real, hreal, fun hmagic => hab (hmem hmagic)⟩

theorem enqueueELF_ok {value : Bytes} {pending pending' : ElfQueue} (h : enqueueELF files value pending = .ok pending') :
    Grows files pending pending' ∧ Recorded files value pending' := by
  unfold enqueueELF at h
  obtain ⟨real, hreal, h⟩ := bind_ok.1 h
  have hreal := orFail_ok.1 hreal
  split_ifs at h with hmem
  · obtain rfl := Except.ok.inj h
    exact ⟨Grows.refl _, real, hreal, fun _ => hmem⟩
  · obtain ⟨header, hheader, h⟩ := bind_ok.1 h
    have hheader := orFail_ok.1 hheader
    split_ifs at h with hmagic
    · obtain rfl := Except.ok.inj h
      refine ⟨Grows.refl _, real, hreal, fun hother => ?_⟩
      rw [hheader, Except.ok.injEq] at hother
      simp [hother] at hmagic
    · obtain rfl := Except.ok.inj h
      refine ⟨⟨⟨[real], rfl, rfl⟩, fun hnodup => ?_, fun hpaths => ?_⟩, real, hreal, fun _ => by simp⟩
      · exact hnodup.append (List.nodup_singleton real) (by simpa using hmem)
      · exact List.append_subset.2 ⟨hpaths, by simpa using files.evalSymlinks_mem hreal⟩


/-- What was found stays found. -/
structure Advances (s s' : ElfSearch) : Prop where
  queued : s.queued ⊆ s'.queued
  loaders : s.loaders ⊆ s'.loaders
  external : s.external ⊆ s'.external
  dynamicExecutables : s.dynamicExecutables ⊆ s'.dynamicExecutables

theorem Advances.refl (s : ElfSearch) : Advances s s :=
  ⟨List.Subset.refl _, List.Subset.refl _, List.Subset.refl _, List.Subset.refl _⟩

theorem Advances.trans {a b c : ElfSearch} (hab : Advances a b) (hbc : Advances b c) : Advances a c :=
  ⟨List.Subset.trans hab.queued hbc.queued, List.Subset.trans hab.loaders hbc.loaders,
    List.Subset.trans hab.external hbc.external, List.Subset.trans hab.dynamicExecutables hbc.dynamicExecutables⟩

/-- The interpreter of a file is a loader, and the file is a dynamic executable. -/
structure LoaderFound (files : RuntimeFiles) (current resolved : Bytes) (s : ElfSearch) : Prop where
  recorded : Recorded files resolved s.toElfQueue
  loader : resolved ∈ s.loaders
  executable : current ∈ s.dynamicExecutables

theorem LoaderFound.mono {current resolved : Bytes} {s s' : ElfSearch} (h : LoaderFound files current resolved s)
    (hs : Advances s s') : LoaderFound files current resolved s' :=
  ⟨h.recorded.mono hs.queued, hs.loaders h.loader, hs.dynamicExecutables h.executable⟩

/-- A library is in the owned root or among the external files. -/
structure LibraryFound (files : RuntimeFiles) (ownedRoot resolved : Bytes) (s : ElfSearch) : Prop where
  recorded : Recorded files resolved s.toElfQueue
  external : withinPath ownedRoot resolved = false → resolved ∈ s.external

theorem LibraryFound.mono {ownedRoot resolved : Bytes} {s s' : ElfSearch} (h : LibraryFound files ownedRoot resolved s)
    (hs : Advances s s') : LibraryFound files ownedRoot resolved s' :=
  ⟨h.recorded.mono hs.queued, fun houtside => hs.external (h.external houtside)⟩

theorem addInterpreter_ok {current interpreter : Bytes} {runpaths : List Bytes} {s s' : ElfSearch}
    (h : addInterpreter files current interpreter runpaths s = .ok s') :
    Grows files s.toElfQueue s'.toElfQueue ∧ Advances s s' ∧
      (interpreter ≠ [] → ∃ resolved, resolveRuntimeFile files interpreter (dir current) runpaths = .ok resolved ∧
        LoaderFound files current resolved s') := by
  unfold addInterpreter at h
  split_ifs at h with hempty
  · obtain rfl := Except.ok.inj h
    exact ⟨Grows.refl _, Advances.refl _, fun hne => absurd (List.isEmpty_iff.1 hempty) hne⟩
  · obtain ⟨resolved, hresolved, h⟩ := bind_ok.1 h
    obtain ⟨pending, hpending, h⟩ := bind_ok.1 h
    obtain rfl := Except.ok.inj h
    obtain ⟨hgrows, hrecorded⟩ := enqueueELF_ok hpending
    refine ⟨hgrows, ⟨hgrows.subset, fun _ => List.mem_insert_of_mem, List.Subset.refl _,
      fun _ => List.mem_insert_of_mem⟩, fun _ => ?_⟩
    exact ⟨resolved, orFail_ok.1 hresolved, hrecorded, List.mem_insert_self, List.mem_insert_self⟩

theorem addLibraries_ok {ownedRoot current : Bytes} {runpaths : List Bytes} {libraries : List Bytes} {s s' : ElfSearch}
    (h : addLibraries files ownedRoot current runpaths libraries s = .ok s') :
    Grows files s.toElfQueue s'.toElfQueue ∧ Advances s s' ∧
      ∀ library ∈ libraries, ∃ resolved, resolveRuntimeFile files library (dir current) runpaths = .ok resolved ∧
        LibraryFound files ownedRoot resolved s' := by
  induction libraries generalizing s with
  | nil =>
    obtain rfl := Except.ok.inj h
    exact ⟨Grows.refl _, Advances.refl _, by simp⟩
  | cons library rest ih =>
    unfold addLibraries at h
    obtain ⟨resolved, hresolved, h⟩ := bind_ok.1 h
    obtain ⟨pending, hpending, h⟩ := bind_ok.1 h
    obtain ⟨hgrows, hrecorded⟩ := enqueueELF_ok hpending
    obtain ⟨hmore, hadvances, hrest⟩ := ih h
    -- the state after the first library
    have hfirst : Advances s { s with
        toElfQueue := pending
        external := if withinPath ownedRoot resolved then s.external else s.external.insert resolved } := by
      refine ⟨hgrows.subset, List.Subset.refl _, fun path hpath => ?_, List.Subset.refl _⟩
      show path ∈ if withinPath ownedRoot resolved = true then s.external else s.external.insert resolved
      split_ifs
      · exact hpath
      · exact List.mem_insert_of_mem hpath
    refine ⟨hgrows.trans hmore, hfirst.trans hadvances,
      List.forall_mem_cons.2 ⟨⟨resolved, orFail_ok.1 hresolved, ?_⟩, hrest⟩⟩
    refine LibraryFound.mono ⟨hrecorded, fun houtside => ?_⟩ hadvances
    simp [houtside]

/-- What the dynamic loader maps for a file has been found. -/
structure Expanded (files : RuntimeFiles) (ownedRoot current : Bytes) (s : ElfSearch) : Prop where
  found : ∃ binary interpreter runpaths libraries, files.elfOpen current = .ok binary ∧
    interpreterText binary = .ok interpreter ∧ elfSearchPaths files binary (dir current) = .ok runpaths ∧
    binary.importedLibraries = .ok libraries ∧
    (interpreter ≠ [] → ∃ resolved, resolveRuntimeFile files interpreter (dir current) runpaths = .ok resolved ∧
      LoaderFound files current resolved s) ∧
    ∀ library ∈ libraries, ∃ resolved, resolveRuntimeFile files library (dir current) runpaths = .ok resolved ∧
      LibraryFound files ownedRoot resolved s

theorem Expanded.mono {ownedRoot current : Bytes} {s s' : ElfSearch} (h : Expanded files ownedRoot current s)
    (hs : Advances s s') : Expanded files ownedRoot current s' := by
  obtain ⟨binary, interpreter, runpaths, libraries, hbinary, hinterpreter, hrunpaths, himported, hloader, hlibraries⟩ :=
    h.found
  refine ⟨binary, interpreter, runpaths, libraries, hbinary, hinterpreter, hrunpaths, himported, fun hne => ?_,
    fun library hlibrary => ?_⟩
  · obtain ⟨resolved, hresolved, hfound⟩ := hloader hne
    exact ⟨resolved, hresolved, hfound.mono hs⟩
  · obtain ⟨resolved, hresolved, hfound⟩ := hlibraries library hlibrary
    exact ⟨resolved, hresolved, hfound.mono hs⟩

theorem expand_ok {ownedRoot current : Bytes} {s s' : ElfSearch} (h : expand files ownedRoot current s = .ok s') :
    Grows files s.toElfQueue s'.toElfQueue ∧ Advances s s' ∧ Expanded files ownedRoot current s' ∧
      s'.queued.length ≤ 10000 ∧ s'.external.length ≤ 512 := by
  unfold expand at h
  obtain ⟨binary, hbinary, h⟩ := bind_ok.1 h
  obtain ⟨interpreter, hinterpreter, h⟩ := bind_ok.1 h
  obtain ⟨runpaths, hrunpaths, h⟩ := bind_ok.1 h
  obtain ⟨libraries, hlibraries, h⟩ := bind_ok.1 h
  obtain ⟨middle, hmiddle, h⟩ := bind_ok.1 h
  obtain ⟨last, hlast, h⟩ := bind_ok.1 h
  obtain ⟨⟨⟩, hbounds, h⟩ := bind_ok.1 h
  obtain rfl := Except.ok.inj h
  obtain ⟨hgrows, hfirst, hloader⟩ := addInterpreter_ok hmiddle
  obtain ⟨hmore, hsecond, hfound⟩ := addLibraries_ok hlast
  refine ⟨hgrows.trans hmore, hfirst.trans hsecond, ⟨binary, interpreter, runpaths, libraries, orFail_ok.1 hbinary,
    orFail_ok.1 hinterpreter, orFail_ok.1 hrunpaths, orFail_ok.1 hlibraries, fun hne => ?_, hfound⟩, by simpa using ensure_ok.1 hbounds⟩
  obtain ⟨resolved, hresolved, hrecorded⟩ := hloader hne
  exact ⟨resolved, hresolved, hrecorded.mono hsecond⟩

/-! ## Termination -/

/-- The record has each file once. -/
structure Orderly (files : RuntimeFiles) (s : ElfSearch) : Prop where
  nodup : s.queued.Nodup
  paths : s.queued ⊆ files.paths

theorem Orderly.length_le {s : ElfSearch} (h : Orderly files s) : s.queued.length ≤ files.paths.length :=
  (List.subperm_of_subset h.nodup h.paths).length_le

/-- The files that are still to be expanded, if no other file exists. -/
def unexpanded (files : RuntimeFiles) (s : ElfSearch) : ℕ := files.paths.length - s.queued.length + s.queue.length

/-- **A round makes the files that are still to be expanded fewer.** -/
theorem searchRound_less {ownedRoot : Bytes} {s s' : ElfSearch} (hs : Orderly files s)
    (h : searchRound files ownedRoot s = some (.ok s')) : Orderly files s' ∧ unexpanded files s' < unexpanded files s := by
  unfold searchRound at h
  split at h
  · exact absurd h (by simp)
  · rename_i current rest hqueue
    obtain ⟨hgrows, -, -, -⟩ := expand_ok (Option.some.inj h)
    have hs' : Orderly files s' := ⟨hgrows.nodup hs.nodup, hgrows.paths hs.paths⟩
    obtain ⟨added, hgrown, hrecord⟩ := hgrows.added
    have hbound := hs'.length_le
    refine ⟨hs', ?_⟩
    rw [unexpanded, unexpanded, hgrown, hqueue]
    simp only [hrecord, List.length_append, List.length_cons] at hbound ⊢
    omega


theorem addELFDirectory_ok {visits : List (Except Failure (Bytes × FileType))} {pending pending' : ElfQueue}
    (h : addELFDirectory files visits pending = .ok pending') : Grows files pending pending' := by
  induction visits generalizing pending with
  | nil =>
    obtain rfl := Except.ok.inj h
    exact Grows.refl _
  | cons visit rest ih =>
    cases visit with
    | error failure => exact absurd h (by simp [addELFDirectory])
    | ok entry =>
      unfold addELFDirectory at h
      split_ifs at h
      · exact ih h
      · obtain ⟨next, hnext, h⟩ := bind_ok.1 h
        exact (enqueueELF_ok hnext).1.trans (ih h)

theorem addRealELFInput_ok {value : Bytes} {type : FileType} {pending pending' : ElfQueue}
    (h : addRealELFInput files value type pending = .ok pending') : Grows files pending pending' := by
  unfold addRealELFInput at h
  split at h
  · exact (enqueueELF_ok h).1
  · exact addELFDirectory_ok h
  · exact absurd h (by simp)

theorem addELFInputs_ok {value : Bytes} {pending pending' : ElfQueue} (h : addELFInputs files value pending = .ok pending') :
    Grows files pending pending' := by
  fun_induction addELFInputs files value pending with
  | case1 => exact absurd h (by simp)
  | case2 => exact absurd h (by simp)
  | case3 value info hinfo hlink resolved hreal ih => exact ih h
  | case4 => exact addRealELFInput_ok h

theorem addOptional_ok {optionals : List Bytes} {s s' : ElfSearch} (h : addOptional files optionals s = .ok s') :
    Grows files s.toElfQueue s'.toElfQueue := by
  induction optionals generalizing s with
  | nil =>
    obtain rfl := Except.ok.inj h
    exact Grows.refl _
  | cons optional rest ih =>
    unfold addOptional at h
    split at h
    · exact ih h
    · obtain ⟨pending, hpending, h⟩ := bind_ok.1 h
      exact (enqueueELF_ok hpending).1.trans (ih h)

theorem addInputs_ok {inputs : List Bytes} {a b : ElfQueue}
    (h : inputs.foldlM (fun pending input => addELFInputs files input pending) a = .ok b) : Grows files a b := by
  induction inputs generalizing a with
  | nil =>
    obtain rfl := Except.ok.inj h
    exact Grows.refl _
  | cons input rest ih =>
    rw [List.foldlM_cons] at h
    obtain ⟨next, hnext, h⟩ := bind_ok.1 h
    exact (addELFInputs_ok hnext).trans (ih h)

theorem startSearch_ok {inputs : List Bytes} {start : ElfSearch} (h : startSearch files inputs = .ok start) :
    Orderly files start ∧ start.queue = start.queued := by
  unfold startSearch at h
  obtain ⟨pending, hpending, h⟩ := bind_ok.1 h
  have hgrows := (addInputs_ok hpending).trans (addOptional_ok h)
  obtain ⟨added, hqueue, hqueued⟩ := hgrows.added
  exact ⟨⟨hgrows.nodup List.nodup_nil, hgrows.paths (List.nil_subset _)⟩, by rw [hqueue, hqueued]⟩

/-- **The search ends** after as many rounds as there are files. -/
theorem search_terminates {inputs : List Bytes} {start : ElfSearch} (ownedRoot : Bytes)
    (h : startSearch files inputs = .ok start) :
    (search files ownedRoot (files.paths.length + 1) start).isSome = true := by
  obtain ⟨hstart, hqueue⟩ := startSearch_ok h
  refine loop_terminates (unexpanded files) (fun s s' hs hround => searchRound_less hs hround) hstart ?_
  have hbound := hstart.length_le
  rw [unexpanded, hqueue]
  omega

/-! ## Completeness -/

/-- The files of the queue's record are in the queue or expanded. -/
structure Worked (files : RuntimeFiles) (ownedRoot : Bytes) (start s : ElfSearch) : Prop where
  expanded : ∀ path ∈ s.queued, path ∈ s.queue ∨ Expanded files ownedRoot path s
  started : Advances start s

theorem searchRound_worked {ownedRoot : Bytes} {start s s' : ElfSearch} (hs : Worked files ownedRoot start s)
    (h : searchRound files ownedRoot s = some (.ok s')) : Worked files ownedRoot start s' := by
  unfold searchRound at h
  split at h
  · exact absurd h (by simp)
  · rename_i current rest hqueue
    obtain ⟨hgrows, hadvances, hcurrent, -⟩ := expand_ok (Option.some.inj h)
    have hall : Advances s s' :=
      ⟨hadvances.queued, hadvances.loaders, hadvances.external, hadvances.dynamicExecutables⟩
    obtain ⟨added, hgrown, hrecord⟩ := hgrows.added
    refine ⟨fun path hpath => ?_, hs.started.trans hall⟩
    rw [hrecord, List.mem_append] at hpath
    rw [hgrown, List.mem_append]
    rcases hpath with hold | hnew
    · rcases hs.expanded path hold with hwaiting | hdone
      · rw [hqueue, List.mem_cons] at hwaiting
        rcases hwaiting with rfl | hrest
        · exact Or.inr hcurrent
        · exact Or.inl (Or.inl hrest)
      · exact Or.inr (hdone.mono hall)
    · exact Or.inl (Or.inr hnew)

/-- **Every file in the record has been expanded** when the search has ended. -/
theorem search_expanded {ownedRoot : Bytes} {inputs : List Bytes} {rounds : ℕ} {start final : ElfSearch}
    (h : startSearch files inputs = .ok start) (hsearch : search files ownedRoot rounds start = some (.ok final)) :
    Advances start final ∧ ∀ path ∈ final.queued, Expanded files ownedRoot path final := by
  have hstart : Worked files ownedRoot start start :=
    ⟨fun path hpath => Or.inl ((startSearch_ok h).2 ▸ hpath), Advances.refl _⟩
  obtain ⟨hworked, hend⟩ := loop_invariant (fun s s' hs hround => searchRound_worked hs hround) hstart hsearch
  refine ⟨hworked.started, fun path hpath => (hworked.expanded path hpath).resolve_left fun hwaiting => ?_⟩
  unfold searchRound at hend
  split at hend
  · rename_i hqueue
    rw [hqueue] at hwaiting
    exact absurd hwaiting List.not_mem_nil
  · exact absurd hend (by simp)

/-- The dynamic loader maps the resolved file for the current one. -/
inductive Needs (files : RuntimeFiles) (current resolved : Bytes) : Prop
  | interpreter {binary : ElfBinary} {interpreter : Bytes} {runpaths : List Bytes}
      (binary_ok : files.elfOpen current = .ok binary) (text : interpreterText binary = .ok interpreter)
      (present : interpreter ≠ []) (searchPaths : elfSearchPaths files binary (dir current) = .ok runpaths)
      (found : resolveRuntimeFile files interpreter (dir current) runpaths = .ok resolved)
  | library {binary : ElfBinary} {library : Bytes} {runpaths libraries : List Bytes}
      (binary_ok : files.elfOpen current = .ok binary) (imported : binary.importedLibraries = .ok libraries)
      (needed : library ∈ libraries) (searchPaths : elfSearchPaths files binary (dir current) = .ok runpaths)
      (found : resolveRuntimeFile files library (dir current) runpaths = .ok resolved)

/-- The files that are mapped for the roots, through any chain of interpreters and libraries. -/
inductive Reached (files : RuntimeFiles) (roots : List Bytes) : Bytes → Prop
  | root {path : Bytes} (mem : path ∈ roots) : Reached files roots path
  | needed {path resolved real : Bytes} (before : Reached files roots path) (needs : Needs files path resolved)
      (resolves : files.evalSymlinks resolved = .ok real) (magic : files.openHeader real = .ok (some elfMagic)) :
      Reached files roots real

theorem Expanded.needs {ownedRoot current resolved : Bytes} {s : ElfSearch} (h : Expanded files ownedRoot current s)
    (hneeds : Needs files current resolved) : Recorded files resolved s.toElfQueue ∧
      (withinPath ownedRoot resolved = false → resolved ∈ s.loaders ∨ resolved ∈ s.external) := by
  obtain ⟨binary, interpreter, runpaths, libraries, hbinary, hinterpreter, hrunpaths, himported, hloader, hlibraries⟩ :=
    h.found
  cases hneeds with
  | interpreter hother htext hpresent hpaths hfound =>
    obtain rfl := Except.ok.inj (hbinary.symm.trans hother)
    obtain rfl := Except.ok.inj (hinterpreter.symm.trans htext)
    obtain rfl := Except.ok.inj (hrunpaths.symm.trans hpaths)
    obtain ⟨found, hresolved, hloaded⟩ := hloader hpresent
    obtain rfl := Except.ok.inj (hresolved.symm.trans hfound)
    exact ⟨hloaded.recorded, fun _ => Or.inl hloaded.loader⟩
  | library hother hlist hneeded hpaths hfound =>
    obtain rfl := Except.ok.inj (hbinary.symm.trans hother)
    obtain rfl := Except.ok.inj (himported.symm.trans hlist)
    obtain rfl := Except.ok.inj (hrunpaths.symm.trans hpaths)
    obtain ⟨found, hresolved, hlibrary⟩ := hlibraries _ hneeded
    obtain rfl := Except.ok.inj (hresolved.symm.trans hfound)
    exact ⟨hlibrary.recorded, fun houtside => Or.inr (hlibrary.external houtside)⟩

theorem search_reached {ownedRoot path : Bytes} {inputs : List Bytes} {rounds : ℕ} {start final : ElfSearch}
    (h : startSearch files inputs = .ok start) (hsearch : search files ownedRoot rounds start = some (.ok final))
    (hreached : Reached files start.queued path) : path ∈ final.queued := by
  obtain ⟨hstarted, hexpanded⟩ := search_expanded h hsearch
  induction hreached with
  | root hmem => exact hstarted.queued hmem
  | needed _ hneeds hreal hmagic ih =>
    obtain ⟨real, hresolves, hrecorded⟩ := ((hexpanded _ ih).needs hneeds).1
    obtain rfl := Except.ok.inj (hreal.symm.trans hresolves)
    exact hrecorded hmagic


/-- A resolved file is its own resolution. -/
theorem resolveRuntimeFile_ok {name origin resolved : Bytes} {search : List Bytes}
    (h : resolveRuntimeFile files name origin search = .ok resolved) :
    files.evalSymlinks resolved = .ok resolved ∧ clean resolved = resolved := by
  unfold resolveRuntimeFile at h
  dsimp only at h
  split at h
  · rename_i found hfound
    obtain rfl := Except.ok.inj h
    obtain ⟨candidate, -, hcandidate⟩ := List.exists_of_findSome?_eq_some hfound
    unfold runtimeCandidate at hcandidate
    split at hcandidate
    · rename_i real _ hreal
      have hclean := files.evalSymlinks_clean hreal
      rw [hclean, Option.some.injEq] at hcandidate
      rw [← hcandidate]
      exact ⟨files.evalSymlinks_idem hreal, hclean⟩
    · exact absurd hcandidate (by simp)
  · exact absurd h (by simp)

theorem Needs.resolved {current resolved : Bytes} (h : Needs files current resolved) :
    files.evalSymlinks resolved = .ok resolved ∧ clean resolved = resolved := by
  cases h with
  | interpreter _ _ _ _ hfound => exact resolveRuntimeFile_ok hfound
  | library _ _ _ _ hfound => exact resolveRuntimeFile_ok hfound

theorem Needs.magic {current resolved : Bytes} (h : Needs files current resolved) :
    files.openHeader current = .ok (some elfMagic) := by
  cases h with
  | interpreter hbinary => exact files.elfOpen_magic hbinary
  | library hbinary => exact files.elfOpen_magic hbinary

/-- What is bound is a file that only root can change, with the digest of its contents. -/
structure Bound (files : RuntimeFiles) (path : Bytes) (executable : Bool) (binding : SystemFileBinding) : Prop where
  path_eq : binding.path = path
  system : inSystemLibraries path = true
  owned : requireRootOwnedRegularFile files path executable = .ok ()
  digest : files.digestFile path = .ok binding.sha256

theorem bindSystemFile_ok {value : Bytes} {executable : Bool} {binding : SystemFileBinding} (hclean : clean value = value)
    (h : bindSystemFile files value executable = .ok binding) : Bound files value executable binding := by
  unfold bindSystemFile at h
  rw [hclean] at h
  obtain ⟨⟨⟩, hsystem, h⟩ := bind_ok.1 h
  obtain ⟨⟨⟩, howned, h⟩ := bind_ok.1 h
  obtain ⟨digest, hdigest, h⟩ := bind_ok.1 h
  obtain rfl := Except.ok.inj h
  have hsystem := ensure_ok.1 hsystem
  rw [Bool.and_eq_true] at hsystem
  exact ⟨rfl, hsystem.2, howned, orFail_ok.1 hdigest⟩

theorem mem_insertAll {set values : List Bytes} {path : Bytes} :
    path ∈ insertAll set values ↔ path ∈ set ∨ path ∈ values := by
  unfold insertAll
  induction values generalizing set with
  | nil => simp
  | cons value rest ih =>
    rw [List.foldl_cons, ih, List.mem_insert_iff, List.mem_cons]
    tauto

/-! ## What is found -/

/-- The files outside of the owned root that the search looks for. -/
inductive External (files : RuntimeFiles) (ownedRoot : Bytes) (start : ElfSearch) (path : Bytes) : Prop
  | optional (mem : path ∈ start.external)
  | needed {current : Bytes} (reached : Reached files start.queued current) (needs : Needs files current path)
      (outside : withinPath ownedRoot path = false)

/-- Nothing else has been found. -/
structure Sound (files : RuntimeFiles) (ownedRoot : Bytes) (start s : ElfSearch) : Prop where
  queue : ∀ path ∈ s.queue, Reached files start.queued path
  queued : ∀ path ∈ s.queued, Reached files start.queued path
  loaders : ∀ path ∈ s.loaders, ∃ current, Reached files start.queued current ∧ Needs files current path
  external : ∀ path ∈ s.external, External files ownedRoot start path

theorem enqueueELF_sound {value current : Bytes} {roots : List Bytes} {pending pending' : ElfQueue}
    (h : enqueueELF files value pending = .ok pending') (hcurrent : Reached files roots current)
    (hneeds : Needs files current value) :
    ((∀ path ∈ pending.queue, Reached files roots path) → ∀ path ∈ pending'.queue, Reached files roots path) ∧
      ((∀ path ∈ pending.queued, Reached files roots path) → ∀ path ∈ pending'.queued, Reached files roots path) := by
  unfold enqueueELF at h
  obtain ⟨real, hreal, h⟩ := bind_ok.1 h
  split_ifs at h
  · obtain rfl := Except.ok.inj h
    exact ⟨id, id⟩
  · obtain ⟨header, hheader, h⟩ := bind_ok.1 h
    split_ifs at h with hmagic
    · obtain rfl := Except.ok.inj h
      exact ⟨id, id⟩
    · obtain rfl := Except.ok.inj h
      have hheader := orFail_ok.1 hheader
      have hmagic : header = some elfMagic := by simpa using hmagic
      have hnew : Reached files roots real := .needed hcurrent hneeds (orFail_ok.1 hreal) (hmagic ▸ hheader)
      constructor
      · intro hall path hpath
        rcases List.mem_append.1 hpath with hold | hadded
        · exact hall path hold
        · exact List.mem_singleton.1 hadded ▸ hnew
      · intro hall path hpath
        rcases List.mem_append.1 hpath with hold | hadded
        · exact hall path hold
        · exact List.mem_singleton.1 hadded ▸ hnew

theorem addInterpreter_sound {ownedRoot current interpreter : Bytes} {runpaths : List Bytes} {start s s' : ElfSearch}
    (h : addInterpreter files current interpreter runpaths s = .ok s') (hcurrent : Reached files start.queued current)
    (hneeds : interpreter ≠ [] → ∀ resolved, resolveRuntimeFile files interpreter (dir current) runpaths = .ok resolved →
      Needs files current resolved)
    (hs : Sound files ownedRoot start s) : Sound files ownedRoot start s' := by
  unfold addInterpreter at h
  split_ifs at h with hempty
  · obtain rfl := Except.ok.inj h
    exact hs
  · obtain ⟨resolved, hresolved, h⟩ := bind_ok.1 h
    obtain ⟨pending, hpending, h⟩ := bind_ok.1 h
    obtain rfl := Except.ok.inj h
    have hfound := hneeds (fun heq => hempty (by simp [heq])) resolved (orFail_ok.1 hresolved)
    obtain ⟨hqueue, hqueued⟩ := enqueueELF_sound hpending hcurrent hfound
    refine ⟨hqueue hs.queue, hqueued hs.queued, fun path hpath => ?_, hs.external⟩
    rcases List.mem_insert_iff.1 hpath with rfl | hold
    · exact ⟨current, hcurrent, hfound⟩
    · exact hs.loaders path hold

theorem addLibraries_sound {ownedRoot current : Bytes} {runpaths libraries : List Bytes} {start s s' : ElfSearch}
    (h : addLibraries files ownedRoot current runpaths libraries s = .ok s')
    (hcurrent : Reached files start.queued current)
    (hneeds : ∀ library ∈ libraries, ∀ resolved,
      resolveRuntimeFile files library (dir current) runpaths = .ok resolved → Needs files current resolved)
    (hs : Sound files ownedRoot start s) : Sound files ownedRoot start s' := by
  induction libraries generalizing s with
  | nil =>
    obtain rfl := Except.ok.inj h
    exact hs
  | cons library rest ih =>
    unfold addLibraries at h
    obtain ⟨resolved, hresolved, h⟩ := bind_ok.1 h
    obtain ⟨pending, hpending, h⟩ := bind_ok.1 h
    have hfound := hneeds library List.mem_cons_self resolved (orFail_ok.1 hresolved)
    obtain ⟨hqueue, hqueued⟩ := enqueueELF_sound hpending hcurrent hfound
    refine ih h (fun other hother => hneeds other (List.mem_cons_of_mem _ hother)) ?_
    refine ⟨hqueue hs.queue, hqueued hs.queued, hs.loaders, fun path hpath => ?_⟩
    dsimp only at hpath
    split_ifs at hpath with hwithin
    · exact hs.external path hpath
    · rcases List.mem_insert_iff.1 hpath with rfl | hold
      · exact .needed hcurrent hfound (by simpa using hwithin)
      · exact hs.external path hold

theorem searchRound_sound {ownedRoot : Bytes} {start s s' : ElfSearch} (hs : Sound files ownedRoot start s)
    (h : searchRound files ownedRoot s = some (.ok s')) : Sound files ownedRoot start s' := by
  unfold searchRound at h
  split at h
  · exact absurd h (by simp)
  · rename_i current rest hqueue
    have hall := hs.queue
    rw [hqueue] at hall
    have hcurrent := hall current List.mem_cons_self
    have hrest : Sound files ownedRoot start { s with queue := rest } :=
      ⟨fun path hpath => hall path (List.mem_cons_of_mem _ hpath), hs.queued, hs.loaders, hs.external⟩
    have h := Option.some.inj h
    unfold expand at h
    obtain ⟨binary, hbinary, h⟩ := bind_ok.1 h
    obtain ⟨interpreter, hinterpreter, h⟩ := bind_ok.1 h
    obtain ⟨runpaths, hrunpaths, h⟩ := bind_ok.1 h
    obtain ⟨libraries, hlibraries, h⟩ := bind_ok.1 h
    obtain ⟨middle, hmiddle, h⟩ := bind_ok.1 h
    obtain ⟨last, hlast, h⟩ := bind_ok.1 h
    obtain ⟨⟨⟩, -, h⟩ := bind_ok.1 h
    obtain rfl := Except.ok.inj h
    refine addLibraries_sound hlast hcurrent (fun library hlibrary resolved hresolved => ?_)
      (addInterpreter_sound hmiddle hcurrent (fun hpresent resolved hresolved => ?_) hrest)
    · exact .library (orFail_ok.1 hbinary) (orFail_ok.1 hlibraries) hlibrary (orFail_ok.1 hrunpaths) hresolved
    · exact .interpreter (orFail_ok.1 hbinary) (orFail_ok.1 hinterpreter) hpresent (orFail_ok.1 hrunpaths) hresolved

theorem startSearch_loaders {inputs : List Bytes} {start : ElfSearch} (h : startSearch files inputs = .ok start) :
    start.loaders = [] := by
  have hoptional : ∀ {optionals : List Bytes} {s s' : ElfSearch}, addOptional files optionals s = .ok s' →
      s'.loaders = s.loaders := by
    intro optionals
    induction optionals with
    | nil =>
      intro s s' h
      obtain rfl := Except.ok.inj h
      rfl
    | cons optional rest ih =>
      intro s s' h
      unfold addOptional at h
      split at h
      · exact ih h
      · obtain ⟨pending, -, h⟩ := bind_ok.1 h
        have hrest := ih h
        exact hrest
  unfold startSearch at h
  obtain ⟨pending, -, h⟩ := bind_ok.1 h
  exact hoptional h

/-- Nothing else has been found when the search has ended. -/
theorem search_sound {ownedRoot : Bytes} {inputs : List Bytes} {rounds : ℕ} {start final : ElfSearch}
    (h : startSearch files inputs = .ok start) (hsearch : search files ownedRoot rounds start = some (.ok final)) :
    Sound files ownedRoot start final := by
  have hstart : Sound files ownedRoot start start := by
    refine ⟨fun path hpath => .root ((startSearch_ok h).2 ▸ hpath), fun path hpath => .root hpath, fun path hpath => ?_,
      fun path hpath => .optional hpath⟩
    rw [startSearch_loaders h] at hpath
    exact absurd hpath List.not_mem_nil
  exact (loop_invariant (fun s s' hs hround => searchRound_sound hs hround) hstart hsearch).1

/-- **What is outside of the owned root when the search has ended.** -/
theorem mem_externalFiles {ownedRoot path : Bytes} {inputs : List Bytes} {rounds : ℕ} {start final : ElfSearch}
    (h : startSearch files inputs = .ok start) (hsearch : search files ownedRoot rounds start = some (.ok final)) :
    path ∈ externalFiles ownedRoot final ↔ External files ownedRoot start path := by
  have hsound := search_sound h hsearch
  obtain ⟨hstarted, hexpanded⟩ := search_expanded h hsearch
  rw [externalFiles, mem_insertAll, externalLoaders, List.mem_filter]
  constructor
  · rintro (hexternal | ⟨hloader, houtside⟩)
    · exact hsound.external path hexternal
    · obtain ⟨current, hcurrent, hneeds⟩ := hsound.loaders path hloader
      exact .needed hcurrent hneeds (by simpa using houtside)
  · rintro (hmem | ⟨hcurrent, hneeds, houtside⟩)
    · exact Or.inl (hstarted.external hmem)
    · rcases ((hexpanded _ (search_reached h hsearch hcurrent)).needs hneeds).2 houtside with hloader | hexternal
      · exact Or.inr ⟨hloader, by simp [houtside]⟩
      · exact Or.inl hexternal

end SecureSaas.Bootstrap
