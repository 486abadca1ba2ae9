import SecureSaas.Bootstrap.SealTree
import SecureSaas.Js.Collect
import Mathlib.Algebra.Order.BigOperators.Group.List
import Mathlib.Algebra.Ring.Int.Defs
import Mathlib.Data.Int.Cast.Basic

/-!
# Exactness of a sealed tree

What the launcher seals is decided entry by entry: the visit of an entry succeeds or fails by its path and its node
alone, and only the counters and the sets of seen paths are carried along.

* `visit_ok`: **what a visit that succeeds found.**
* `visitAll_ok`: what all visits together found.
* `sealed_iff`: **which trees are accepted.**
* `seal_not_listed`: a file of the launcher that the inventory leaves out is sealed with any content.
-/

namespace SecureSaas.Bootstrap

open Js Go

variable {run : SealRun} {exact : GoMap ExactKind} {path : Bytes} {node : SealNode} {state state' : SealState}

/-! ## Entries that may be sealed -/

/-- The node is what the inventory has recorded. -/
def FitsEntry (run : SealRun) (path : Bytes) (wanted : SealInventoryEntry) : SealNode → Prop
  | .directory _ _ => wanted.type = utf8 "directory"
  | .file _ executable content => wanted.type = utf8 "file" ∧ (content.length : ℤ) = wanted.size ∧
      executable = wanted.executable ∧ run.sha256Hex content = wanted.sha256
  | .link _ target resolved => wanted.type = utf8 "symlink" ∧
      matchingGeneratedRoot path sealedGeneratedRoots = some nodeModules ∧ target = wanted.target ∧
        ∃ value, resolved = some value ∧ run.root ++ [nodeModules] <+: value
  | .other _ => False

/-- The node is the file of the manifest. -/
def FitsSource (run : SealRun) (path : Bytes) : SealNode → Prop
  | .file _ executable content => ∃ wanted, manifested run.manifest path = some wanted ∧
      run.sha256Hex content = wanted.sha256 ∧ executable = wanted.executable
  | _ => False

/-- The node is a file of the launcher that the inventory does not list; only two of them have a digest. -/
def FitsGenerated (run : SealRun) (path : Bytes) : SealNode → Prop
  | .file _ _ content => (path = candidatePath → run.sha256Hex content = run.generated.candidateSHA256) ∧
      (path = sealInventoryPath → run.sha256Hex content = run.generated.documentSHA256)
  | _ => False

/-- A path that something is expected at. -/
def Expected (run : SealRun) (path : Bytes) : Prop :=
  path ∈ run.expected.sourceFiles ∨ path ∈ sealedGeneratedFiles ∨ path ∈ run.generated.paths ∨
    path ∈ sealedEmptyDirectories

/-- The node is what is expected at its path, or a directory above such a path. -/
def Fitting (run : SealRun) (path : Bytes) (node : SealNode) : Prop :=
  match generatedEntry run.generated.entries path with
  | some wanted => FitsEntry run path wanted node
  | none =>
    if path ∈ run.expected.sourceFiles then FitsSource run path node
    else if path ∈ sealedGeneratedFiles then FitsGenerated run path node
    else node.isDirectory = true ∧ (path ∈ sealedEmptyDirectories ∨ ∃ other, Expected run other ∧ below path other = true)

/-- An entry that may be sealed. -/
structure Sealable (run : SealRun) (entry : Bytes × SealNode) : Prop where
  owned : entry.2.uid = run.expectedUID
  safe : safeSignerRelativePath entry.1 = true
  fitting : Fitting run entry.1 entry.2
  empty : entry.1 ∈ sealedEmptyDirectories → ∃ uid, entry.2 = .directory uid []
  size : entry.2.size ≤ run.budget.maximumFileSize

/-! ## One visit -/

theorem generatedEntry_isSome {entries : List SealInventoryEntry} :
    (generatedEntry entries path).isSome = true ↔ path ∈ entries.map (·.path) := by
  rw [generatedEntry, List.find?_isSome]
  simp only [List.mem_reverse, decide_eq_true_eq, List.mem_map]

theorem unlisted_of_none (h : generatedEntry run.generated.entries path = none) :
    path ∉ run.expected.generated.paths := by
  intro hlisted
  have hsome : (generatedEntry run.generated.entries path).isSome = true := generatedEntry_isSome.2 hlisted
  rw [h] at hsome
  cases hsome

theorem kindOf_isSome {expected : SealExpectation} : (kindOf expected path).isSome = true ↔
    path ∈ expected.sourceFiles ∨ path ∈ sealedGeneratedFiles ∨ path ∈ expected.generated.paths := by
  unfold kindOf
  split
  · simp [*]
  · split
    · simp [*]
    · split <;> simp [*]

theorem isSealAncestor_iff (hexact : ∀ path, exact.lookup path = kindOf run.expected path) :
    isSealAncestor path exact sealedEmptyDirectories = true ↔ ∃ other, Expected run other ∧ below path other = true := by
  have hkeys : ∀ other, other ∈ exact.keys ↔ (kindOf run.expected other).isSome = true := by
    intro other
    rw [← AList.mem_keys, ← AList.lookup_isSome, hexact]
  simp only [isSealAncestor, Bool.or_eq_true, List.any_eq_true, hkeys, kindOf_isSome, Expected, SealRun.generated]
  constructor
  · rintro (⟨other, hother, hbelow⟩ | ⟨other, hother, hbelow⟩)
    · exact ⟨other, by tauto, hbelow⟩
    · exact ⟨other, by tauto, hbelow⟩
  · rintro ⟨other, hother, hbelow⟩
    by_cases hempty : other ∈ sealedEmptyDirectories
    · exact Or.inr ⟨other, hempty, hbelow⟩
    · exact Or.inl ⟨other, by tauto, hbelow⟩

theorem checkLink_ok {uid : ℤ} {target : Bytes} {resolved : Option (List Bytes)} :
    checkLink run path target resolved = .ok () ↔ ∃ wanted, generatedEntry run.generated.entries path = some wanted ∧
      FitsEntry run path wanted (.link uid target resolved) := by
  unfold checkLink FitsEntry pathWithin
  cases generatedEntry run.generated.entries path with
  | none => simp [bind_ok]
  | some wanted =>
    simp only [bind_ok, ensure_ok, exists_unit, Option.any_some, Bool.and_eq_true, beq_iff_eq, Option.any_eq_true,
      List.isPrefixOf_iff_prefix, Option.some.injEq, exists_eq_left']
    tauto

theorem checkListed_ok {wanted : SealInventoryEntry} (hlink : ∀ uid target resolved, node ≠ .link uid target resolved) :
    checkListed run path wanted node = .ok () ↔ FitsEntry run path wanted node := by
  have hdistinct : utf8 "file" ≠ utf8 "directory" := by decide
  unfold checkListed FitsEntry
  cases node with
  | link uid target resolved => exact absurd rfl (hlink uid target resolved)
  | directory uid children =>
    by_cases hdirectory : wanted.type = utf8 "directory"
    · simp [hdirectory, SealNode.isDirectory]
    · by_cases hfile : wanted.type = utf8 "file" <;> simp [hdirectory, hfile, hdistinct]
  | file uid executable content =>
    by_cases hdirectory : wanted.type = utf8 "directory"
    · simp [hdirectory, hdistinct.symm, SealNode.isDirectory]
    · by_cases hfile : wanted.type = utf8 "file"
      · simp [hfile, hdistinct, bind_ok, and_assoc]
      · simp [hdirectory, hfile]
  | other uid =>
    by_cases hdirectory : wanted.type = utf8 "directory"
    · simp [hdirectory, SealNode.isDirectory]
    · by_cases hfile : wanted.type = utf8 "file" <;> simp [hdirectory, hfile, hdistinct]

theorem checkExact_ok {kind : ExactKind} : checkExact run path kind node = .ok () ↔
    if kind = .source then FitsSource run path node else FitsGenerated run path node := by
  have hother : candidatePath ≠ sealInventoryPath := by decide
  unfold checkExact FitsSource FitsGenerated
  cases node with
  | file uid executable content =>
    by_cases hkind : kind = .source
    · simp [hkind, Option.any_eq_true]
    · by_cases hcandidate : path = candidatePath
      · simp [hkind, hcandidate, hother]
      · by_cases hinventory : path = sealInventoryPath <;> simp [hkind, hcandidate, hinventory, hother.symm]
  | _ => by_cases hkind : kind = .source <;> simp [hkind]

/-- The role of a path at which a file, a link or a listed directory is expected. -/
def FitsRole (run : SealRun) (path : Bytes) (node : SealNode) : Prop :=
  match generatedEntry run.generated.entries path with
  | some wanted => FitsEntry run path wanted node
  | none =>
    if path ∈ run.expected.sourceFiles then FitsSource run path node
    else path ∈ sealedGeneratedFiles → FitsGenerated run path node

theorem seeExact_ok {seen : List Bytes} (hlink : ∀ uid target resolved, node ≠ .link uid target resolved) :
    seeExact run (kindOf run.expected path) state path node = .ok seen ↔ FitsRole run path node ∧
      seen = if (kindOf run.expected path).isSome then state.seenExact.insert path else state.seenExact := by
  unfold seeExact FitsRole
  cases hentry : generatedEntry run.generated.entries path with
  | some wanted =>
    have hkind : (kindOf run.expected path).isSome = true :=
      kindOf_isSome.2 (Or.inr (Or.inr (generatedEntry_isSome.1 (Option.isSome_of_eq_some hentry))))
    simp only [bind_ok, pure_ok, exists_unit, checkListed_ok hlink, hkind, if_true, @eq_comm _ seen]
  | none =>
    have hunlisted := unlisted_of_none hentry
    by_cases hsource : path ∈ run.expected.sourceFiles
    · have hkind : kindOf run.expected path = some .source := by rw [kindOf, if_pos hsource]
      simp only [hkind, bind_ok, pure_ok, exists_unit, checkExact_ok, if_pos hsource, if_true, Option.isSome_some,
        @eq_comm _ seen]
    · by_cases hfile : path ∈ sealedGeneratedFiles
      · have hkind : kindOf run.expected path = some .generated := by rw [kindOf, if_neg hsource, if_pos hfile]
        simp only [hkind, bind_ok, pure_ok, exists_unit, checkExact_ok, if_neg hsource, reduceCtorEq, if_false, hfile,
          forall_const, Option.isSome_some, if_true, @eq_comm _ seen]
      · have hkind : kindOf run.expected path = none := by
          rw [kindOf, if_neg hsource, if_neg hfile, if_neg hunlisted]
        simp only [hkind, pure_ok, if_neg hsource, hfile, false_imp_iff, true_and, Option.isSome_none,
          Bool.false_eq_true, if_false, @eq_comm _ seen]

theorem seeEmpty_ok {seen : List Bytes} : seeEmpty state path node = .ok seen ↔
    (path ∈ sealedEmptyDirectories → ∃ uid, node = .directory uid []) ∧
      seen = if path ∈ sealedEmptyDirectories then state.seenEmpty.insert path else state.seenEmpty := by
  unfold seeEmpty
  by_cases hempty : path ∈ sealedEmptyDirectories
  · simp only [hempty, if_true, forall_const, bind_ok, pure_ok, exists_unit, @eq_comm _ seen]
    refine and_congr_left fun _ => ?_
    unfold checkEmpty
    cases node with
    | directory uid children => simp
    | _ => simp
  · simp only [hempty, if_false, false_imp_iff, true_and, pure_ok, @eq_comm _ seen]

theorem addBytes_ok {total : ℤ} (hbudget : 0 < run.budget.maximumFileSize)
    (htotal : state.totalBytes ≤ run.budget.maximumTreeSize) : addBytes run state path node = .ok total ↔
      node.size ≤ run.budget.maximumFileSize ∧ state.totalBytes + node.size ≤ run.budget.maximumTreeSize ∧
        total = state.totalBytes + node.size := by
  unfold addBytes SealNode.size
  cases node with
  | file uid executable content =>
    simp only [bind_ok, ensure_ok, pure_ok, exists_unit, decide_eq_true_eq, @eq_comm _ total]
  | _ =>
    simp only [pure_ok, add_zero]
    exact ⟨fun h => ⟨hbudget.le, htotal, h.symm⟩, fun h => h.2.2.symm⟩

/-- The state after an entry that may be sealed. -/
def sealEntry (run : SealRun) (state : SealState) (entry : Bytes × SealNode) : SealState where
  entries := state.entries + 1
  totalBytes := state.totalBytes + entry.2.size
  seenExact := if (kindOf run.expected entry.1).isSome then state.seenExact.insert entry.1 else state.seenExact
  seenEmpty := if entry.1 ∈ sealedEmptyDirectories then state.seenEmpty.insert entry.1 else state.seenEmpty

/-- A path with a role is one at which something other than a directory may be. -/
theorem fitting_iff : Fitting run path node ↔ FitsRole run path node ∧
    ((kindOf run.expected path).isSome = true ∨ node.isDirectory = true ∧
      (path ∈ sealedEmptyDirectories ∨ ∃ other, Expected run other ∧ below path other = true)) := by
  unfold Fitting FitsRole
  cases hentry : generatedEntry run.generated.entries path with
  | some wanted =>
    have hkind : (kindOf run.expected path).isSome = true :=
      kindOf_isSome.2 (Or.inr (Or.inr (generatedEntry_isSome.1 (Option.isSome_of_eq_some hentry))))
    simp only [hkind, true_or, and_true]
  | none =>
    have hunlisted := unlisted_of_none hentry
    by_cases hsource : path ∈ run.expected.sourceFiles
    · have hkind : (kindOf run.expected path).isSome = true := kindOf_isSome.2 (Or.inl hsource)
      simp only [if_pos hsource, hkind, true_or, and_true]
    · by_cases hfile : path ∈ sealedGeneratedFiles
      · have hkind : (kindOf run.expected path).isSome = true := kindOf_isSome.2 (Or.inr (Or.inl hfile))
        simp only [if_neg hsource, hfile, if_true, forall_const, hkind, true_or, and_true]
      · have hkind : kindOf run.expected path = none := by
          rw [kindOf, if_neg hsource, if_neg hfile, if_neg hunlisted]
        simp only [if_neg hsource, hfile, if_false, false_imp_iff, true_and, hkind, Option.isSome_none,
          Bool.false_eq_true, false_or]

theorem fitting_other {uid : ℤ} : ¬ Fitting run path (.other uid) := by
  unfold Fitting
  split
  · exact id
  · split
    · exact id
    · split
      · exact id
      · exact fun h => Bool.false_ne_true h.1

theorem fitting_link {uid : ℤ} {target : Bytes} {resolved : Option (List Bytes)} :
    Fitting run path (.link uid target resolved) ↔ ∃ wanted, generatedEntry run.generated.entries path = some wanted ∧
      FitsEntry run path wanted (.link uid target resolved) := by
  unfold Fitting
  cases generatedEntry run.generated.entries path with
  | some wanted => simp only [Option.some.injEq, exists_eq_left']
  | none =>
    simp only [reduceCtorEq, false_and, exists_false, iff_false]
    split
    · exact id
    · split
      · exact id
      · exact fun h => Bool.false_ne_true h.1

theorem sealable_iff : Sealable run (path, node) ↔ node.uid = run.expectedUID ∧ safeSignerRelativePath path = true ∧
    Fitting run path node ∧ (path ∈ sealedEmptyDirectories → ∃ uid, node = .directory uid []) ∧
      node.size ≤ run.budget.maximumFileSize :=
  ⟨fun h => ⟨h.owned, h.safe, h.fitting, h.empty, h.size⟩, fun h => ⟨h.1, h.2.1, h.2.2.1, h.2.2.2.1, h.2.2.2.2⟩⟩

theorem validateSealOwner_ok {directory : Bool} (h : directory = true → node.isDirectory = true) :
    validateSealOwner run path node directory = .ok () ↔ node.uid = run.expectedUID := by
  simp only [validateSealOwner, bind_ok, ensure_ok, exists_unit, beq_iff_eq, Bool.or_eq_true, Bool.not_eq_true',
    and_iff_left_iff_imp]
  intro _
  cases directory with
  | false => exact Or.inl rfl
  | true => exact Or.inr (h rfl)

/-- **What a visit that succeeds found.** -/
theorem visit_ok (hexact : ∀ path, exact.lookup path = kindOf run.expected path)
    (hbudget : 0 < run.budget.maximumFileSize) (htotal : state.totalBytes ≤ run.budget.maximumTreeSize)
    {entry : Bytes × SealNode} : visit run exact state entry = .ok state' ↔
      state.entries + 1 ≤ run.budget.maximumEntries ∧ Sealable run entry ∧
        state.totalBytes + entry.2.size ≤ run.budget.maximumTreeSize ∧ state' = sealEntry run state entry := by
  obtain ⟨path, node⟩ := entry
  have hplace : ((exact.lookup path).isSome || (node.isDirectory && isSealAncestor path exact sealedEmptyDirectories) ||
      decide (path ∈ sealedEmptyDirectories)) = true ↔ (kindOf run.expected path).isSome = true ∨
        node.isDirectory = true ∧ (∃ other, Expected run other ∧ below path other = true) ∨
          path ∈ sealedEmptyDirectories := by
    rw [Bool.or_eq_true, Bool.or_eq_true, Bool.and_eq_true, isSealAncestor_iff hexact, decide_eq_true_iff, hexact,
      or_assoc]
  rw [sealable_iff]
  unfold visit
  simp only [bind_ok, ensure_ok, exists_unit, decide_eq_true_eq, hplace]
  -- a file or a directory: its path must be one of the expected ones, and its role decides the rest
  have hplain : (∀ uid target resolved, node ≠ .link uid target resolved) →
      ((state.entries + 1 ≤ run.budget.maximumEntries ∧ safeSignerRelativePath path = true ∧
        ((kindOf run.expected path).isSome = true ∨
          node.isDirectory = true ∧ (∃ other, Expected run other ∧ below path other = true) ∨
            path ∈ sealedEmptyDirectories) ∧
        (validateSealOwner run path node node.isDirectory = .ok () ∧
          ∃ totalBytes, addBytes run state path node = .ok totalBytes ∧
            ∃ seenExact, seeExact run (exact.lookup path) state path node = .ok seenExact ∧
              ∃ seenEmpty, seeEmpty state path node = .ok seenEmpty ∧
                (pure { entries := state.entries + 1, totalBytes, seenExact, seenEmpty } :
                  Except Failure SealState) = .ok state')) ↔
      (state.entries + 1 ≤ run.budget.maximumEntries ∧ (node.uid = run.expectedUID ∧
        safeSignerRelativePath path = true ∧ Fitting run path node ∧
          (path ∈ sealedEmptyDirectories → ∃ uid, node = .directory uid []) ∧
            node.size ≤ run.budget.maximumFileSize) ∧
        state.totalBytes + node.size ≤ run.budget.maximumTreeSize ∧ state' = sealEntry run state (path, node))) := by
    intro hlink
    rw [hexact, fitting_iff, validateSealOwner_ok (fun h => h)]
    simp only [addBytes_ok hbudget htotal, seeExact_ok hlink, seeEmpty_ok, pure_ok]
    constructor
    · rintro ⟨hentries, hsafe, hplaced, howner, _, ⟨hsize, hbytes, rfl⟩, _, ⟨hrole, rfl⟩, _, ⟨hempty, rfl⟩, rfl⟩
      refine ⟨hentries, ⟨howner, hsafe, ⟨hrole, ?_⟩, hempty, hsize⟩, hbytes, rfl⟩
      rcases hplaced with hkind | ⟨hdirectory, hancestor⟩ | hpath
      · exact Or.inl hkind
      · exact Or.inr ⟨hdirectory, Or.inr hancestor⟩
      · obtain ⟨uid, rfl⟩ := hempty hpath
        exact Or.inr ⟨rfl, Or.inl hpath⟩
    · rintro ⟨hentries, ⟨howner, hsafe, ⟨hrole, hplaced⟩, hempty, hsize⟩, hbytes, rfl⟩
      refine ⟨hentries, hsafe, ?_, howner, _, ⟨hsize, hbytes, rfl⟩, _, ⟨hrole, rfl⟩, _, ⟨hempty, rfl⟩, rfl⟩
      rcases hplaced with hkind | ⟨hdirectory, hpath | hancestor⟩
      · exact Or.inl hkind
      · exact Or.inr (Or.inr hpath)
      · exact Or.inr (Or.inl ⟨hdirectory, hancestor⟩)
  cases node with
  | other uid =>
    simp only [reduceCtorEq, and_false, false_iff, not_and]
    exact fun _ h => absurd h.2.2.1 fitting_other
  | link uid target resolved =>
    have hdependency : ∀ value ∈ sealedEmptyDirectories,
        matchingGeneratedRoot value sealedGeneratedRoots ≠ some nodeModules := by decide
    have hside : validateSealOwner run path (.link uid target resolved) false = .ok () ↔ uid = run.expectedUID :=
      validateSealOwner_ok fun h => absurd h Bool.false_ne_true
    simp only [bind_ok, exists_unit, pure_ok, @checkLink_ok run path uid target resolved, hside, fitting_link,
      SealNode.uid, SealNode.size, add_zero, reduceCtorEq, exists_false, imp_false]
    constructor
    · rintro ⟨hentries, hsafe, -, ⟨wanted, hwanted, hfits⟩, howner, rfl⟩
      have hroot := hfits.2.1
      have hempty : path ∉ sealedEmptyDirectories := fun h => hdependency path h hroot
      have hkind : (kindOf run.expected path).isSome = true :=
        kindOf_isSome.2 (Or.inr (Or.inr (generatedEntry_isSome.1 (Option.isSome_of_eq_some hwanted))))
      refine ⟨hentries, ⟨howner, hsafe, ⟨wanted, hwanted, hfits⟩, hempty, hbudget.le⟩, htotal, ?_⟩
      simp [sealEntry, hkind, hempty, SealNode.size]
    · rintro ⟨hentries, ⟨howner, hsafe, ⟨wanted, hwanted, hfits⟩, hempty, -⟩, -, rfl⟩
      have hkind : (kindOf run.expected path).isSome = true :=
        kindOf_isSome.2 (Or.inr (Or.inr (generatedEntry_isSome.1 (Option.isSome_of_eq_some hwanted))))
      refine ⟨hentries, hsafe, Or.inl hkind, ⟨wanted, hwanted, hfits⟩, howner, ?_⟩
      simp [sealEntry, hkind, hempty, SealNode.size]
  | directory uid children =>
    simp only [bind_ok, exists_unit]
    exact hplain (by simp)
  | file uid executable content =>
    simp only [bind_ok, exists_unit]
    exact hplain (by simp)

/-! ## The whole walk -/

/-- The bytes of all files. -/
def totalSize (entries : List (Bytes × SealNode)) : ℤ := (entries.map fun entry => entry.2.size).sum

theorem size_nonneg (node : SealNode) : 0 ≤ node.size := by
  cases node with
  | file uid executable content => exact Int.natCast_nonneg _
  | _ => exact le_refl 0

theorem totalSize_nonneg (entries : List (Bytes × SealNode)) : 0 ≤ totalSize entries := by
  refine List.sum_nonneg fun value hvalue => ?_
  obtain ⟨entry, -, rfl⟩ := List.mem_map.1 hvalue
  exact size_nonneg entry.2

/-- **What all visits together found**: each entry by itself may be sealed, and their number and bytes are within the
budget. -/
theorem visitAll_ok (hexact : ∀ path, exact.lookup path = kindOf run.expected path)
    (hbudget : 0 < run.budget.maximumFileSize) {entries : List (Bytes × SealNode)} : ∀ {state : SealState},
    state.entries ≤ run.budget.maximumEntries → state.totalBytes ≤ run.budget.maximumTreeSize →
    (SealNode.visitAll (visit run exact) state entries = .ok state' ↔
      state.entries + entries.length ≤ run.budget.maximumEntries ∧ (∀ entry ∈ entries, Sealable run entry) ∧
        state.totalBytes + totalSize entries ≤ run.budget.maximumTreeSize ∧
          state' = entries.foldl (sealEntry run) state) := by
  induction entries with
  | nil =>
    intro state hentries htotal
    have hsame : SealNode.visitAll (visit run exact) state [] = .ok state' ↔ state' = state :=
      ⟨fun h => (Except.ok.inj h).symm, fun h => congrArg Except.ok h.symm⟩
    rw [hsame]
    simp [totalSize, hentries, htotal]
  | cons entry rest ih =>
    intro state hentries htotal
    have hrest := totalSize_nonneg rest
    have hsum : totalSize (entry :: rest) = entry.2.size + totalSize rest := by simp [totalSize]
    rw [SealNode.visitAll, bind_ok]
    simp only [visit_ok hexact hbudget htotal, List.forall_mem_cons, List.foldl_cons, hsum, List.length_cons,
      Int.natCast_add, Int.natCast_one]
    constructor
    · rintro ⟨_, ⟨hcount, hsealable, hbytes, rfl⟩, hwalk⟩
      obtain ⟨hall, hothers, htree, hstate⟩ := (@ih (sealEntry run state entry) hcount hbytes).1 hwalk
      refine ⟨?_, ⟨hsealable, hothers⟩, ?_, hstate⟩
      · have : (sealEntry run state entry).entries = state.entries + 1 := rfl
        omega
      · have : (sealEntry run state entry).totalBytes = state.totalBytes + entry.2.size := rfl
        omega
    · rintro ⟨hcount, ⟨hsealable, hothers⟩, htree, hstate⟩
      have hcount' : state.entries + 1 ≤ run.budget.maximumEntries := by omega
      have hbytes : state.totalBytes + entry.2.size ≤ run.budget.maximumTreeSize := by omega
      refine ⟨_, ⟨hcount', hsealable, hbytes, rfl⟩, ?_⟩
      refine (@ih (sealEntry run state entry) hcount' hbytes).2 ⟨?_, hothers, ?_, hstate⟩
      · have : (sealEntry run state entry).entries = state.entries + 1 := rfl
        omega
      · have : (sealEntry run state entry).totalBytes = state.totalBytes + entry.2.size := rfl
        omega

theorem mem_seenExact {entries : List (Bytes × SealNode)} : ∀ {state : SealState} {value : Bytes},
    value ∈ (entries.foldl (sealEntry run) state).seenExact ↔ value ∈ state.seenExact ∨
      (kindOf run.expected value).isSome = true ∧ value ∈ entries.map (·.1) := by
  induction entries with
  | nil => simp
  | cons entry rest ih =>
    intro state value
    have hstep : value ∈ (sealEntry run state entry).seenExact ↔ value ∈ state.seenExact ∨
        (kindOf run.expected value).isSome = true ∧ value = entry.1 := by
      unfold sealEntry
      by_cases hkind : (kindOf run.expected entry.1).isSome = true
      · simp only [hkind, if_true, List.mem_insert_iff]
        constructor
        · rintro (rfl | h)
          · exact Or.inr ⟨hkind, rfl⟩
          · exact Or.inl h
        · rintro (h | ⟨-, rfl⟩)
          · exact Or.inr h
          · exact Or.inl rfl
      · rw [if_neg hkind]
        refine ⟨Or.inl, ?_⟩
        rintro (h | ⟨hvalue, rfl⟩)
        · exact h
        · exact absurd hvalue hkind
    rw [List.foldl_cons, ih, hstep, List.map_cons, List.mem_cons]
    tauto

theorem mem_seenEmpty {entries : List (Bytes × SealNode)} : ∀ {state : SealState} {value : Bytes},
    value ∈ (entries.foldl (sealEntry run) state).seenEmpty ↔ value ∈ state.seenEmpty ∨
      value ∈ sealedEmptyDirectories ∧ value ∈ entries.map (·.1) := by
  induction entries with
  | nil => simp
  | cons entry rest ih =>
    intro state value
    have hstep : value ∈ (sealEntry run state entry).seenEmpty ↔ value ∈ state.seenEmpty ∨
        value ∈ sealedEmptyDirectories ∧ value = entry.1 := by
      unfold sealEntry
      by_cases hempty : entry.1 ∈ sealedEmptyDirectories
      · simp only [hempty, if_true, List.mem_insert_iff]
        constructor
        · rintro (rfl | h)
          · exact Or.inr ⟨hempty, rfl⟩
          · exact Or.inl h
        · rintro (h | ⟨-, rfl⟩)
          · exact Or.inr h
          · exact Or.inl rfl
      · rw [if_neg hempty]
        refine ⟨Or.inl, ?_⟩
        rintro (h | ⟨hvalue, rfl⟩)
        · exact h
        · exact absurd hvalue hempty
    rw [List.foldl_cons, ih, hstep, List.map_cons, List.mem_cons]
    tauto

theorem nodup_seenExact {entries : List (Bytes × SealNode)} : ∀ {state : SealState}, state.seenExact.Nodup →
    (entries.foldl (sealEntry run) state).seenExact.Nodup := by
  induction entries with
  | nil => exact fun h => h
  | cons entry rest ih =>
    intro state h
    refine ih ?_
    unfold sealEntry
    by_cases hkind : (kindOf run.expected entry.1).isSome = true
    · rw [if_pos hkind]
      exact h.insert
    · rwa [if_neg hkind]

/-! ## Accepted trees -/

/-- A tree that may be sealed: each entry is what is expected at its path, and nothing that is expected is missing. -/
structure Sealed (run : SealRun) (tree : SealNode) : Prop where
  budget : 0 < run.budget.maximumEntries ∧ 0 < run.budget.maximumFileSize ∧ 0 < run.budget.maximumTreeSize
  governed : Governed run.expected
  root : tree.isDirectory = true ∧ tree.uid = run.expectedUID
  exactly : ∀ entry ∈ tree.belowRoot, Sealable run entry
  complete : ∀ path, Expected run path → path ∈ tree.belowRoot.map (·.1)
  count : (tree.belowRoot.length : ℤ) ≤ run.budget.maximumEntries
  bytes : totalSize tree.belowRoot ≤ run.budget.maximumTreeSize

/-- The walk, once the paths are known. -/
theorem walkSealed_ok (hexact : ∀ path, exact.lookup path = kindOf run.expected path)
    (hbudget : 0 < run.budget.maximumEntries ∧ 0 < run.budget.maximumFileSize ∧ 0 < run.budget.maximumTreeSize)
    {tree : SealNode} : walkSealed run exact tree = .ok state ↔ (tree.isDirectory = true ∧ tree.uid = run.expectedUID) ∧
      (tree.belowRoot.length : ℤ) ≤ run.budget.maximumEntries ∧ (∀ entry ∈ tree.belowRoot, Sealable run entry) ∧
        totalSize tree.belowRoot ≤ run.budget.maximumTreeSize ∧
          state = tree.belowRoot.foldl (sealEntry run) ⟨0, 0, [], []⟩ := by
  unfold walkSealed SealNode.belowRoot validateSealOwner
  cases tree with
  | directory uid children =>
    have hvisits := @visitAll_ok run exact state hexact hbudget.2.1 (SealNode.childEntries [] children) ⟨0, 0, [], []⟩
      hbudget.1.le hbudget.2.2.le
    simp only [zero_add] at hvisits
    simp only [bind_ok, ensure_ok, exists_unit, SealNode.walkChildren_eq, hvisits, SealNode.isDirectory, SealNode.uid,
      beq_iff_eq, Bool.or_true, true_and, and_assoc]
  | _ =>
    simp only [bind_ok, ensure_ok, exists_unit, SealNode.isDirectory, Bool.not_true, Bool.or_self, Bool.false_eq_true,
      and_false, false_and]

/-- **The trees that are accepted**: each entry is the governed source of the manifest, what the inventory has recorded,
a file of the launcher or a directory above these, with its owner and within the budgets, and nothing is missing. -/
theorem sealed_iff {tree : SealNode} :
    validateExecutionSealInventoryWithBudget run tree = .ok () ↔ Sealed run tree := by
  obtain ⟨hgoverned, hlookup⟩ := @exactPaths_ok run.expected
  have hsteps : validateExecutionSealInventoryWithBudget run tree = .ok () ↔
      (0 < run.budget.maximumEntries ∧ 0 < run.budget.maximumFileSize ∧ 0 < run.budget.maximumTreeSize) ∧
        ∃ exact, exactPaths run.expected = .ok exact ∧ ∃ state, walkSealed run exact tree = .ok state ∧
          state.seenExact.length = exact.keys.length ∧ ∀ value ∈ sealedEmptyDirectories, value ∈ state.seenEmpty := by
    simp only [validateExecutionSealInventoryWithBudget, bind_ok, ensure_ok, exists_unit, Bool.and_eq_true,
      decide_eq_true_eq, beq_iff_eq, forM_ok, List.contains_iff_mem, and_assoc]
  -- the sets of seen paths hold what the tree has, and no path twice
  have hcomplete : ∀ {exact : GoMap ExactKind} {state : SealState}, exactPaths run.expected = .ok exact →
      state = tree.belowRoot.foldl (sealEntry run) ⟨0, 0, [], []⟩ →
      ((state.seenExact.length = exact.keys.length ∧ ∀ value ∈ sealedEmptyDirectories, value ∈ state.seenEmpty) ↔
        ∀ path, Expected run path → path ∈ tree.belowRoot.map (·.1)) := by
    rintro exact state hpaths rfl
    have hkeys : ∀ path, path ∈ exact.keys ↔ (kindOf run.expected path).isSome = true := by
      intro path
      rw [← AList.mem_keys, ← AList.lookup_isSome, hlookup exact hpaths]
    set seen := (tree.belowRoot.foldl (sealEntry run) ⟨0, 0, [], []⟩).seenExact with hseen
    have hmem : ∀ path, path ∈ seen ↔ (kindOf run.expected path).isSome = true ∧ path ∈ tree.belowRoot.map (·.1) := by
      intro path
      rw [hseen, mem_seenExact]
      simp
    have hnodup : seen.Nodup := nodup_seenExact List.nodup_nil
    have hsubset : seen ⊆ exact.keys := fun path hpath => (hkeys path).2 ((hmem path).1 hpath).1
    have hlength : seen.length = exact.keys.length ↔ exact.keys ⊆ seen := by
      constructor
      · intro heq
        exact ((List.subperm_of_subset hnodup hsubset).perm_of_length_le heq.ge).symm.subset
      · intro hsup
        exact le_antisymm (List.subperm_of_subset hnodup hsubset).length_le (List.subperm_of_subset exact.keys_nodup hsup).length_le
    rw [hlength]
    simp only [mem_seenEmpty, List.not_mem_nil, false_or]
    constructor
    · rintro ⟨hall, hempty⟩ path hpath
      by_cases hkind : (kindOf run.expected path).isSome = true
      · exact ((hmem path).1 (hall ((hkeys path).2 hkind))).2
      · rw [kindOf_isSome] at hkind
        have : path ∈ sealedEmptyDirectories := by
          rcases hpath with h | h | h | h
          · exact absurd (Or.inl h) hkind
          · exact absurd (Or.inr (Or.inl h)) hkind
          · exact absurd (Or.inr (Or.inr h)) hkind
          · exact h
        exact (hempty path this).2
    · intro hall
      refine ⟨fun path hpath => ?_, fun value hvalue => ⟨hvalue, hall value (Or.inr (Or.inr (Or.inr hvalue)))⟩⟩
      have hkind := (hkeys path).1 hpath
      refine (hmem path).2 ⟨hkind, hall path ?_⟩
      rcases kindOf_isSome.1 hkind with h | h | h
      · exact Or.inl h
      · exact Or.inr (Or.inl h)
      · exact Or.inr (Or.inr (Or.inl h))
  rw [hsteps]
  constructor
  · rintro ⟨hbudget, exact, hpaths, state, hwalk, hseen⟩
    obtain ⟨hroot, hcount, hexactly, hbytes, hstate⟩ := (walkSealed_ok (hlookup exact hpaths) hbudget).1 hwalk
    exact ⟨hbudget, hgoverned.1 ⟨exact, hpaths⟩, hroot, hexactly, (hcomplete hpaths hstate).1 hseen, hcount, hbytes⟩
  · rintro ⟨hbudget, hpaths, hroot, hexactly, hall, hcount, hbytes⟩
    obtain ⟨exact, hexact⟩ := hgoverned.2 hpaths
    exact ⟨hbudget, exact, hexact, _,
      (walkSealed_ok (hlookup exact hexact) hbudget).2 ⟨hroot, hcount, hexactly, hbytes, rfl⟩,
      (hcomplete hexact rfl).2 hall⟩

/-! ## A file that nothing lists -/

/-- The paths that the sources, the inventory and the two signed documents account for. -/
def Listed (run : SealRun) (path : Bytes) : Prop :=
  path ∈ run.expected.sourceFiles ∨ path ∈ run.generated.paths ∨ path = candidatePath ∨ path = sealInventoryPath ∨
    path ∈ sealedEmptyDirectories

/-- A file with a recorded digest. -/
def HasDigest (run : SealRun) (digest : Bytes) : SealNode → Prop
  | .file _ _ content => run.sha256Hex content = digest
  | _ => False

/-- An entry that the sources, the inventory or the two documents account for, or a directory above one. -/
structure Accounted (run : SealRun) (entry : Bytes × SealNode) : Prop where
  owned : entry.2.uid = run.expectedUID
  listed : Listed run entry.1 ∨ entry.2.isDirectory = true ∧ ∃ other, Listed run other ∧ below entry.1 other = true
  source : entry.1 ∈ run.expected.sourceFiles → FitsSource run entry.1 entry.2
  recorded : ∀ wanted ∈ run.generated.entries, wanted.path = entry.1 → FitsEntry run entry.1 wanted entry.2
  candidate : entry.1 = candidatePath → HasDigest run run.generated.candidateSHA256 entry.2
  document : entry.1 = sealInventoryPath → HasDigest run run.generated.documentSHA256 entry.2
  empty : entry.1 ∈ sealedEmptyDirectories → ∃ uid, entry.2 = .directory uid []
  size : entry.2.size ≤ run.budget.maximumFileSize

/-- A tree of accounted entries in which no listed one is missing. -/
structure ExactlyListed (run : SealRun) (tree : SealNode) : Prop where
  root : tree.isDirectory = true ∧ tree.uid = run.expectedUID
  exactly : ∀ entry ∈ tree.belowRoot, Accounted run entry
  complete : ∀ path, Listed run path → path ∈ tree.belowRoot.map (·.1)
  count : (tree.belowRoot.length : ℤ) ≤ run.budget.maximumEntries
  bytes : totalSize tree.belowRoot ≤ run.budget.maximumTreeSize

/-- The digests of the two contents of the sample. -/
def sampleSealDigest (content : Bytes) : Bytes :=
  if content = [] then utf8 "e3b0c44298fc1c149afbf4c8996fb92427ae41e4649b934ca495991b7852b855"
  else utf8 "f22f1e9a2aec9628f3f34ea46c9b32c4c8d1d98604ffe22a7b93ef7e52b53f1e"

/-- Nothing is governed and the inventory is empty. -/
def sampleSealRun : SealRun where
  sha256Hex := sampleSealDigest
  root := [utf8 "qualification"]
  expected := {
    manifest := []
    sourceFiles := []
    generated := {
      entries := []
      documentSHA256 := utf8 "e3b0c44298fc1c149afbf4c8996fb92427ae41e4649b934ca495991b7852b855"
      candidateSHA256 := utf8 "e3b0c44298fc1c149afbf4c8996fb92427ae41e4649b934ca495991b7852b855" } }
  expectedUID := 65532
  budget := { maximumEntries := 300000, maximumFileSize := 2147483648, maximumTreeSize := 8589934592 }

def sampleSealFile (name : String) (content : Bytes) : Bytes × SealNode := (utf8 name, .file 65532 false content)

/-- The files of the launcher, one of them with content that nothing has recorded. -/
def sampleSealTree : SealNode := .directory 65532 [
  sampleSealFile "Pulumi.management.yaml" [],
  (utf8 "artifacts", .directory 65532 [
    sampleSealFile "bootstrap-candidate.json" [],
    sampleSealFile "bootstrap-seal-inventory.json" [],
    sampleSealFile "contract-schema-validation.json" [],
    sampleSealFile "deus-aws-bootstrap" [],
    sampleSealFile "local-gate-evidence.json" [],
    sampleSealFile "management-seed-access-bundle.json" [],
    sampleSealFile "management-seed-access.template.json" [],
    (utf8 "pulumi-plans", .directory 65532 []),
    (utf8 "runtime-output", .directory 65532 []),
    sampleSealFile "secure-saas-infra.spdx.json" [],
    sampleSealFile "security-contract-evidence.json" []]),
  sampleSealFile "onboarding.local.json" (utf8 "reviewed by nobody")]

/-- **A file of the launcher that the inventory leaves out** is sealed with any content. -/
theorem seal_not_listed : ¬ ∀ (run : SealRun) (tree : SealNode),
    validateExecutionSealInventoryWithBudget run tree = .ok () ↔ ExactlyListed run tree := by
  intro h
  have haccepted : (validateExecutionSealInventoryWithBudget sampleSealRun sampleSealTree).isOk = true := by
    decide +kernel
  obtain ⟨⟨⟩, hok⟩ := exists_of_isOk haccepted
  have hfile : sampleSealFile "onboarding.local.json" (utf8 "reviewed by nobody") ∈ sampleSealTree.belowRoot := by
    simp [sampleSealTree, SealNode.belowRoot, SealNode.childEntries, SealNode.entries, SealNode.childPath,
      sampleSealFile]
  rcases (((h sampleSealRun sampleSealTree).1 hok).exactly _ hfile).listed with hlisted | ⟨hdirectory, -⟩
  · revert hlisted
    unfold Listed
    decide
  · exact Bool.false_ne_true hdirectory

end SecureSaas.Bootstrap
