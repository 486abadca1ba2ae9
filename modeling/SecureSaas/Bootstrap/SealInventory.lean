import SecureSaas.Go.Path
import SecureSaas.Js.Parse
import Mathlib.Data.List.AList

/-!
# The inventory of a sealed tree (`seal_inventory_linux.go`)

What the launcher knows of a tree before it seals it: the release manifest, the governed sources and the inventory of
the generated entries.

* `exactPaths_ok`: **the paths at which a tree may have more than directories.**
* `addInventory_ok`: when the entries of an inventory fit to the paths that are already there.
-/

namespace SecureSaas.Bootstrap

open Js Go

/-! ## Paths -/

def sealedGeneratedRoots : List Bytes := [
  utf8 "artifacts/bootstrap-pulumi-home/plugins/resource-aws-v7.27.0",
  utf8 "dist-management-seed",
  utf8 "dist-management-seed-policy",
  utf8 "node_modules"]

def candidatePath : Bytes := utf8 "artifacts/bootstrap-candidate.json"

def sealInventoryPath : Bytes := utf8 "artifacts/bootstrap-seal-inventory.json"

def sealedGeneratedFiles : List Bytes := [
  utf8 "Pulumi.management.yaml",
  utf8 "artifacts/bootstrap-candidate.json",
  utf8 "artifacts/bootstrap-seal-inventory.json",
  utf8 "artifacts/contract-schema-validation.json",
  utf8 "artifacts/deus-aws-bootstrap",
  utf8 "artifacts/local-gate-evidence.json",
  utf8 "artifacts/management-seed-access-bundle.json",
  utf8 "artifacts/management-seed-access.template.json",
  utf8 "artifacts/secure-saas-infra.spdx.json",
  utf8 "artifacts/security-contract-evidence.json",
  utf8 "onboarding.local.json"]

def sealedEmptyDirectories : List Bytes := [utf8 "artifacts/pulumi-plans", utf8 "artifacts/runtime-output"]

def nodeModules : Bytes := utf8 "node_modules"

def safeSignerRelativePath (value : Bytes) : Bool :=
  !value.isEmpty && decide (value.length ≤ 1024) && value.head? != some slash && isLocal value &&
    !value.contains (byte '\\') && clean value == value

/-- `strings.HasPrefix(value, root+"/")`. -/
def below (root value : Bytes) : Bool := (root ++ [slash]).isPrefixOf value

/-- The first root that a path is at or below. -/
def matchingGeneratedRoot (value : Bytes) (roots : List Bytes) : Option Bytes :=
  roots.find? fun root => value == root || below root value

/-! ## What is expected -/

structure ManifestFile where
  path : Bytes
  executable : Bool
  sha256 : Bytes

structure SealInventoryEntry where
  path : Bytes
  type : Bytes
  size : ℤ
  executable : Bool
  sha256 : Bytes
  target : Bytes

/-- The inventory of the generated entries, with the digests of its document and of the candidate. -/
structure SealInventory where
  entries : List SealInventoryEntry
  documentSHA256 : Bytes
  candidateSHA256 : Bytes

/-- The manifest, the governed sources and the inventory. -/
structure SealExpectation where
  manifest : List ManifestFile
  sourceFiles : List Bytes
  generated : SealInventory

inductive ExactKind
  | source
  | generated
  | inventory
deriving DecidableEq

/-- `map[string]T`. -/
abbrev GoMap (α : Type) := AList fun _ : Bytes => α

/-- The last file of a manifest with a path. -/
def manifested (manifest : List ManifestFile) (path : Bytes) : Option ManifestFile :=
  manifest.reverse.find? fun file => file.path = path

/-- The last entry of an inventory with a path. -/
def generatedEntry (entries : List SealInventoryEntry) (path : Bytes) : Option SealInventoryEntry :=
  entries.reverse.find? fun entry => entry.path = path

def addSources (manifest : List ManifestFile) : GoMap ExactKind → List Bytes → Except Failure (GoMap ExactKind)
  | exact, [] => .ok exact
  | exact, value :: rest => do
    ensure (manifested manifest value).isSome
      { format := "governed source %s is absent from the installed release manifest", arguments := [value] }
    addSources manifest (exact.insert value .source) rest

def addGenerated : GoMap ExactKind → List Bytes → Except Failure (GoMap ExactKind)
  | exact, [] => .ok exact
  | exact, value :: rest => do
    ensure (exact.lookup value).isNone { format := "duplicate exact seal path %s", arguments := [value] }
    addGenerated (exact.insert value .generated) rest

def addInventory : GoMap ExactKind → List SealInventoryEntry → Except Failure (GoMap ExactKind)
  | exact, [] => .ok exact
  | exact, entry :: rest =>
    match exact.lookup entry.path with
    | some kind => do
      ensure (kind == .generated)
        { format := "generated seal entry overlaps governed source at %s", arguments := [entry.path] }
      addInventory exact rest
    | none => addInventory (exact.insert entry.path .inventory) rest

/-- The paths of files, links and listed directories. -/
def exactPaths (expected : SealExpectation) : Except Failure (GoMap ExactKind) := do
  let exact ← addSources expected.manifest ∅ expected.sourceFiles
  let exact ← addGenerated exact sealedGeneratedFiles
  addInventory exact expected.generated.entries

/-! ## The paths -/

variable {exact final : GoMap ExactKind} {path : Bytes} {expected : SealExpectation}

theorem addSources_ok {manifest : List ManifestFile} {values : List Bytes} :
    ∀ {exact : GoMap ExactKind}, addSources manifest exact values = .ok final ↔
      (∀ value ∈ values, (manifested manifest value).isSome = true) ∧
        final = values.foldl (fun exact value => exact.insert value .source) exact := by
  induction values with
  | nil =>
    intro exact
    exact ⟨fun h => ⟨fun _ hmem => absurd hmem List.not_mem_nil, (Except.ok.inj h).symm⟩,
      fun h => congrArg Except.ok h.2.symm⟩
  | cons value rest ih =>
    intro exact
    simp only [addSources, bind_ok, ensure_ok, exists_unit, ih, List.forall_mem_cons, List.foldl_cons, and_assoc]

/-- What is found after values of one kind were added. -/
theorem lookup_foldl_insert {kind : ExactKind} {values : List Bytes} : ∀ {exact : GoMap ExactKind},
    (values.foldl (fun exact value => exact.insert value kind) exact).lookup path =
      if path ∈ values then some kind else exact.lookup path := by
  induction values with
  | nil => simp
  | cons value rest ih =>
    intro exact
    rw [List.foldl_cons, ih]
    by_cases hrest : path ∈ rest
    · rw [if_pos hrest, if_pos (List.mem_cons_of_mem value hrest)]
    · rw [if_neg hrest]
      by_cases heq : path = value
      · rw [heq, AList.lookup_insert, if_pos List.mem_cons_self]
      · rw [AList.lookup_insert_ne heq, if_neg (by simp [heq, hrest])]

theorem addGenerated_ok {values : List Bytes} (hnodup : values.Nodup) : ∀ {exact : GoMap ExactKind},
    addGenerated exact values = .ok final ↔ (∀ value ∈ values, exact.lookup value = none) ∧
      final = values.foldl (fun exact value => exact.insert value .generated) exact := by
  induction values with
  | nil =>
    intro exact
    exact ⟨fun h => ⟨fun _ hmem => absurd hmem List.not_mem_nil, (Except.ok.inj h).symm⟩,
      fun h => congrArg Except.ok h.2.symm⟩
  | cons value rest ih =>
    intro exact
    obtain ⟨hnew, hrest⟩ := List.nodup_cons.1 hnodup
    simp only [addGenerated, bind_ok, ensure_ok, exists_unit, ih hrest, List.forall_mem_cons, List.foldl_cons,
      Option.isNone_iff_eq_none, and_assoc]
    -- the values differ, so that adding one of them does not hide another
    refine and_congr_right fun _ => and_congr_left fun _ => forall₂_congr fun other hother => ?_
    rw [AList.lookup_insert_ne (by rintro rfl; exact hnew hother)]

/-- The paths that are new to the map. -/
def newPaths (exact : GoMap ExactKind) (entries : List SealInventoryEntry) : List Bytes :=
  (entries.map (·.path)).filter fun path => (exact.lookup path).isNone

/-- **The entries of an inventory** are added, if none is at the path of a source and the new ones are different. -/
theorem addInventory_ok (entries : List SealInventoryEntry) : ∀ exact : GoMap ExactKind,
    ((∃ final, addInventory exact entries = .ok final) ↔
      (∀ entry ∈ entries, exact.lookup entry.path = none ∨ exact.lookup entry.path = some .generated) ∧
        (newPaths exact entries).Nodup) ∧
    ∀ final, addInventory exact entries = .ok final → ∀ path,
      final.lookup path = (exact.lookup path).or (if path ∈ entries.map (·.path) then some .inventory else none) := by
  induction entries with
  | nil =>
    intro exact
    refine ⟨iff_of_true ⟨exact, rfl⟩ ⟨fun _ hmem => absurd hmem List.not_mem_nil, List.nodup_nil⟩, fun final h path => ?_⟩
    obtain rfl := Except.ok.inj h
    simp
  | cons entry rest ih =>
    intro exact
    cases hfound : exact.lookup entry.path with
    | some kind =>
      obtain ⟨hiff, hlookup⟩ := ih exact
      have hnew : newPaths exact (entry :: rest) = newPaths exact rest := by
        simp [newPaths, hfound]
      simp only [addInventory, hfound, bind_ok, ensure_ok, exists_unit, beq_iff_eq, List.forall_mem_cons, hnew,
        reduceCtorEq, false_or, Option.some.injEq, and_assoc]
      refine ⟨⟨?_, ?_⟩, fun final h path => ?_⟩
      · rintro ⟨final, hkind, h⟩
        exact ⟨hkind, hiff.1 ⟨final, h⟩⟩
      · rintro ⟨hkind, hrest⟩
        obtain ⟨final, h⟩ := hiff.2 hrest
        exact ⟨final, hkind, h⟩
      · rw [hlookup final h.2 path]
        by_cases heq : path = entry.path
        · rw [heq, hfound, Option.some_or, Option.some_or]
        · simp [heq]
    | none =>
      obtain ⟨hiff, hlookup⟩ := ih (exact.insert entry.path .inventory)
      have hnew : newPaths exact (entry :: rest) = entry.path :: newPaths exact rest := by
        simp [newPaths, hfound]
      -- what the inserted path changes for the others
      have hinsert : ∀ path, (exact.insert entry.path .inventory).lookup path =
          if path = entry.path then some .inventory else exact.lookup path := by
        intro path
        by_cases heq : path = entry.path
        · rw [heq, AList.lookup_insert, if_pos rfl]
        · rw [AList.lookup_insert_ne heq, if_neg heq]
      have hrestNew : newPaths (exact.insert entry.path .inventory) rest =
          (newPaths exact rest).filter (· ≠ entry.path) := by
        rw [newPaths, newPaths, List.filter_filter]
        refine List.filter_congr fun path _ => ?_
        rw [hinsert]
        by_cases heq : path = entry.path <;> simp [heq]
      have hmember : (∃ other ∈ rest, other.path = entry.path) ↔ entry.path ∈ newPaths exact rest := by
        simp [newPaths, hfound]
      simp only [addInventory, hfound]
      refine ⟨?_, fun final h path => ?_⟩
      · rw [hiff, hrestNew, hnew, List.nodup_cons, ← hmember, List.forall_mem_cons]
        constructor
        · rintro ⟨hothers, hnodup⟩
          have hne : ∀ other ∈ rest, other.path ≠ entry.path := by
            intro other hother heq
            have := hothers other hother
            rw [hinsert, if_pos heq] at this
            simp at this
          refine ⟨⟨Or.inl hfound, fun other hother => ?_⟩, ?_, ?_⟩
          · have := hothers other hother
            rwa [hinsert, if_neg (hne other hother)] at this
          · rintro ⟨other, hother, heq⟩
            exact hne other hother heq
          · rwa [List.filter_eq_self.2] at hnodup
            intro path hpath
            obtain ⟨other, hother, rfl⟩ := List.mem_map.1 (List.mem_of_mem_filter hpath)
            exact decide_eq_true (hne other hother)
        · rintro ⟨⟨-, hothers⟩, hne, hnodup⟩
          refine ⟨fun other hother => ?_, hnodup.filter _⟩
          rw [hinsert, if_neg fun heq => hne ⟨other, hother, heq⟩]
          exact hothers other hother
      · rw [hlookup final h path, hinsert]
        by_cases heq : path = entry.path
        · rw [heq, if_pos rfl, hfound, Option.some_or, Option.none_or, if_pos (by simp)]
        · simp [heq]

/-! ## All of them -/

def SealInventory.paths (inventory : SealInventory) : List Bytes := inventory.entries.map (·.path)

/-- The governed sources are in the manifest and no generated paths; no entry of the inventory is there twice. -/
structure Governed (expected : SealExpectation) : Prop where
  manifested : ∀ value ∈ expected.sourceFiles, (manifested expected.manifest value).isSome = true
  notGenerated : ∀ value ∈ expected.sourceFiles, value ∉ sealedGeneratedFiles
  notListed : ∀ value ∈ expected.sourceFiles, value ∉ expected.generated.paths
  once : (expected.generated.paths.filter (· ∉ sealedGeneratedFiles)).Nodup

def kindOf (expected : SealExpectation) (path : Bytes) : Option ExactKind :=
  if path ∈ expected.sourceFiles then some .source
  else if path ∈ sealedGeneratedFiles then some .generated
  else if path ∈ expected.generated.paths then some .inventory
  else none

/-- **The paths at which a tree may have more than directories.** -/
theorem exactPaths_ok : ((∃ final, exactPaths expected = .ok final) ↔ Governed expected) ∧
    ∀ final, exactPaths expected = .ok final → ∀ path, final.lookup path = kindOf expected path := by
  have hgenerated : sealedGeneratedFiles.Nodup := by decide
  set sources := expected.sourceFiles.foldl (fun exact value => exact.insert value ExactKind.source)
    (∅ : GoMap ExactKind) with hsources
  set files := sealedGeneratedFiles.foldl (fun exact value => exact.insert value ExactKind.generated) sources
    with hfiles
  have hlookup : ∀ path, sources.lookup path = if path ∈ expected.sourceFiles then some .source else none := by
    intro path
    rw [hsources, lookup_foldl_insert, AList.lookup_empty]
  have hlookup' : ∀ path, files.lookup path =
      if path ∈ sealedGeneratedFiles then some .generated else sources.lookup path := by
    intro path
    rw [hfiles, lookup_foldl_insert]
  obtain ⟨hiff, hfinal⟩ := addInventory_ok expected.generated.entries files
  have hsteps : ∀ final, exactPaths expected = .ok final ↔
      (∀ value ∈ expected.sourceFiles, (manifested expected.manifest value).isSome = true) ∧
        (∀ value ∈ sealedGeneratedFiles, sources.lookup value = none) ∧
          addInventory files expected.generated.entries = .ok final := by
    intro final
    simp only [exactPaths, bind_ok, addSources_ok, addGenerated_ok hgenerated]
    constructor
    · rintro ⟨_, ⟨hmanifested, rfl⟩, _, ⟨hfree, rfl⟩, h⟩
      exact ⟨hmanifested, hfree, h⟩
    · rintro ⟨hmanifested, hfree, h⟩
      exact ⟨_, ⟨hmanifested, rfl⟩, _, ⟨hfree, rfl⟩, h⟩
  have hdisjoint : (∀ value ∈ sealedGeneratedFiles, sources.lookup value = none) ↔
      ∀ value ∈ expected.sourceFiles, value ∉ sealedGeneratedFiles := by
    simp only [hlookup, ite_eq_right_iff, reduceCtorEq, imp_false]
    exact ⟨fun h value hs hg => h value hg hs, fun h value hg hs => h value hs hg⟩
  constructor
  · constructor
    · rintro ⟨final, h⟩
      obtain ⟨hmanifested, hfree, h⟩ := (hsteps final).1 h
      obtain ⟨hkinds, hnodup⟩ := hiff.1 ⟨final, h⟩
      have hnotGenerated := hdisjoint.1 hfree
      have hnotListed : ∀ value ∈ expected.sourceFiles, value ∉ expected.generated.paths := by
        intro value hvalue hlisted
        obtain ⟨entry, hentry, rfl⟩ := List.mem_map.1 hlisted
        have hkind := hkinds entry hentry
        rw [hlookup', if_neg (hnotGenerated _ hvalue), hlookup, if_pos hvalue] at hkind
        simp at hkind
      refine ⟨hmanifested, hnotGenerated, hnotListed, ?_⟩
      rw [newPaths] at hnodup
      rwa [List.filter_congr] at hnodup
      intro path hpath
      have hother : path ∉ expected.sourceFiles := fun hsource => hnotListed path hsource hpath
      rw [hlookup', hlookup, if_neg hother]
      by_cases hfile : path ∈ sealedGeneratedFiles <;> simp [hfile]
    · rintro ⟨hmanifested, hnotGenerated, hnotListed, honce⟩
      have hother : ∀ path ∈ expected.generated.paths, path ∉ expected.sourceFiles :=
        fun path hpath hsource => hnotListed path hsource hpath
      have hkinds : ∀ entry ∈ expected.generated.entries,
          files.lookup entry.path = none ∨ files.lookup entry.path = some .generated := by
        intro entry hentry
        rw [hlookup', hlookup, if_neg (hother _ (List.mem_map_of_mem hentry))]
        by_cases hfile : entry.path ∈ sealedGeneratedFiles <;> simp [hfile]
      have hnodup : (newPaths files expected.generated.entries).Nodup := by
        rw [newPaths, List.filter_congr]
        · exact honce
        · intro path hpath
          rw [hlookup', hlookup, if_neg (hother path hpath)]
          by_cases hfile : path ∈ sealedGeneratedFiles <;> simp [hfile]
      obtain ⟨final, h⟩ := hiff.2 ⟨hkinds, hnodup⟩
      exact ⟨final, (hsteps final).2 ⟨hmanifested, hdisjoint.2 hnotGenerated, h⟩⟩
  · intro final h path
    obtain ⟨-, hfree, h⟩ := (hsteps final).1 h
    have hnotGenerated := hdisjoint.1 hfree
    rw [hfinal final h path, hlookup', hlookup, kindOf]
    by_cases hsource : path ∈ expected.sourceFiles
    · simp [hsource, hnotGenerated path hsource]
    · by_cases hfile : path ∈ sealedGeneratedFiles
      · simp [hsource, hfile]
      · simp [hsource, hfile, SealInventory.paths]

end SecureSaas.Bootstrap
