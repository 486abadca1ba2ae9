import SecureSaas.Go.Loop
import SecureSaas.Go.Strings
import SecureSaas.Js.Parse

/-!
# The shared objects of the runtime (`cmd/deus-aws-bootstrap/elf_closure_linux.go`)

The launcher follows the interpreters and the libraries of the programs of a runtime, adds the optimized variants of
what it found outside the runtime, and binds the digest of each file.

* `search`: the loop over the queue.
* `bindClosure`: the bindings of what the search has found.
* `AnalyzesELFClosure`: the runs that return an analysis, for every order of the loop over a map.
-/

namespace SecureSaas.Bootstrap

open Js Go

/-! ## Files -/

inductive FileType where
  | regular
  | directory
  | symlink
  | other
deriving DecidableEq

/-- What `os.Lstat` tells of a path. `privileged` are the set-user, set-group and sticky bits. -/
structure FileInfo where
  type : FileType
  permissions : ℕ
  privileged : Bool
  uid : ℕ

/-- An entry of `os.ReadDir`. -/
structure DirectoryEntry where
  name : Bytes
  type : FileType

/-- What `debug/elf` reads of a file. `interp` is the section `.interp`, where there is one. -/
structure ElfBinary where
  interp : Option (Except Failure Bytes)
  runpath : Except Failure (List Bytes)
  rpath : Except Failure (List Bytes)
  importedLibraries : Except Failure (List Bytes)

inductive Architecture where
  | amd64
  | arm64
deriving DecidableEq

def elfMagic : Bytes := [0x7f, 0x45, 0x4c, 0x46]

/-- The files of a host while they do not change, as the operating system and `debug/elf` show them.

* `paths`: the files that a path can resolve to.
* `openHeader`: opening a file and reading its first four bytes; nothing when the reading fails.
* `walkDir`: what `filepath.WalkDir` passes to its function, one call after the other.
* `digestFile`: the hexadecimal SHA-256 digest of the contents. -/
structure RuntimeFiles where
  architecture : Architecture
  paths : List Bytes
  lstat : Bytes → Except Failure FileInfo
  stat : Bytes → Except Failure FileType
  evalSymlinks : Bytes → Except Failure Bytes
  openHeader : Bytes → Except Failure (Option Bytes)
  digestFile : Bytes → Except Failure Bytes
  readDir : Bytes → Except Failure (List DirectoryEntry)
  walkDir : Bytes → List (Except Failure (Bytes × FileType))
  elfOpen : Bytes → Except Failure ElfBinary
  evalSymlinks_mem : ∀ {path real}, evalSymlinks path = .ok real → real ∈ paths
  evalSymlinks_clean : ∀ {path real}, evalSymlinks path = .ok real → clean real = real
  evalSymlinks_idem : ∀ {path real}, evalSymlinks path = .ok real → evalSymlinks real = .ok real
  evalSymlinks_type : ∀ {path real info}, evalSymlinks path = .ok real → lstat real = .ok info → info.type ≠ .symlink
  elfOpen_magic : ∀ {path binary}, elfOpen path = .ok binary → openHeader path = .ok (some elfMagic)

variable (files : RuntimeFiles)

/-- `fmt.Errorf(format, arguments, err)` where a call returns an error. -/
def orFail {α : Type} (result : Except Failure α) (format : String) (arguments : List Bytes) : Except Failure α :=
  result.mapError fun _ => { format := format, arguments := arguments }

theorem orFail_ok {α : Type} {result : Except Failure α} {format : String} {arguments : List Bytes} {a : α} :
    orFail result format arguments = .ok a ↔ result = .ok a := by
  cases result with
  | error failure => exact ⟨fun h => (nomatch h), fun h => (nomatch h)⟩
  | ok b => exact Iff.rfl

/-! ## The queue -/

/-- `queue` and `queued`. The paths of a map are a list; their order is never looked at. -/
structure ElfQueue where
  queue : List Bytes
  queued : List Bytes

def enqueueELF (value : Bytes) (pending : ElfQueue) : Except Failure ElfQueue := do
  let real ← orFail (files.evalSymlinks value) "resolve runtime file %s: %w" [value]
  if real ∈ pending.queued then return pending
  let header ← orFail (files.openHeader real) "open runtime file %s: %w" [real]
  if header != some elfMagic then return pending
  return { queue := pending.queue ++ [real], queued := pending.queued ++ [real] }

/-- The function that `addELFInputs` passes to `filepath.WalkDir`. -/
def addELFDirectory : List (Except Failure (Bytes × FileType)) → ElfQueue → Except Failure ElfQueue
  | [], pending => .ok pending
  | .error failure :: _, _ => .error failure
  | .ok (candidate, type) :: rest, pending =>
    if type = .symlink ∨ type = .directory then addELFDirectory rest pending
    else if type = .regular then do
      let pending ← enqueueELF files candidate pending
      addELFDirectory rest pending
    else .error { format := "runtime closure contains unsupported file %s", arguments := [candidate] }

/-- What is read of an input that is no link. -/
def addRealELFInput (value : Bytes) (type : FileType) (pending : ElfQueue) : Except Failure ElfQueue :=
  match type with
  | .regular => enqueueELF files value pending
  | .directory => addELFDirectory files (files.walkDir value) pending
  | _ => .error { format := "ELF input %s is not a file or directory", arguments := [value] }

/-- How often a path is resolved until it is no link. -/
def linkDepth (value : Bytes) : ℕ :=
  match files.lstat value with
  | .ok info => if info.type = FileType.symlink then 1 else 0
  | .error _ => 0

theorem linkDepth_resolved {value resolved : Bytes} (h : files.evalSymlinks value = .ok resolved) :
    linkDepth files resolved = 0 := by
  unfold linkDepth
  split
  · rename_i info hinfo
    exact if_neg (files.evalSymlinks_type h hinfo)
  · rfl

/-- `addELFInputs(value, queue, queued)`. -/
def addELFInputs (value : Bytes) (pending : ElfQueue) : Except Failure ElfQueue :=
  match hinfo : files.lstat value with
  | .error _ => .error { format := "inspect ELF input %s: %w", arguments := [value] }
  | .ok info =>
    if hlink : info.type = .symlink then
      match hreal : files.evalSymlinks value with
      | .error _ => .error { format := "resolve ELF input %s: %w", arguments := [value] }
      | .ok resolved => addELFInputs resolved pending
    else addRealELFInput files value info.type pending
termination_by linkDepth files value
decreasing_by
  have hdepth : linkDepth files value = 1 := by rw [linkDepth, hinfo]; exact if_pos hlink
  rw [hdepth, linkDepth_resolved files hreal]
  exact Nat.zero_lt_one

/-! ## Resolution -/

/-- `defaultELFLibraryPaths()`. -/
def defaultELFLibraryPaths : List Bytes :=
  match files.architecture with
  | .amd64 => [utf8 "/lib/x86_64-linux-gnu", utf8 "/usr/lib/x86_64-linux-gnu", utf8 "/lib64", utf8 "/usr/lib64",
      utf8 "/lib", utf8 "/usr/lib"]
  | .arm64 => [utf8 "/lib/aarch64-linux-gnu", utf8 "/usr/lib/aarch64-linux-gnu", utf8 "/lib64", utf8 "/usr/lib64",
      utf8 "/lib", utf8 "/usr/lib"]

def uniqueStrings (values : List Bytes) : List Bytes := values.eraseDups

/-- One entry of a search path of a file. -/
def searchEntry (origin entry : Bytes) : Except Failure Bytes := do
  ensure (!entry.isEmpty) { format := "empty ELF runtime search path is forbidden" }
  let entry := replaceAll (replaceAll entry (utf8 "$\x7bORIGIN\x7d") origin) (utf8 "$ORIGIN") origin
  ensure (isAbs entry) { format := "relative ELF runtime search path %s is forbidden", arguments := [entry] }
  return clean entry

/-- The entries under one tag of the dynamic section. -/
def searchEntries (origin : Bytes) (values : Except Failure (List Bytes)) : Except Failure (List Bytes) := do
  let values ← values
  (values.flatMap (split (byte ':'))).mapM (searchEntry origin)

def elfSearchPaths (binary : ElfBinary) (origin : Bytes) : Except Failure (List Bytes) := do
  let runpath ← searchEntries origin binary.runpath
  let rpath ← searchEntries origin binary.rpath
  return uniqueStrings ([origin, join [origin, utf8 "lib"]] ++ runpath ++ rpath ++ defaultELFLibraryPaths files)

/-- The file at a candidate, if a regular one is there. -/
def runtimeCandidate (candidate : Bytes) : Option Bytes :=
  match files.stat candidate, files.evalSymlinks candidate with
  | .ok .regular, .ok resolved => some (clean resolved)
  | _, _ => none

def resolveRuntimeFile (name origin : Bytes) (search : List Bytes) : Except Failure Bytes :=
  let candidates :=
    if isAbs name then [name]
    else if name.contains slash then [join [origin, name]]
    else search.map fun directory => join [directory, name]
  match candidates.findSome? (runtimeCandidate files) with
  | some resolved => .ok resolved
  | none => .error { format := "no exact runtime file resolves %s", arguments := [name] }

/-- The text of the section `.interp`, or the empty one. -/
def interpreterText (binary : ElfBinary) : Except Failure Bytes :=
  match binary.interp with
  | none => .ok []
  | some contents => contents.map (trimRight 0)

/-! ## The search -/

/-- The variables of the search. -/
structure ElfSearch extends ElfQueue where
  loaders : List Bytes
  external : List Bytes
  dynamicExecutables : List Bytes

def optionalLibraries : List Bytes := [
  utf8 "libgcc_s.so.1",
  utf8 "libnss_dns.so.2",
  utf8 "libnss_files.so.2",
  utf8 "libnss_systemd.so.2",
  utf8 "libresolv.so.2"]

def addOptional : List Bytes → ElfSearch → Except Failure ElfSearch
  | [], s => .ok s
  | optional :: rest, s =>
    match resolveRuntimeFile files optional (utf8 "/") (defaultELFLibraryPaths files) with
    | .error _ => addOptional rest s
    | .ok resolved => do
      let pending ← enqueueELF files resolved s.toElfQueue
      addOptional rest { s with toElfQueue := pending, external := s.external.insert resolved }

/-- The inputs and the optional libraries. -/
def startSearch (inputs : List Bytes) : Except Failure ElfSearch := do
  let pending ← inputs.foldlM (fun pending input => addELFInputs files input pending) { queue := [], queued := [] }
  addOptional files optionalLibraries { pending with loaders := [], external := [], dynamicExecutables := [] }

def addInterpreter (current interpreter : Bytes) (runpaths : List Bytes) (s : ElfSearch) : Except Failure ElfSearch :=
  if interpreter.isEmpty then .ok s
  else do
    let resolved ← orFail (resolveRuntimeFile files interpreter (dir current) runpaths)
      "resolve ELF interpreter for %s: %w" [current]
    let pending ← enqueueELF files resolved s.toElfQueue
    return { s with
      toElfQueue := pending
      loaders := s.loaders.insert resolved
      dynamicExecutables := s.dynamicExecutables.insert current }

def addLibraries (ownedRoot current : Bytes) (runpaths : List Bytes) : List Bytes → ElfSearch → Except Failure ElfSearch
  | [], s => .ok s
  | library :: rest, s => do
    let resolved ← orFail (resolveRuntimeFile files library (dir current) runpaths)
      "resolve %s required by %s: %w" [library, current]
    let pending ← enqueueELF files resolved s.toElfQueue
    addLibraries ownedRoot current runpaths rest { s with
      toElfQueue := pending
      external := if withinPath ownedRoot resolved then s.external else s.external.insert resolved }

/-- One round for the file at the head of the queue. -/
def expand (ownedRoot current : Bytes) (s : ElfSearch) : Except Failure ElfSearch := do
  let binary ← orFail (files.elfOpen current) "parse ELF runtime file %s: %w" [current]
  let interpreter ← orFail (interpreterText binary) "read ELF interpreter for %s: %w" [current]
  let runpaths ← orFail (elfSearchPaths files binary (dir current)) "read ELF search path for %s: %w" [current]
  let libraries ← orFail binary.importedLibraries "read ELF dependencies for %s: %w" [current]
  let s ← addInterpreter files current interpreter runpaths s
  let s ← addLibraries files ownedRoot current runpaths libraries s
  ensure (decide (s.queued.length ≤ 10000 ∧ s.external.length ≤ 512))
    { format := "runtime ELF closure is excessive" }
  return s

def searchRound (ownedRoot : Bytes) (s : ElfSearch) : Option (Except Failure ElfSearch) :=
  match s.queue with
  | [] => none
  | current :: rest => some (expand files ownedRoot current { s with queue := rest })

/-- `for len(queue) > 0 { … }`. -/
def search (ownedRoot : Bytes) (rounds : ℕ) (s : ElfSearch) : Option (Except Failure ElfSearch) :=
  loop (searchRound files ownedRoot) rounds s

/-! ## The closure -/

/-- The file of a variant directory that has the name of a library. -/
def hwcapsVariant (root value : Bytes) (entry : DirectoryEntry) : Option Bytes :=
  if entry.type = .directory then
    let candidate := join [root, entry.name, base value]
    match files.stat candidate, files.evalSymlinks candidate with
    | .ok .regular, .ok resolved => some resolved
    | _, _ => none
  else none

def glibcHWCapsVariants (value : Bytes) : List Bytes :=
  let root := join [dir value, utf8 "glibc-hwcaps"]
  match files.readDir root with
  | .error _ => []
  | .ok entries => entries.filterMap (hwcapsVariant files root value)

/-- The entries that a loop over a map has produced so far, when the map grows by the entries that belong to each. An
entry that is added to the map during the loop may be produced or skipped. -/
structure Iterated (added : Bytes → List Bytes) (entries produced : List Bytes) : Prop where
  nodup : produced.Nodup
  present : ∀ before value after, produced = before ++ value :: after →
    value ∈ entries ∨ ∃ earlier ∈ before, value ∈ added earlier

structure SystemFileBinding where
  path : Bytes
  sha256 : Bytes
deriving DecidableEq

structure SystemRuntimeClosure where
  apiVersion : Bytes
  architecture : Bytes
  loaders : List SystemFileBinding
  libraries : List SystemFileBinding

structure ElfAnalysis where
  closure : SystemRuntimeClosure
  dynamicExecutables : List Bytes

/-- The paths that `requireRootOwnedPath` looks at, one for each part of the path. -/
def pathChain : Bytes → List Bytes → List Bytes
  | _, [] => []
  | current, part :: rest =>
    let current := current ++ slash :: part
    current :: pathChain current rest

/-- The parts of a path. -/
def pathParts (path : Bytes) : List Bytes := (split slash path).filter fun part => !part.isEmpty

/-- One round of `requireRootOwnedPath`. -/
def requireRootOwnedStep (current : Bytes) : Except Failure Unit := do
  let info ← orFail (files.lstat current) "trusted path %s is unavailable: %w" [current]
  ensure (info.type != .symlink) { format := "trusted path %s contains a symlink", arguments := [current] }
  ensure (info.permissions &&& 0o022 == 0)
    { format := "trusted path %s is group/other writable", arguments := [current] }
  ensure (info.uid == 0) { format := "trusted path %s is not root-owned", arguments := [current] }

def requireRootOwnedPath (value : Bytes) : Except Failure Unit := do
  ensure (isAbs (clean value)) { format := "trusted path is not absolute: %s", arguments := [value] }
  (pathChain [] (pathParts (clean value))).forM (requireRootOwnedStep files)

def requireRootOwnedDirectory (value : Bytes) : Except Failure Unit := do
  requireRootOwnedPath files value
  match files.lstat value with
  | .ok { type := .directory, .. } => return ()
  | _ => .error { format := "trusted directory %s is not a direct directory", arguments := [value] }

def requireRootOwnedRegularFile (value : Bytes) (executable : Bool) : Except Failure Unit := do
  requireRootOwnedPath files value
  let info ← orFail (files.lstat value) "trusted file %s is not a direct regular file" [value]
  ensure (info.type == .regular) { format := "trusted file %s is not a direct regular file", arguments := [value] }
  ensure (!info.privileged) { format := "trusted file %s has privileged mode bits", arguments := [value] }
  ensure (!(executable && info.permissions &&& 0o111 == 0))
    { format := "trusted executable %s is not executable", arguments := [value] }

/-- `strings.HasPrefix(clean, "/lib/") || strings.HasPrefix(clean, "/usr/lib/")`. -/
def inSystemLibraries (path : Bytes) : Bool :=
  (utf8 "/lib/").isPrefixOf path || (utf8 "/usr/lib/").isPrefixOf path

def bindSystemFile (value : Bytes) (executable : Bool) : Except Failure SystemFileBinding := do
  ensure (isAbs (clean value) && inSystemLibraries (clean value))
    { format := "external runtime file is outside system libraries: %s", arguments := [value] }
  requireRootOwnedRegularFile files (clean value) executable
  let digest ← orFail (files.digestFile (clean value)) "read trusted runtime file %s: %w" [clean value]
  return { path := clean value, sha256 := digest }

/-- The loaders outside of the owned root. -/
def externalLoaders (ownedRoot : Bytes) (s : ElfSearch) : List Bytes :=
  s.loaders.filter fun loader => !withinPath ownedRoot loader

def insertAll (set values : List Bytes) : List Bytes := values.foldl (fun set value => set.insert value) set

/-- `external` when the loop over it begins. -/
def externalFiles (ownedRoot : Bytes) (s : ElfSearch) : List Bytes := insertAll s.external (externalLoaders ownedRoot s)

/-- `external` when the loop has produced its entries. -/
def extended (external produced : List Bytes) : List Bytes :=
  insertAll external (produced.flatMap (glibcHWCapsVariants files))

def goarch : Bytes :=
  match files.architecture with
  | .amd64 => utf8 "amd64"
  | .arm64 => utf8 "arm64"

def systemRuntimeClosureAPIVersion : Bytes := utf8 "security.deus.dev/system-runtime-closure/v1"

/-- The bindings of what the search found. The error is that of some file that cannot be bound, since a map has no
order; without an error the order does not matter. -/
def bindClosure (ownedRoot : Bytes) (produced : List Bytes) (s : ElfSearch) : Except Failure ElfAnalysis := do
  let loaders ← (externalLoaders ownedRoot s).mapM (bindSystemFile files · true)
  let external := (extended files (externalFiles ownedRoot s) produced).filter fun value =>
    value ∉ externalLoaders ownedRoot s
  let libraries ← external.mapM (bindSystemFile files · false)
  return {
    closure := {
      apiVersion := systemRuntimeClosureAPIVersion
      architecture := goarch files
      loaders := sortBy SystemFileBinding.path loaders
      libraries := sortBy SystemFileBinding.path libraries }
    dynamicExecutables := sortBy id s.dynamicExecutables }

/-- `analyzeELFClosure(inputs, ownedRoot)` returns an analysis; `produced` is what the loop over `external` produces. -/
structure AnalyzesELFClosure (inputs : List Bytes) (ownedRoot : Bytes) (produced : List Bytes)
    (analysis : ElfAnalysis) : Prop where
  run : ∃ start rounds final, startSearch files inputs = .ok start ∧
    search files ownedRoot rounds start = some (.ok final) ∧
    Iterated (glibcHWCapsVariants files) (externalFiles ownedRoot final) produced ∧
    externalFiles ownedRoot final ⊆ produced ∧
    bindClosure files ownedRoot produced final = .ok analysis

end SecureSaas.Bootstrap
