import SecureSaas.Bootstrap.SealInventory

/-!
# Walking a sealed tree (`validateExecutionSealInventoryWithBudget`)

Directories list their children in the order of `os.ReadDir`. A link has the target that it names and the path that
`filepath.EvalSymlinks` finds for it, which depends on the rest of the file system.

* `walkDir_eq`: the walk visits the entries of the tree one after the other.
* `visit`, `walkSealed` and `validateExecutionSealInventoryWithBudget`, as in the source.
-/

namespace SecureSaas.Bootstrap

open Js Go

/-! ## Trees -/

inductive SealNode
  | directory (uid : ℤ) (children : List (Bytes × SealNode))
  | file (uid : ℤ) (executable : Bool) (content : Bytes)
  | link (uid : ℤ) (target : Bytes) (resolved : Option (List Bytes))
  | other (uid : ℤ)

namespace SealNode

def uid : SealNode → ℤ
  | directory uid _ => uid
  | file uid _ _ => uid
  | link uid _ _ => uid
  | other uid => uid

def isDirectory : SealNode → Bool
  | directory _ _ => true
  | _ => false

/-- The bytes that a file adds to those of the tree. -/
def size : SealNode → ℤ
  | file _ _ content => content.length
  | _ => 0

/-- The path of a child. -/
def childPath (parent name : Bytes) : Bytes := if parent = [] then name else parent ++ slash :: name

mutual
/-- `filepath.WalkDir` with a visit that may fail. The path of the root is empty. -/
def walkDir {α : Type} (visit : α → Bytes × SealNode → Except Failure α) (state : α) (path : Bytes) :
    SealNode → Except Failure α
  | directory uid children => do
    let state ← visit state (path, directory uid children)
    walkChildren visit state path children
  | node => visit state (path, node)
def walkChildren {α : Type} (visit : α → Bytes × SealNode → Except Failure α) (state : α) (path : Bytes) :
    List (Bytes × SealNode) → Except Failure α
  | [] => .ok state
  | (name, node) :: rest => do
    let state ← walkDir visit state (childPath path name) node
    walkChildren visit state path rest
end

mutual
/-- A node and all below it, with their paths. -/
def entries (path : Bytes) : SealNode → List (Bytes × SealNode)
  | directory uid children => (path, directory uid children) :: childEntries path children
  | node => [(path, node)]
def childEntries (path : Bytes) : List (Bytes × SealNode) → List (Bytes × SealNode)
  | [] => []
  | (name, node) :: rest => entries (childPath path name) node ++ childEntries path rest
end

/-- The entries of a directory other than itself. -/
def belowRoot : SealNode → List (Bytes × SealNode)
  | directory _ children => childEntries [] children
  | _ => []

/-- All visits of a walk. -/
def visitAll {α : Type} (visit : α → Bytes × SealNode → Except Failure α) : α → List (Bytes × SealNode) →
    Except Failure α
  | state, [] => .ok state
  | state, entry :: rest => do
    let state ← visit state entry
    visitAll visit state rest

theorem visitAll_append {α : Type} {visit : α → Bytes × SealNode → Except Failure α} {l r : List (Bytes × SealNode)} :
    ∀ {state : α}, visitAll visit state (l ++ r) = visitAll visit state l >>= fun state => visitAll visit state r := by
  induction l with
  | nil => exact fun {_} => rfl
  | cons entry rest ih =>
    intro state
    rw [List.cons_append, visitAll, visitAll]
    cases visit state entry with
    | error failure => rfl
    | ok next => exact ih

section
variable {α : Type} (visit : α → Bytes × SealNode → Except Failure α)

theorem visitAll_single (state : α) (entry : Bytes × SealNode) : visitAll visit state [entry] = visit state entry := by
  rw [visitAll]
  cases visit state entry <;> rfl

mutual
/-- **The walk visits the entries of the tree one after the other.** -/
theorem walkDir_eq : ∀ (node : SealNode) (state : α) (path : Bytes),
    walkDir visit state path node = visitAll visit state (entries path node)
  | directory uid children, state, path => by
    rw [walkDir, entries, visitAll]
    cases visit state (path, directory uid children) with
    | error failure => rfl
    | ok next => exact walkChildren_eq children next path
  | file uid executable content, state, path => by rw [walkDir, entries, visitAll_single] <;> simp
  | link uid target resolved, state, path => by rw [walkDir, entries, visitAll_single] <;> simp
  | other uid, state, path => by rw [walkDir, entries, visitAll_single] <;> simp
theorem walkChildren_eq : ∀ (children : List (Bytes × SealNode)) (state : α) (path : Bytes),
    walkChildren visit state path children = visitAll visit state (childEntries path children)
  | [], _, _ => rfl
  | (name, node) :: rest, state, path => by
    rw [walkChildren, childEntries, visitAll_append, walkDir_eq node]
    cases visitAll visit state (entries (childPath path name) node) with
    | error failure => rfl
    | ok next => exact walkChildren_eq rest next path
end

end

end SealNode

/-! ## One visit -/

structure SealInventoryBudget where
  maximumEntries : ℤ
  maximumFileSize : ℤ
  maximumTreeSize : ℤ

/-- What a validation is given beside the tree. The root is given by the components of its absolute path. -/
structure SealRun where
  sha256Hex : Bytes → Bytes
  root : List Bytes
  expected : SealExpectation
  expectedUID : ℤ
  budget : SealInventoryBudget

namespace SealRun

variable (run : SealRun)

def manifest : List ManifestFile := run.expected.manifest

def generated : SealInventory := run.expected.generated

def fullPath (relative : Bytes) : Bytes :=
  run.root.flatMap (fun part => slash :: part) ++ if relative = [] then [] else slash :: relative

end SealRun

/-- `pathWithin(root, value)` on clean absolute paths, which `filepath.Rel` compares component by component. -/
def pathWithin (root value : List Bytes) : Bool := root.isPrefixOf value

def validateSealOwner (run : SealRun) (relative : Bytes) (node : SealNode) (directory : Bool) :
    Except Failure Unit := do
  ensure (node.uid == run.expectedUID)
    { format := "seal path is not owned by the qualification identity: %s", arguments := [run.fullPath relative] }
  ensure (!directory || node.isDirectory)
    { format := "seal path is not a directory: %s", arguments := [run.fullPath relative] }

def isSealAncestor (value : Bytes) (exact : GoMap ExactKind) (empty : List Bytes) : Bool :=
  exact.keys.any (below value) || empty.any (below value)

/-- A link must be listed, stay below the dependencies and name its recorded target. -/
def checkLink (run : SealRun) (relative target : Bytes) (resolved : Option (List Bytes)) : Except Failure Unit := do
  ensure ((generatedEntry run.generated.entries relative).any (fun wanted => wanted.type == utf8 "symlink") &&
      matchingGeneratedRoot relative sealedGeneratedRoots == some nodeModules)
    { format := "seal inventory contains forbidden symlink %s", arguments := [relative] }
  ensure ((generatedEntry run.generated.entries relative).any (fun wanted => target == wanted.target) &&
      resolved.any (pathWithin (run.root ++ [nodeModules])))
    { format := "dependency symlink escapes the sealed dependency root at %s", arguments := [relative] }

/-- A file or directory that the inventory lists. -/
def checkListed (run : SealRun) (relative : Bytes) (wanted : SealInventoryEntry) (node : SealNode) :
    Except Failure Unit :=
  if wanted.type = utf8 "directory" then
    ensure node.isDirectory { format := "generated seal directory changed type at %s", arguments := [relative] }
  else if wanted.type = utf8 "file" then
    match node with
    | .file _ executable content => do
      ensure ((content.length : ℤ) == wanted.size && executable == wanted.executable)
        { format := "generated seal file metadata changed at %s", arguments := [relative] }
      ensure (run.sha256Hex content == wanted.sha256)
        { format := "generated seal file digest changed at %s", arguments := [relative] }
    | _ => .error { format := "generated seal file metadata changed at %s", arguments := [relative] }
  else .error { format := "generated seal entry changed type at %s", arguments := [relative] }

/-- A file that the inventory does not list. -/
def checkExact (run : SealRun) (relative : Bytes) (kind : ExactKind) (node : SealNode) : Except Failure Unit :=
  match node with
  | .file _ executable content =>
    if kind = .source then
      ensure ((manifested run.manifest relative).any fun wanted =>
          run.sha256Hex content == wanted.sha256 && executable == wanted.executable)
        { format := "governed source differs from the installed release manifest at %s", arguments := [relative] }
    else if relative = candidatePath then
      ensure (run.sha256Hex content == run.generated.candidateSHA256)
        { format := "signed bootstrap candidate changed during seal capture" }
    else if relative = sealInventoryPath then
      ensure (run.sha256Hex content == run.generated.documentSHA256)
        { format := "bootstrap seal inventory document changed during capture" }
    else .ok ()
  | _ => .error { format := "exact seal path is not a regular file: %s", arguments := [relative] }

/-- A directory that must be there without children. -/
def checkEmpty (relative : Bytes) (node : SealNode) : Except Failure Unit :=
  match node with
  | .directory _ children =>
    ensure children.isEmpty
      { format := "runtime output path must be empty before sealing: %s", arguments := [relative] }
  | _ => .error { format := "runtime output path is not a directory: %s", arguments := [relative] }

/-- What a walk has seen. The sizes of the files on a disk add up to less than 2^63. -/
structure SealState where
  entries : ℤ
  totalBytes : ℤ
  seenExact : List Bytes
  seenEmpty : List Bytes

/-- The bytes seen after a node. -/
def addBytes (run : SealRun) (state : SealState) (relative : Bytes) : SealNode → Except Failure ℤ
  | .file _ _ content => do
    ensure (decide ((content.length : ℤ) ≤ run.budget.maximumFileSize))
      { format := "seal file %s exceeds the per-file size budget", arguments := [relative] }
    ensure (decide (state.totalBytes + content.length ≤ run.budget.maximumTreeSize))
      { format := "seal inventory exceeds the total byte budget" }
    return state.totalBytes + content.length
  | _ => return state.totalBytes

/-- The exact paths seen after a file or a directory. -/
def seeExact (run : SealRun) (kind : Option ExactKind) (state : SealState) (relative : Bytes) (node : SealNode) :
    Except Failure (List Bytes) :=
  match generatedEntry run.generated.entries relative, kind with
  | some wanted, _ => do
    checkListed run relative wanted node
    return state.seenExact.insert relative
  | none, some kind => do
    checkExact run relative kind node
    return state.seenExact.insert relative
  | none, none => return state.seenExact

/-- The empty directories seen after a node. -/
def seeEmpty (state : SealState) (relative : Bytes) (node : SealNode) : Except Failure (List Bytes) :=
  if relative ∈ sealedEmptyDirectories then do
    checkEmpty relative node
    return state.seenEmpty.insert relative
  else return state.seenEmpty

/-- The visit of an entry other than the root. -/
def visit (run : SealRun) (exact : GoMap ExactKind) (state : SealState) (entry : Bytes × SealNode) :
    Except Failure SealState := do
  let (relative, node) := entry
  let entries := state.entries + 1
  ensure (decide (entries ≤ run.budget.maximumEntries))
    { format := "seal inventory exceeds %d filesystem entries", arguments := [itoa run.budget.maximumEntries] }
  ensure (safeSignerRelativePath relative)
    { format := "seal inventory contains unsafe path %s", arguments := [relative] }
  let kind := exact.lookup relative
  ensure (kind.isSome || (node.isDirectory && isSealAncestor relative exact sealedEmptyDirectories) ||
      decide (relative ∈ sealedEmptyDirectories))
    { format := "seal inventory contains unexpected path %s", arguments := [relative] }
  match node with
  | .link uid target resolved => do
    checkLink run relative target resolved
    validateSealOwner run relative (.link uid target resolved) false
    return { state with entries, seenExact := state.seenExact.insert relative }
  | .other _ =>
    .error { format := "seal inventory contains unsupported filesystem type at %s", arguments := [relative] }
  | node => do
    validateSealOwner run relative node node.isDirectory
    let totalBytes ← addBytes run state relative node
    let seenExact ← seeExact run kind state relative node
    let seenEmpty ← seeEmpty state relative node
    return { entries, totalBytes, seenExact, seenEmpty }

/-- The walk below the root, which must be a directory. -/
def walkSealed (run : SealRun) (exact : GoMap ExactKind) (tree : SealNode) : Except Failure SealState := do
  validateSealOwner run [] tree true
  match tree with
  | .directory _ children =>
    SealNode.walkChildren (visit run exact) { entries := 0, totalBytes := 0, seenExact := [], seenEmpty := [] } []
      children
  | _ => return { entries := 0, totalBytes := 0, seenExact := [], seenEmpty := [] }

def validateExecutionSealInventoryWithBudget (run : SealRun) (tree : SealNode) : Except Failure Unit := do
  ensure (decide (0 < run.budget.maximumEntries) && decide (0 < run.budget.maximumFileSize) &&
      decide (0 < run.budget.maximumTreeSize))
    { format := "seal inventory budget is invalid" }
  let exact ← exactPaths run.expected
  let state ← walkSealed run exact tree
  ensure (state.seenExact.length == exact.keys.length)
    { format := "seal inventory does not contain every exact source and generated file" }
  sealedEmptyDirectories.forM fun value =>
    ensure (state.seenEmpty.contains value)
      { format := "seal inventory lacks required empty output directory %s", arguments := [value] }

end SecureSaas.Bootstrap
