import SecureSaas.Js.Collect
import SecureSaas.Js.PosixPath
import SecureSaas.Js.Search
import SecureSaas.Js.TextOrder
import Mathlib.Data.List.Dedup

/-!
# The imports of the management seed (`scripts/management-seed-source-closure.mjs`)

The programs of the seed are a fixed list of files. Before they are qualified, the syntax tree of each is walked and
what it imports is looked up in the list.

* `walk_ok`: the walk accepts a tree exactly if it accepts the loads that it visits.
* `accepted_load`: what acceptance says of a load.
* `loads_closed_iff`: **when every load of an accepted program stays in the list.**
-/

namespace SecureSaas.ManagementSeed

open Js

/-! ## Syntax trees -/

/-- A node of a syntax tree, with the parts that the walk tells apart. -/
inductive Node where
  | stringLiteral (text : String)
  | identifier (text : String)
  | importKeyword
  | importDeclaration (before : List Node) (moduleSpecifier : Node) (after : List Node)
  | exportDeclaration (before : List Node) (moduleSpecifier : Option Node) (after : List Node)
  | callExpression (expression : Node) (typeArguments : List Node) (arguments : List Node)
  /-- Parentheses and the assertions of a type, which leave the value as it is. -/
  | outerExpression (expression : Node) (type : List Node)
  /-- `require(…)` on the right of an import-equals declaration. -/
  | externalModuleReference (expression : Node)
  | other (children : List Node)

/-- The forms of a load. A call can name its loader as it is, or in parentheses and under assertions. -/
inductive Form where
  | importDeclaration
  | exportDeclaration
  | loaderCall
  | outerLoaderCall
  | importEquals
deriving DecidableEq

/-- A module that a program loads: the literal that is its only argument, if it is one. -/
structure Load where
  form : Form
  argument : Option String
deriving DecidableEq

/-- `ts.isStringLiteral(node)`, with the text. -/
def stringLiteral? : Node → Option String
  | .stringLiteral text => some text
  | _ => none

def onlyLiteral? : List Node → Option String
  | [argument] => stringLiteral? argument
  | _ => none

def isModuleLoader : Node → Bool
  | .importKeyword => true
  | .identifier text => text == "require"
  | _ => false

/-- An expression without its parentheses and assertions. -/
def skipOuter : Node → Node
  | .outerExpression expression _ => skipOuter expression
  | node => node

/-- The load of a call, if its callee is a loader. -/
def callLoads (expression : Node) (arguments : List Node) : List Load :=
  if isModuleLoader expression then [⟨.loaderCall, onlyLiteral? arguments⟩]
  else if isModuleLoader (skipOuter expression) then [⟨.outerLoaderCall, onlyLiteral? arguments⟩]
  else []

mutual

/-- Every load in a tree, at any depth. -/
def loads : Node → List Load
  | .stringLiteral _ => []
  | .identifier _ => []
  | .importKeyword => []
  | .importDeclaration before specifier after =>
    ⟨.importDeclaration, stringLiteral? specifier⟩ :: (allLoads before ++ (loads specifier ++ allLoads after))
  | .exportDeclaration before none after => allLoads before ++ allLoads after
  | .exportDeclaration before (some specifier) after =>
    ⟨.exportDeclaration, stringLiteral? specifier⟩ :: (allLoads before ++ (loads specifier ++ allLoads after))
  | .callExpression expression types arguments =>
    callLoads expression arguments ++ (loads expression ++ (allLoads types ++ allLoads arguments))
  | .outerExpression expression type => loads expression ++ allLoads type
  | .externalModuleReference expression => ⟨.importEquals, stringLiteral? expression⟩ :: loads expression
  | .other children => allLoads children

def allLoads : List Node → List Load
  | [] => []
  | node :: nodes => loads node ++ allLoads nodes

end

/-! ## The walk -/

section
variable (fileName : String) (inspect : String → Except String Unit)

/-- The specifier of an import or of an export. -/
def walkSpecifier : Node → Except String Unit
  | .stringLiteral text => inspect text
  | _ => .error (fileName ++ " contains a non-literal module specifier")

/-- The arguments of a loader. -/
def walkArguments : List Node → Except String Unit
  | [.stringLiteral text] => inspect text
  | _ => .error (fileName ++ " contains a non-literal dynamic module load")

def walkCall (expression : Node) (arguments : List Node) : Except String Unit :=
  if isModuleLoader expression then walkArguments fileName inspect arguments else .ok ()

mutual

def walk : Node → Except String Unit
  | .stringLiteral _ => .ok ()
  | .identifier _ => .ok ()
  | .importKeyword => .ok ()
  | .importDeclaration before specifier after => do
    walkSpecifier fileName inspect specifier
    forEachChild before
    walk specifier
    forEachChild after
  | .exportDeclaration before none after => do
    forEachChild before
    forEachChild after
  | .exportDeclaration before (some specifier) after => do
    walkSpecifier fileName inspect specifier
    forEachChild before
    walk specifier
    forEachChild after
  | .callExpression expression types arguments => do
    walkCall fileName inspect expression arguments
    walk expression
    forEachChild types
    forEachChild arguments
  | .outerExpression expression type => do
    walk expression
    forEachChild type
  | .externalModuleReference expression => walk expression
  | .other children => forEachChild children

def forEachChild : List Node → Except String Unit
  | [] => .ok ()
  | node :: nodes => do
    walk node
    forEachChild nodes

end

end

/-! ## The list of files -/

structure SeedBuild where
  programDirectory : String
  programOutputs : List String
  policyDirectory : String
  policyOutputs : List String
  supportDirectory : String
  supportOutputs : List String

structure SeedScope where
  sourceFiles : List String
  build : SeedBuild

/-- The outputs of the build, by their paths. -/
def SeedScope.generated (scope : SeedScope) : List String :=
  scope.build.programOutputs.map (scope.build.programDirectory ++ "/" ++ ·) ++
    scope.build.policyOutputs.map (scope.build.policyDirectory ++ "/" ++ ·) ++
    scope.build.supportOutputs.map (scope.build.supportDirectory ++ "/" ++ ·)

/-- The file is governed, or an output of the build. -/
def SeedScope.declares (scope : SeedScope) (path : String) : Bool :=
  scope.sourceFiles.contains path || scope.generated.contains path

def sourceExtensions : List String := [".ts", ".mjs", ".cjs", ".js", ".json"]

def fixedExecutionImportPrefix : String := "file:///usr/local/lib/deus-bootstrap/execution/"

/-- `target` of a fixed execution import. -/
def executionTarget (specifier : String) : String :=
  String.ofList (specifier.toList.drop fixedExecutionImportPrefix.length)

/-- Where a relative import leads to. -/
def importBase (importer specifier : String) : String :=
  Posix.normalize (Posix.join [Posix.dirname importer, specifier])

/-- The files that a relative import can stand for. -/
def importCandidates (base : String) : List String :=
  if Posix.extname base ≠ "" then [base]
  else base :: (sourceExtensions.map (base ++ ·) ++ sourceExtensions.map (base ++ "/index" ++ ·))

def matchNames : List String → String
  | [] => "none"
  | names => ", ".intercalate names

def assertGovernedRelativeImport (scope : SeedScope) (importer specifier : String) : Except String Unit :=
  let base := importBase importer specifier
  let found := (importCandidates base).filter scope.declares
  if includes specifier "\\" || includes specifier "?" || includes specifier "#" then
    .error (importer ++ " contains an unsafe relative import '" ++ specifier ++ "'")
  else if base == ".." || startsWith base "../" || Posix.isAbsolute base then
    .error (importer ++ " imports outside the repository: " ++ specifier)
  else if found.length ≠ 1 then
    .error (importer ++ " relative import '" ++ specifier ++
      "' must resolve to exactly one governed source or declared build output (matches: " ++ matchNames found ++ ")")
  else .ok ()

/-- What the walk asks of a specifier. -/
def inspectSpecifier (scope : SeedScope) (sourcePath specifier : String) : Except String Unit :=
  if startsWith specifier "." then assertGovernedRelativeImport scope sourcePath specifier
  else if startsWith specifier fixedExecutionImportPrefix then
    let target := executionTarget specifier
    if target == "" || includes target "%" || includes target "\\" || includes target "?" || includes target "#" ||
        Posix.normalize target != target || !scope.sourceFiles.contains target then
      .error (sourcePath ++ " contains an ungoverned fixed execution import '" ++ specifier ++ "'")
    else .ok ()
  else if startsWith specifier "file:" then
    .error (sourcePath ++ " contains an unsupported file import '" ++ specifier ++ "'")
  else .ok ()

/-- `/\.(?:[cm]?js|ts)$/.test(path)`. -/
def isProgramPath (path : String) : Bool :=
  [".js", ".cjs", ".mjs", ".ts"].any fun ending => ending.toList.isSuffixOf path.toList

/-- One file of the list. -/
def assertSourceFile (read : String → Except String Node) (scope : SeedScope) (sourcePath : String) :
    Except String Unit :=
  if isProgramPath sourcePath then do
    let source ← read sourcePath
    walk sourcePath (inspectSpecifier scope sourcePath) source
  else .ok ()

/-- The check of the whole list. `read` is the parser over the files of the repository. -/
def assertManagementSeedSourceImportClosure (read : String → Except String Node) (scope : SeedScope) :
    Except String Unit :=
  (sortTexts scope.sourceFiles.dedup).forM (assertSourceFile read scope)

/-! ## What the walk accepts -/

/-- The walk looks at the loads of this form. -/
def Form.visited : Form → Bool
  | .importDeclaration => true
  | .exportDeclaration => true
  | .loaderCall => true
  | .outerLoaderCall => false
  | .importEquals => false

/-- The load has a literal that is accepted, if the walk looks at it. -/
def Passes (inspect : String → Except String Unit) (load : Load) : Prop :=
  load.form.visited = true → ∃ text, load.argument = some text ∧ inspect text = .ok ()

theorem then_ok {x y : Except String Unit} : (do x; y) = .ok () ↔ x = .ok () ∧ y = .ok () := by
  cases x with
  | error e => exact ⟨fun h => (nomatch h), fun h => (nomatch h.1)⟩
  | ok u => exact ⟨fun h => ⟨rfl, h⟩, fun h => h.2⟩

section
variable {fileName : String} {inspect : String → Except String Unit}

theorem walkSpecifier_ok {node : Node} : walkSpecifier fileName inspect node = .ok () ↔
    ∃ text, stringLiteral? node = some text ∧ inspect text = .ok () := by
  cases node with
  | stringLiteral text => simp [walkSpecifier, stringLiteral?]
  | _ => simp [walkSpecifier, stringLiteral?]

theorem walkArguments_ok {nodes : List Node} : walkArguments fileName inspect nodes = .ok () ↔
    ∃ text, onlyLiteral? nodes = some text ∧ inspect text = .ok () := by
  match nodes with
  | [] => simp [walkArguments, onlyLiteral?]
  | [node] => cases node <;> simp [walkArguments, onlyLiteral?, stringLiteral?]
  | _ :: _ :: _ => simp [walkArguments, onlyLiteral?]

theorem walkCall_ok {expression : Node} {arguments : List Node} :
    walkCall fileName inspect expression arguments = .ok () ↔
      ∀ load ∈ callLoads expression arguments, Passes inspect load := by
  unfold walkCall callLoads
  by_cases hplain : isModuleLoader expression = true
  · rw [if_pos hplain, if_pos hplain, walkArguments_ok]
    simp [Passes, Form.visited]
  · rw [if_neg hplain, if_neg hplain]
    -- a callee in parentheses is passed over
    split
    · simp [Passes, Form.visited]
    · simp

/-- The specifier of an import or export is a load that the walk looks at. -/
theorem walkSpecifier_passes {form : Form} (hform : form.visited = true) {node : Node} :
    walkSpecifier fileName inspect node = .ok () ↔ Passes inspect ⟨form, stringLiteral? node⟩ := by
  rw [walkSpecifier_ok]
  exact ⟨fun h _ => h, fun h => h hform⟩

mutual

/-- **The walk accepts a tree exactly if it accepts the loads that it looks at**, by induction on the tree. -/
theorem walk_ok : ∀ node : Node, walk fileName inspect node = .ok () ↔ ∀ load ∈ loads node, Passes inspect load
  | .stringLiteral _ => by simp [walk, loads]
  | .identifier _ => by simp [walk, loads]
  | .importKeyword => by simp [walk, loads]
  | .importDeclaration before specifier after => by
    rw [walk, loads, then_ok, then_ok, then_ok, @walkSpecifier_passes _ _ .importDeclaration rfl,
      forEachChild_ok before, walk_ok specifier, forEachChild_ok after, List.forall_mem_cons, List.forall_mem_append,
      List.forall_mem_append]
  | .exportDeclaration before none after => by
    rw [walk, loads, then_ok, forEachChild_ok before, forEachChild_ok after, List.forall_mem_append]
  | .exportDeclaration before (some specifier) after => by
    rw [walk, loads, then_ok, then_ok, then_ok, @walkSpecifier_passes _ _ .exportDeclaration rfl,
      forEachChild_ok before, walk_ok specifier, forEachChild_ok after, List.forall_mem_cons, List.forall_mem_append,
      List.forall_mem_append]
  | .callExpression expression types arguments => by
    rw [walk, loads, then_ok, then_ok, then_ok, walkCall_ok, walk_ok expression, forEachChild_ok types,
      forEachChild_ok arguments, List.forall_mem_append, List.forall_mem_append, List.forall_mem_append]
  | .outerExpression expression type => by
    rw [walk, loads, then_ok, walk_ok expression, forEachChild_ok type, List.forall_mem_append]
  | .externalModuleReference expression => by
    rw [walk, loads, walk_ok expression, List.forall_mem_cons]
    exact ⟨fun h => ⟨fun hvisited => (nomatch hvisited), h⟩, fun h => h.2⟩
  | .other children => by rw [walk, loads, forEachChild_ok children]

theorem forEachChild_ok : ∀ nodes : List Node,
    forEachChild fileName inspect nodes = .ok () ↔ ∀ load ∈ allLoads nodes, Passes inspect load
  | [] => by simp [forEachChild, allLoads]
  | node :: nodes => by
    rw [forEachChild, allLoads, then_ok, walk_ok node, forEachChild_ok nodes, List.forall_mem_append]

end

end

/-! ## Where a specifier leads -/

def isRelative (specifier : String) : Bool :=
  specifier == "." || specifier == ".." || startsWith specifier "./" || startsWith specifier "../"

def isSchemeChar (c : Char) : Bool := isAlnum c || "+.-".toList.contains c

/-- The scheme of a URL, in lower case. A URL is read without the blanks before it and without line breaks. -/
def urlScheme (specifier : String) : Option String :=
  let text := (specifier.toList.dropWhile fun c => c.toNat ≤ 0x20).filter fun c => !"\t\n\r".toList.contains c
  let scheme := text.takeWhile isSchemeChar
  if scheme.head?.any isLetter && (text.dropWhile isSchemeChar).head? == some ':' then
    some (String.ofList (scheme.map Char.toLower))
  else none

/-- A path from the root, or a URL. The modules of Node.js itself have names with `node:`. -/
def isAbsoluteSpecifier (specifier : String) : Bool :=
  startsWith specifier "/" || (urlScheme specifier).any (· != "node")

/-- Where the files of the list are: in the repository, and in the directory they are executed in. -/
def locations (root : String) : List String :=
  [root ++ "/", "file://" ++ root ++ "/", "/usr/local/lib/deus-bootstrap/execution/", fixedExecutionImportPrefix]

/-- A specifier leads to a file of the list, to an output of the build, or to a package. -/
inductive Resolved (root : String) (scope : SeedScope) (importer specifier : String) : Prop where
  | relative (h : isRelative specifier = true) {path : String}
    (hcandidate : path ∈ importCandidates (importBase importer specifier)) (hpath : scope.declares path = true)
  | absolute {location path : String} (hlocation : location ∈ locations root) (hpath : scope.declares path = true)
    (heq : specifier = location ++ path)
  | package (hrelative : isRelative specifier = false) (habsolute : isAbsoluteSpecifier specifier = false)

/-- The argument of a load is a literal, and it leads to the list or to a package. -/
def Confined (root : String) (scope : SeedScope) (importer : String) (load : Load) : Prop :=
  ∃ specifier, load.argument = some specifier ∧ Resolved root scope importer specifier

/-- Every load of every file in the list is confined. -/
def Closed (root : String) (read : String → Except String Node) (scope : SeedScope) : Prop :=
  ∀ path ∈ scope.sourceFiles, ∀ source, read path = .ok source →
    ∀ load ∈ loads source, Confined root scope path load

/-- The check does not look at the load: its file is not parsed, its form is not visited, or its argument is absolute
and starts in another way than `file:`. -/
def unchecked (path : String) (load : Load) : Bool :=
  !isProgramPath path || !load.form.visited ||
    load.argument.any fun specifier => isAbsoluteSpecifier specifier && !startsWith specifier "file:"

/-- The loads that the check does not look at are confined nevertheless. -/
def UncheckedConfined (root : String) (read : String → Except String Node) (scope : SeedScope) : Prop :=
  ∀ path ∈ scope.sourceFiles, ∀ source, read path = .ok source → ∀ load ∈ loads source,
    unchecked path load = true → Confined root scope path load

theorem startsWith_trans {text first second : String} (h : startsWith text first = true)
    (hinitial : startsWith first second = true) : startsWith text second = true := by
  obtain ⟨rest, hrest⟩ := startsWith_iff.1 h
  obtain ⟨more, hmore⟩ := startsWith_iff.1 hinitial
  exact startsWith_iff.2 ⟨more ++ rest, by rw [hrest, hmore, List.append_assoc]⟩

/-- A text that starts with a dot is no path from the root and no URL. -/
theorem not_absolute_of_dot {specifier : String} (h : startsWith specifier "." = true) :
    isAbsoluteSpecifier specifier = false := by
  obtain ⟨rest, hrest⟩ := startsWith_iff.1 h
  have htext : specifier.toList = '.' :: rest := hrest
  have hscheme : urlScheme specifier = none := by
    have hkept : ("\t\n\r".toList.contains '.') = false := by decide
    unfold urlScheme
    simp only
    rw [htext, List.dropWhile_cons_of_neg (by decide), List.filter_cons_of_pos (by rw [hkept]; rfl),
      List.takeWhile_cons_of_pos (by decide)]
    rfl
  unfold isAbsoluteSpecifier startsWith
  rw [hscheme, htext]
  rfl

/-- A relative specifier starts with a dot. -/
theorem isRelative_dot {specifier : String} (h : isRelative specifier = true) : startsWith specifier "." = true := by
  unfold isRelative at h
  simp only [Bool.or_eq_true, beq_iff_eq] at h
  rcases h with ((rfl | rfl) | h) | h
  · decide
  · decide
  · exact startsWith_trans h (by decide)
  · exact startsWith_trans h (by decide)

/-! ## What is accepted -/

theorem assertGovernedRelativeImport_ok {scope : SeedScope} {importer specifier : String}
    (h : assertGovernedRelativeImport scope importer specifier = .ok ()) :
    ∃ path ∈ importCandidates (importBase importer specifier), scope.declares path = true := by
  unfold assertGovernedRelativeImport at h
  simp only at h
  split at h
  · cases h
  · split at h
    · cases h
    · split at h
      · cases h
      · rename_i hone
        have hlength : ((importCandidates (importBase importer specifier)).filter scope.declares).length = 1 :=
          not_not.1 hone
        obtain ⟨path, hpath⟩ := List.exists_mem_of_length_pos (by omega : 0 <
          ((importCandidates (importBase importer specifier)).filter scope.declares).length)
        exact ⟨path, List.mem_filter.1 hpath⟩

/-- **A specifier that is accepted leads to the list or to a package**, unless it is absolute and starts in another way
than `file:`. -/
theorem inspectSpecifier_ok {root : String} {scope : SeedScope} {importer specifier : String}
    (h : inspectSpecifier scope importer specifier = .ok ())
    (hseen : isAbsoluteSpecifier specifier = true → startsWith specifier "file:" = true) :
    Resolved root scope importer specifier := by
  unfold inspectSpecifier at h
  by_cases hdot : startsWith specifier "." = true
  · rw [if_pos hdot] at h
    obtain ⟨path, hcandidate, hpath⟩ := assertGovernedRelativeImport_ok h
    by_cases hrelative : isRelative specifier = true
    · exact .relative hrelative hcandidate hpath
    · exact .package (Bool.eq_false_of_not_eq_true hrelative) (not_absolute_of_dot hdot)
  · rw [if_neg hdot] at h
    have hrelative : isRelative specifier = false :=
      Bool.eq_false_of_not_eq_true fun hrelative => hdot (isRelative_dot hrelative)
    by_cases hfixed : startsWith specifier fixedExecutionImportPrefix = true
    · rw [if_pos hfixed] at h
      simp only at h
      split at h
      · cases h
      · rename_i htarget
        simp only [Bool.or_eq_true, Bool.not_eq_true', not_or, Bool.not_eq_false] at htarget
        obtain ⟨rest, hrest⟩ := startsWith_iff.1 hfixed
        refine @Resolved.absolute root scope importer specifier fixedExecutionImportPrefix
          (executionTarget specifier) ?_ ?_ ?_
        · exact List.mem_cons_of_mem _ (List.mem_cons_of_mem _ (List.mem_cons_of_mem _ List.mem_cons_self))
        · unfold SeedScope.declares
          rw [htarget.2, Bool.true_or]
        · rw [← String.toList_inj, String.toList_append, executionTarget, String.toList_ofList, hrest,
            ← String.length_toList, List.drop_left]
    · rw [if_neg hfixed] at h
      split at h
      · cases h
      · rename_i hfile
        have habsolute : isAbsoluteSpecifier specifier = false :=
          Bool.eq_false_of_not_eq_true fun habsolute => hfile (hseen habsolute)
        exact .package hrelative habsolute

section
variable {root : String} {read : String → Except String Node} {scope : SeedScope}

/-- A load that the check looks at is confined. -/
theorem accepted_load (h : assertManagementSeedSourceImportClosure read scope = .ok ()) {path : String}
    (hpath : path ∈ scope.sourceFiles) {source : Node} (hread : read path = .ok source) {load : Load}
    (hload : load ∈ loads source) (hchecked : unchecked path load = false) : Confined root scope path load := by
  unfold unchecked at hchecked
  simp only [Bool.or_eq_false_iff, Bool.not_eq_false'] at hchecked
  obtain ⟨⟨hprogram, hvisited⟩, hargument⟩ := hchecked
  have hfile := forM_ok.1 h path (mem_sortTexts.2 (List.mem_dedup.2 hpath))
  unfold assertSourceFile at hfile
  rw [if_pos hprogram, hread] at hfile
  obtain ⟨specifier, hliteral, haccepted⟩ := (walk_ok source).1 hfile load hload hvisited
  refine ⟨specifier, hliteral, inspectSpecifier_ok haccepted fun habsolute => ?_⟩
  rw [hliteral, Option.any_some, habsolute, Bool.true_and, Bool.not_eq_false'] at hargument
  exact hargument

/-- **An accepted program is closed exactly if the loads that the check does not look at are confined**: those of
import-equals declarations, of calls with the loader in parentheses, of files that are not parsed, and those with an
absolute argument that does not start with `file:`. -/
theorem loads_closed_iff (h : assertManagementSeedSourceImportClosure read scope = .ok ()) :
    Closed root read scope ↔ UncheckedConfined root read scope := by
  constructor
  · intro hclosed path hpath source hread load hload _
    exact hclosed path hpath source hread load hload
  · intro hunchecked path hpath source hread load hload
    by_cases hload' : unchecked path load = true
    · exact hunchecked path hpath source hread load hload hload'
    · exact accepted_load h hpath hread hload (Bool.eq_false_of_not_eq_true hload')

end

/-! ## Two programs -/

def sampleBuild : SeedBuild where
  programDirectory := "dist"
  programOutputs := ["program.mjs"]
  policyDirectory := "policy-dist"
  policyOutputs := []
  supportDirectory := "support-dist"
  supportOutputs := []

def sampleSources : SeedScope := ⟨["a.mjs", "lib/b.mjs"], sampleBuild⟩

/-- A function of `a.mjs` loads the other file; `lib/b.mjs` imports an output of the build and a module of Node.js. -/
def sampleRead : String → Except String Node
  | "a.mjs" => .ok (.other [.other [.callExpression .importKeyword [] [.stringLiteral "./lib/b.mjs"]]])
  | "lib/b.mjs" => .ok (.other [.importDeclaration [] (.stringLiteral "../dist/program.mjs") [],
      .exportDeclaration [] (some (.stringLiteral "node:fs")) []])
  | path => .error ("ENOENT: no such file or directory, open '" ++ path ++ "'")

/-- The two files are accepted and closed. -/
theorem sample_closed : Closed "/repo" sampleRead sampleSources := by
  refine (loads_closed_iff (by decide)).2 fun path hpath source hread load hload hunchecked => ?_
  obtain rfl | rfl : path = "a.mjs" ∨ path = "lib/b.mjs" := by simpa [sampleSources] using hpath
  · obtain rfl := Except.ok.inj hread
    obtain rfl : load = ⟨.loaderCall, some "./lib/b.mjs"⟩ := List.mem_singleton.1 hload
    exact absurd hunchecked (by decide)
  · obtain rfl := Except.ok.inj hread
    obtain rfl | rfl : load = ⟨.importDeclaration, some "../dist/program.mjs"⟩ ∨
        load = ⟨.exportDeclaration, some "node:fs"⟩ := by
      rcases List.mem_cons.1 hload with h | h
      · exact Or.inl h
      · exact Or.inr (List.mem_singleton.1 h)
    · exact absurd hunchecked (by decide)
    · exact absurd hunchecked (by decide)

def importEqualsSources : SeedScope := ⟨["a.ts"], sampleBuild⟩

/-- `import x = require("./secret")`. -/
def importEqualsRead : String → Except String Node
  | "a.ts" => .ok (.other [.other [.identifier "x", .externalModuleReference (.stringLiteral "./secret")]])
  | path => .error ("ENOENT: no such file or directory, open '" ++ path ++ "'")

/-- **A program is accepted that loads a file outside the list**, by an import-equals declaration. -/
theorem import_equals_accepted : ¬ ∀ (root : String) (read : String → Except String Node) (scope : SeedScope),
    assertManagementSeedSourceImportClosure read scope = .ok () → Closed root read scope := by
  intro h
  have hclosed := h "/repo" importEqualsRead importEqualsSources (by decide)
  obtain ⟨specifier, hliteral, hresolved⟩ :=
    hclosed "a.ts" (by decide) _ rfl ⟨.importEquals, some "./secret"⟩ (by decide)
  obtain rfl := Option.some.inj hliteral
  cases hresolved with
  | relative _ hcandidate hpath =>
    have hnone : ∀ path ∈ importCandidates (importBase "a.ts" "./secret"),
        importEqualsSources.declares path = false := by decide
    rw [hnone _ hcandidate] at hpath
    cases hpath
  | absolute hlocation _ heq =>
    have hhead : ∀ location ∈ locations "/repo",
        location.toList.head? = some '/' ∨ location.toList.head? = some 'f' := by decide
    have hstart := congrArg (fun s => s.toList.head?) heq
    simp only [String.toList_append, List.head?_append] at hstart
    rcases hhead _ hlocation with h | h
    · rw [h, Option.some_or] at hstart
      exact absurd hstart (by decide)
    · rw [h, Option.some_or] at hstart
      exact absurd hstart (by decide)
  | package hrelative _ => cases hrelative

end SecureSaas.ManagementSeed
