import SecureSaas.Js.Date
import SecureSaas.Js.Json
import SecureSaas.Js.Record
import SecureSaas.Js.Runtime
import Mathlib.Data.List.SplitOn

/-!
# The scan of rendered workloads for tokens (`src/core/workloadTokenScanner.ts`)

Every document that is rendered is a resource or a list of resources. A workload and a service
account must not mount a token unless an exception allows it; what is denied becomes a finding,
and a report without findings passes. The parser of YAML is a parameter.
-/

namespace SecureSaas.Scanner

open Js

/-! ## Data -/

inductive WorkloadTokenExceptionIssue
  | workloadAutomount | serviceAccountAutomount | projectedServiceAccountToken
deriving DecidableEq

def WorkloadTokenExceptionIssue.text : WorkloadTokenExceptionIssue → String
  | .workloadAutomount => "workload-automount"
  | .serviceAccountAutomount => "service-account-automount"
  | .projectedServiceAccountToken => "projected-service-account-token"

structure RenderedManifestSource where
  path : String
  yaml : String

/-- The issue is checked when the exceptions are validated. -/
structure WorkloadTokenException where
  id : String
  apiVersion : String
  kind : String
  namespaceName : String
  name : String
  issue : String
  reason : String
  approvedBy : String
  expiresAt : String

inductive FindingCode
  | yamlInvalid | documentInvalid | resourceIdentityInvalid | resourceDuplicate | workloadKindUnknown
  | podSpecMissing | workloadAutomountNotFalse | serviceAccountAutomountNotFalse | projectedTokenForbidden
  | exceptionInvalid | exceptionDuplicate | exceptionUnused
deriving DecidableEq

def FindingCode.text : FindingCode → String
  | .yamlInvalid => "TOKEN_SCAN_YAML_INVALID"
  | .documentInvalid => "TOKEN_SCAN_DOCUMENT_INVALID"
  | .resourceIdentityInvalid => "TOKEN_SCAN_RESOURCE_IDENTITY_INVALID"
  | .resourceDuplicate => "TOKEN_SCAN_RESOURCE_DUPLICATE"
  | .workloadKindUnknown => "TOKEN_SCAN_WORKLOAD_KIND_UNKNOWN"
  | .podSpecMissing => "TOKEN_SCAN_POD_SPEC_MISSING"
  | .workloadAutomountNotFalse => "TOKEN_SCAN_WORKLOAD_AUTOMOUNT_NOT_FALSE"
  | .serviceAccountAutomountNotFalse => "TOKEN_SCAN_SERVICE_ACCOUNT_AUTOMOUNT_NOT_FALSE"
  | .projectedTokenForbidden => "TOKEN_SCAN_PROJECTED_TOKEN_FORBIDDEN"
  | .exceptionInvalid => "TOKEN_SCAN_EXCEPTION_INVALID"
  | .exceptionDuplicate => "TOKEN_SCAN_EXCEPTION_DUPLICATE"
  | .exceptionUnused => "TOKEN_SCAN_EXCEPTION_UNUSED"

structure WorkloadTokenScanFinding where
  code : FindingCode
  sourcePath : String
  documentIndex : ℕ
  resource : Option String
  fieldPath : String
  message : String

structure SourceEvidence where
  path : String
  sha256 : String

structure WorkloadTokenScanReport where
  scannedAt : String
  sourceDigest : String
  sources : List SourceEvidence
  documentCount : ℕ
  resourceCount : ℕ
  workloadCount : ℕ
  serviceAccountCount : ℕ
  exceptionsUsed : List String
  findings : List WorkloadTokenScanFinding
  pass : Bool

structure ResourceIdentity where
  apiVersion : String
  kind : String
  namespaceName : String
  name : String
deriving DecidableEq

/-- The set of the keys of the resources and that of the exceptions used are lists. -/
structure ScanState where
  nowMs : ℤ
  findings : List WorkloadTokenScanFinding
  resourceKeys : List String
  workloadCount : ℕ
  serviceAccountCount : ℕ
  resourceCount : ℕ
  exceptions : Record WorkloadTokenException
  exceptionsUsed : List String

/-- Where a resource is: its source, the index of its document and the path in it. -/
structure Place where
  sourcePath : String
  documentIndex : ℕ
  fieldPath : String

structure YamlDocument where
  errors : List String
  value : Except String Value

/-- `parseAllDocuments(yaml, …)`, with the value of every document. -/
abbrev YamlParser := String → List YamlDocument

structure ScanArgs where
  sources : List RenderedManifestSource
  scannedAt : String
  exceptions : List WorkloadTokenException

/-! ## Texts -/

/-- `value.length`. -/
def codeUnits (s : String) : ℕ := (s.toList.map fun c => if c.toNat < 65536 then 1 else 2).sum

/-- `/^[A-Za-z][A-Za-z0-9]*(?:[._:-][A-Za-z0-9]+)*$/`, 128 characters at most. -/
def isExactIdentifier (value : String) : Bool :=
  decide (codeUnits value ≤ 128) && Pattern.fullMatch (open Pattern in
    seq (cls fun c => isLowerLetter c || isUpperLetter c) <| seq (many isAlnum) <|
      group (seq (cls fun c => ['.', '_', ':', '-'].contains c) (many1 isAlnum))) value

/-- `[a-z0-9](?:[a-z0-9.-]*[a-z0-9])?`. -/
def segment : Pattern := open Pattern in
  seq (cls isLowerAlnum) <| opt <| seq (many fun c => isLowerAlnum c || c == '.' || c == '-') (cls isLowerAlnum)

/-- A name of Kubernetes, 253 characters at most. -/
def isExactResourceSegment (value : String) : Bool :=
  decide (codeUnits value ≤ 253) && Pattern.fullMatch segment value

/-- `/^(?:v[0-9]+|…\/v[0-9]+(?:alpha[0-9]+|beta[0-9]+)?)$/`. -/
def isExactApiVersion (value : String) : Bool := Pattern.fullMatch (open Pattern in
  alt (seq (lit "v") (many1 isDecimal)) <|
    seq segment <| seq (lit "/v") <| seq (many1 isDecimal) <|
      opt (alt (seq (lit "alpha") (many1 isDecimal)) (seq (lit "beta") (many1 isDecimal)))) value

/-- `exactTimestamp`, with the time of the text. -/
def exactTimestamp (value path : String) : Except String ℤ :=
  match dateParse value with
  | some t => if isTimestampText value then .ok t else .error s!"{path} must be an ISO-8601 UTC timestamp"
  | none => .error s!"{path} must be an ISO-8601 UTC timestamp"

/-- `apiVersion/kind/namespace/name`. -/
def resourceKey (apiVersion kind namespaceName name : String) : String :=
  apiVersion ++ "/" ++ kind ++ "/" ++ namespaceName ++ "/" ++ name

def ResourceIdentity.key (identity : ResourceIdentity) : String :=
  resourceKey identity.apiVersion identity.kind identity.namespaceName identity.name

def exceptionKey (key issue : String) : String := key ++ "#" ++ issue

def WorkloadTokenException.resource (exception : WorkloadTokenException) : String :=
  resourceKey exception.apiVersion exception.kind exception.namespaceName exception.name

/-! ## Values -/

/-- The properties of an object. -/
def asObject : Value → Option (List (String × Value))
  | .object properties => some properties
  | _ => none

/-- `value === false`. -/
def isFalse : Value → Bool
  | .bool false => true
  | _ => false

/-- `value === null || value === undefined`. -/
def isMissing : Value → Bool
  | .null | .undefined => true
  | _ => false

def isArray : Value → Bool
  | .array _ => true
  | _ => false

def atPath : Value → List String → Value
  | value, [] => value
  | .object properties, segment :: path => atPath (Value.get properties segment) path
  | _, _ :: _ => .undefined

def podSpecPaths : List (String × List String) :=
  [("v1/Pod", ["spec"]),
   ("v1/ReplicationController", ["spec", "template", "spec"]),
   ("apps/v1/Deployment", ["spec", "template", "spec"]),
   ("apps/v1/StatefulSet", ["spec", "template", "spec"]),
   ("apps/v1/DaemonSet", ["spec", "template", "spec"]),
   ("apps/v1/ReplicaSet", ["spec", "template", "spec"]),
   ("batch/v1/Job", ["spec", "template", "spec"]),
   ("batch/v1/CronJob", ["spec", "jobTemplate", "spec", "template", "spec"]),
   ("argoproj.io/v1alpha1/Rollout", ["spec", "template", "spec"])]

/-- The object has a list of containers. -/
def isPodSpecShaped : Value → Bool
  | .object properties => isArray (Value.get properties "containers") || isArray (Value.get properties "initContainers") ||
      isArray (Value.get properties "ephemeralContainers")
  | _ => false

def structuralPaths : List (List String) :=
  [["spec", "template", "spec"], ["spec", "jobTemplate", "spec", "template", "spec"]]

def findStructuralPodSpecPath (resource : Value) : Option (List String) :=
  structuralPaths.find? fun path => isPodSpecShaped (atPath resource path)

/-- The `apiVersion` and the `kind`, when both are texts. -/
def typeOf (properties : List (String × Value)) : Option (String × String) :=
  match Value.get properties "apiVersion", Value.get properties "kind" with
  | .string apiVersion, .string kind => some (apiVersion, kind)
  | _, _ => none

/-- `kind === "List" || kind.endsWith("List")`. -/
def isListKind (kind : String) : Bool := "List".toList.isSuffixOf kind.toList

/-- `exactResourceSegment` of a name or a namespace. -/
def segmentValue : Value → Option String
  | .string s => if isExactResourceSegment s then some s else none
  | _ => none

/-- `metadata.namespace ?? "default"`. -/
def namespaceValue (value : Value) : Option String := if isMissing value then some "default" else segmentValue value

def resourceIdentity (properties : List (String × Value)) (apiVersion kind : String) : Option ResourceIdentity := do
  let metadata ← asObject (Value.get properties "metadata")
  guard (isExactApiVersion apiVersion)
  guard (isExactIdentifier kind)
  let name ← segmentValue (Value.get metadata "name")
  let namespaceName ← namespaceValue (Value.get metadata "namespace")
  some ⟨apiVersion, kind, namespaceName, name⟩

/-! ## Scanning a resource -/

def addFinding (state : ScanState) (finding : WorkloadTokenScanFinding) : ScanState :=
  { state with findings := state.findings ++ [finding] }

def Place.finding (place : Place) (code : FindingCode) (resource : Option String) (fieldPath message : String) :
    WorkloadTokenScanFinding :=
  ⟨code, place.sourcePath, place.documentIndex, resource, fieldPath, message⟩

def denyOrExcept (state : ScanState) (identity : ResourceIdentity) (issue : WorkloadTokenExceptionIssue)
    (finding : WorkloadTokenScanFinding) : ScanState :=
  match state.exceptions.get? (exceptionKey identity.key issue.text) with
  | some exception =>
    { state with
      exceptionsUsed :=
        if state.exceptionsUsed.contains exception.id then state.exceptionsUsed
        else state.exceptionsUsed ++ [exception.id] }
  | none => addFinding state finding

/-- `if (object.automountServiceAccountToken !== false) denyOrExcept(…)`. -/
def denyAutomount (state : ScanState) (properties : List (String × Value)) (identity : ResourceIdentity)
    (issue : WorkloadTokenExceptionIssue) (finding : WorkloadTokenScanFinding) : ScanState :=
  if isFalse (Value.get properties "automountServiceAccountToken") then state
  else denyOrExcept state identity issue finding

/-- The places of the projected service account tokens in the volumes of a pod. -/
def projectedTokens (podSpec : List (String × Value)) : List (ℕ × ℕ) :=
  match Value.get podSpec "volumes" with
  | .array volumes => volumes.zipIdx.flatMap fun (volume, volumeIndex) =>
    match atPath volume ["projected", "sources"] with
    | .array sources => sources.zipIdx.filterMap fun (projected, sourceIndex) =>
      match projected with
      | .object properties => if Value.has properties "serviceAccountToken" then some (volumeIndex, sourceIndex) else none
      | _ => none
    | _ => []
  | _ => []

/-- The pod spec of a workload, found at `podSpecField`. -/
def scanPodSpec (state : ScanState) (place : Place) (identity : ResourceIdentity) (podSpecField : String)
    (podSpec : List (String × Value)) : ScanState :=
  let state := denyAutomount state podSpec identity .workloadAutomount
    (place.finding .workloadAutomountNotFalse (some identity.key) (podSpecField ++ ".automountServiceAccountToken")
      "PodSpec automountServiceAccountToken must be boolean false")
  (projectedTokens podSpec).foldl (fun state token =>
    denyOrExcept state identity .projectedServiceAccountToken
      (place.finding .projectedTokenForbidden (some identity.key)
        (podSpecField ++ s!".volumes[{token.1}].projected.sources[{token.2}].serviceAccountToken")
        "projected serviceAccountToken volume source is forbidden")) state

def scanServiceAccount (state : ScanState) (place : Place) (identity : ResourceIdentity)
    (properties : List (String × Value)) : ScanState :=
  let state := { state with serviceAccountCount := state.serviceAccountCount + 1 }
  denyAutomount state properties identity .serviceAccountAutomount
    (place.finding .serviceAccountAutomountNotFalse (some identity.key) (place.fieldPath ++ ".automountServiceAccountToken")
      "ServiceAccount automountServiceAccountToken must be boolean false")

def scanWorkload (state : ScanState) (place : Place) (identity : ResourceIdentity)
    (properties : List (String × Value)) (podSpecPath : List String) : ScanState :=
  let state := { state with workloadCount := state.workloadCount + 1 }
  let podSpecField := place.fieldPath ++ "." ++ ".".intercalate podSpecPath
  match asObject (atPath (.object properties) podSpecPath) with
  | some podSpec => scanPodSpec state place identity podSpecField podSpec
  | none => addFinding state
      (place.finding .podSpecMissing (some identity.key) podSpecField
        "recognized workload does not contain its required PodSpec")

/-- A resource of a kind that is neither a service account nor a known workload. -/
def scanOther (state : ScanState) (place : Place) (identity : ResourceIdentity) (properties : List (String × Value)) :
    ScanState :=
  match findStructuralPodSpecPath (.object properties) with
  | some path => addFinding state
      (place.finding .workloadKindUnknown (some identity.key) (place.fieldPath ++ "." ++ ".".intercalate path)
        ("unrecognized workload kind '" ++ identity.apiVersion ++ "/" ++ identity.kind ++
          "' contains a PodSpec-shaped object"))
  | none => state

/-- The key of the resource is kept; a second resource with the key is reported. -/
def addResourceKey (state : ScanState) (place : Place) (identity : ResourceIdentity) : ScanState :=
  if state.resourceKeys.contains identity.key then
    addFinding state
      (place.finding .resourceDuplicate (some identity.key) place.fieldPath
        "resource identity occurs more than once in rendered input")
  else { state with resourceKeys := state.resourceKeys ++ [identity.key] }

/-- The part of `scanResource` after the lists. -/
def scanSingle (state : ScanState) (place : Place) (properties : List (String × Value)) (apiVersion kind : String) :
    ScanState :=
  let state := { state with resourceCount := state.resourceCount + 1 }
  match resourceIdentity properties apiVersion kind with
  | none => addFinding state
      (place.finding .resourceIdentityInvalid none (place.fieldPath ++ ".metadata")
        "resource requires exact metadata.name and optional exact metadata.namespace")
  | some identity =>
    let state := addResourceKey state place identity
    if apiVersion = "v1" ∧ kind = "ServiceAccount" then scanServiceAccount state place identity properties
    else match podSpecPaths.lookup (apiVersion ++ "/" ++ kind) with
      | some podSpecPath => scanWorkload state place identity properties podSpecPath
      | none => scanOther state place identity properties

def documentInvalid (state : ScanState) (place : Place) (message : String) : ScanState :=
  addFinding state (place.finding .documentInvalid none place.fieldPath message)

mutual
def scanResource : Value → Place → ScanState → ScanState
  | .object properties, place, state =>
    match typeOf properties with
    | some (apiVersion, kind) =>
      if isListKind kind then scanList properties place state
      else scanSingle state place properties apiVersion kind
    | none => documentInvalid state place "rendered Kubernetes resource requires string apiVersion and kind"
  | _, place, state => documentInvalid state place "rendered Kubernetes document must be an object"
/-- The items of a list with the properties. -/
def scanList : List (String × Value) → Place → ScanState → ScanState
  | [], place, state =>
    documentInvalid state { place with fieldPath := place.fieldPath ++ ".items" } "Kubernetes List items must be an array"
  | (key, value) :: rest, place, state =>
    if key = "items" then
      match value with
      | .array items => scanItems items 0 place state
      | _ => documentInvalid state { place with fieldPath := place.fieldPath ++ ".items" }
          "Kubernetes List items must be an array"
    else scanList rest place state
def scanItems : List Value → ℕ → Place → ScanState → ScanState
  | [], _, _, state => state
  | item :: rest, index, place, state =>
    scanItems rest (index + 1) place
      (scanResource item { place with fieldPath := place.fieldPath ++ s!".items[{index}]" } state)
end

/-! ## Exceptions -/

/-- What is wrong with an exception; the first error is reported. -/
def exceptionError (nowMs : ℤ) (exception : WorkloadTokenException) : Except String Unit := do
  throwUnless (isExactIdentifier exception.id) "exception.id is not an exact identifier"
  throwUnless (isExactApiVersion exception.apiVersion) "exception.apiVersion is not an exact Kubernetes apiVersion"
  throwUnless (isExactIdentifier exception.kind) "exception.kind is not an exact identifier"
  throwUnless (isExactResourceSegment exception.namespaceName)
    "exception.namespace is not an exact Kubernetes resource segment"
  throwUnless (isExactResourceSegment exception.name) "exception.name is not an exact Kubernetes resource segment"
  throwUnless (isExactIdentifier exception.approvedBy) "exception.approvedBy is not an exact identifier"
  throwUnless (decide (12 ≤ codeUnits exception.reason)) "exception.reason must explain the exceptional token use"
  let expiresAt ← exactTimestamp exception.expiresAt "exception.expiresAt"
  throwUnless (decide (nowMs < expiresAt)) "exception.expiresAt must be in the future"
  throwUnless (["workload-automount", "service-account-automount", "projected-service-account-token"].contains
    exception.issue) "exception.issue is unknown"

def exceptionPlace : Place := ⟨"<exceptions>", 0, "$"⟩

def validateException (state : ScanState) (exception : WorkloadTokenException) : ScanState :=
  match exceptionError state.nowMs exception with
  | .error message => addFinding state (exceptionPlace.finding .exceptionInvalid none exception.id message)
  | .ok () =>
    let key := exceptionKey exception.resource exception.issue
    if (state.exceptions.get? key).isSome then
      addFinding state
        (exceptionPlace.finding .exceptionDuplicate (some exception.resource) exception.id
          "more than one exception matches the same resource and issue")
    else { state with exceptions := state.exceptions.set key exception }

def validateExceptions (exceptions : List WorkloadTokenException) (state : ScanState) : ScanState :=
  exceptions.foldl validateException state

/-! ## The scan -/

/-- A path of letters, digits, dots, underscores, slashes and dashes that starts with a letter or a digit and
has no segment `..`. -/
def isSafePath (path : String) : Bool :=
  Pattern.fullMatch (open Pattern in
    seq (cls isAlnum) (many fun c => isAlnum c || ['.', '_', '/', '-'].contains c)) path &&
    !(path.toList.splitOn '/').contains ['.', '.']

/-- Two sources in a row have one path. -/
def repeatedPath : List RenderedManifestSource → Option String
  | a :: b :: rest => if a.path = b.path then some b.path else repeatedPath (b :: rest)
  | _ => none

def normalizeSources (rt : Runtime) (sources : List RenderedManifestSource) :
    Except String (List RenderedManifestSource) := do
  sources.forM fun source =>
    throwUnless (isSafePath source.path) s!"TOKEN_SCAN_SOURCE_PATH: '{source.path}' is not a safe relative path"
  let result := rt.sortByKey (fun source => source.path) sources
  match repeatedPath result with
  | some path => .error s!"TOKEN_SCAN_SOURCE_DUPLICATE: '{path}' occurs more than once"
  | none => .ok result

def scanDocument (sourcePath : String) (state : ScanState) (document : YamlDocument × ℕ) : ScanState :=
  let place : Place := ⟨sourcePath, document.2, "$"⟩
  if document.1.errors ≠ [] then
    addFinding state (place.finding .yamlInvalid none "$" ("; ".intercalate document.1.errors))
  else match document.1.value with
    | .error message => addFinding state (place.finding .yamlInvalid none "$" message)
    | .ok value => if isMissing value then state else scanResource value place state

def scanSource (parse : YamlParser) (state : ScanState) (source : RenderedManifestSource) : ScanState :=
  (parse source.yaml).zipIdx.foldl (scanDocument source.path) state

def reportUnused (state : ScanState) : ScanState :=
  (state.exceptions.properties.map Prod.snd).foldl (fun state exception =>
    if state.exceptionsUsed.contains exception.id then state
    else addFinding state
      (exceptionPlace.finding .exceptionUnused (some exception.resource) exception.id
        ("exception '" ++ exception.id ++ "' does not match a denied token use"))) state

/-- `stableJson(finding)`: its keys in order. -/
def findingText (finding : WorkloadTokenScanFinding) : String := jsonStringify (.object [
  ("code", .string finding.code.text),
  ("documentIndex", .number (.int finding.documentIndex)),
  ("fieldPath", .string finding.fieldPath),
  ("message", .string finding.message),
  ("resource", match finding.resource with | some resource => .string resource | none => .null),
  ("sourcePath", .string finding.sourcePath)])

def initialState (nowMs : ℤ) : ScanState := ⟨nowMs, [], [], 0, 0, 0, Record.empty, []⟩

def scanRenderedWorkloadTokens (rt : Runtime) (parse : YamlParser) (args : ScanArgs) :
    Except String WorkloadTokenScanReport := do
  let nowMs ← exactTimestamp args.scannedAt "scannedAt"
  throwUnless (!args.sources.isEmpty) "TOKEN_SCAN_SOURCE_EMPTY: at least one rendered source is required"
  let sources ← normalizeSources rt args.sources
  let state := validateExceptions args.exceptions (initialState nowMs)
  let state := reportUnused (sources.foldl (scanSource parse) state)
  let findings := rt.sortByKey findingText state.findings
  let sourceEvidence := sources.map fun source => SourceEvidence.mk source.path (rt.sha256 source.yaml)
  return {
    scannedAt := args.scannedAt
    sourceDigest := rt.sha256 (jsonStringify (.array (sourceEvidence.map fun evidence =>
      .object [("path", .string evidence.path), ("sha256", .string evidence.sha256)])))
    sources := sourceEvidence
    documentCount := (sources.map fun source => (parse source.yaml).length).sum
    resourceCount := state.resourceCount
    workloadCount := state.workloadCount
    serviceAccountCount := state.serviceAccountCount
    exceptionsUsed := state.exceptionsUsed.insertionSort (· ≤ ·)
    findings := findings
    pass := findings.isEmpty }

end SecureSaas.Scanner
