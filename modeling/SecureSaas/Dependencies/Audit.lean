import SecureSaas.Js.Conversion
import SecureSaas.Js.Overwrites
import SecureSaas.PolicyPack.IamGuard
import SecureSaas.Js.Date

/-!
# The audit of dependencies (`dependencySecurity.ts`)

The report of an audit lists vulnerable packages, and each package the advisories and packages that it is vulnerable
through. The gate collects advisories in a map and compares them with reviewed exceptions.

* `extractAdvisories`: the advisories of a report.
* `evaluateDependencyAudit`: the gate.
-/

namespace SecureSaas.Dependencies

open Js

/-! ## Data -/

inductive Severity
  | info
  | low
  | moderate
  | high
  | critical
deriving DecidableEq

namespace Severity

def text : Severity → String
  | info => "info"
  | low => "low"
  | moderate => "moderate"
  | high => "high"
  | critical => "critical"

def all : List Severity := [info, low, moderate, high, critical]

/-- `severity.toUpperCase()`. -/
def upperText : Severity → String
  | info => "INFO"
  | low => "LOW"
  | moderate => "MODERATE"
  | high => "HIGH"
  | critical => "CRITICAL"

/-- `order.indexOf(severity)`. -/
def rank : Severity → ℕ
  | info => 0
  | low => 1
  | moderate => 2
  | high => 3
  | critical => 4

end Severity

structure DependencyException where
  advisoryId : String
  severity : Severity
  owner : String
  reason : String
  expiresAt : String
  compensatingControls : List String

structure DependencyAdvisory where
  advisoryId : String
  packageName : String
  severity : Severity
  title : String
  url : Option String

/-- The key of the map of advisories. -/
def DependencyAdvisory.key (advisory : DependencyAdvisory) : String := advisory.advisoryId ++ ":" ++ advisory.packageName

structure DependencyAuditEvaluation where
  advisories : List DependencyAdvisory
  accepted : List DependencyAdvisory
  failures : List String
  warnings : List String

/-! ## The report -/

def asRecord (value : Value) (label : String) : Except String (List (String × Value)) :=
  match value with
  | .object properties => .ok properties
  | _ => .error s!"{label} must be an object."

def normalizeSeverity (value : Value) (label : String) : Except String Severity := do
  let text ← toText (nullish value (.string ""))
  let severity := PolicyPack.lowerCase text
  match Severity.all.find? fun candidate => candidate.text.toList = severity with
  | some found => return found
  | none =>
    let shown := if severity = [] then "missing" else String.ofList severity
    throw s!"{label} has unsupported severity '{shown}'."

/-- `[...values].sort((left, right) => order.indexOf(right) - order.indexOf(left))[0]`. -/
def maximumSeverity (values : List Severity) : Option Severity :=
  (values.insertionSort fun left right => right.rank ≤ left.rank).head?

/-- `url.split("/").filter(Boolean).at(-1)`. -/
def lastSegment (url : String) : Option String :=
  ((url.toList.splitOn '/').filter fun part => part ≠ []).getLast?.map String.ofList

/-- The last segment of the advisory's address, or its source. -/
def viaAdvisoryId (packageName : String) (url : Option String) (source : Value) : Except String String :=
  match url.bind lastSegment with
  | some segment => .ok segment
  | none => do
    let shown ← toText (nullish source (.string packageName))
    return s!"npm-{shown}"

/-- The advisory of an object in a package's `via`. -/
def viaAdvisory (packageName : String) (severity : Severity) (advisory : List (String × Value)) :
    Except String DependencyAdvisory := do
  let url := match Value.get advisory "url" with
    | .string url => some url
    | _ => none
  let advisoryId ← viaAdvisoryId packageName url (Value.get advisory "source")
  let severity ← normalizeSeverity (nullish (Value.get advisory "severity") (.string severity.text))
    s!"advisory '{advisoryId}'"
  let title ← toText (nullish (Value.get advisory "title") (.string "Unnamed npm advisory"))
  return { advisoryId, packageName, severity, title, url }

/-- The advisories among the items of a package's `via`; what is neither an object nor a text is passed over. -/
def viaAdvisories (packageName : String) (severity : Severity) : List Value → Except String (List DependencyAdvisory)
  | [] => .ok []
  | .object advisory :: rest => do
    let entry ← viaAdvisory packageName severity advisory
    let entries ← viaAdvisories packageName severity rest
    return entry :: entries
  | _ :: rest => viaAdvisories packageName severity rest

/-- `value === undefined`. -/
def isUndefined : Value → Bool
  | .undefined => true
  | _ => false

def isString : Value → Bool
  | .string _ => true
  | _ => false

/-- A vulnerable package of the report. -/
structure VulnerablePackage where
  packageName : String
  severity : Severity
  concrete : List DependencyAdvisory
  foundString : Bool

namespace VulnerablePackage

/-- The entry for the package itself. -/
def transitive (package : VulnerablePackage) : DependencyAdvisory where
  advisoryId := s!"npm-package-{package.packageName}"
  packageName := package.packageName
  severity := package.severity
  title := s!"Transitive {package.severity.text} vulnerability reported for {package.packageName}"
  url := none

/-- The package is an entry of its own. -/
def isEntry (package : VulnerablePackage) : Bool :=
  package.concrete.isEmpty || package.foundString || package.severity = .high || package.severity = .critical

/-- What the package writes to the map, in order. -/
def findings (package : VulnerablePackage) : List DependencyAdvisory :=
  package.concrete ++ if package.isEntry then [package.transitive] else []

end VulnerablePackage

/-- One vulnerability of the report. -/
def readVulnerability (packageName : String) (rawVulnerability : Value) : Except String VulnerablePackage := do
  let vulnerability ← asRecord rawVulnerability s!"vulnerability '{packageName}'"
  let severity ← normalizeSeverity (Value.get vulnerability "severity") s!"vulnerability '{packageName}'"
  match Value.get vulnerability "via" with
  | .array via => do
    let concrete ← viaAdvisories packageName severity via
    let package : VulnerablePackage := { packageName, severity, concrete, foundString := via.any isString }
    throwUnless (package.isEntry || maximumSeverity (concrete.map (·.severity)) = some severity)
      s!"vulnerability '{packageName}' severity '{severity.text}' does not equal its maximum concrete advisory severity"
    return package
  | _ => throw s!"vulnerability '{packageName}' via must be an array."

def readVulnerabilities : List (String × Value) → Except String (List VulnerablePackage)
  | [] => .ok []
  | (packageName, rawVulnerability) :: rest => do
    let package ← readVulnerability packageName rawVulnerability
    let packages ← readVulnerabilities rest
    return package :: packages

/-- The vulnerable packages of a report. -/
def reportedPackages (report : Value) : Except String (List VulnerablePackage) := do
  let root ← asRecord report "audit report"
  let vulnerabilities ← asRecord (nullish (Value.get root "vulnerabilities") (.object []))
    "audit report vulnerabilities"
  readVulnerabilities (ownOrder vulnerabilities)

def assertAggregateMetadata (metadataValue : Value) (packageCounts : Severity → ℕ) : Except String Unit := do
  let metadata ← asRecord metadataValue "audit report metadata"
  let counts ← asRecord (Value.get metadata "vulnerabilities") "audit report metadata vulnerabilities"
  Severity.all.forM fun severity =>
    match Value.get counts severity.text with
    | .number (.int actual) => do
      throwUnless ((Number.int actual).isSafeInteger && decide (0 ≤ actual))
        s!"audit report metadata severity '{severity.text}' must be a non-negative integer."
      throwUnless (actual = (packageCounts severity : ℤ))
        s!"audit report metadata severity '{severity.text}' reports {actual} but {packageCounts severity} package vulnerabilities were parsed."
    | _ => throw s!"audit report metadata severity '{severity.text}' must be a non-negative integer."
  let total := (Severity.all.map packageCounts).sum
  match Value.get counts "total" with
  | .number (.int actual) =>
    throwUnless ((Number.int actual).isSafeInteger && actual = (total : ℤ))
      s!"audit report metadata total reports {actual} but {total} package vulnerabilities were parsed."
  | other => do
    let shown ← toText other
    throw s!"audit report metadata total reports {shown} but {total} package vulnerabilities were parsed."

def packageCounts (packages : List VulnerablePackage) (severity : Severity) : ℕ :=
  packages.countP fun package => package.severity = severity

/-- All that is written to the map of advisories, in order. -/
def findings (packages : List VulnerablePackage) : List DependencyAdvisory :=
  packages.flatMap VulnerablePackage.findings

def extractAdvisories (report : Value) : Except String (List DependencyAdvisory) := do
  let packages ← reportedPackages report
  let advisories := Record.fromEntries ((findings packages).map fun entry => (entry.key, entry))
  let root ← asRecord report "audit report"
  assertAggregateMetadata (Value.get root "metadata") (packageCounts packages)
  return advisories.properties.map Prod.snd

/-! ## Exceptions -/

/-- `String(value ?? "")`. -/
def textOrEmpty (value : Value) : Except String String := toText (nullish value (.string ""))

/-- `Date.parse`, which has no value for a text that is no date. -/
abbrev DateReader := String → Option ℤ

def exceptionSeverity (index : ℕ) : Value → Except String Severity
  | .string "low" => .ok .low
  | .string "moderate" => .ok .moderate
  | severity => do
    let shown ← toText severity
    throw s!"Dependency exception {index} cannot accept severity '{shown}'."

def parseException (parseDate : DateReader) (index : ℕ) (raw : Value) : Except String DependencyException := do
  let entry ← asRecord raw s!"dependency exception {index}"
  let severity ← exceptionSeverity index (Value.get entry "severity")
  match Value.get entry "compensatingControls" with
  | .array controls => do
    let advisoryId ← textOrEmpty (Value.get entry "advisoryId")
    let expiresAt ← textOrEmpty (Value.get entry "expiresAt")
    throwUnless (hasText advisoryId) s!"Dependency exception {index} requires advisoryId."
    throwUnless (parseDate expiresAt).isSome s!"Dependency exception '{advisoryId}' has an invalid expiresAt value."
    let compensatingControls ← controls.mapM toText
    throwUnless (compensatingControls.all hasText)
      s!"Dependency exception '{advisoryId}' contains an empty compensating control."
    let owner ← textOrEmpty (Value.get entry "owner")
    let reason ← textOrEmpty (Value.get entry "reason")
    return { advisoryId, severity, owner, reason, expiresAt, compensatingControls }
  | _ => throw s!"Dependency exception {index} requires compensatingControls."

def parseExceptions (parseDate : DateReader) (index : ℕ) : List Value → Except String (List DependencyException)
  | [] => .ok []
  | raw :: rest => do
    let exception ← parseException parseDate index raw
    let exceptions ← parseExceptions parseDate (index + 1) rest
    return exception :: exceptions

def parseExceptionFile (parseDate : DateReader) (value : Value) : Except String (List DependencyException) := do
  let input ← asRecord value "dependency exception file"
  match Value.get input "schemaVersion", Value.get input "exceptions" with
  | .number (.int 1), .array entries => do
    let exceptions ← parseExceptions parseDate 0 entries
    throwUnless (decide (exceptions.map (·.advisoryId)).Nodup) "Dependency exception advisory IDs must be unique."
    return exceptions
  | _, _ => throw "Dependency exception file must use schemaVersion 1 and contain an exceptions array."

/-! ## The gate -/

def exceptionFailures (parseDate : DateReader) (now : ℤ) (exception : DependencyException) : List String :=
  (if (parseDate exception.expiresAt).any fun expiresAt => decide (expiresAt ≤ now) then
    [s!"Dependency exception '{exception.advisoryId}' expired at {exception.expiresAt}."] else []) ++
  if !hasText exception.owner || !hasText exception.reason || exception.compensatingControls.isEmpty then
    [s!"Dependency exception '{exception.advisoryId}' requires an owner, reason, and compensating controls."] else []

def advisoryFailures (exceptionById : Record DependencyException) (advisory : DependencyAdvisory) : List String :=
  if advisory.severity = .critical ∨ advisory.severity = .high then
    [s!"{advisory.severity.upperText} dependency advisory {advisory.advisoryId} affects {advisory.packageName}: {advisory.title}"]
  else if advisory.severity = .moderate then
    match exceptionById.get? advisory.advisoryId with
    | none => [s!"Moderate dependency advisory {advisory.advisoryId} is not covered by a reviewed exception."]
    | some exception =>
      if exception.severity ≠ .moderate then
        [s!"Dependency exception '{exception.advisoryId}' declares severity '{exception.severity.text}' but the audit reports 'moderate'."]
      else []
  else []

def isAccepted (parseDate : DateReader) (now : ℤ) (exceptionById : Record DependencyException)
    (advisory : DependencyAdvisory) : Bool :=
  advisory.severity = .moderate && (exceptionById.get? advisory.advisoryId).any fun exception =>
    exception.severity = .moderate && (parseDate exception.expiresAt).any fun expiresAt => decide (now < expiresAt)

def evaluateDependencyAudit (parseDate : DateReader) (report exceptionFile : Value) (now : ℤ) :
    Except String DependencyAuditEvaluation := do
  let auditReport ← asRecord report "audit report"
  throwUnless (isUndefined (Value.get auditReport "error"))
    "npm audit returned an error instead of an advisory report."
  let exceptions ← parseExceptionFile parseDate exceptionFile
  let advisories ← extractAdvisories (.object auditReport)
  let exceptionById := Record.fromEntries (exceptions.map fun entry => (entry.advisoryId, entry))
  let advisoryIds := advisories.map (·.advisoryId)
  return {
    advisories
    accepted := advisories.filter (isAccepted parseDate now exceptionById)
    failures := distinct (exceptions.flatMap (exceptionFailures parseDate now) ++
      advisories.flatMap (advisoryFailures exceptionById))
    warnings := (exceptions.filter fun exception => exception.advisoryId ∉ advisoryIds).map fun exception =>
      s!"Dependency exception '{exception.advisoryId}' is stale because the advisory is no longer present." }

end SecureSaas.Dependencies
