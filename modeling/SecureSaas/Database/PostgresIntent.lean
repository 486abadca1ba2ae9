import SecureSaas.Database.ManagedPostgres
import SecureSaas.Js.Parse
import SecureSaas.Js.TextOrder

/-!
# Parsing an intent of managed Postgres (`parseManagedPostgresIntent`)

The parser knows two versions: a binding of `v1alpha1` names its tenant, one of `v1alpha2` has a tenancy record.
Everything else of a binding is read in the same way.

* `objectValue_ok`: an accepted object has just the allowed fields.
* `nameValue_ok`: an accepted name is the string it was read from.
-/

namespace SecureSaas.Database

open Js Blueprint

/-! ## Checks of values -/

def objectValue (value : Value) (path : String) (allowed : List String) : Except String (List (String × Value)) :=
  match value with
  | .object properties => do
    let missing := allowed.filter fun field => !Value.has properties field
    let unknown := (properties.map Prod.fst).filter fun field => !allowed.contains field
    throwUnless missing.isEmpty (path ++ " is missing field(s): " ++ ", ".intercalate missing ++ ".")
    throwUnless unknown.isEmpty (path ++ " contains unknown field '" ++ (sortTexts unknown).headD "" ++ "'.")
    pure properties
  | _ => .error s!"{path} must be an object."

theorem objectValue_ok {value : Value} {path : String} {allowed : List String} {properties : List (String × Value)} :
    objectValue value path allowed = .ok properties ↔ value = .object properties ∧
      (∀ field ∈ allowed, Value.has properties field = true) ∧ ∀ p ∈ properties, p.1 ∈ allowed := by
  cases value with
  | object found =>
    simp only [objectValue, bind_ok, pure_ok, throwUnless_ok, exists_unit, List.isEmpty_iff, List.filter_eq_nil_iff,
      List.forall_mem_map, Bool.not_eq_true', Bool.not_eq_false, List.contains_iff_mem, Value.object.injEq]
    constructor
    · rintro ⟨hmissing, hunknown, rfl⟩
      exact ⟨rfl, fun field hfield => by simpa using hmissing field hfield, fun p hp => by simpa using hunknown p hp⟩
    · rintro ⟨rfl, hmissing, hunknown⟩
      exact ⟨fun field hfield => by simp [hmissing field hfield], fun p hp => by simp [hunknown p hp], rfl⟩
  | _ => simp [objectValue]

variable {α : Type}

/-- An array with an item at least. -/
def arrayValue (parser : Check String α) : Check String (List α) := fun value path =>
  match value with
  | .array (entry :: rest) => parseEntries parser path 0 (entry :: rest)
  | _ => .error s!"{path} must be a non-empty array."

def uniqueArray (parser : Check String String) : Check String (List String) := fun value path => do
  let parsed ← arrayValue parser value path
  throwUnless (decide parsed.Nodup) s!"{path} must contain unique values."
  pure parsed

/-- A string that is more than white space. -/
def stringValue : Check String String := fun value path =>
  match value with
  | .string text => if hasText text then .ok text else .error s!"{path} must be a non-empty string."
  | _ => .error s!"{path} must be a non-empty string."

/-- A string that passes a test. -/
def testedValue (test : String → Bool) (requirement : String) : Check String String := fun value path => do
  let parsed ← stringValue value path
  throwUnless (test parsed) s!"{path} must be {requirement}."
  pure parsed

def nameValue : Check String String := testedValue isName "a lowercase bounded name"

theorem isName_hasText {name : String} (h : isName name = true) : hasText name = true :=
  hasText_lowerAlnum (Bool.and_eq_true_iff.1 h).2

theorem isName_ne {name : String} (h : isName name = true) : name ≠ "" := by
  rintro rfl
  exact absurd (isName_hasText h) (by decide)

theorem nameValue_ok {value : Value} {path name : String} :
    nameValue value path = .ok name ↔ value = .string name ∧ isName name = true := by
  unfold nameValue testedValue stringValue
  cases value with
  | string text =>
    by_cases htext : hasText text = true
    · simp only [htext, if_true, bind_ok, pure_ok, throwUnless_ok, exists_unit, Except.ok.injEq, exists_eq_left',
        Value.string.injEq]
      constructor
      · rintro ⟨hname, rfl⟩
        exact ⟨rfl, hname⟩
      · rintro ⟨rfl, hname⟩
        exact ⟨hname, rfl⟩
    · simp only [htext, if_false, bind_ok, Value.string.injEq, reduceCtorEq, false_and, exists_false, false_iff]
      rintro ⟨rfl, h⟩
      exact htext (isName_hasText h)
  | _ => simp

section Patterns
open Pattern

/-- `/^[a-z][a-z0-9_]{0,62}$/`. -/
def isSqlName (text : String) : Bool :=
  fullMatch (seq (cls isLowerLetter) (upTo (fun c => isLowerAlnum c || c == '_') 62)) text

/-- `/^[a-z][a-z0-9_-]{0,62}$/`. -/
def isExtensionName (text : String) : Bool :=
  fullMatch (seq (cls isLowerLetter) (upTo (fun c => isLowerAlnum c || c == '_' || c == '-') 62)) text

/-- `/^[1-9][0-9]*$/`. -/
def isIntegerString (text : String) : Bool :=
  fullMatch (seq (cls fun c => isDecimal c && c != '0') (many isDecimal)) text

/-- `/^\d+\.\d+\.\d+$/`. -/
def isSemver (text : String) : Bool :=
  fullMatch (seq (many1 isDecimal) (seq (lit ".") (seq (many1 isDecimal) (seq (lit ".") (many1 isDecimal))))) text

end Patterns

def sqlNameValue : Check String String := testedValue isSqlName "a safe PostgreSQL identifier"

def extensionNameValue : Check String String := testedValue isExtensionName "a safe PostgreSQL extension name"

def integerStringValue : Check String String := testedValue isIntegerString "a positive integer string"

def semverValue : Check String String := testedValue isSemver "an exact semantic version"

def integerValue (minimum maximum : ℤ) : Check String ℤ := fun value path =>
  match value with
  | .number (.int n) => do
    throwUnless (decide (minimum ≤ n) && decide (n ≤ maximum))
      s!"{path} must be an integer from {minimum} to {maximum}."
    pure n
  | _ => .error s!"{path} must be an integer from {minimum} to {maximum}."

/-- A member that is one text. -/
def literalText (expected : String) (value : Value) (path : String) : Except String Unit := do
  let _ ← literal id expected value path

/-- A member that is one boolean. -/
def literalFlag (expected : Bool) (value : Value) (path : String) : Except String Unit := do
  let _ ← literalBoolean id expected value path

def literalNumber (expected : ℤ) (value : Value) (path : String) : Except String Unit :=
  match value with
  | .number (.int n) => throwUnless (n == expected) s!"{path} must be '{expected}'."
  | _ => .error s!"{path} must be '{expected}'."

def trueValue := literalFlag true

def falseValue := literalFlag false

/-! ## A binding -/

def bindingFields : ManagedPostgresApiVersion → List String
  | .v1alpha1 => ["id", "tenantId", "dataBoundaryId", "codefly", "database", "provisioning", "access", "outputs", "audit"]
  | .v1alpha2 => ["id", "tenancy", "dataBoundaryId", "codefly", "database", "provisioning", "access", "outputs", "audit"]

/-- The objects inside a binding. -/
structure BindingObjects where
  codefly : List (String × Value)
  database : List (String × Value)
  provisioning : List (String × Value)
  access : List (String × Value)
  networkAccess : List (String × Value)
  outputs : List (String × Value)
  audit : List (String × Value)

def bindingObjects (input : List (String × Value)) (path : String) : Except String BindingObjects := do
  let codefly ← objectValue (Value.get input "codefly") s!"{path}.codefly" ["workspace", "module", "service"]
  let database ← objectValue (Value.get input "database") s!"{path}.database"
    ["name", "engine", "majorVersion", "port", "extensions"]
  let provisioning ← objectValue (Value.get input "provisioning") s!"{path}.provisioning"
    ["requestedBy", "owner", "serviceClass", "networkExposure", "multiZone", "customerManagedEncryption",
      "deletionProtection", "pointInTimeRecovery", "backupRetentionDays", "restoreTestIntervalDays"]
  let access ← objectValue (Value.get input "access") s!"{path}.access"
    ["runtimeIdentityId", "migrationIdentityId", "networkAccess", "authentication", "tlsMode", "credentialDelivery",
      "adminCredentialsExposed", "separateMigrationIdentity"]
  let networkAccess ← objectValue (Value.get access "networkAccess") s!"{path}.access.networkAccess"
    ["mode", "runtimeBoundaryId", "migrationBoundaryId", "separateBoundaries", "allowNetworkCidr"]
  let outputs ← objectValue (Value.get input "outputs") s!"{path}.outputs"
    ["endpoint", "port", "databaseName", "caBundle", "runtimeIdentity", "migrationIdentity", "credentials"]
  let audit ← objectValue (Value.get input "audit") s!"{path}.audit"
    ["immutable", "denialEvents", "accessEvidence", "provisioningEvidence"]
  return { codefly, database, provisioning, access, networkAccess, outputs, audit }

/-- The tenancy record of a binding of `v1alpha2`. -/
def tenancyObject (apiVersion : ManagedPostgresApiVersion) (input : List (String × Value)) (path : String) :
    Except String (Option (List (String × Value))) :=
  match apiVersion with
  | .v1alpha2 => do
    let tenancy ← objectValue (Value.get input "tenancy") s!"{path}.tenancy"
      ["organizationId", "platformTenantId", "applicationId", "resourceOwnerId"]
    return some tenancy
  | .v1alpha1 => return none

def parseTenantId (input : List (String × Value)) (tenancy : Option (List (String × Value))) (path : String) :
    Except String String :=
  match tenancy with
  | some tenancy => nameValue (Value.get tenancy "applicationId") s!"{path}.tenancy.applicationId"
  | none => nameValue (Value.get input "tenantId") s!"{path}.tenantId"

def parseTenancy (tenancy : Option (List (String × Value))) (tenantId path : String) :
    Except String (Option ManagedPostgresTenancy) :=
  match tenancy with
  | some tenancy => do
    let organizationId ← nameValue (Value.get tenancy "organizationId") s!"{path}.tenancy.organizationId"
    let platformTenantId ← nameValue (Value.get tenancy "platformTenantId") s!"{path}.tenancy.platformTenantId"
    let resourceOwnerId ← nameValue (Value.get tenancy "resourceOwnerId") s!"{path}.tenancy.resourceOwnerId"
    return some { organizationId, platformTenantId, applicationId := tenantId, resourceOwnerId }
  | none => return none

def parseService (codefly : List (String × Value)) (path : String) : Except String ManagedPostgresService := do
  let workspaceName ← nameValue (Value.get codefly "workspace") s!"{path}.workspace"
  let moduleName ← nameValue (Value.get codefly "module") s!"{path}.module"
  let serviceName ← nameValue (Value.get codefly "service") s!"{path}.service"
  return { workspaceName, moduleName, serviceName }

def parseDatabase (database : List (String × Value)) (path : String) : Except String ManagedPostgresDatabase := do
  let name ← sqlNameValue (Value.get database "name") s!"{path}.name"
  literalText "postgresql" (Value.get database "engine") s!"{path}.engine"
  let majorVersion ← integerStringValue (Value.get database "majorVersion") s!"{path}.majorVersion"
  literalNumber 5432 (Value.get database "port") s!"{path}.port"
  let extensions ← uniqueArray extensionNameValue (Value.get database "extensions") s!"{path}.extensions"
  return { name, majorVersion, extensions }

def parseProvisioning (provisioning : List (String × Value)) (path : String) :
    Except String ManagedPostgresProvisioning := do
  literalText "codefly-postgres-plugin" (Value.get provisioning "requestedBy") s!"{path}.requestedBy"
  literalText "provider-adapter" (Value.get provisioning "owner") s!"{path}.owner"
  literalText "managed-postgresql" (Value.get provisioning "serviceClass") s!"{path}.serviceClass"
  literalText "private" (Value.get provisioning "networkExposure") s!"{path}.networkExposure"
  trueValue (Value.get provisioning "multiZone") s!"{path}.multiZone"
  trueValue (Value.get provisioning "customerManagedEncryption") s!"{path}.customerManagedEncryption"
  trueValue (Value.get provisioning "deletionProtection") s!"{path}.deletionProtection"
  trueValue (Value.get provisioning "pointInTimeRecovery") s!"{path}.pointInTimeRecovery"
  let backupRetentionDays ←
    integerValue 1 35 (Value.get provisioning "backupRetentionDays") s!"{path}.backupRetentionDays"
  let restoreTestIntervalDays ←
    integerValue 1 365 (Value.get provisioning "restoreTestIntervalDays") s!"{path}.restoreTestIntervalDays"
  return { backupRetentionDays, restoreTestIntervalDays }

def parseNetworkAccess (networkAccess : List (String × Value)) (path : String) :
    Except String ManagedPostgresNetworkAccess := do
  literalText "explicit-source-boundaries" (Value.get networkAccess "mode") s!"{path}.mode"
  let runtimeBoundaryId ← nameValue (Value.get networkAccess "runtimeBoundaryId") s!"{path}.runtimeBoundaryId"
  let migrationBoundaryId ← nameValue (Value.get networkAccess "migrationBoundaryId") s!"{path}.migrationBoundaryId"
  trueValue (Value.get networkAccess "separateBoundaries") s!"{path}.separateBoundaries"
  falseValue (Value.get networkAccess "allowNetworkCidr") s!"{path}.allowNetworkCidr"
  return { runtimeBoundaryId, migrationBoundaryId }

def parseAccess (access networkAccess : List (String × Value)) (path : String) :
    Except String ManagedPostgresAccess := do
  let runtimeIdentityId ← nameValue (Value.get access "runtimeIdentityId") s!"{path}.runtimeIdentityId"
  let migrationIdentityId ← nameValue (Value.get access "migrationIdentityId") s!"{path}.migrationIdentityId"
  let networkAccess ← parseNetworkAccess networkAccess s!"{path}.networkAccess"
  literalText "workload-identity" (Value.get access "authentication") s!"{path}.authentication"
  literalText "verify-full" (Value.get access "tlsMode") s!"{path}.tlsMode"
  literalText "reference-only" (Value.get access "credentialDelivery") s!"{path}.credentialDelivery"
  falseValue (Value.get access "adminCredentialsExposed") s!"{path}.adminCredentialsExposed"
  trueValue (Value.get access "separateMigrationIdentity") s!"{path}.separateMigrationIdentity"
  return { runtimeIdentityId, migrationIdentityId, networkAccess }

/-- The members of the outputs are all fixed. -/
def parseOutputs (outputs : List (String × Value)) (path : String) : Except String Unit := do
  literalText "reference" (Value.get outputs "endpoint") s!"{path}.endpoint"
  literalText "value" (Value.get outputs "port") s!"{path}.port"
  literalText "value" (Value.get outputs "databaseName") s!"{path}.databaseName"
  literalText "reference" (Value.get outputs "caBundle") s!"{path}.caBundle"
  literalText "reference" (Value.get outputs "runtimeIdentity") s!"{path}.runtimeIdentity"
  literalText "reference" (Value.get outputs "migrationIdentity") s!"{path}.migrationIdentity"
  literalText "never" (Value.get outputs "credentials") s!"{path}.credentials"

def parseAudit (audit : List (String × Value)) (path : String) : Except String Unit := do
  trueValue (Value.get audit "immutable") s!"{path}.immutable"
  trueValue (Value.get audit "denialEvents") s!"{path}.denialEvents"
  trueValue (Value.get audit "accessEvidence") s!"{path}.accessEvidence"
  trueValue (Value.get audit "provisioningEvidence") s!"{path}.provisioningEvidence"

/-- The members of a binding after its tenancy. -/
def bindingMembers (id tenantId : String) (tenancy : Option ManagedPostgresTenancy) (dataBoundaryId : Value)
    (objects : BindingObjects) (path : String) : Except String ManagedPostgresBinding := do
  let dataBoundaryId ← nameValue dataBoundaryId s!"{path}.dataBoundaryId"
  let codefly ← parseService objects.codefly s!"{path}.codefly"
  let database ← parseDatabase objects.database s!"{path}.database"
  let provisioning ← parseProvisioning objects.provisioning s!"{path}.provisioning"
  let access ← parseAccess objects.access objects.networkAccess s!"{path}.access"
  parseOutputs objects.outputs s!"{path}.outputs"
  parseAudit objects.audit s!"{path}.audit"
  return { id, tenantId, tenancy, dataBoundaryId, codefly, database, provisioning, access }

def parseBinding (apiVersion : ManagedPostgresApiVersion) : Check String ManagedPostgresBinding :=
  fun value path => do
    let input ← objectValue value path (bindingFields apiVersion)
    let objects ← bindingObjects input path
    let tenancyInput ← tenancyObject apiVersion input path
    let tenantId ← parseTenantId input tenancyInput path
    let id ← nameValue (Value.get input "id") s!"{path}.id"
    let tenancy ← parseTenancy tenancyInput tenantId path
    bindingMembers id tenantId tenancy (Value.get input "dataBoundaryId") objects path

/-! ## The whole intent -/

def parseApiVersion (value : Value) : Except String ManagedPostgresApiVersion := do
  let apiVersion ← stringValue value "apiVersion"
  if apiVersion = ManagedPostgresApiVersion.v1alpha1.text then return .v1alpha1
  else if apiVersion = ManagedPostgresApiVersion.v1alpha2.text then return .v1alpha2
  else
    let expected := s!"'{ManagedPostgresApiVersion.v1alpha1.text}' or '{ManagedPostgresApiVersion.v1alpha2.text}'"
    .error s!"managedPostgres.apiVersion must be {expected}."

/-- The members of the broker are all fixed. -/
def parseBroker (broker : List (String × Value)) : Except String Unit := do
  literalText "security.deus.dev/resource-broker/v1alpha1" (Value.get broker "apiVersion") "broker.apiVersion"
  literalText "ManagedPostgres" (Value.get broker "resourceKind") "broker.resourceKind"
  literalText "capability" (Value.get broker "authorization") "broker.authorization"
  trueValue (Value.get broker "tenantBindingRequired") "broker.tenantBindingRequired"
  trueValue (Value.get broker "idempotencyRequired") "broker.idempotencyRequired"
  falseValue (Value.get broker "directProviderCredentials") "broker.directProviderCredentials"

def parsePlugin (plugin : List (String × Value)) : Except String ManagedPostgresPlugin := do
  let publisher ← nameValue (Value.get plugin "publisher") "plugin.publisher"
  literalText "postgres" (Value.get plugin "name") "plugin.name"
  let version ← semverValue (Value.get plugin "version") "plugin.version"
  return { publisher, version }

/-- The members of an intent, before it is checked as a whole. -/
def intentMembers (value : Value) (environment : ManagedPostgresEnvironment) : Except String ManagedPostgresIntent := do
  let root ← objectValue value "managedPostgres" ["apiVersion", "name", "broker", "plugin", "bindings"]
  let apiVersion ← parseApiVersion (Value.get root "apiVersion")
  let brokerInput ← objectValue (Value.get root "broker") "broker"
    ["apiVersion", "resourceKind", "authorization", "tenantBindingRequired", "idempotencyRequired",
      "directProviderCredentials"]
  let pluginInput ← objectValue (Value.get root "plugin") "plugin" ["publisher", "name", "version"]
  let name ← nameValue (Value.get root "name") "name"
  parseBroker brokerInput
  let plugin ← parsePlugin pluginInput
  let bindings ← arrayValue (parseBinding apiVersion) (Value.get root "bindings") "bindings"
  return { apiVersion, name, environment, plugin, bindings }

def parseManagedPostgresIntent (dates : Dates) (value : Value) (environment : ManagedPostgresEnvironment)
    (blueprint : Option PlatformBlueprint) : Except String ManagedPostgresIntent := do
  let intent ← intentMembers value environment
  assertManagedPostgresIntent dates intent blueprint
  return intent

end SecureSaas.Database
