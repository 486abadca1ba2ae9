import SecureSaas.ManagementSeed.Graph

/-!
# What the policies of the management seed report (`managementSeedPolicies`)

A violation is given by its message. Where a policy throws, the message is that of the error.
-/

namespace SecureSaas.ManagementSeed

open Js

/-- `reportViolation(message)` in a branch of its own. -/
def reportIf (violated : Bool) (message : String) : List String := if violated then [message] else []

theorem reportIf_nil {violated : Bool} {message : String} : reportIf violated message = [] ↔ violated = false := by
  unfold reportIf
  cases violated <;> simp

/-- `value === text`. -/
def isText (value : Value) (text : String) : Bool :=
  match value with
  | .string s => s == text
  | _ => false

/-- `value === false`. -/
def isFalse : Value → Bool
  | .bool false => true
  | _ => false

/-- `canonicalJson` of a list of texts. -/
def namesJson (rt : Runtime) (names : List String) : Option (List Char) := canonicalJson rt (textItems names)

/-! ## One resource -/

def resourceTypeAllowlist (resource : PolicyResource) : List String :=
  reportIf (!admittedTypes.contains resource.id.type)
    s!"Resource type '{resource.id.type}' is outside the management-seed allowlist."

def resourceOptions (rt : Runtime) (resource : PolicyResource) : List String :=
  if resource.id.type = providerType then []
  else
    let expectedIgnoreChanges := if resource.id.type = accountType then ["roleName"] else []
    reportIf (!resource.protect) "Every management-seed resource must set protect=true." ++
      reportIf (namesJson rt (sortTexts resource.ignoreChanges) != namesJson rt expectedIgnoreChanges)
        "Only management-seed accounts may ignore exactly roleName changes."

/-- The texts of an array of texts, none for `undefined` and `null`. What is no such array has another text after
`JSON.stringify`, or cannot be spread. -/
def spreadTexts (value : Value) : Option (List String) :=
  match value with
  | .undefined | .null => some []
  | .array items => items.mapM fun item => match item with
    | .string s => some s
    | _ => none
  | _ => none

/-- `(value ?? []).length === 0`. -/
def hasNoLength (value : Value) : Bool :=
  match value with
  | .undefined | .null => true
  | .array items => items.isEmpty
  | .string s => s == ""
  | .object properties => match Value.get properties "length" with
    | .number (.int n) => n == 0
    | _ => false
  | _ => false

def organizationAllFeatures (resource : PolicyResource) : List String :=
  if resource.id.type ≠ organizationType then []
  else
    reportIf (!isText (resource.prop "featureSet") "ALL") "AWS Organizations featureSet must equal ALL." ++
      reportIf ((spreadTexts (resource.prop "enabledPolicyTypes")).map sortTexts !=
          some ["S3_POLICY", "SERVICE_CONTROL_POLICY"])
        "The management seed must enable exactly SERVICE_CONTROL_POLICY and S3_POLICY." ++
      reportIf (!hasNoLength (resource.prop "awsServiceAccessPrincipals"))
        "Organization aggregate service access must remain unset; standalone resources are the single owner."

def trustedServiceAccess (resource : PolicyResource) : List String :=
  if resource.id.type ≠ serviceAccessType then []
  else
    match toText (resource.prop "servicePrincipal") with
    | .error message => [message]
    | .ok principal => reportIf (!serviceAccessPrincipals.contains principal)
        "Organizations trusted access contains an unreviewed or RAM principal."

def accountRootlessHandoff (resource : PolicyResource) : List String :=
  if resource.id.type ≠ accountType then []
  else
    reportIf (!isText (resource.prop "roleName") "DeusOrganizationBootstrap")
        "Organization accounts must use DeusOrganizationBootstrap." ++
      reportIf (!isText (resource.prop "iamUserAccessToBilling") "DENY")
        "Organization accounts must deny IAM-user billing access." ++
      reportIf (!isFalse (resource.prop "closeOnDeletion")) "Organization accounts must not close on deletion."

/-- The document of a policy, `none` for a text that is no JSON. -/
def documentOf (host : Host) (content : Value) : Option Value :=
  match content with
  | .string text => host.jsonParse text
  | _ => some content

/-- `exactPolicyDocuments`. -/
def exactPolicyDocuments (rt : Runtime) : List (String × Option (List Char)) :=
  seedPolicies.map fun policy => (policy.1, canonicalJson rt policy.2.2)

def policyContent (host : Host) (resource : PolicyResource) : List String :=
  match documentOf host (resource.prop "content") with
  | none => ["Organization policy content must be valid JSON."]
  | some document =>
    if isText (resource.prop "type") "S3_POLICY" then
      reportIf (jsonStringify document != jsonStringify s3PublicAccessBlockDocument)
        "S3_POLICY must enforce all four Block Public Access settings."
    else
      let identity := (exactPolicyDocuments host.toRuntime).find? fun known => endsWith resource.id.name ("-" ++ known.1)
      reportIf (!identity.any fun known => canonicalJson host.toRuntime document == known.2)
        "Management-seed policies must match one exact canonical policy identity and document."

def policyDocumentPolicy (host : Host) (resource : PolicyResource) : List String :=
  if resource.id.type ≠ policyType then []
  else
    reportIf (!(isText (resource.prop "type") "SERVICE_CONTROL_POLICY" || isText (resource.prop "type") "S3_POLICY"))
      "Organization policies must be SERVICE_CONTROL_POLICY or S3_POLICY." ++ policyContent host resource

/-! ## The stack -/

/-- `/^([^@]+)@([a-z0-9](?:[a-z0-9.-]{0,251}[a-z0-9])?)$/`, with the local part that is expected. -/
def accountEmailMatches (value : Value) (expectedLocalPart : String) : Bool :=
  match value with
  | .string text =>
    let lowered := lowerCased text
    let localPart := lowered.takeWhile (· != '@')
    !localPart.isEmpty && localPart == expectedLocalPart.toList &&
      Pattern.fullMatch (.seq (.lit "@") (.seq (.cls isLowerAlnum)
        (.opt (.seq (.upTo (fun c => isLowerAlnum c || c == '.' || c == '-') 251) (.cls isLowerAlnum)))))
        (String.ofList (lowered.drop localPart.length))
  | _ => false

/-- The local part that a marked email must have. -/
def markedLocalPart (property : String) (expected : Value) : Option String :=
  match expected with
  | .string text =>
    if property = "email" ∧ startsWith text localPartMark = true then
      some (String.ofList (text.toList.drop localPartMark.toList.length))
    else none
  | _ => none

/-- The property has its reviewed value. -/
def propertyMatches (host : Host) (property : String) (actual expected : Value) : Bool :=
  match markedLocalPart property expected with
  | some expectedLocalPart => accountEmailMatches actual expectedLocalPart
  | none =>
    if property = "content" then canonicalPolicy host actual == canonicalPolicy host expected
    else canonicalJson host.toRuntime actual == canonicalJson host.toRuntime expected

def resourceDependencyNames (resource : PolicyResource) : List String :=
  sortTexts (resource.dependencies.map (·.name))

def resourcePropertyDependencyNames (rt : Runtime) (resource : PolicyResource) : Record (List String) :=
  normalizedDependencyMap rt (resource.propertyDependencies.mapValues fun refs => refs.map (·.name))

/-- `canonicalJson` of a map of names. -/
def namesMapJson (rt : Runtime) (names : Record (List String)) : Option (List Char) :=
  canonicalJson rt (.object (names.properties.map fun p => (p.1, textItems p.2)))

def unexpectedProps (resource : PolicyResource) (expected : ExpectedSeedResource) : List String :=
  sortTexts (resource.props.keys.filter fun property => !expected.allowedProps.contains property)

def resourceDrift (host : Host) (resource : PolicyResource) (expected : ExpectedSeedResource) : List String :=
  let name := resource.id.name
  let unexpected := unexpectedProps resource expected
  let names := ", ".intercalate unexpected
  reportIf (resource.id.type != expected.type) s!"Resource '{name}' type drifted." ++
    reportIf (!unexpected.isEmpty) s!"Resource '{name}' contains unreviewed input properties: {names}." ++
    (expected.props.entries.flatMap fun p =>
      reportIf (!propertyMatches host p.1 (resource.prop p.1) p.2) s!"Resource '{name}' property '{p.1}' drifted.") ++
    reportIf (namesJson host.toRuntime (resourceDependencyNames resource) !=
        namesJson host.toRuntime expected.dependencies)
      s!"Resource '{name}' dependencies drifted." ++
    reportIf (namesMapJson host.toRuntime (resourcePropertyDependencyNames host.toRuntime resource) !=
        namesMapJson host.toRuntime expected.propertyDependencies)
      s!"Resource '{name}' property dependencies drifted."

/-- The resources of the stack that are no providers. -/
def seedResources (stack : List PolicyResource) : List PolicyResource :=
  stack.filter fun resource => resource.id.type != providerType

/-- The graph against its resources, with the prefix of the organization's name. -/
def graphDrift (host : Host) (seedPrefix : String) (resources : List PolicyResource) : List String :=
  let expectedNames := if resources.length = 1 then [seedPrefix ++ "-organization"] else expectedResourceNames seedPrefix
  let actualNames := sortTexts (resources.map (·.id.name))
  let graph := expectedResourceGraph host.toRuntime seedPrefix
  reportIf (namesJson host.toRuntime actualNames != namesJson host.toRuntime expectedNames)
      "Management-seed resource identities or counts drifted." ++
    resources.flatMap fun resource =>
      match graph.get? resource.id.name with
      | none => []
      | some expected => resourceDrift host resource expected

def validateStack (host : Host) (stack : List PolicyResource) : List String :=
  let resources := seedResources stack
  match resources.filter fun resource => resource.id.type == organizationType with
  | [organization] =>
    match stripSuffix organization.id.name "-organization" with
    | none => ["The organization logical identity is not exact."]
    | some seedPrefix => graphDrift host seedPrefix resources
  | _ => ["The management seed must contain exactly one organization."]

/-- `managementSeedPolicies` on a stack. -/
def managementSeedReport (host : Host) (stack : List PolicyResource) : List String :=
  (stack.flatMap fun resource =>
    resourceTypeAllowlist resource ++ resourceOptions host.toRuntime resource ++ organizationAllFeatures resource ++
      trustedServiceAccess resource ++ accountRootlessHandoff resource ++ policyDocumentPolicy host resource) ++
    validateStack host stack

end SecureSaas.ManagementSeed
