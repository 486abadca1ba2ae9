import SecureSaas.Cluster
import SecureSaas.Codefly.ControlPlane
import SecureSaas.Codefly.ProductTopology

/-!
# The options of a product rendering (`src/adapters/codefly/productSecurityRenderer.ts`)

What a plan is rendered with: the options and their checks, the labels that names are made of, and the
components that depend on one another.
-/

namespace SecureSaas.Codefly.Product

open Js Blueprint Cluster

/-! ## Labels -/

/-- `value` in lower case, with single dashes for what is no letter or digit and none at the ends. -/
def normalizedLabel (value : String) : List Char := trimDash (collapseDashes false (lowerDashed value))

/-- The first 54 characters of a label that is too long, without a dash at their end. -/
def labelStem (value : String) : List Char :=
  let kept := (normalizedLabel value).take 54
  if kept.getLast? = some '-' then kept.dropLast else kept

def dnsLabel (rt : Runtime) (value : String) : String :=
  if (normalizedLabel value).length ≤ 63 then String.ofList (normalizedLabel value)
  else String.ofList (labelStem value ++ '-' :: labelTag rt value)

/-- `/^[a-z0-9](?:[a-z0-9-]*[a-z0-9])?$/`. -/
def isDnsLabel (value : String) : Bool :=
  Pattern.fullMatch (.seq (.cls isLowerAlnum) (.opt (.seq (.many isLabelChar) (.cls isLowerAlnum)))) value

def assertDnsLabel (value label : String) : Except String Unit :=
  throwUnless (decide (stringLength value ≤ 63) && isDnsLabel value) s!"Codefly product {label} must be a DNS label."

/-! ## Options -/

structure CodeflyProductIngress where
  namespaceName : String
  serviceAccount : String
deriving DecidableEq

structure CodeflyProductImageVerification where
  issuer : String
  subject : String
  rekorUrl : Option String

structure CodeflyProductSecurityRenderOptions where
  environmentName : String
  images : Record String
  serviceOverlayPaths : Option (Record String)
  ingress : Option CodeflyProductIngress
  workloadIdentityAnnotations : Option (Record (Record String))
  imageVerification : CodeflyProductImageVerification
  trustDomain : Option String

def productServiceKey (deploymentId componentId service : String) : String := s!"{deploymentId}/{componentId}/{service}"

def productComponentKey (deploymentId componentId : String) : String := s!"{deploymentId}/{componentId}"

def Member.key (member : Member) : String := productComponentKey member.workspace.deploymentId member.component.componentId

def Member.serviceKeys (member : Member) : List String := member.component.services.map fun service =>
  productServiceKey member.workspace.deploymentId member.component.componentId service.name

/-- `options.workloadIdentityAnnotations ?? {}`. -/
def CodeflyProductSecurityRenderOptions.annotations (options : CodeflyProductSecurityRenderOptions) :
    Record (Record String) :=
  options.workloadIdentityAnnotations.getD Record.empty

def assertExactKeys (label : String) (expected observed : List String) : Except String Unit :=
  let left := sorted expected.eraseDups
  let right := sorted observed.eraseDups
  let leftNames := ", ".intercalate left
  let rightNames := ", ".intercalate right
  throwUnless (left = right)
    s!"Codefly product {label} keys mismatch; expected [{leftNames}], observed [{rightNames}]."

/-- The segments of a path. -/
def segments (path : String) : List String := (path.toList.splitOn '/').map String.ofList

def isSafeRelativePath (value : String) : Bool :=
  decide (value ≠ "") && !startsWith value "/" && !(segments value).contains ".." && !value.toList.contains '\\'

def identityKeys : List String :=
  ["eks.amazonaws.com/role-arn", "iam.gke.io/gcp-service-account", "azure.workload.identity/client-id"]

/-- One annotation of a component; `cloudIdentities` maps the identities so far to their owners. -/
def assertIdentityPair (componentKey : String) (cloudIdentities : Record String) (pair : String × String) :
    Except String (Record String) := do
  let (key, value) := pair
  throwUnless (hasText key && hasText value)
    s!"Codefly product workload identity annotation '{componentKey}' must not be empty."
  if !identityKeys.contains key then .ok cloudIdentities
  else match truthy (cloudIdentities.get? value) with
    | none => .ok (cloudIdentities.set value componentKey)
    | some owner =>
      throwUnless (owner = componentKey)
        s!"Codefly product cloud identity '{value}' cannot be shared by '{owner}' and '{componentKey}'."
      .ok (cloudIdentities.set value componentKey)

def assertAnnotations (cloudIdentities : Record String) (entry : String × Record String) : Except String (Record String) :=
  entry.2.entries.foldlM (assertIdentityPair entry.1) cloudIdentities

def assertImage (images : Record String) (key : String) : Except String Unit :=
  throwUnless ((images.get? key).any isDigestPinned) s!"Codefly product service '{key}' requires a digest-pinned image."

def assertOverlays (expectedServices : List String) (serviceOverlayPaths : Record String) : Except String Unit := do
  assertExactKeys "service overlay" expectedServices serviceOverlayPaths.keys
  serviceOverlayPaths.entries.forM fun (key, value) =>
    throwUnless (isSafeRelativePath value)
      s!"Codefly product service overlay '{key}' must be a safe relative path."

def assertIngress (ingress : CodeflyProductIngress) : Except String Unit := do
  assertDnsLabel ingress.namespaceName "ingress namespace"
  assertDnsLabel ingress.serviceAccount "ingress service account"

def validateOptions (plan : CodeflyProductTopologyPlan) (options : CodeflyProductSecurityRenderOptions) :
    Except String Unit := do
  assertDnsLabel options.environmentName "environment name"
  throwUnless (hasText options.imageVerification.issuer) "Codefly product image verification requires an issuer."
  throwUnless (hasText options.imageVerification.subject) "Codefly product image verification requires a subject."
  options.ingress.toList.forM assertIngress
  let expectedServices := plan.members.flatMap Member.serviceKeys
  assertExactKeys "image" expectedServices options.images.keys
  expectedServices.forM (assertImage options.images)
  options.serviceOverlayPaths.toList.forM (assertOverlays expectedServices)
  let expectedComponents := plan.members.map Member.key
  options.annotations.keys.forM fun key =>
    throwUnless (expectedComponents.contains key)
      s!"Codefly product workload identity annotations contain unknown component '{key}'."
  let _ ← options.annotations.entries.foldlM assertAnnotations Record.empty
  throwUnless (!(plan.members.any fun member => member.component.ingress = .publicIngress) || options.ingress.isSome)
    "Codefly public product components require an ingress identity."

/-! ## Names -/

def Member.namespaceText (member : Member) (environmentName : String) : String :=
  s!"{member.workspace.workspaceName}-{member.component.moduleName}-{environmentName}"

def Member.namespaceName (rt : Runtime) (member : Member) (environmentName : String) : String :=
  dnsLabel rt (member.namespaceText environmentName)

def workloadText (deploymentId componentId : String) : String := s!"{deploymentId}-{componentId}-workload"

def Member.serviceAccount (rt : Runtime) (member : Member) : String :=
  dnsLabel rt (workloadText member.workspace.deploymentId member.component.componentId)

def Member.root (member : Member) (environmentName : String) : String :=
  s!"workspaces/{member.workspace.workspaceName}/modules/{member.component.moduleName}/security/{environmentName}"

def principal (options : CodeflyProductSecurityRenderOptions) (namespaceName serviceAccount : String) : String :=
  let trustDomain := options.trustDomain.getD "cluster.local"
  s!"{trustDomain}/ns/{namespaceName}/sa/{serviceAccount}"

/-! ## Endpoints -/

structure EndpointRef where
  deploymentId : String
  componentId : String
  namespaceName : String
  name : String

def EndpointRef.target (endpoint : EndpointRef) : Target := ⟨endpoint.deploymentId, endpoint.componentId⟩

inductive Scope
  | internal
  | external
deriving DecidableEq

def Scope.text : Scope → String
  | .internal => "internal"
  | .external => "external"

def endpointText (scope : Scope) (deploymentId componentId : String) : String :=
  s!"{scope.text}-{deploymentId}-{componentId}"

def endpointRef (rt : Runtime) (plan : CodeflyProductTopologyPlan) (environmentName deploymentId componentId : String)
    (scope : Scope) : Except String EndpointRef :=
  let workspace := plan.workspaces.find? fun candidate => candidate.deploymentId = deploymentId
  let component := workspace.bind fun workspace =>
    workspace.components.find? fun candidate => candidate.componentId = componentId
  match workspace, component with
  | some workspace, some component =>
    .ok
      { deploymentId := deploymentId
        componentId := componentId
        namespaceName := (Member.mk workspace component).namespaceName rt environmentName
        name := dnsLabel rt (endpointText scope deploymentId componentId) }
  | _, _ => .error s!"Codefly product dependency references missing component '{deploymentId}/{componentId}'."

/-- `[...new Map(values.map((value) => [key, value])).values()]`. -/
def uniqueEndpoints (values : List EndpointRef) : List EndpointRef :=
  (Record.fromEntries (values.map fun value => (productComponentKey value.deploymentId value.componentId, value))).properties.map
    Prod.snd

def outgoingTargets (rt : Runtime) (plan : CodeflyProductTopologyPlan) (environmentName : String) (member : Member) :
    Except String (List EndpointRef) := do
  let outgoing := member.workspace.componentDependencies.filter fun dependency =>
    dependency.fromComponentId = member.component.componentId
  let internal ← outgoing.mapM fun dependency =>
    endpointRef rt plan environmentName member.workspace.deploymentId dependency.toComponentId .internal
  let crossing := member.workspace.dependencies.filter fun dependency =>
    dependency.fromComponentId = member.component.componentId
  let external ← crossing.mapM fun dependency =>
    endpointRef rt plan environmentName dependency.toDeploymentId dependency.toComponentId .external
  .ok (uniqueEndpoints (internal ++ external))

/-- What a workspace has of callers of the member. -/
def candidateCallers (rt : Runtime) (plan : CodeflyProductTopologyPlan) (environmentName : String) (member : Member)
    (candidate : CodeflyProductWorkspacePlan) : Except String (List EndpointRef) := do
  let incoming := candidate.componentDependencies.filter fun dependency =>
    candidate.deploymentId = member.workspace.deploymentId ∧ dependency.toComponentId = member.component.componentId
  let internal ← incoming.mapM fun dependency =>
    endpointRef rt plan environmentName candidate.deploymentId dependency.fromComponentId .internal
  let crossing := candidate.dependencies.filter fun dependency =>
    dependency.toDeploymentId = member.workspace.deploymentId ∧ dependency.toComponentId = member.component.componentId
  let external ← crossing.mapM fun dependency =>
    endpointRef rt plan environmentName candidate.deploymentId dependency.fromComponentId .external
  .ok (internal ++ external)

def incomingCallers (rt : Runtime) (plan : CodeflyProductTopologyPlan) (environmentName : String) (member : Member) :
    Except String (List EndpointRef) := do
  let callers ← collect (candidateCallers rt plan environmentName member) plan.workspaces
  .ok (uniqueEndpoints callers)

end SecureSaas.Codefly.Product
