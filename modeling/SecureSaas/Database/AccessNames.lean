import SecureSaas.Aws.ApplyLane
import SecureSaas.Aws.IamAdapter
import SecureSaas.Database.BrokerContract
import SecureSaas.Database.PostgresTenants
import SecureSaas.Database.Reservation

/-!
# The names of the access to a database (`createAwsManagedPostgresAccess`)

A binding gets one identity for each access class, with a namespace, a pool of nodes and an admission policy of its own.
Their names are labels made of the id of the binding, in which every other character is a dash and dashes do not repeat.

* `labelText_around`: a label around the id of a binding.
* `materialize_identities`: the names of the access to an intent's databases.
* `access_separated_iff`: **the intents whose bindings share no name.**
* `access_not_separated`: two bindings in one namespace.
-/

namespace SecureSaas.Database

open Js Blueprint Aws

/-! ## The access to a database -/

/-- What the access needs of a created database. -/
structure DatabaseResult where
  hasProxy : Bool
  runtimeDatabaseUser : String
  migrationDatabaseUser : String

/-- The arguments that all bindings share. `bindingDigest` stands for the digest over the resolved cloud resources of an
identity. -/
structure AccessArgs where
  organizationId : String
  environment : ManagedPostgresEnvironment
  clusterArn : String
  iamRoleConstraint : AwsApplyLaneIamConstraint
  bindingDigest : String → String → String

structure IdentityArgs where
  accessClass : AwsDatabaseAccessClass
  identityId : String
  namespaceName : String
  serviceAccount : String
  bindingId : String

structure NodePool where
  name : String
  labels : Record String
  taints : List Taint

/-- An identity with the resources of its workload manifest. -/
structure AwsDatabaseAccessIdentity where
  accessClass : AwsDatabaseAccessClass
  bindingId : String
  roleName : IamName
  namespaceName : String
  serviceAccount : String
  nodePool : NodePool
  admissionPolicy : ClusterPolicy

def databaseAccessNamespace (bindingId : String) (accessClass : AwsDatabaseAccessClass)
    (environment : ManagedPostgresEnvironment) : Except String String :=
  dnsLabel ("codefly-db-" ++ accessClass.text ++ "-" ++ bindingId ++ "-" ++ environment.text)

/-- `/^arn:(?:aws|aws-us-gov|aws-cn):eks:[a-z]{2}(?:-gov)?-[a-z]+-\d:\d{12}:cluster\/[A-Za-z0-9][A-Za-z0-9_-]{0,99}$/`. -/
def isClusterArn (value : String) : Bool :=
  open Pattern in
  fullMatch (seq (lit "arn:") (seq (anyOf ["aws", "aws-us-gov", "aws-cn"]) (seq (lit ":eks:")
    (seq (exactly isLowerLetter 2) (seq (opt (lit "-gov")) (seq (lit "-") (seq (many1 isLowerLetter) (seq (lit "-")
      (seq (cls isDecimal) (seq (lit ":") (seq (exactly isDecimal 12) (seq (lit ":cluster/")
        (seq (cls isAlnum) (upTo (fun c => isAlnum c || c == '_' || c == '-') 99)))))))))))))) value

/-- The checks of `compileAwsEksPodIdentityTrustPolicy`. -/
def checkEksPodIdentityTrust (organizationId clusterArn namespaceName serviceAccount : String) : Except String Unit := do
  throwUnless (isOrganizationId organizationId)
    "Managed PostgreSQL Pod Identity requires one exact AWS Organizations ID."
  let namespaceLabel ← dnsLabel namespaceName
  let serviceAccountLabel ← dnsLabel serviceAccount
  throwUnless (namespaceLabel == namespaceName && serviceAccountLabel == serviceAccount)
    "EKS Pod Identity trust requires exact DNS-safe namespace and ServiceAccount names."
  throwUnless (isClusterArn clusterArn) "EKS Pod Identity trust requires one exact EKS cluster ARN."

def createIdentity (rt : Runtime) (args : AccessArgs) (identity : IdentityArgs) :
    Except String AwsDatabaseAccessIdentity := do
  let accessClass := identity.accessClass
  let resourceName ← dnsLabel (identity.identityId ++ "-" ++ accessClass.text ++ "-postgres-access")
  let nodePoolName ← dnsLabel (identity.bindingId ++ "-" ++ accessClass.text ++ "-access")
  let schedulingValue ← dnsLabel (identity.bindingId ++ "-" ++ accessClass.text ++ "-database-access")
  let identityLabel ← dnsLabel identity.identityId
  let bindingLabels := Record.empty.set "security.deus.dev/workload-identity-binding" identityLabel
  let schedulingLabel := awsDatabaseAccessReservationKey rt identity.bindingId accessClass
  let taintKey := schedulingLabel
  let requiredPodScheduling : PodScheduling :=
    { nodeSelector := Record.empty.set schedulingLabel schedulingValue
      tolerations := [⟨taintKey, "Equal", schedulingValue, "NoSchedule"⟩] }
  checkEksPodIdentityTrust args.organizationId args.clusterArn identity.namespaceName identity.serviceAccount
  let roleName ← awsApplyLaneIamRoleName rt args.iamRoleConstraint resourceName
  let requiredPodAnnotations := Record.fromEntries [
    ("security.deus.dev/workload-identity-mode", "eks-pod-identity"),
    ("security.deus.dev/workload-identity-audience", "pods.eks.amazonaws.com"),
    ("security.deus.dev/workload-identity-binding-digest", args.bindingDigest identity.bindingId accessClass.text)]
  let admissionPolicy ← compileAwsDatabaseAdmissionPolicy rt
    { bindingId := identity.bindingId
      accessClass
      namespaceName := identity.namespaceName
      serviceAccount := identity.serviceAccount
      bindingLabels
      requiredPodAnnotations
      requiredPodScheduling }
  return {
    accessClass
    bindingId := identity.bindingId
    roleName
    namespaceName := identity.namespaceName
    serviceAccount := identity.serviceAccount
    nodePool := {
      name := nodePoolName
      labels := Record.empty.set schedulingLabel schedulingValue
      taints := [⟨taintKey, schedulingValue, "NoSchedule"⟩] }
    admissionPolicy }

structure AwsManagedPostgresAccessResult where
  runtime : AwsDatabaseAccessIdentity
  migration : AwsDatabaseAccessIdentity
  bootstrap : AwsDatabaseAccessIdentity

def AwsManagedPostgresAccessResult.identities (access : AwsManagedPostgresAccessResult) : List AwsDatabaseAccessIdentity :=
  [access.runtime, access.migration, access.bootstrap]

/-- The checks before the identities are created. -/
def checkAccess (args : AccessArgs) (binding : ManagedPostgresBinding) (database : DatabaseResult) :
    Except String Unit := do
  throwUnless (isOrganizationId args.organizationId)
    "Managed PostgreSQL Pod Identity requires one exact AWS Organizations ID."
  assertAwsApplyLaneIamConstraint args.iamRoleConstraint (some .database)
  throwUnless database.hasProxy
    s!"Managed PostgreSQL access '{binding.id}' requires an end-to-end IAM RDS Proxy."
  let expectedRuntimeUser ← awsManagedPostgresDatabaseUser binding.access.runtimeIdentityId
  let expectedMigrationUser ← awsManagedPostgresDatabaseUser binding.access.migrationIdentityId
  throwUnless (database.runtimeDatabaseUser == expectedRuntimeUser &&
      database.migrationDatabaseUser == expectedMigrationUser)
    s!"Managed PostgreSQL access '{binding.id}' database users do not match its exact runtime and migration identities."

def createAwsManagedPostgresAccess (rt : Runtime) (args : AccessArgs) (binding : ManagedPostgresBinding)
    (database : DatabaseResult) : Except String AwsManagedPostgresAccessResult := do
  checkAccess args binding database
  -- the name of the path from the bootstrap identity to the secrets
  let _ ← dnsLabel (binding.id ++ "-bootstrap-to-secrets-manager")
  let runtimeNamespace ← databaseAccessNamespace binding.id .runtime args.environment
  let migrationNamespace ← databaseAccessNamespace binding.id .migration args.environment
  let bootstrapNamespace ← databaseAccessNamespace binding.id .bootstrap args.environment
  let runtimeAccount ← dnsLabel binding.access.runtimeIdentityId
  let runtime ← createIdentity rt args
    ⟨.runtime, binding.access.runtimeIdentityId, runtimeNamespace, runtimeAccount, binding.id⟩
  let migrationAccount ← dnsLabel binding.access.migrationIdentityId
  let migration ← createIdentity rt args
    ⟨.migration, binding.access.migrationIdentityId, migrationNamespace, migrationAccount, binding.id⟩
  let bootstrapAccount ← dnsLabel ("postgres-bootstrap-" ++ binding.id)
  let bootstrap ← createIdentity rt args
    ⟨.bootstrap, binding.id ++ "-bootstrap", bootstrapNamespace, bootstrapAccount, binding.id⟩
  return { runtime, migration, bootstrap }

def managedPostgresBindingForBoundary (intent : ManagedPostgresIntent) (boundaryId : String) :
    Except String ManagedPostgresBinding :=
  match intent.bindings.find? fun candidate => candidate.dataBoundaryId == boundaryId with
  | none => .error s!"Relational data boundary '{boundaryId}' has no Managed Postgres binding."
  | some binding => .ok binding

def materializeEntry (rt : Runtime) (args : AccessArgs) (intent : ManagedPostgresIntent)
    (entry : String × DatabaseResult) : Except String (String × AwsManagedPostgresAccessResult) := do
  let binding ← managedPostgresBindingForBoundary intent entry.1
  let access ← createAwsManagedPostgresAccess rt args binding entry.2
  return (binding.id, access)

/-- `materializeDatabaseAccess`: the access of every database of the stack, in the order of the bindings' ids. -/
def materializeDatabaseAccess (rt : Runtime) (args : AccessArgs) (intent : ManagedPostgresIntent)
    (databases : Record DatabaseResult) : Except String (List (String × AwsManagedPostgresAccessResult)) := do
  let entries ← databases.entries.mapM (materializeEntry rt args intent)
  return rt.sortByKey Prod.fst entries

/-! ## Labels around a text -/

theorem trimDash_undashed {cs : List Char} (h : Undashed cs) : trimDash cs = cs := by
  unfold trimDash
  rw [if_neg h.1]
  exact if_neg h.2

/-- A text that starts and ends with no dash collapses by itself. -/
theorem collapseDashes_around {u cs v : List Char} (h : Undashed cs) (hne : cs ≠ []) :
    collapseDashes false (u ++ cs ++ v) = collapseDashes false u ++ collapseDashes false cs ++ collapseDashes false v := by
  obtain ⟨init, d, rfl⟩ := (List.eq_nil_or_concat cs).resolve_left hne
  rw [List.concat_eq_append] at h ⊢
  have hd : d ≠ '-' := fun heq => h.2 (by rw [heq, List.getLast?_concat])
  have hend : collapseDashes false (u ++ (init ++ [d]) ++ v) =
      collapseDashes false (u ++ (init ++ [d])) ++ collapseDashes false v := by
    rw [← List.append_assoc u init [d], List.append_assoc (u ++ init) [d] v]
    exact collapseDashes_append hd false (u ++ init) v
  rw [hend, List.append_cancel_right_eq]
  cases hcs : init ++ [d] with
  | nil => exact absurd hcs (by simp)
  | cons c rest =>
    have hc : c ≠ '-' := fun heq => h.1 (by rw [hcs, heq, List.head?_cons])
    rw [collapseDashes_append hc, collapseDashes_concat hc, collapseDashes, if_neg hc, List.append_assoc]
    rfl

/-- The part of a label that comes from an id. -/
def slug (id : String) : String := String.ofList (collapseDashes false (lowerDashed id))

theorem labelChars_kept {c : Char} (h : isLowerAlnum c = true) : labelChars c = [c] := by
  unfold labelChars
  rw [h, Bool.true_or, if_pos rfl]

theorem lowerAlnum_ne_dash {c : Char} (h : isLowerAlnum c = true) : c ≠ '-' := by
  rintro rfl
  exact absurd h (by decide)

/-- A name starts and ends with no dash. -/
theorem isName_undashed {id : String} (h : isName id = true) : Undashed (lowerDashed id) ∧ lowerDashed id ≠ [] := by
  obtain ⟨c, w, hid, hc, -, hshape⟩ := isName_chars h
  have hfirst : lowerDashed id = c :: w.flatMap labelChars := by
    unfold lowerDashed
    rw [hid, List.flatMap_cons, labelChars_kept hc]
    rfl
  rw [hfirst]
  refine ⟨⟨fun heq => lowerAlnum_ne_dash hc (Option.some.inj heq), ?_⟩, List.cons_ne_nil _ _⟩
  rcases hshape with rfl | ⟨middle, d, rfl, hd, -⟩
  · exact fun heq => lowerAlnum_ne_dash hc (Option.some.inj heq)
  · rw [List.flatMap_append, List.flatMap_singleton, labelChars_kept hd, ← List.cons_append, List.getLast?_concat]
    exact fun heq => lowerAlnum_ne_dash hd (Option.some.inj heq)

/-- A text that a label leaves as it is. -/
def Plain (text : String) : Prop := collapseDashes false (lowerDashed text) = text.toList

instance (text : String) : Decidable (Plain text) := inferInstanceAs (Decidable (_ = _))

/-- **A label around the id of a binding.** -/
theorem labelText_around {u id v : String} (hid : isName id = true) (hu : Plain u) (hv : Plain v)
    (hstart : (lowerDashed u).head? ≠ some '-') (hend : (lowerDashed v).getLast? ≠ some '-') :
    labelText (u ++ id ++ v) = u ++ slug id ++ v := by
  obtain ⟨hundashed, hne⟩ := isName_undashed hid
  have hparts : lowerDashed (u ++ id ++ v) = lowerDashed u ++ lowerDashed id ++ lowerDashed v := by
    rw [lowerDashed_append, lowerDashed_append]
  have hwhole : Undashed (lowerDashed (u ++ id ++ v)) := by
    rw [hparts]
    constructor
    · rw [List.append_assoc, List.head?_append]
      cases hhead : (lowerDashed u).head? with
      | some c => exact fun heq => hstart (hhead.trans heq)
      | none =>
        rw [Option.none_or, List.head?_append_of_ne_nil _ hne]
        exact hundashed.1
    · rw [List.getLast?_append]
      cases hlast : (lowerDashed v).getLast? with
      | some c => exact fun heq => hend (hlast.trans heq)
      | none =>
        rw [Option.none_or, List.getLast?_append_of_ne_nil _ hne]
        exact hundashed.2
  unfold labelText
  rw [trimDash_undashed (undashed_collapse hwhole), hparts, collapseDashes_around hundashed hne]
  unfold Plain at hu hv
  rw [hu, hv, String.ofList_append, String.ofList_append, String.ofList_toList, String.ofList_toList]
  rfl

/-! ## The names of an identity -/

variable {rt : Runtime} {args : AccessArgs} {dates : Dates} {intent : ManagedPostgresIntent}
  {databases : Record DatabaseResult} {binding : ManagedPostgresBinding}
  {entries : List (String × AwsManagedPostgresAccessResult)}

/-- The names that an identity of a binding has in the cluster. -/
structure NamedFor (rt : Runtime) (environment : ManagedPostgresEnvironment) (bindingId : String)
    (accessClass : AwsDatabaseAccessClass) (identity : AwsDatabaseAccessIdentity) : Prop where
  ofBinding : identity.bindingId = bindingId
  ofClass : identity.accessClass = accessClass
  namespaces : identity.namespaceName =
    labelText ("codefly-db-" ++ accessClass.text ++ "-" ++ bindingId ++ "-" ++ environment.text)
  nodePools : identity.nodePool.name = labelText (bindingId ++ "-" ++ accessClass.text ++ "-access")
  policies : identity.admissionPolicy.name = labelText (bindingId ++ "-" ++ accessClass.text ++ "-access")
  taints : identity.nodePool.taints = [⟨awsDatabaseAccessReservationKey rt bindingId accessClass,
    labelText (bindingId ++ "-" ++ accessClass.text ++ "-database-access"), "NoSchedule"⟩]

theorem compileAwsDatabaseAdmissionPolicy_name {admission : AdmissionArgs} {policy : ClusterPolicy}
    (h : compileAwsDatabaseAdmissionPolicy rt admission = .ok policy) :
    policy.name = labelText (admission.bindingId ++ "-" ++ admission.accessClass.text ++ "-access") := by
  unfold compileAwsDatabaseAdmissionPolicy at h
  obtain ⟨name, hname, h⟩ := bind_ok.1 h
  obtain ⟨schedulingValue, -, h⟩ := bind_ok.1 h
  dsimp only at h
  split at h
  · cases h
  · obtain rfl := Except.ok.inj h
    exact (dnsLabel_ok hname).1

theorem createIdentity_named {identityArgs : IdentityArgs} {identity : AwsDatabaseAccessIdentity}
    (h : createIdentity rt args identityArgs = .ok identity)
    (hnamespace : databaseAccessNamespace identityArgs.bindingId identityArgs.accessClass args.environment =
      .ok identityArgs.namespaceName) :
    NamedFor rt args.environment identityArgs.bindingId identityArgs.accessClass identity := by
  unfold createIdentity at h
  obtain ⟨resourceName, -, h⟩ := bind_ok.1 h
  obtain ⟨nodePoolName, hnodePool, h⟩ := bind_ok.1 h
  obtain ⟨schedulingValue, hscheduling, h⟩ := bind_ok.1 h
  obtain ⟨identityLabel, -, h⟩ := bind_ok.1 h
  obtain ⟨⟨⟩, -, h⟩ := bind_ok.1 h
  obtain ⟨roleName, -, h⟩ := bind_ok.1 h
  obtain ⟨policy, hpolicy, h⟩ := bind_ok.1 h
  obtain rfl := pure_ok.1 h
  have hlabel := (dnsLabel_ok hnodePool).1
  have hvalue := (dnsLabel_ok hscheduling).1
  have hname := compileAwsDatabaseAdmissionPolicy_name hpolicy
  have hscope := (dnsLabel_ok hnamespace).1
  refine ⟨rfl, rfl, hscope, hlabel, hname, ?_⟩
  rw [hvalue]

/-- The three identities of a binding. -/
theorem createAccess_named {database : DatabaseResult} {access : AwsManagedPostgresAccessResult}
    (h : createAwsManagedPostgresAccess rt args binding database = .ok access) :
    NamedFor rt args.environment binding.id .runtime access.runtime ∧
      NamedFor rt args.environment binding.id .migration access.migration ∧
        NamedFor rt args.environment binding.id .bootstrap access.bootstrap := by
  unfold createAwsManagedPostgresAccess at h
  obtain ⟨⟨⟩, -, h⟩ := bind_ok.1 h
  obtain ⟨path, -, h⟩ := bind_ok.1 h
  obtain ⟨runtimeNamespace, hruntimeName, h⟩ := bind_ok.1 h
  obtain ⟨migrationNamespace, hmigrationName, h⟩ := bind_ok.1 h
  obtain ⟨bootstrapNamespace, hbootstrapName, h⟩ := bind_ok.1 h
  obtain ⟨runtimeAccount, -, h⟩ := bind_ok.1 h
  obtain ⟨runtime, hruntime, h⟩ := bind_ok.1 h
  obtain ⟨migrationAccount, -, h⟩ := bind_ok.1 h
  obtain ⟨migration, hmigration, h⟩ := bind_ok.1 h
  obtain ⟨bootstrapAccount, -, h⟩ := bind_ok.1 h
  obtain ⟨bootstrap, hbootstrap, h⟩ := bind_ok.1 h
  obtain rfl := pure_ok.1 h
  have hrun := createIdentity_named hruntime hruntimeName
  have hmigrate := createIdentity_named hmigration hmigrationName
  have hboot := createIdentity_named hbootstrap hbootstrapName
  exact ⟨hrun, hmigrate, hboot⟩

/-- A database of the stack is the binding's. -/
def Served (intent : ManagedPostgresIntent) (databases : Record DatabaseResult) (binding : ManagedPostgresBinding) : Prop :=
  ∃ boundaryId database, databases.get? boundaryId = some database ∧
    managedPostgresBindingForBoundary intent boundaryId = .ok binding

/-- All identities of the stack. -/
def identitiesOf (entries : List (String × AwsManagedPostgresAccessResult)) : List AwsDatabaseAccessIdentity :=
  entries.flatMap fun entry => entry.2.identities

/-- **The names of the access to an intent's databases**: each binding with a database has each access class. -/
theorem materialize_identities (h : materializeDatabaseAccess rt args intent databases = .ok entries) :
    (∀ identity ∈ identitiesOf entries, ∃ binding accessClass, Served intent databases binding ∧
      NamedFor rt args.environment binding.id accessClass identity) ∧
      ∀ binding, Served intent databases binding → ∀ accessClass, ∃ identity ∈ identitiesOf entries,
        NamedFor rt args.environment binding.id accessClass identity := by
  unfold materializeDatabaseAccess at h
  obtain ⟨listed, hlisted, h⟩ := bind_ok.1 h
  obtain rfl := pure_ok.1 h
  constructor
  · intro identity hidentity
    obtain ⟨entry, hentry, hmem⟩ := List.mem_flatMap.1 hidentity
    obtain ⟨source, hsource, hone⟩ := mapM_source hlisted (Runtime.mem_sortByKey.1 hentry)
    obtain ⟨binding, hbinding, hone⟩ := bind_ok.1 hone
    obtain ⟨access, haccess, hone⟩ := bind_ok.1 hone
    obtain rfl := pure_ok.1 hone
    have hserved : Served intent databases binding := ⟨source.1, source.2, Record.mem_entries.1 hsource, hbinding⟩
    obtain ⟨hruntime, hmigration, hbootstrap⟩ := createAccess_named haccess
    simp only [AwsManagedPostgresAccessResult.identities, List.mem_cons, List.not_mem_nil, or_false] at hmem
    rcases hmem with rfl | rfl | rfl
    · exact ⟨binding, .runtime, hserved, hruntime⟩
    · exact ⟨binding, .migration, hserved, hmigration⟩
    · exact ⟨binding, .bootstrap, hserved, hbootstrap⟩
  · rintro binding ⟨boundaryId, database, hdatabase, hbinding⟩ accessClass
    obtain ⟨entry, hentry, hone⟩ := mapM_ok hlisted (boundaryId, database) (Record.mem_entries.2 hdatabase)
    obtain ⟨found, hfound, hone⟩ := bind_ok.1 hone
    obtain rfl := Except.ok.inj (hbinding.symm.trans hfound)
    obtain ⟨access, haccess, hone⟩ := bind_ok.1 hone
    obtain rfl := pure_ok.1 hone
    obtain ⟨hruntime, hmigration, hbootstrap⟩ := createAccess_named haccess
    have hmem : ∀ identity ∈ access.identities, identity ∈ identitiesOf (rt.sortByKey Prod.fst listed) :=
      fun identity hidentity => List.mem_flatMap.2 ⟨_, Runtime.mem_sortByKey.2 hentry, hidentity⟩
    cases accessClass with
    | runtime => exact ⟨_, hmem _ (by simp [AwsManagedPostgresAccessResult.identities]), hruntime⟩
    | migration => exact ⟨_, hmem _ (by simp [AwsManagedPostgresAccessResult.identities]), hmigration⟩
    | bootstrap => exact ⟨_, hmem _ (by simp [AwsManagedPostgresAccessResult.identities]), hbootstrap⟩

/-! ## Which names differ -/

/-- The names of two identities, with the id of a binding that is a name. -/
theorem namespace_text {id : String} (hid : isName id = true) (accessClass : AwsDatabaseAccessClass)
    (environment : ManagedPostgresEnvironment) :
    labelText ("codefly-db-" ++ accessClass.text ++ "-" ++ id ++ "-" ++ environment.text) =
      "codefly-db-" ++ accessClass.text ++ "-" ++ slug id ++ ("-" ++ environment.text) := by
  rw [@String.append_assoc ("codefly-db-" ++ accessClass.text ++ "-" ++ id)]
  refine labelText_around hid ?_ ?_ ?_ ?_
  · cases accessClass <;> decide +kernel
  · cases environment <;> decide +kernel
  · cases accessClass <;> decide +kernel
  · cases environment <;> decide +kernel

theorem access_text {id ending : String} (hid : isName id = true) (hplain : Plain ending)
    (hend : (lowerDashed ending).getLast? ≠ some '-') : labelText (id ++ ending) = slug id ++ ending := by
  have h := labelText_around (u := "") hid rfl hplain (by decide) hend
  rwa [String.empty_append, String.empty_append] at h

theorem nodePool_text {id : String} (hid : isName id = true) (accessClass : AwsDatabaseAccessClass) :
    labelText (id ++ "-" ++ accessClass.text ++ "-access") = slug id ++ ("-" ++ accessClass.text ++ "-access") := by
  rw [@String.append_assoc id, @String.append_assoc id]
  refine access_text hid ?_ ?_
  · cases accessClass <;> decide +kernel
  · cases accessClass <;> decide +kernel

theorem scheduling_text {id : String} (hid : isName id = true) (accessClass : AwsDatabaseAccessClass) :
    labelText (id ++ "-" ++ accessClass.text ++ "-database-access") =
      slug id ++ ("-" ++ accessClass.text ++ "-database-access") := by
  rw [@String.append_assoc id, @String.append_assoc id]
  refine access_text hid ?_ ?_
  · cases accessClass <;> decide +kernel
  · cases accessClass <;> decide +kernel

/-- Two identities share no namespace, no pool of nodes, no policy and no taint. -/
structure Unmixed (x y : AwsDatabaseAccessIdentity) : Prop where
  namespaces : x.namespaceName ≠ y.namespaceName
  nodePools : x.nodePool.name ≠ y.nodePool.name
  policies : x.admissionPolicy.name ≠ y.admissionPolicy.name
  taints : ∀ t ∈ x.nodePool.taints, ∀ u ∈ y.nodePool.taints, t.key ≠ u.key ∨ t.value ≠ u.value

/-- Identities of different classes, or of bindings whose ids make different labels. -/
theorem unmixed_of_ne {environment : ManagedPostgresEnvironment} {id id' : String}
    {accessClass accessClass' : AwsDatabaseAccessClass} {x y : AwsDatabaseAccessIdentity} (hid : isName id = true)
    (hid' : isName id' = true) (hx : NamedFor rt environment id accessClass x)
    (hy : NamedFor rt environment id' accessClass' y) (hne : accessClass ≠ accessClass' ∨ slug id ≠ slug id') :
    Unmixed x y := by
  have hpools : slug id ++ ("-" ++ accessClass.text ++ "-access") ≠ slug id' ++ ("-" ++ accessClass'.text ++ "-access") := by
    by_cases hclass : accessClass = accessClass'
    · subst hclass
      have hslugs := hne.resolve_left fun h => h rfl
      exact fun heq => hslugs ((String.append_left_inj _).1 heq)
    · cases accessClass <;> cases accessClass' <;> first
        | exact absurd rfl hclass
        | exact prepend_ne (by decide) (by decide) _ _
  have hvalues : slug id ++ ("-" ++ accessClass.text ++ "-database-access") ≠
      slug id' ++ ("-" ++ accessClass'.text ++ "-database-access") := by
    by_cases hclass : accessClass = accessClass'
    · subst hclass
      have hslugs := hne.resolve_left fun h => h rfl
      exact fun heq => hslugs ((String.append_left_inj _).1 heq)
    · cases accessClass <;> cases accessClass' <;> first
        | exact absurd rfl hclass
        | exact prepend_ne (by decide) (by decide) _ _
  refine ⟨?_, ?_, ?_, ?_⟩
  · rw [hx.namespaces, hy.namespaces, namespace_text hid, namespace_text hid']
    by_cases hclass : accessClass = accessClass'
    · subst hclass
      have hslugs := hne.resolve_left fun h => h rfl
      exact fun heq => hslugs ((String.append_right_inj _).1 ((String.append_left_inj _).1 heq))
    · rw [@String.append_assoc ("codefly-db-" ++ accessClass.text ++ "-"),
        @String.append_assoc ("codefly-db-" ++ accessClass'.text ++ "-")]
      cases accessClass <;> cases accessClass' <;> first
        | exact absurd rfl hclass
        | exact append_ne (by decide) (by decide) _ _
  · rwa [hx.nodePools, hy.nodePools, nodePool_text hid, nodePool_text hid']
  · rwa [hx.policies, hy.policies, nodePool_text hid, nodePool_text hid']
  · intro t ht u hu
    rw [hx.taints, List.mem_singleton] at ht
    rw [hy.taints, List.mem_singleton] at hu
    subst ht hu
    dsimp only
    rw [scheduling_text hid, scheduling_text hid']
    exact Or.inr hvalues

/-- The ids of an accepted intent's bindings are names. -/
theorem parsed_names {value : Value} {environment : ManagedPostgresEnvironment} {blueprint : Option PlatformBlueprint}
    (h : parseManagedPostgresIntent dates value environment blueprint = .ok intent) :
    ∀ b ∈ intent.bindings, isName b.id = true := by
  intro b hb
  obtain ⟨hsource, -⟩ := parseManagedPostgresIntent_source h
  obtain ⟨apiVersion, v, path, hparse⟩ := hsource b hb
  unfold parseBinding at hparse
  obtain ⟨input, -, hparse⟩ := bind_ok.1 hparse
  obtain ⟨objects, -, hparse⟩ := bind_ok.1 hparse
  obtain ⟨tenancyInput, -, hparse⟩ := bind_ok.1 hparse
  obtain ⟨tenantId, -, hparse⟩ := bind_ok.1 hparse
  obtain ⟨id, hid, hparse⟩ := bind_ok.1 hparse
  obtain ⟨tenancy, -, hparse⟩ := bind_ok.1 hparse
  have hkept : b.id = id := by
    unfold bindingMembers at hparse
    simp only [bind_ok, pure_ok] at hparse
    obtain ⟨_, -, _, -, _, -, _, -, _, -, _, -, _, -, rfl⟩ := hparse
    rfl
  rw [hkept]
  exact (nameValue_ok.1 hid).2

theorem Served.mem (h : Served intent databases binding) : binding ∈ intent.bindings := by
  obtain ⟨boundaryId, database, -, hbinding⟩ := h
  unfold managedPostgresBindingForBoundary at hbinding
  split at hbinding
  · cases hbinding
  · rename_i found hfound
    obtain rfl := Except.ok.inj hbinding
    exact List.mem_of_find?_eq_some hfound

/-- **The intents whose bindings share no name**: the ids of different bindings make different labels. -/
theorem access_separated_iff {value : Value} {environment : ManagedPostgresEnvironment}
    {blueprint : Option PlatformBlueprint}
    (hparse : parseManagedPostgresIntent dates value environment blueprint = .ok intent)
    (h : materializeDatabaseAccess rt args intent databases = .ok entries) :
    (∀ x ∈ identitiesOf entries, ∀ y ∈ identitiesOf entries,
      (x.bindingId, x.accessClass) ≠ (y.bindingId, y.accessClass) → Unmixed x y) ↔
      ∀ b c, Served intent databases b → Served intent databases c → b.id ≠ c.id → slug b.id ≠ slug c.id := by
  have hnames := parsed_names hparse
  obtain ⟨hsource, hevery⟩ := materialize_identities h
  constructor
  · intro hunmixed b c hb hc hne heq
    obtain ⟨x, hx, hxNamed⟩ := hevery b hb .runtime
    obtain ⟨y, hy, hyNamed⟩ := hevery c hc .runtime
    have hpairs : (x.bindingId, x.accessClass) ≠ (y.bindingId, y.accessClass) := by
      rw [hxNamed.ofBinding, hyNamed.ofBinding]
      exact fun hpair => hne (Prod.mk.inj hpair).1
    refine (hunmixed x hx y hy hpairs).namespaces ?_
    rw [hxNamed.namespaces, hyNamed.namespaces, namespace_text (hnames b hb.mem), namespace_text (hnames c hc.mem), heq]
  · intro hslugs x hx y hy hpairs
    obtain ⟨b, accessClass, hb, hxNamed⟩ := hsource x hx
    obtain ⟨c, accessClass', hc, hyNamed⟩ := hsource y hy
    refine unmixed_of_ne (hnames b hb.mem) (hnames c hc.mem) hxNamed hyNamed ?_
    -- two pairs differ in the class, or in the binding
    by_cases hclass : accessClass = accessClass'
    · refine Or.inr (hslugs b c hb hc fun hid => hpairs ?_)
      rw [hxNamed.ofBinding, hyNamed.ofBinding, hxNamed.ofClass, hyNamed.ofClass, hclass, hid]
    · exact Or.inl hclass

/-! ## Two bindings in one namespace -/

/-- Two tenants whose bindings differ in a dot. -/
def dottedBindings : ManagedPostgresIntent :=
  { tenantsIntent "s-mig" "t-mig" with
    bindings := [{ tenantBinding "s" "s-mig" with id := "a.b" }, { tenantBinding "t" "t-mig" with id := "a-b" }] }

/-- A runtime with the SHA-256 digests of what is hashed for them. -/
def dottedRuntime : Runtime :=
  Runtime.tabulated [
    ("a.b:runtime", "ad1cdcc262cebbde62a70a55f75201eb35d372cd704a5d1980e012846809ff46"),
    ("a.b:migration", "696ce163cf11578bd0e9cc47c12e78212f7e2e5f2f52d74c16cd4d67e2b5d7ed"),
    ("a.b:bootstrap", "30c0d745c79bd2eb85150fcc8f83416b7be3fe38d5fe87ab93a01af8559538aa"),
    ("a-b:runtime", "6193400b2dfb1283c670d1b1909843b5ed03059ccf52bbde5650faaba6a00b23"),
    ("a-b:migration", "85b776eea5057fc369cb9eceec4fb152e4964eb4b838781b05de3156510094a9"),
    ("a-b:bootstrap", "df6a7f88a8693a8f25643bb99612e9b1cbe54ddf57d8e6978cdf1fd2147186b0"),
    ("s-run-runtime-postgres-access", "1f5488d41649204d70edd667760f570a792b8ebd53d93c5ce610976b98adceaf"),
    ("s-mig-migration-postgres-access", "30958a586efd2b56778cf278eaad662f339f52e2df2c866b665e174ada3d2911"),
    ("t-run-runtime-postgres-access", "ee5fb7178bfd104e9e42e88a191661264bb2b7a0771c35a0b32e8d56712eea8f"),
    ("t-mig-migration-postgres-access", "008450f3a2f7eab250e3f873e8973fe5f2806add8c2195f5f3d57cca440abc2d"),
    ("a-b-bootstrap-bootstrap-postgres-access", "f9770f43acb5950267e449e56df03f7153d28cb5d1f4779d896f42e11f64fa32")] (fun _ => none)
    (by repeat' first | exact hex_nil | refine hex_cons (by decide +kernel) (by decide +kernel) ?_)

def dottedArgs : AccessArgs where
  organizationId := "o-abcdefghij"
  environment := .staging
  clusterArn := "arn:aws:eks:us-east-1:111122223333:cluster/main"
  iamRoleConstraint :=
    { sourceDigest := "333c04dd151a2a6831c039cb9a651df29198be8a04e16ce861d4b6a34a11c954"
      accountName := "main"
      accountId := "111122223333"
      actionSet := .database
      roleNamePrefix := "d-database-"
      permissionsBoundaryArn := policyArn "111122223333" "d" }
  bindingDigest := fun _ _ => "80f70afeef3caa57646fd20afb95be9c3f2c03d38e091906de31838813dcc22e"

def dottedDatabases : Record DatabaseResult :=
  Record.fromEntries [("s-data", ⟨true, "s_run", "s_mig"⟩), ("t-data", ⟨true, "t_run", "t_mig"⟩)]

/-- The two bindings, parsed and materialized. -/
def dottedAccess : Except String (ManagedPostgresIntent × List (String × AwsManagedPostgresAccessResult)) := do
  let intent ← parseManagedPostgresIntent sampleDates (rawIntent dottedBindings) .staging none
  let entries ← materializeDatabaseAccess dottedRuntime dottedArgs intent dottedDatabases
  return (intent, entries)

/-- The identities with their namespaces. -/
def namespacesOf (entries : List (String × AwsManagedPostgresAccessResult)) : List (String × String × String) :=
  (identitiesOf entries).map fun identity => (identity.bindingId, identity.accessClass.text, identity.namespaceName)

/-- The labels of an identity and its trust are accepted. -/
def isLabelled (args : AccessArgs) (identity : IdentityArgs) : Bool :=
  (dnsLabel (identity.bindingId ++ "-" ++ identity.accessClass.text ++ "-access")).isOk &&
    (dnsLabel (identity.bindingId ++ "-" ++ identity.accessClass.text ++ "-database-access")).isOk &&
    (dnsLabel identity.identityId).isOk &&
    (checkEksPodIdentityTrust args.organizationId args.clusterArn identity.namespaceName identity.serviceAccount).isOk &&
    (dnsLabel (identity.identityId ++ "-" ++ identity.accessClass.text ++ "-postgres-access")).toOption.any
      fun resourceName => !(roleSlug resourceName).isEmpty

/-- The admission policy of an identity repeats the labels it is made of, so that its own checks hold. -/
theorem admissionPolicy_made (rt : Runtime) (admission : AdmissionArgs) {label poolName schedulingValue : String}
    (hpool : dnsLabel (admission.bindingId ++ "-" ++ admission.accessClass.text ++ "-access") = .ok poolName)
    (hvalue : dnsLabel (admission.bindingId ++ "-" ++ admission.accessClass.text ++ "-database-access") =
      .ok schedulingValue)
    (hlabel : awsDatabaseAccessReservationKey rt admission.bindingId admission.accessClass = label)
    (hselector : admission.requiredPodScheduling.nodeSelector = Record.empty.set label schedulingValue)
    (htolerations : admission.requiredPodScheduling.tolerations = [⟨label, "Equal", schedulingValue, "NoSchedule"⟩]) :
    ∃ policy, compileAwsDatabaseAdmissionPolicy rt admission = .ok policy := by
  unfold compileAwsDatabaseAdmissionPolicy
  rw [hpool, hvalue]
  simp [hlabel, hselector, htolerations, bind, Except.bind]

/-- An identity with such labels is made, under the names it is given. -/
theorem createIdentity_made (rt : Runtime) {identity : IdentityArgs}
    (hconstraint : assertAwsApplyLaneIamConstraint args.iamRoleConstraint none = .ok ())
    (h : isLabelled args identity = true) : ∃ made, createIdentity rt args identity = .ok made ∧
      (made.bindingId, made.accessClass.text, made.namespaceName) =
        (identity.bindingId, identity.accessClass.text, identity.namespaceName) := by
  unfold isLabelled at h
  simp only [Bool.and_eq_true] at h
  obtain ⟨⟨⟨⟨hpool, hvalue⟩, hidentity⟩, htrust⟩, hresource⟩ := h
  obtain ⟨poolName, hpool⟩ := exists_of_isOk hpool
  obtain ⟨schedulingValue, hvalue⟩ := exists_of_isOk hvalue
  obtain ⟨identityLabel, hidentity⟩ := exists_of_isOk hidentity
  obtain ⟨⟨⟩, htrust⟩ := exists_of_isOk htrust
  cases hname : dnsLabel (identity.identityId ++ "-" ++ identity.accessClass.text ++ "-postgres-access") with
  | error message =>
    rw [hname] at hresource
    cases hresource
  | ok resourceName =>
    rw [hname] at hresource
    have hslug : roleSlug resourceName ≠ [] := by simpa [Except.toOption] using hresource
    obtain ⟨roleName, hrole, -⟩ := roleName_made rt hconstraint hslug
    obtain ⟨policy, hpolicy⟩ := admissionPolicy_made rt {
      bindingId := identity.bindingId
      accessClass := identity.accessClass
      namespaceName := identity.namespaceName
      serviceAccount := identity.serviceAccount
      bindingLabels := Record.empty.set "security.deus.dev/workload-identity-binding" identityLabel
      requiredPodAnnotations := Record.fromEntries [
        ("security.deus.dev/workload-identity-mode", "eks-pod-identity"),
        ("security.deus.dev/workload-identity-audience", "pods.eks.amazonaws.com"),
        ("security.deus.dev/workload-identity-binding-digest",
          args.bindingDigest identity.bindingId identity.accessClass.text)]
      requiredPodScheduling := {
        nodeSelector := Record.empty.set (awsDatabaseAccessReservationKey rt identity.bindingId identity.accessClass)
          schedulingValue
        tolerations := [⟨awsDatabaseAccessReservationKey rt identity.bindingId identity.accessClass, "Equal",
          schedulingValue, "NoSchedule"⟩] } } hpool hvalue rfl rfl rfl
    unfold createIdentity
    simp only [hname, hpool, hvalue, hidentity, htrust, hrole, hpolicy, bind, Except.bind]
    exact ⟨_, rfl, rfl⟩

/-- The access of a binding with such identities is made. -/
theorem createAccess_made {database : DatabaseResult} {runtimeNamespace migrationNamespace bootstrapNamespace : String}
    (path runtimeAccount migrationAccount bootstrapAccount : String)
    (hconstraint : assertAwsApplyLaneIamConstraint args.iamRoleConstraint none = .ok ())
    (hcheck : checkAccess args binding database = .ok ())
    (hpath : dnsLabel (binding.id ++ "-bootstrap-to-secrets-manager") = .ok path)
    (hruntimeName : databaseAccessNamespace binding.id .runtime args.environment = .ok runtimeNamespace)
    (hmigrationName : databaseAccessNamespace binding.id .migration args.environment = .ok migrationNamespace)
    (hbootstrapName : databaseAccessNamespace binding.id .bootstrap args.environment = .ok bootstrapNamespace)
    (hruntimeAccount : dnsLabel binding.access.runtimeIdentityId = .ok runtimeAccount)
    (hmigrationAccount : dnsLabel binding.access.migrationIdentityId = .ok migrationAccount)
    (hbootstrapAccount : dnsLabel ("postgres-bootstrap-" ++ binding.id) = .ok bootstrapAccount)
    (hlabelled : ∀ identity ∈ [
      IdentityArgs.mk .runtime binding.access.runtimeIdentityId runtimeNamespace runtimeAccount binding.id,
      ⟨.migration, binding.access.migrationIdentityId, migrationNamespace, migrationAccount, binding.id⟩,
      ⟨.bootstrap, binding.id ++ "-bootstrap", bootstrapNamespace, bootstrapAccount, binding.id⟩],
      isLabelled args identity = true) :
    ∃ access, createAwsManagedPostgresAccess rt args binding database = .ok access ∧
      access.identities.map (fun identity => (identity.bindingId, identity.accessClass.text, identity.namespaceName)) =
        [(binding.id, "runtime", runtimeNamespace), (binding.id, "migration", migrationNamespace),
          (binding.id, "bootstrap", bootstrapNamespace)] := by
  simp only [List.forall_mem_cons, List.not_mem_nil, false_imp_iff, implies_true, and_true] at hlabelled
  obtain ⟨hruntime, hmigration, hbootstrap⟩ := hlabelled
  obtain ⟨runtime, hruntime, hruntimeText⟩ := createIdentity_made rt hconstraint hruntime
  obtain ⟨migration, hmigration, hmigrationText⟩ := createIdentity_made rt hconstraint hmigration
  obtain ⟨bootstrap, hbootstrap, hbootstrapText⟩ := createIdentity_made rt hconstraint hbootstrap
  refine ⟨⟨runtime, migration, bootstrap⟩, ?_, ?_⟩
  · unfold createAwsManagedPostgresAccess
    simp only [hcheck, hpath, hruntimeName, hmigrationName, hbootstrapName, hruntimeAccount, hmigrationAccount,
      hbootstrapAccount, hruntime, hmigration, hbootstrap, bind, Except.bind]
    rfl
  · simp only [AwsManagedPostgresAccessResult.identities, List.map_cons, List.map_nil, hruntimeText, hmigrationText,
      hbootstrapText]
    rfl

/-- The bindings of the sample as they are parsed. -/
theorem dottedBindings_parsed : ∃ intent b c,
    parseManagedPostgresIntent sampleDates (rawIntent dottedBindings) .staging none = .ok intent ∧
      intent.bindings = [b, c] ∧
        (b.id, b.dataBoundaryId, b.access.runtimeIdentityId, b.access.migrationIdentityId) =
          ("a.b", "s-data", "s-run", "s-mig") ∧
        (c.id, c.dataBoundaryId, c.access.runtimeIdentityId, c.access.migrationIdentityId) =
          ("a-b", "t-data", "t-run", "t-mig") := by
  have hfields : (parseManagedPostgresIntent sampleDates (rawIntent dottedBindings) .staging none).toOption.map
      (fun intent => intent.bindings.map fun b =>
        (b.id, b.dataBoundaryId, b.access.runtimeIdentityId, b.access.migrationIdentityId)) =
      some [("a.b", "s-data", "s-run", "s-mig"), ("a-b", "t-data", "t-run", "t-mig")] := by
    decide +kernel
  cases hparse : parseManagedPostgresIntent sampleDates (rawIntent dottedBindings) .staging none with
  | error message =>
    rw [hparse] at hfields
    cases hfields
  | ok intent =>
    rw [hparse] at hfields
    have hlisted := Option.some.inj hfields
    obtain ⟨b, rest, hbindings, hb, hrest⟩ := List.map_eq_cons_iff.1 hlisted
    obtain ⟨c, rest, rfl, hc, hrest⟩ := List.map_eq_cons_iff.1 hrest
    obtain rfl := List.map_eq_nil_iff.1 hrest
    exact ⟨intent, b, c, rfl, hbindings, hb, hc⟩

theorem dottedAccess_namespaces : dottedAccess.toOption.map (fun access => namespacesOf access.2) = some [
    ("a-b", "runtime", "codefly-db-runtime-a-b-staging"),
    ("a-b", "migration", "codefly-db-migration-a-b-staging"),
    ("a-b", "bootstrap", "codefly-db-bootstrap-a-b-staging"),
    ("a.b", "runtime", "codefly-db-runtime-a-b-staging"),
    ("a.b", "migration", "codefly-db-migration-a-b-staging"),
    ("a.b", "bootstrap", "codefly-db-bootstrap-a-b-staging")] := by
  obtain ⟨intent, b, c, hparse, hbindings, hb, hc⟩ := dottedBindings_parsed
  obtain ⟨hbId, hbBoundary, hbRuntime, hbMigration⟩ : b.id = "a.b" ∧ b.dataBoundaryId = "s-data" ∧
      b.access.runtimeIdentityId = "s-run" ∧ b.access.migrationIdentityId = "s-mig" := by simpa using hb
  obtain ⟨hcId, hcBoundary, hcRuntime, hcMigration⟩ : c.id = "a-b" ∧ c.dataBoundaryId = "t-data" ∧
      c.access.runtimeIdentityId = "t-run" ∧ c.access.migrationIdentityId = "t-mig" := by simpa using hc
  have hconstraint : assertAwsApplyLaneIamConstraint dottedArgs.iamRoleConstraint none = .ok () := by decide +kernel
  have hfirst : ∃ access, createAwsManagedPostgresAccess dottedRuntime dottedArgs b ⟨true, "s_run", "s_mig"⟩ =
      .ok access ∧
      access.identities.map (fun identity => (identity.bindingId, identity.accessClass.text, identity.namespaceName)) =
        [("a.b", "runtime", "codefly-db-runtime-a-b-staging"), ("a.b", "migration", "codefly-db-migration-a-b-staging"),
          ("a.b", "bootstrap", "codefly-db-bootstrap-a-b-staging")] := by
    rw [← hbId]
    refine createAccess_made "a-b-bootstrap-to-secrets-manager" "s-run" "s-mig" "postgres-bootstrap-a-b" hconstraint
      ?_ ?_ ?_ ?_ ?_ ?_ ?_ ?_ ?_
    all_goals
      simp only [checkAccess, hbId, hbRuntime, hbMigration]
      decide +kernel
  have hsecond : ∃ access, createAwsManagedPostgresAccess dottedRuntime dottedArgs c ⟨true, "t_run", "t_mig"⟩ =
      .ok access ∧
      access.identities.map (fun identity => (identity.bindingId, identity.accessClass.text, identity.namespaceName)) =
        [("a-b", "runtime", "codefly-db-runtime-a-b-staging"), ("a-b", "migration", "codefly-db-migration-a-b-staging"),
          ("a-b", "bootstrap", "codefly-db-bootstrap-a-b-staging")] := by
    rw [← hcId]
    refine createAccess_made "a-b-bootstrap-to-secrets-manager" "t-run" "t-mig" "postgres-bootstrap-a-b" hconstraint
      ?_ ?_ ?_ ?_ ?_ ?_ ?_ ?_ ?_
    all_goals
      simp only [checkAccess, hcId, hcRuntime, hcMigration]
      decide +kernel
  obtain ⟨access, haccess, htexts⟩ := hfirst
  obtain ⟨other, hother, hothers⟩ := hsecond
  have hfirstBoundary : managedPostgresBindingForBoundary intent "s-data" = .ok b := by
    unfold managedPostgresBindingForBoundary
    rw [hbindings, List.find?_cons_of_pos (by rw [hbBoundary]; decide)]
  have hsecondBoundary : managedPostgresBindingForBoundary intent "t-data" = .ok c := by
    unfold managedPostgresBindingForBoundary
    rw [hbindings, List.find?_cons_of_neg (by rw [hbBoundary]; decide),
      List.find?_cons_of_pos (by rw [hcBoundary]; decide)]
  -- the second id comes before the first one
  have horder : dottedRuntime.localeLE "a.b" "a-b" = false := by decide
  have hentries : materializeDatabaseAccess dottedRuntime dottedArgs intent dottedDatabases =
      .ok [("a-b", other), ("a.b", access)] := by
    have hmapped : dottedDatabases.entries.mapM (materializeEntry dottedRuntime dottedArgs intent) =
        .ok [("a.b", access), ("a-b", other)] := by
      have hdatabases : dottedDatabases.entries =
          [("s-data", ⟨true, "s_run", "s_mig"⟩), ("t-data", ⟨true, "t_run", "t_mig"⟩)] := rfl
      rw [hdatabases]
      simp only [List.mapM_cons, List.mapM_nil, materializeEntry, hfirstBoundary, hsecondBoundary, haccess, hother, hbId,
        hcId, bind, Except.bind]
      rfl
    unfold materializeDatabaseAccess
    rw [hmapped]
    simp [Runtime.sortByKey, horder, bind, Except.bind]
  have hresult : dottedAccess = .ok (intent, [("a-b", other), ("a.b", access)]) := by
    unfold dottedAccess
    rw [hparse]
    simp only [hentries, bind, Except.bind]
    rfl
  rw [hresult]
  show some (namespacesOf [("a-b", other), ("a.b", access)]) = _
  unfold namespacesOf identitiesOf
  simp only [List.flatMap_cons, List.flatMap_nil, List.append_nil, List.map_append, htexts, hothers]
  rfl

theorem dottedAccess_ok : ∃ intent entries,
    parseManagedPostgresIntent sampleDates (rawIntent dottedBindings) .staging none = .ok intent ∧
      materializeDatabaseAccess dottedRuntime dottedArgs intent dottedDatabases = .ok entries ∧
        dottedAccess = .ok (intent, entries) := by
  have haccepted : dottedAccess.isOk = true := by
    have hnamespaces := dottedAccess_namespaces
    cases hdotted : dottedAccess with
    | error message =>
      rw [hdotted] at hnamespaces
      cases hnamespaces
    | ok access => rfl
  obtain ⟨access, haccess⟩ := exists_of_isOk haccepted
  have hsteps := haccess
  unfold dottedAccess at hsteps
  obtain ⟨intent, hparse, hsteps⟩ := bind_ok.1 hsteps
  obtain ⟨entries, hentries, hsteps⟩ := bind_ok.1 hsteps
  obtain rfl := pure_ok.1 hsteps
  exact ⟨intent, entries, hparse, hentries, haccess⟩

theorem access_separated_sample : ∃ intent entries,
    parseManagedPostgresIntent sampleDates (rawIntent dottedBindings) .staging none = .ok intent ∧
      materializeDatabaseAccess dottedRuntime dottedArgs intent dottedDatabases = .ok entries ∧
        ((∀ x ∈ identitiesOf entries, ∀ y ∈ identitiesOf entries,
          (x.bindingId, x.accessClass) ≠ (y.bindingId, y.accessClass) → Unmixed x y) ↔
          ∀ b c, Served intent dottedDatabases b → Served intent dottedDatabases c → b.id ≠ c.id →
            slug b.id ≠ slug c.id) := by
  obtain ⟨intent, entries, hparse, hentries, -⟩ := dottedAccess_ok
  exact ⟨intent, entries, hparse, hentries, access_separated_iff hparse hentries⟩

/-- **Two bindings whose ids differ in a dot** get one namespace. -/
theorem access_not_separated : ¬ ∀ (rt : Runtime) (dates : Dates) (value : Value)
    (environment : ManagedPostgresEnvironment) (blueprint : Option PlatformBlueprint) (intent : ManagedPostgresIntent)
    (args : AccessArgs) (databases : Record DatabaseResult) (entries : List (String × AwsManagedPostgresAccessResult)),
      parseManagedPostgresIntent dates value environment blueprint = .ok intent →
        materializeDatabaseAccess rt args intent databases = .ok entries →
          ∀ x ∈ identitiesOf entries, ∀ y ∈ identitiesOf entries,
            (x.bindingId, x.accessClass) ≠ (y.bindingId, y.accessClass) → Unmixed x y := by
  intro hclaim
  obtain ⟨intent, entries, hparse, hentries, haccess⟩ := dottedAccess_ok
  have hunmixed := hclaim _ _ _ _ _ intent _ _ entries hparse hentries
  have hnamespaces := dottedAccess_namespaces
  rw [haccess] at hnamespaces
  have hlisted := Option.some.inj hnamespaces
  dsimp only at hlisted
  have hfind : ∀ id, id = "a-b" ∨ id = "a.b" → ∃ x ∈ identitiesOf entries, x.bindingId = id ∧
      x.namespaceName = "codefly-db-runtime-a-b-staging" := by
    intro id hid
    have hmem : (id, "runtime", "codefly-db-runtime-a-b-staging") ∈ namespacesOf entries := by
      rw [hlisted]
      rcases hid with rfl | rfl <;> decide
    obtain ⟨x, hx, heq⟩ := List.mem_map.1 hmem
    exact ⟨x, hx, (Prod.mk.inj heq).1, (Prod.mk.inj (Prod.mk.inj heq).2).2⟩
  obtain ⟨x, hx, hxId, hxNamespace⟩ := hfind "a-b" (Or.inl rfl)
  obtain ⟨y, hy, hyId, hyNamespace⟩ := hfind "a.b" (Or.inr rfl)
  have hpairs : (x.bindingId, x.accessClass) ≠ (y.bindingId, y.accessClass) := by
    rw [hxId, hyId]
    exact fun hpair => absurd (Prod.mk.inj hpair).1 (by decide)
  exact (hunmixed x hx y hy hpairs).namespaces (hxNamespace.trans hyNamespace.symm)

end SecureSaas.Database
