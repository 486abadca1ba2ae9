import SecureSaas.ManagementSeed.Expected

/-!
# Which stacks the policies of the management seed let through

The policy about the graph compares names. Names of seed resources are told apart, but a provider may have any name, and
a dependency on it has that name too.

* `reported_nil`: what a stack without violations agrees with.
* `exact_graph_iff`: **such a stack is the expected graph exactly if no seed resource depends on a provider.**
* `provider_dependency`: accounts that depend on a provider with the name of their unit.
-/

namespace SecureSaas.ManagementSeed

open Js Core

variable {rt : Runtime} {host : Host} {seedPrefix : String}

/-! ## Stacks -/

/-- A stack. A dependency of one of its resources is one of its resources. -/
structure ResourceStack where
  resources : List PolicyResource
  closed : ∀ r ∈ resources, (∀ ref ∈ r.dependencies, ∃ m ∈ resources, m.id = ref) ∧
    ∀ property refs, r.propertyDependencies.get? property = some refs → ∀ ref ∈ refs, ∃ m ∈ resources, m.id = ref

/-- The seed resource with the name. -/
def resourceNamed (resources : List PolicyResource) (name : String) : Option ResourceId :=
  ((seedResources resources).find? fun r => r.id.name == name).map (·.id)

/-- The references are to the seed resources of the names, in any order. -/
def RefersTo (resources : List PolicyResource) (refs : List ResourceId) (names : List String) : Prop :=
  (refs.map some).Perm (names.map (resourceNamed resources))

/-- The value is the reviewed one: the account of an email, the document of a policy, or the value itself. -/
def Reviewed (host : Host) (property : String) (actual expected : Value) : Prop :=
  match markedLocalPart property expected with
  | some localPart => accountEmailMatches actual localPart = true
  | none => if property = "content" then canonicalPolicy host actual = canonicalPolicy host expected
    else Equivalent actual expected

/-- The type and the inputs of a resource are the expected ones. -/
structure SameInputs (host : Host) (resource : PolicyResource) (expected : ExpectedSeedResource) : Prop where
  type : resource.id.type = expected.type
  values : ∀ property value, expected.props.get? property = some value →
    Reviewed host property (resource.prop property) value
  inputs : ∀ property value, resource.props.get? property = some value → property ∈ expected.allowedProps

/-- A resource as it is expected, with its dependencies by their names. -/
structure SameNames (host : Host) (resource : PolicyResource) (expected : ExpectedSeedResource) : Prop extends
    SameInputs host resource expected where
  dependencies : (resource.dependencies.map (·.name)).Perm expected.dependencies
  propertyDependencies : ∀ property,
    (resource.propertyDependencies.get? property).map (fun refs => sortTexts (refs.map (·.name))) =
      expected.propertyDependencies.get? property

/-- A resource as it is expected, with its dependencies as resources. -/
structure AsExpected (host : Host) (resources : List PolicyResource) (resource : PolicyResource)
    (expected : ExpectedSeedResource) : Prop extends SameInputs host resource expected where
  dependencies : RefersTo resources resource.dependencies expected.dependencies
  propertyDependencies : ∀ property,
    match resource.propertyDependencies.get? property, expected.propertyDependencies.get? property with
    | none, none => True
    | some refs, some names => RefersTo resources refs names
    | _, _ => False

/-- The seed resources are the organization alone, or those of the graph, one for each name. -/
def Complete (rt : Runtime) (seedPrefix : String) (resources : List PolicyResource) : Prop :=
  (seedResources resources).map (·.id.name) = [seedPrefix ++ "-organization"] ∨
    ((seedResources resources).map (·.id.name)).Perm (expectedResourceGraph rt seedPrefix).keys

/-- The stack is the expected graph. -/
structure ExactGraph (host : Host) (stack : ResourceStack) (seedPrefix : String) : Prop where
  complete : Complete host.toRuntime seedPrefix stack.resources
  expected : ∀ r ∈ seedResources stack.resources, ∃ expected,
    (expectedResourceGraph host.toRuntime seedPrefix).get? r.id.name = some expected ∧
      AsExpected host stack.resources r expected

/-! ## What is reported -/

variable {resources : List PolicyResource} {resource : PolicyResource} {expected : ExpectedSeedResource}

theorem organization_mem : seedPrefix ++ "-organization" ∈ expectedResourceNames seedPrefix := by
  rw [expectedResourceNames, mem_sortTexts]
  exact List.mem_map.2 ⟨"organization", List.mem_cons_self, by rw [String.append_assoc]; rfl⟩

theorem expectedNames_perm : (expectedResourceNames seedPrefix).Perm (expectedResourceGraph rt seedPrefix).keys := by
  refine (List.perm_ext_iff_of_nodup ?_ (Record.keys_nodup _)).2 fun name => ?_
  · rw [expectedResourceNames, (sortTexts_perm _).nodup_iff]
    exact seedNames_nodup
  · rw [Record.mem_keys]
    constructor
    · exact graph_isSome
    · rintro ⟨expected, hget⟩
      rw [expectedResourceNames, mem_sortTexts, ← @expectedEntries_names rt]
      exact List.mem_map.2 ⟨_, graph_get.1 hget, rfl⟩

theorem reviewed_of_matches {property : String} {actual value : Value} (hactual : property = "content" ∨ Plain actual ∨
    actual = .undefined) (hvalue : Plain value) (h : propertyMatches host property actual value = true) :
    Reviewed host property actual value := by
  unfold propertyMatches at h
  unfold Reviewed
  cases hmark : markedLocalPart property value with
  | some localPart =>
    rw [hmark] at h
    exact h
  | none =>
    rw [hmark] at h
    dsimp only at h ⊢
    by_cases hcontent : property = "content"
    · rw [if_pos hcontent] at h ⊢
      exact beq_iff_eq.1 h
    · rw [if_neg hcontent] at h ⊢
      rcases hactual with heq | hplain | rfl
      · exact absurd heq hcontent
      · exact equivalent_of_json hplain hvalue (beq_iff_eq.1 h)
      · -- an absent property has no text
        have htext := beq_iff_eq.1 h
        unfold canonicalJson at htext
        rw [InfrastructureController.stableText_eq _ value hvalue.1] at htext
        cases htext

theorem prop_plain (property : String) : Plain (resource.prop property) ∨ resource.prop property = .undefined := by
  unfold PolicyResource.prop
  cases hget : resource.props.get? property with
  | none => exact Or.inr rfl
  | some v => exact Or.inl (resource.json (property, v) (Record.get?_eq_some_iff.1 hget))

theorem sameNames_of_drift (hentry : ∀ property v, expected.props.get? property = some v → Plain v)
    (h : resourceDrift host resource expected = []) : SameNames host resource expected := by
  unfold resourceDrift at h
  simp only [List.append_eq_nil_iff, reportIf_nil, List.flatMap_eq_nil_iff] at h
  obtain ⟨⟨⟨⟨htype, hinputs⟩, hvalues⟩, hdependencies⟩, hproperties⟩ := h
  refine ⟨⟨by simpa using htype, fun property value hget => ?_, fun property value hget => ?_⟩, ?_, fun property => ?_⟩
  · have hmatches := hvalues (property, value) (Record.mem_entries.2 hget)
    rw [Bool.not_eq_false'] at hmatches
    exact reviewed_of_matches (Or.inr (prop_plain property)) (hentry property value hget) hmatches
  · by_contra hunexpected
    have hmem : property ∈ unexpectedProps resource expected := by
      unfold unexpectedProps
      rw [mem_sortTexts, List.mem_filter]
      exact ⟨Record.mem_keys.2 ⟨value, hget⟩, by simpa using hunexpected⟩
    rw [Bool.not_eq_false', List.isEmpty_iff] at hinputs
    rw [hinputs] at hmem
    cases hmem
  · rw [← namesJson_inj (bne_eq_false_iff_eq.1 hdependencies)]
    exact (sortTexts_perm _).symm
  · have hmaps := namesMapJson_inj (bne_eq_false_iff_eq.1 hproperties) property
    unfold resourcePropertyDependencyNames at hmaps
    rw [normalizedDependencyMap_get, Record.get?_mapValues, Option.map_map] at hmaps
    exact hmaps

theorem graphDrift_nil (h : graphDrift host seedPrefix (seedResources resources) = []) :
    Complete host.toRuntime seedPrefix resources ∧ ∀ r ∈ seedResources resources, ∃ expected,
      (expectedResourceGraph host.toRuntime seedPrefix).get? r.id.name = some expected ∧ SameNames host r expected := by
  unfold graphDrift at h
  simp only [List.append_eq_nil_iff, reportIf_nil, List.flatMap_eq_nil_iff] at h
  obtain ⟨hnames, hdrift⟩ := h
  have hnames := namesJson_inj (bne_eq_false_iff_eq.1 hnames)
  have hcomplete : Complete host.toRuntime seedPrefix resources ∧
      ∀ r ∈ seedResources resources, r.id.name ∈ expectedResourceNames seedPrefix := by
    have hperm := sortTexts_perm ((seedResources resources).map (·.id.name))
    rw [hnames] at hperm
    split_ifs at hperm with hone
    · have heq := List.perm_singleton.1 hperm.symm
      refine ⟨Or.inl heq, fun r hr => ?_⟩
      have hmem : r.id.name ∈ (seedResources resources).map (·.id.name) := List.mem_map.2 ⟨r, hr, rfl⟩
      rw [heq, List.mem_singleton] at hmem
      rw [hmem]
      exact organization_mem
    · refine ⟨Or.inr (hperm.symm.trans expectedNames_perm), fun r hr => ?_⟩
      exact hperm.mem_iff.2 (List.mem_map.2 ⟨r, hr, rfl⟩)
  refine ⟨hcomplete.1, fun r hr => ?_⟩
  obtain ⟨expected, hget⟩ := @graph_isSome host.toRuntime seedPrefix _ (hcomplete.2 r hr)
  have hone := hdrift r hr
  rw [hget] at hone
  exact ⟨expected, hget, sameNames_of_drift (fun property v hv => expected_plain (graph_get.1 hget) hv) hone⟩

/-- **What a stack without violations agrees with.** -/
theorem reported_nil (h : managementSeedReport host resources = []) : ∃ seedPrefix,
    Complete host.toRuntime seedPrefix resources ∧ ∀ r ∈ seedResources resources, ∃ expected,
      (expectedResourceGraph host.toRuntime seedPrefix).get? r.id.name = some expected ∧ SameNames host r expected := by
  have hstack := (List.append_eq_nil_iff.1 h).2
  unfold validateStack at hstack
  dsimp only at hstack
  split at hstack
  · split at hstack
    · cases hstack
    · exact ⟨_, graphDrift_nil hstack⟩
  · cases hstack

/-! ## Dependencies as resources -/

variable {stack : ResourceStack}

theorem Complete.nodup (h : Complete rt seedPrefix resources) : ((seedResources resources).map (·.id.name)).Nodup := by
  rcases h with heq | hperm
  · rw [heq]
    exact List.nodup_singleton _
  · exact hperm.nodup_iff.2 (Record.keys_nodup _)

/-- A seed resource is the one with its name. -/
theorem resourceNamed_of_mem (hnames : ((seedResources resources).map (·.id.name)).Nodup) {m : PolicyResource}
    (hm : m ∈ seedResources resources) : resourceNamed resources m.id.name = some m.id := by
  unfold resourceNamed
  cases hfind : (seedResources resources).find? fun r => r.id.name == m.id.name with
  | none =>
    have hnot := List.find?_eq_none.1 hfind m hm
    exact absurd (beq_self_eq_true m.id.name) hnot
  | some found =>
    have hsame : found.id.name = m.id.name := by simpa using List.find?_some hfind
    rw [List.inj_on_of_nodup_map hnames (List.mem_of_find?_eq_some hfind) hm hsame]
    rfl

theorem resourceNamed_seed {name : String} {ref : ResourceId} (h : resourceNamed resources name = some ref) :
    ref.type ≠ providerType := by
  obtain ⟨found, hfind, rfl⟩ := Option.map_eq_some_iff.1 h
  exact bne_iff_ne.1 (List.mem_filter.1 (List.mem_of_find?_eq_some hfind)).2

/-- No dependency of the resource is a provider. -/
def AvoidsProviders (resource : PolicyResource) : Prop :=
  (∀ ref ∈ resource.dependencies, ref.type ≠ providerType) ∧
    ∀ property refs, resource.propertyDependencies.get? property = some refs → ∀ ref ∈ refs, ref.type ≠ providerType

theorem RefersTo.avoids {refs : List ResourceId} {names : List String} (h : RefersTo resources refs names) :
    ∀ ref ∈ refs, ref.type ≠ providerType := by
  intro ref href
  have hmem := h.mem_iff.1 (List.mem_map.2 ⟨ref, href, rfl⟩)
  obtain ⟨name, -, hname⟩ := List.mem_map.1 hmem
  exact resourceNamed_seed hname

theorem AsExpected.avoids (h : AsExpected host resources resource expected) : AvoidsProviders resource := by
  refine ⟨h.dependencies.avoids, fun property refs hget => ?_⟩
  have hone := h.propertyDependencies property
  rw [hget] at hone
  split at hone
  · rename_i heq _
    cases heq
  · rename_i refs' names heq _
    obtain rfl := Option.some.inj heq
    exact hone.avoids
  · exact absurd hone id

/-- References to resources of the stack, none of them a provider, are to the resources of their names. -/
theorem refersTo_of_avoids (hnames : ((seedResources stack.resources).map (·.id.name)).Nodup) {refs : List ResourceId}
    {names : List String} (hclosed : ∀ ref ∈ refs, ∃ m ∈ stack.resources, m.id = ref)
    (hperm : (refs.map (·.name)).Perm names) (hseed : ∀ ref ∈ refs, ref.type ≠ providerType) :
    RefersTo stack.resources refs names := by
  have hnamed : refs.map some = (refs.map (·.name)).map (resourceNamed stack.resources) := by
    rw [List.map_map]
    refine List.map_congr_left fun ref href => ?_
    obtain ⟨m, hm, rfl⟩ := hclosed ref href
    exact (resourceNamed_of_mem hnames (List.mem_filter.2 ⟨hm, bne_iff_ne.2 (hseed m.id href)⟩)).symm
  unfold RefersTo
  rw [hnamed]
  exact hperm.map _

theorem SameNames.asExpected (hsame : SameNames host resource expected)
    (hnames : ((seedResources stack.resources).map (·.id.name)).Nodup) (hmem : resource ∈ stack.resources)
    (h : AvoidsProviders resource) : AsExpected host stack.resources resource expected := by
  obtain ⟨hclosed, hclosedProperties⟩ := stack.closed resource hmem
  refine ⟨hsame.toSameInputs, refersTo_of_avoids hnames hclosed hsame.dependencies h.1, fun property => ?_⟩
  have hsorted := hsame.propertyDependencies property
  cases hget : resource.propertyDependencies.get? property with
  | none =>
    rw [hget] at hsorted
    rw [← hsorted]
    trivial
  | some refs =>
    rw [hget] at hsorted
    rw [← hsorted]
    exact refersTo_of_avoids hnames (hclosedProperties property refs hget) (sortTexts_perm _).symm (h.2 property refs hget)

/-- **A stack without violations is the expected graph exactly if no seed resource depends on a provider.** -/
theorem exact_graph_iff (h : managementSeedReport host stack.resources = []) :
    (∃ seedPrefix, ExactGraph host stack seedPrefix) ↔ ∀ r ∈ seedResources stack.resources, AvoidsProviders r := by
  constructor
  · rintro ⟨seedPrefix, hexact⟩ r hr
    obtain ⟨expected, -, hone⟩ := hexact.expected r hr
    exact hone.avoids
  · intro havoids
    obtain ⟨seedPrefix, hcomplete, hsame⟩ := reported_nil h
    refine ⟨seedPrefix, hcomplete, fun r hr => ?_⟩
    obtain ⟨expected, hget, hone⟩ := hsame r hr
    exact ⟨expected, hget, hone.asExpected hcomplete.nodup (List.mem_filter.1 hr).1 (havoids r hr)⟩

/-! ## A unit's provider -/

/-- A host whose texts are in the order of their characters. -/
def sampleHost : Host := Host.tabulated characterOrder [] codes_nil

/-- The provider with the name of a unit. -/
def unitProvider : ResourceId := ⟨"urn:provider", providerType, "deus-ou-security"⟩

def seedId (type name : String) : ResourceId := ⟨name, type, name⟩

/-- What a dependency on the name is in the sample: on the unit's provider, not on the unit. -/
def sampleRef (name : String) : ResourceId :=
  if name = unitProvider.name then unitProvider
  else seedId (((expectedResourceGraph characterOrder "deus").get? name).elim "" (·.type)) name

/-- The value that is given for an expected one. -/
def sampleValue (property : String) (value : Value) : Value :=
  match markedLocalPart property value with
  | some localPart => .string (localPart ++ "@deus.io")
  | none => value

theorem sampleValue_plain {property : String} {value : Value} (h : Plain value) : Plain (sampleValue property value) := by
  unfold sampleValue
  split
  · exact plain_string _
  · exact h

def sampleResource (entry : String × ExpectedSeedResource)
    (h : ∀ property v, entry.2.props.get? property = some v → Plain v) : PolicyResource where
  id := seedId entry.2.type entry.1
  protect := true
  ignoreChanges := if entry.2.type = accountType then ["roleName"] else []
  props := ⟨entry.2.props.properties.map fun p => (p.1, sampleValue p.1 p.2), by
    rw [List.map_map]
    exact entry.2.props.nodup⟩
  json := by
    intro p hp
    obtain ⟨q, hq, rfl⟩ := List.mem_map.1 hp
    exact sampleValue_plain (h q.1 q.2 (Record.get?_eq_some_iff.2 hq))
  dependencies := entry.2.dependencies.map sampleRef
  propertyDependencies := entry.2.propertyDependencies.mapValues fun names => names.map sampleRef

def sampleProvider : PolicyResource where
  id := unitProvider
  protect := false
  ignoreChanges := []
  props := Record.empty
  json := fun _ hp => absurd hp List.not_mem_nil
  dependencies := []
  propertyDependencies := Record.empty

/-- The seed resources of the sample. -/
def sampleSeed : List PolicyResource :=
  (expectedEntries characterOrder "deus").pmap sampleResource fun _ hentry _ _ hget => expected_plain hentry hget

def sampleResources : List PolicyResource := sampleProvider :: sampleSeed

/-! ## Its report -/

variable {entry : String × ExpectedSeedResource}
  {hplain : ∀ property v, entry.2.props.get? property = some v → Plain v}

theorem sampleRef_name (name : String) : (sampleRef name).name = name := by
  unfold sampleRef
  split
  · next h => exact h.symm
  · rfl

theorem sampleResource_get (property : String) : (sampleResource entry hplain).props.get? property =
    (entry.2.props.get? property).map (sampleValue property) := by
  unfold Record.get? sampleResource
  dsimp only
  generalize entry.2.props.properties = ps
  induction ps with
  | nil => rfl
  | cons p ps ih =>
    rw [List.map_cons, List.lookup_cons, List.lookup_cons]
    cases hkey : property == p.1 with
    | false => exact ih
    | true =>
      rw [beq_iff_eq.1 hkey]
      rfl

theorem sampleResource_names : (sampleResource entry hplain).dependencies.map (·.name) = entry.2.dependencies := by
  show (entry.2.dependencies.map sampleRef).map (·.name) = _
  rw [List.map_map]
  exact (List.map_congr_left fun name _ => sampleRef_name name).trans (List.map_id _)

/-- The texts of a sample resource that are compared: emails, names of inputs and of property dependencies. -/
def agreesAsText (entry : String × ExpectedSeedResource) : Bool :=
  (entry.2.props.properties.all fun p => (markedLocalPart p.1 p.2).all fun localPart =>
      accountEmailMatches (sampleValue p.1 p.2) localPart) &&
    (entry.2.props.keys.all fun property => entry.2.allowedProps.contains property) &&
    normalizedDependencyMap characterOrder ((entry.2.propertyDependencies.mapValues fun names =>
      names.map sampleRef).mapValues fun refs => refs.map (·.name)) == entry.2.propertyDependencies

/-- The texts of the sample, its types and the targets of its dependencies, decided together. -/
theorem entries_decided :
    (∀ entry ∈ expectedEntries characterOrder "deus", agreesAsText entry = true ∧ entry.2.type ≠ providerType ∧
      (∀ name ∈ entry.2.dependencies, ((expectedResourceGraph characterOrder "deus").get? name).isSome = true) ∧
        ∀ p ∈ entry.2.propertyDependencies.properties, ∀ name ∈ p.2,
          ((expectedResourceGraph characterOrder "deus").get? name).isSome = true) ∧
      (∀ entry ∈ (expectedEntries characterOrder "deus").tail, entry.2.type ≠ organizationType) ∧
        stripSuffix "deus-organization" "-organization" = some "deus" := by
  decide +kernel

theorem entries_agree : ∀ entry ∈ expectedEntries characterOrder "deus", agreesAsText entry = true :=
  fun entry hentry => (entries_decided.1 entry hentry).1

theorem sampleResource_drift (hsorted : sortTexts entry.2.dependencies = entry.2.dependencies)
    (h : agreesAsText entry = true) : resourceDrift sampleHost (sampleResource entry hplain) entry.2 = [] := by
  unfold agreesAsText at h
  simp only [Bool.and_eq_true, List.all_eq_true, beq_iff_eq] at h
  obtain ⟨⟨hemails, hkeys⟩, hproperties⟩ := h
  unfold resourceDrift
  simp only [List.append_eq_nil_iff, reportIf_nil, List.flatMap_eq_nil_iff]
  refine ⟨⟨⟨⟨?_, ?_⟩, fun p hp => ?_⟩, ?_⟩, ?_⟩
  · exact bne_self_eq_false _
  · have hnone : (sampleResource entry hplain).props.keys.filter (fun property => !entry.2.allowedProps.contains property) =
        [] := by
      rw [List.filter_eq_nil_iff]
      intro property hproperty
      obtain ⟨v, hv⟩ := Record.mem_keys.1 hproperty
      rw [sampleResource_get, Option.map_eq_some_iff] at hv
      obtain ⟨w, hw, -⟩ := hv
      rw [hkeys property (Record.mem_keys.2 ⟨w, hw⟩)]
      exact Bool.false_ne_true
    unfold unexpectedProps
    rw [hnone]
    rfl
  · have hget := Record.mem_entries.1 hp
    have hprop : (sampleResource entry hplain).prop p.1 = sampleValue p.1 p.2 := by
      unfold PolicyResource.prop
      rw [sampleResource_get, hget]
      rfl
    have hemail := hemails p (Record.get?_eq_some_iff.1 hget)
    rw [hprop, Bool.not_eq_false']
    unfold propertyMatches
    cases hmark : markedLocalPart p.1 p.2 with
    | some localPart =>
      rw [hmark] at hemail
      exact hemail
    | none =>
      have hsame : sampleValue p.1 p.2 = p.2 := by
        unfold sampleValue
        rw [hmark]
      rw [hsame]
      dsimp only
      split_ifs <;> exact beq_self_eq_true _
  · unfold resourceDependencyNames
    rw [sampleResource_names, hsorted]
    exact bne_self_eq_false _
  · have hmap : resourcePropertyDependencyNames sampleHost.toRuntime (sampleResource entry hplain) =
        entry.2.propertyDependencies := hproperties
    rw [hmap]
    exact bne_self_eq_false _

theorem sortTexts_sorted (texts : List String) : sortTexts (sortTexts texts) = sortTexts texts :=
  (sortTexts_pairwise texts).insertionSort_eq

theorem entry_sorted {rt : Runtime} {seedPrefix : String} (hentry : entry ∈ expectedEntries rt seedPrefix) :
    sortTexts entry.2.dependencies = entry.2.dependencies := by
  simp only [expectedEntries, List.mem_cons, List.mem_append, List.mem_map] at hentry
  rcases hentry with rfl | rfl | (((⟨_, -, rfl⟩ | ⟨_, -, rfl⟩) | ⟨_, -, rfl⟩) | ⟨_, -, rfl⟩) | ⟨_, -, rfl⟩ <;>
    exact sortTexts_sorted _

theorem mem_sampleSeed {r : PolicyResource} (h : r ∈ sampleSeed) : ∃ entry ∈ expectedEntries characterOrder "deus",
    ∃ hplain, r = sampleResource entry hplain := by
  obtain ⟨entry, hentry, rfl⟩ := List.mem_pmap.1 h
  exact ⟨entry, hentry, _, rfl⟩

theorem sampleSeed_names : sampleSeed.map (·.id.name) = (expectedEntries characterOrder "deus").map Prod.fst := by
  unfold sampleSeed
  rw [List.map_pmap]
  exact List.pmap_eq_map _

theorem expected_types : ∀ entry ∈ expectedEntries characterOrder "deus", entry.2.type ≠ providerType :=
  fun entry hentry => (entries_decided.1 entry hentry).2.1

theorem sampleSeed_resources : seedResources sampleResources = sampleSeed := by
  unfold seedResources sampleResources
  rw [List.filter_cons_of_neg (by decide), List.filter_eq_self]
  intro r hr
  obtain ⟨entry, hentry, hplain, rfl⟩ := mem_sampleSeed hr
  exact bne_iff_ne.2 (expected_types entry hentry)

theorem sampleGraph_nil : graphDrift sampleHost "deus" sampleSeed = [] := by
  unfold graphDrift
  simp only [List.append_eq_nil_iff, reportIf_nil, List.flatMap_eq_nil_iff]
  constructor
  · have hlength : sampleSeed.length ≠ 1 := by
      rw [sampleSeed, List.length_pmap]
      decide
    rw [if_neg hlength, sampleSeed_names, expectedEntries_names]
    exact bne_self_eq_false _
  · intro r hr
    obtain ⟨entry, hentry, hplain, rfl⟩ := mem_sampleSeed hr
    have hget : (expectedResourceGraph sampleHost.toRuntime "deus").get? (sampleResource entry hplain).id.name =
        some entry.2 := graph_get.2 hentry
    rw [hget]
    exact sampleResource_drift (entry_sorted hentry) (entries_agree entry hentry)

theorem sampleStack_nil : validateStack sampleHost sampleResources = [] := by
  have horganization : ∃ r, sampleSeed.filter (fun resource => resource.id.type == organizationType) = [r] ∧
      r.id.name = "deus-organization" := by
    have hrest := entries_decided.2.1
    refine ⟨_, List.filter_cons_of_pos (by rfl) |>.trans (congrArg _ (List.filter_eq_nil_iff.2 ?_)), rfl⟩
    intro r hr
    obtain ⟨entry, hentry, rfl⟩ := List.mem_pmap.1 hr
    exact fun htype => hrest entry hentry (beq_iff_eq.1 htype)
  obtain ⟨r, hfilter, hname⟩ := horganization
  unfold validateStack
  dsimp only
  rw [sampleSeed_resources, hfilter]
  dsimp only
  rw [hname, entries_decided.2.2]
  exact sampleGraph_nil

/-- The policies about single resources, apart from the one about documents. -/
theorem sampleResources_nil : ∀ r ∈ sampleResources, resourceTypeAllowlist r ++ resourceOptions characterOrder r ++
    organizationAllFeatures r ++ trustedServiceAccess r ++ accountRootlessHandoff r = [] := by
  decide +kernel

theorem policyContent_nil {host : Host} {r : PolicyResource} {policy : String × String × Value}
    (hname : seedPolicies.find? (fun known => endsWith r.id.name ("-" ++ known.1)) = some policy)
    (hcontent : r.prop "content" = policy.2.2) (hdocument : documentOf host policy.2.2 = some policy.2.2)
    (htype : isText (r.prop "type") "S3_POLICY" = true → policy.2.2 = s3PublicAccessBlockDocument) :
    policyContent host r = [] := by
  unfold policyContent
  rw [hcontent, hdocument]
  dsimp only
  split_ifs with hs3
  · rw [htype hs3, reportIf_nil]
    exact bne_self_eq_false _
  · have hidentity : (exactPolicyDocuments host.toRuntime).find? (fun known => endsWith r.id.name ("-" ++ known.1)) =
        some (policy.1, canonicalJson host.toRuntime policy.2.2) := by
      unfold exactPolicyDocuments
      rw [List.find?_map]
      exact congrArg (Option.map _) hname
    rw [hidentity, reportIf_nil, Option.any_some, Bool.not_eq_false']
    exact beq_self_eq_true _

theorem markedLocalPart_none {property : String} {v : Value} (h : property ≠ "email") :
    markedLocalPart property v = none := by
  unfold markedLocalPart
  split
  · exact if_neg fun hmarked => h hmarked.1
  · rfl

/-- What the sample gives for the type and the document of a policy. -/
theorem samplePolicy_props {suffix name : String} {content : Value}
    {hplain : ∀ property v, (expectedPolicy characterOrder "deus" (suffix, name, content)).2.props.get? property = some v →
      Plain v} :
    (sampleResource (expectedPolicy characterOrder "deus" (suffix, name, content)) hplain).prop "content" = content ∧
      (sampleResource (expectedPolicy characterOrder "deus" (suffix, name, content)) hplain).prop "type" =
        .string (if startsWith suffix "s3-policy-" then "S3_POLICY" else "SERVICE_CONTROL_POLICY") := by
  have hprops : (expectedPolicy characterOrder "deus" (suffix, name, content)).2.props = Record.fromEntries [
      ("name", .string ("deus" ++ "-" ++ name)), ("description", .string (policyDescription suffix)),
      ("type", .string (if startsWith suffix "s3-policy-" then "S3_POLICY" else "SERVICE_CONTROL_POLICY")),
      ("content", content), ("tags", seedTags "deus" suffix [])] := rfl
  have hvalue : ∀ property v, property ≠ "email" → sampleValue property v = v := by
    intro property v hne
    unfold sampleValue
    rw [markedLocalPart_none hne]
  have hgiven : ∀ property v, property ≠ "email" →
      (expectedPolicy characterOrder "deus" (suffix, name, content)).2.props.get? property = some v →
        (sampleResource (expectedPolicy characterOrder "deus" (suffix, name, content)) hplain).prop property = v := by
    intro property v hne hget
    unfold PolicyResource.prop
    rw [sampleResource_get, hget]
    exact hvalue property v hne
  refine ⟨hgiven _ _ (by decide) ?_, hgiven _ _ (by decide) ?_⟩
  all_goals
    rw [hprops, Record.fromEntries_get?]
    · simp
    · exact (by decide : ["name", "description", "type", "content", "tags"].Nodup)

/-- A policy is the first whose suffix its name has. -/
theorem seedPolicies_listed : ∀ policy ∈ seedPolicies,
    seedPolicies.find? (fun known => endsWith ("deus" ++ "-" ++ policy.1) ("-" ++ known.1)) = some policy ∧
      documentOf sampleHost policy.2.2 = some policy.2.2 ∧
        (startsWith policy.1 "s3-policy-" = true → policy.2.2 = s3PublicAccessBlockDocument) := by
  intro policy hpolicy
  unfold seedPolicies at hpolicy ⊢
  simp only [List.mem_cons, List.not_mem_nil, or_false] at hpolicy
  rcases hpolicy with rfl | rfl | rfl
  · exact ⟨List.find?_cons_of_pos (by decide +kernel), rfl, fun h => absurd h (by decide)⟩
  · exact ⟨(List.find?_cons_of_neg (by decide +kernel)).trans (List.find?_cons_of_pos (by decide +kernel)), rfl,
      fun _ => rfl⟩
  · refine ⟨?_, rfl, fun h => absurd h (by decide)⟩
    rw [List.find?_cons_of_neg (by decide +kernel), List.find?_cons_of_neg (by decide +kernel)]
    exact List.find?_cons_of_pos (by decide +kernel)

theorem samplePolicies_nil : ∀ r ∈ sampleSeed, policyDocumentPolicy sampleHost r = [] := by
  intro r hr
  obtain ⟨entry, hentry, hplain, rfl⟩ := mem_sampleSeed hr
  have hother : entry.2.type ≠ policyType → policyDocumentPolicy sampleHost (sampleResource entry hplain) = [] := by
    intro htype
    unfold policyDocumentPolicy
    exact if_pos htype
  simp only [expectedEntries, List.mem_cons, List.mem_append, List.mem_map] at hentry
  rcases hentry with rfl | rfl | (((⟨_, -, rfl⟩ | ⟨_, -, rfl⟩) | ⟨_, -, rfl⟩) | ⟨policy, hpolicy, rfl⟩) | ⟨_, -, rfl⟩
  case inr.inr.inl.inr =>
    obtain ⟨suffix, name, content⟩ := policy
    obtain ⟨hcontent, htype⟩ := @samplePolicy_props suffix name content hplain
    obtain ⟨hname, hdocument, hs3⟩ := seedPolicies_listed _ hpolicy
    unfold policyDocumentPolicy
    rw [if_neg fun hne => hne rfl, List.append_eq_nil_iff, reportIf_nil, htype]
    refine ⟨?_, policyContent_nil hname hcontent hdocument fun hkind => hs3 ?_⟩
    · split <;> rfl
    · rw [htype] at hkind
      by_contra hother
      rw [if_neg hother] at hkind
      cases hkind
  all_goals
    refine hother ?_
    first
      | exact (by decide : organizationType ≠ policyType)
      | exact (by decide : sharingType ≠ policyType)
      | exact (by decide : unitType ≠ policyType)
      | exact (by decide : accountType ≠ policyType)
      | exact (by decide : serviceAccessType ≠ policyType)
      | exact (by decide : attachmentType ≠ policyType)

theorem sample_reported : managementSeedReport sampleHost sampleResources = [] := by
  unfold managementSeedReport
  rw [List.append_eq_nil_iff, List.flatMap_eq_nil_iff]
  refine ⟨fun r hr => ?_, sampleStack_nil⟩
  rw [List.append_eq_nil_iff]
  refine ⟨sampleResources_nil r hr, ?_⟩
  rcases List.mem_cons.1 hr with rfl | hseed
  · rfl
  · exact samplePolicies_nil r hseed

theorem entries_closed : ∀ entry ∈ expectedEntries characterOrder "deus",
    (∀ name ∈ entry.2.dependencies, ((expectedResourceGraph characterOrder "deus").get? name).isSome = true) ∧
      ∀ p ∈ entry.2.propertyDependencies.properties, ∀ name ∈ p.2,
        ((expectedResourceGraph characterOrder "deus").get? name).isSome = true :=
  fun entry hentry => (entries_decided.1 entry hentry).2.2

/-- A dependency of the sample is one of its resources. -/
theorem sampleRef_mem {name : String} (h : ((expectedResourceGraph characterOrder "deus").get? name).isSome = true) :
    ∃ m ∈ sampleResources, m.id = sampleRef name := by
  unfold sampleRef
  split_ifs with hprovider
  · exact ⟨sampleProvider, List.mem_cons_self, rfl⟩
  · obtain ⟨expected, hget⟩ := Option.isSome_iff_exists.1 h
    have hentry := graph_get.1 hget
    rw [hget]
    exact ⟨_, List.mem_cons_of_mem _ (List.mem_pmap.2 ⟨(name, expected), hentry, rfl⟩), rfl⟩

def sampleStack : ResourceStack where
  resources := sampleResources
  closed := by
    intro r hr
    rcases List.mem_cons.1 hr with rfl | hseed
    · exact ⟨fun ref href => absurd href List.not_mem_nil, fun property refs hget => by cases hget⟩
    · obtain ⟨entry, hentry, hplain, rfl⟩ := mem_sampleSeed hseed
      obtain ⟨hdependencies, hproperties⟩ := entries_closed entry hentry
      constructor
      · intro ref href
        obtain ⟨name, hname, rfl⟩ := List.mem_map.1 href
        exact sampleRef_mem (hdependencies name hname)
      · intro property refs hget ref href
        have hmapped : (entry.2.propertyDependencies.mapValues fun names => names.map sampleRef).get? property =
            some refs := hget
        rw [Record.get?_mapValues, Option.map_eq_some_iff] at hmapped
        obtain ⟨names, hnames, rfl⟩ := hmapped
        obtain ⟨name, hname, rfl⟩ := List.mem_map.1 href
        exact sampleRef_mem (hproperties (property, names) (Record.get?_eq_some_iff.1 hnames) name hname)

theorem exact_graph_sample : (∃ seedPrefix, ExactGraph sampleHost sampleStack seedPrefix) ↔
    ∀ r ∈ seedResources sampleStack.resources, AvoidsProviders r :=
  exact_graph_iff sample_reported

/-- **Accounts may depend on a provider with the name of their unit.** -/
theorem provider_dependency : ¬ ∀ (host : Host) (stack : ResourceStack),
    managementSeedReport host stack.resources = [] → ∃ seedPrefix, ExactGraph host stack seedPrefix := by
  intro hclaim
  obtain ⟨seedPrefix, hexact⟩ := hclaim sampleHost sampleStack sample_reported
  have hdependent : ∃ entry ∈ expectedEntries characterOrder "deus", "deus-ou-security" ∈ entry.2.dependencies := by
    decide +kernel
  obtain ⟨entry, hentry, hname⟩ := hdependent
  have hr : sampleResource entry (fun _ _ hget => expected_plain hentry hget) ∈ seedResources sampleStack.resources := by
    show _ ∈ seedResources sampleResources
    rw [sampleSeed_resources]
    exact List.mem_pmap.2 ⟨entry, hentry, rfl⟩
  obtain ⟨expected, -, hone⟩ := hexact.expected _ hr
  exact hone.avoids.1 _ (List.mem_map.2 ⟨_, hname, rfl⟩) rfl

end SecureSaas.ManagementSeed
