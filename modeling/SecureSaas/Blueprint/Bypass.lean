import SecureSaas.Blueprint.Applications
import SecureSaas.Blueprint.Access

/-!
# Ways out of an execution zone

Two policies keep execution away from the control plane and the data: one looks at the ends of
each flow, the other at paths of more than two zones. The graph cuts a flow with transit zones
into hops, and a single hop is neither.

* `evaluateBlueprint_clean`: where nothing is reported, every policy is satisfied.
* `exit_brokered`: a walk that goes on after it left the execution zone left it through a broker.
* `execution_brokered`: **all walks do, exactly if the single hops of the flows do**.
* `hop_escapes`: a flow that passes the control plane on its way is not seen.
-/

namespace SecureSaas.Blueprint

open SecureSaas.Graph Js

abbrev BlueprintPolicy := PlatformBlueprint → Except String (List BlueprintViolation)

def defaultBlueprintPolicies (dates : Dates) : List BlueprintPolicy :=
  [fun blueprint => .ok (structuralIntegrityPolicy blueprint),
   fun blueprint => .ok (networkBoundaryPolicy blueprint),
   transitiveNetworkPolicy,
   fun blueprint => .ok (workloadPlanePolicy blueprint),
   fun blueprint => .ok (applicationDeploymentPolicy blueprint),
   fun blueprint => .ok (tenantIsolationPolicy blueprint),
   fun blueprint => .ok (dataProtectionPolicy blueprint),
   identityPolicy dates,
   fun blueprint => .ok (evidencePolicy blueprint)]

def evaluateBlueprint (blueprint : PlatformBlueprint) (policies : List BlueprintPolicy) :
    Except String (List BlueprintViolation) := do
  let violations ← policies.mapM fun policy => policy blueprint
  .ok violations.flatten

/-- Where nothing is reported, every policy is satisfied. -/
theorem evaluateBlueprint_clean {blueprint : PlatformBlueprint} {policies : List BlueprintPolicy}
    (h : evaluateBlueprint blueprint policies = .ok []) {policy : BlueprintPolicy} (hpolicy : policy ∈ policies) :
    policy blueprint = .ok [] := by
  obtain ⟨violations, hviolations, hout⟩ := bind_ok.1 h
  obtain ⟨found, hfound, hrun⟩ := mapM_ok hviolations policy hpolicy
  obtain rfl : found = [] := List.flatten_eq_nil_iff.1 (Except.ok.inj hout) found hfound
  exact hrun

def ViolationSeverity.text : ViolationSeverity → String
  | .critical => "critical"
  | .high => "high"
  | .medium => "medium"

def BlueprintViolation.line (violation : BlueprintViolation) : String :=
  s!"- [{violation.severity.text}] {violation.code}: {violation.message}"

def assertBlueprint (dates : Dates) (blueprint : PlatformBlueprint) : Except String Unit := do
  let violations ← evaluateBlueprint blueprint (defaultBlueprintPolicies dates)
  let lines := "\n".intercalate (violations.map BlueprintViolation.line)
  throwUnless violations.isEmpty
    s!"Cloud-neutral platform blueprint '{blueprint.name}' violates security invariants:\n{lines}"

/-- A blueprint that is not rejected satisfies every policy. -/
theorem assertBlueprint_ok {dates : Dates} {blueprint : PlatformBlueprint} :
    assertBlueprint dates blueprint = .ok () ↔ evaluateBlueprint blueprint (defaultBlueprintPolicies dates) = .ok [] := by
  unfold assertBlueprint
  rw [bind_ok]
  constructor
  · rintro ⟨violations, hviolations, hnone⟩
    obtain rfl := List.isEmpty_iff.1 (throwUnless_ok.1 hnone)
    exact hviolations
  · intro h
    exact ⟨[], h, rfl⟩

/-- The structure of a blueprint that is not rejected. -/
theorem assertBlueprint_structure {dates : Dates} {blueprint : PlatformBlueprint} {u : Unit}
    (h : assertBlueprint dates blueprint = .ok u) : structuralIntegrityPolicy blueprint = [] := by
  have hclean := assertBlueprint_ok.1 h
  have hpolicies : ∀ policy ∈ defaultBlueprintPolicies dates, policy blueprint = .ok [] :=
    fun policy hpolicy => evaluateBlueprint_clean hclean hpolicy
  simp only [defaultBlueprintPolicies, List.forall_mem_cons] at hpolicies
  exact Except.ok.inj hpolicies.1

/-- The applications of a blueprint that is not rejected. -/
theorem assertBlueprint_applications {dates : Dates} {blueprint : PlatformBlueprint} {u : Unit}
    (h : assertBlueprint dates blueprint = .ok u) :
    applicationDeploymentPolicy blueprint = [] ∧ (blueprint.applications.map (·.id)).Nodup := by
  have hclean := assertBlueprint_ok.1 h
  have hpolicies : ∀ policy ∈ defaultBlueprintPolicies dates, policy blueprint = .ok [] :=
    fun policy hpolicy => evaluateBlueprint_clean hclean hpolicy
  simp only [defaultBlueprintPolicies, List.forall_mem_cons] at hpolicies
  obtain ⟨-, -, -, -, happlications, -⟩ := hpolicies
  exact ⟨Except.ok.inj happlications, applicationIds_nodup (structuralIntegrity_ids (assertBlueprint_structure h))⟩

/-! ## The edge a walk leaves by -/

/-- The edge by which a walk leaves `u` for good: the last that departs from there. -/
def exitEdge (u : String) (es : List SecurityEdge) : Option SecurityEdge :=
  (es.filter fun edge => edge.fromId = u).getLast?

theorem exitEdge_eq {u : String} {edge : SecurityEdge} {fs gs : List SecurityEdge} (hedge : edge.fromId = u)
    (hgone : ∀ g ∈ gs, g.fromId ≠ u) : exitEdge u (fs ++ edge :: gs) = some edge := by
  have hnone : gs.filter (fun g => g.fromId = u) = [] :=
    List.filter_eq_nil_iff.2 fun g hg => by simpa using hgone g hg
  rw [exitEdge, List.filter_append, List.filter_cons_of_pos (by simpa using hedge), hnone]
  simp

/-- A walk from an execution zone to a trusted one leaves the former through a brokered edge. -/
def ExecutionBrokered (blueprint : PlatformBlueprint) : Prop :=
  ∀ source ∈ blueprint.trustZones, ∀ destination ∈ blueprint.trustZones, source.kind = .execution →
    destination.kind = .controlPlane ∨ destination.kind = .data →
      ∀ es, Reach (buildSecurityGraph blueprint) source.id es destination.id →
        ∃ edge, exitEdge source.id es = some edge ∧ edge.brokered = some true

/-- A flow with transit zones that at one of its hops leads straight from an execution zone to a
trusted one is brokered. -/
def TransitHopsBrokered (blueprint : PlatformBlueprint) : Prop :=
  ∀ flow ∈ blueprint.flows, flow.viaZoneIds.getD [] ≠ [] →
    ∀ source ∈ blueprint.trustZones, ∀ destination ∈ blueprint.trustZones, source.kind = .execution →
      destination.kind = .controlPlane ∨ destination.kind = .data →
        (source.id, destination.id) ∈ flow.hops.zip flow.hops.tail → flow.authorization = .brokered

section
variable {blueprint : PlatformBlueprint}

theorem trusted_iff {kind : TrustZoneKind} : kind.trusted = true ↔ kind = .controlPlane ∨ kind = .data := by
  simp [TrustZoneKind.trusted]

theorem mem_flowEdges {flow : NetworkFlow} {edge : SecurityEdge} (h : edge ∈ flowEdges flow) :
    (edge.fromId, edge.toId) ∈ flow.hops.zip flow.hops.tail ∧
      edge.brokered = some (decide (flow.authorization = .brokered)) := by
  obtain ⟨⟨p, i⟩, hp, rfl⟩ := List.mem_map.1 h
  exact ⟨List.fst_mem_of_mem_zipIdx hp, rfl⟩

/-- Each two neighbours on a flow are joined by an edge. -/
theorem exists_flowEdge {flow : NetworkFlow} {u v : String} (h : (u, v) ∈ flow.hops.zip flow.hops.tail) :
    ∃ edge ∈ flowEdges flow, edge.fromId = u ∧ edge.toId = v := by
  obtain ⟨i, hi⟩ := List.mem_iff_getElem?.1 h
  have hmem : ((u, v), i) ∈ (flow.hops.zip flow.hops.tail).zipIdx := List.mem_zipIdx_iff_getElem?.2 hi
  exact ⟨hopEdge flow i u v, List.mem_map.2 ⟨((u, v), i), hmem, rfl⟩, rfl, rfl⟩

/-- A flow without transit zones is one hop. -/
theorem hops_direct {flow : NetworkFlow} (h : flow.viaZoneIds.getD [] = []) {u v : String}
    (hhop : (u, v) ∈ flow.hops.zip flow.hops.tail) : u = flow.fromZoneId ∧ v = flow.toZoneId := by
  rw [NetworkFlow.hops, h] at hhop
  simpa using hhop

theorem zoneKind_eq (hids : (blueprint.trustZones.map (·.id)).Nodup) {zone : TrustZone}
    (hzone : zone ∈ blueprint.trustZones) : zoneKind blueprint zone.id = some zone.kind := by
  rw [zoneKind, zonesById_get? hids hzone, Option.map_some]

/-- A path of more than two zones from an execution zone to a trusted one is brokered. -/
theorem exit_brokered (hids : (blueprint.trustZones.map (·.id)).Nodup) (hdeclared : HopsDeclared blueprint)
    (h : transitiveNetworkPolicy blueprint = .ok []) {source destination : TrustZone}
    (hs : source ∈ blueprint.trustZones) (hd : destination ∈ blueprint.trustZones)
    (hexecution : source.kind = .execution) (htrusted : destination.kind = .controlPlane ∨ destination.kind = .data)
    {edge : SecurityEdge} {gs : List SecurityEdge} (hedge : CanReach blueprint edge) (hstart : edge.fromId = source.id)
    (hwalk : Reach (buildSecurityGraph blueprint) edge.toId gs destination.id)
    (hgone : source.id ∉ vertices SecurityEdge.toId edge.toId gs) (hlong : edge.toId ≠ destination.id) :
    edge.brokered = some true := by
  obtain ⟨paths, hpaths, hclean⟩ := policy_clean h hs
  obtain ⟨fs, hsub, hshort, hsimple⟩ := hwalk.erase
  have hpath : Reach (buildSecurityGraph blueprint) source.id (edge :: fs) destination.id :=
    .cons hedge hstart hshort
  have hsimple' : Simple SecurityEdge.toId source.id (edge :: fs) :=
    List.nodup_cons.2 ⟨fun hmem => hgone (vertices_subset hsub hmem), hsimple⟩
  have hlen : (edge :: fs).length < blueprint.trustZones.length := by
    have := hsimple'.length_lt (declaredReach_of_hops hdeclared hs hpath).2
    rwa [List.length_map] at this
  obtain ⟨found, hfound, hmem⟩ := findNetworkPaths_complete hpaths hpath (follows_default (List.cons_ne_nil edge fs))
    hsimple' (by simp only [defaultOptions, Option.getD_none, Limit.depth]; omega)
  have hto : (networkPath found).toZoneId = destination.id := by
    show found.currentZone = destination.id
    rw [Trail.currentZone, found.passed, hfound]
    exact hpath.getLastD
  have hget : (zonesById blueprint).get? (networkPath found).toZoneId = some destination := by
    rw [hto]
    exact zonesById_get? hids hd
  obtain ⟨hbypass, -, -⟩ := pathViolations_eq_nil hget (hclean _ hmem)
  -- the path has a zone between its ends, so the policy has looked at it
  have hfs : fs ≠ [] := by
    rintro rfl
    exact hlong (hshort.getLastD (d := edge.toId))
  have hzones : (networkPath found).zoneIds.length > 2 := by
    show found.zoneIds.length > 2
    have := List.length_pos_iff.2 hfs
    rw [found.passed, hfound]
    simp only [vertices, List.length_cons, List.length_map]
    omega
  have hbroker : (networkPath found).brokeredAtSource = true := by
    simpa [executionBypass, hexecution, htrusted, hzones] using hbypass
  simpa [networkPath, hfound] using hbroker

/-- A single hop of a flow without transit zones is the flow, which is brokered. -/
theorem hop_brokered (hids : (blueprint.trustZones.map (·.id)).Nodup) (h : networkBoundaryPolicy blueprint = [])
    (hhops : TransitHopsBrokered blueprint) {source destination : TrustZone} (hs : source ∈ blueprint.trustZones)
    (hd : destination ∈ blueprint.trustZones) (hexecution : source.kind = .execution)
    (htrusted : destination.kind = .controlPlane ∨ destination.kind = .data) {edge : SecurityEdge}
    (hedge : CanReach blueprint edge) (hfrom : edge.fromId = source.id) (hto : edge.toId = destination.id) :
    edge.brokered = some true := by
  obtain ⟨flow, hflow, hmem⟩ := canReach_iff.1 hedge
  obtain ⟨hhop, hbrokered⟩ := mem_flowEdges hmem
  rw [hfrom, hto] at hhop
  rw [hbrokered, Option.some.injEq, decide_eq_true_iff]
  by_cases hvia : flow.viaZoneIds.getD [] = []
  · obtain ⟨hsource, hdestination⟩ := hops_direct hvia hhop
    have hfromKind : zoneKind blueprint flow.fromZoneId = some .execution := by
      rw [← hsource, zoneKind_eq hids hs, hexecution]
    have htoKind : zoneKind blueprint flow.toZoneId = some destination.kind := by
      rw [← hdestination, zoneKind_eq hids hd]
    exact networkBoundary_direct h hflow hfromKind htoKind (trusted_iff.2 htrusted)
  · exact hhops flow hflow hvia source hs destination hd hexecution htrusted hhop

/-- A hop is a walk of its own, which leaves by the edge of the hop. -/
theorem hop_of_walks (h : ExecutionBrokered blueprint) {flow : NetworkFlow} (hflow : flow ∈ blueprint.flows)
    {source destination : TrustZone} (hs : source ∈ blueprint.trustZones) (hd : destination ∈ blueprint.trustZones)
    (hexecution : source.kind = .execution) (htrusted : destination.kind = .controlPlane ∨ destination.kind = .data)
    (hhop : (source.id, destination.id) ∈ flow.hops.zip flow.hops.tail) : flow.authorization = .brokered := by
  obtain ⟨edge, hedge, hfrom, hto⟩ := exists_flowEdge hhop
  have hreach : CanReach blueprint edge := canReach_iff.2 ⟨flow, hflow, hedge⟩
  have hwalk : Reach (buildSecurityGraph blueprint) source.id [edge] destination.id :=
    .cons hreach hfrom (hto ▸ .nil _)
  obtain ⟨exit, hexit, hbrokered⟩ := h source hs destination hd hexecution htrusted [edge] hwalk
  have honly : exitEdge source.id ([] ++ edge :: []) = some edge :=
    exitEdge_eq hfrom fun g hg => absurd hg List.not_mem_nil
  obtain rfl : edge = exit := Option.some.inj (honly.symm.trans hexit)
  rw [(mem_flowEdges hedge).2] at hbrokered
  simpa using hbrokered

end

/-- **Where no policy reports anything, every walk from an execution zone to a trusted one leaves
through a broker, exactly if every flow with transit zones does that leads straight from one to
the other.** -/
theorem execution_brokered (dates : Dates) (blueprint : PlatformBlueprint)
    (h : evaluateBlueprint blueprint (defaultBlueprintPolicies dates) = .ok []) :
    ExecutionBrokered blueprint ↔ TransitHopsBrokered blueprint := by
  have hpolicies : ∀ policy ∈ defaultBlueprintPolicies dates, policy blueprint = .ok [] :=
    fun policy hpolicy => evaluateBlueprint_clean h hpolicy
  simp only [defaultBlueprintPolicies, List.forall_mem_cons] at hpolicies
  obtain ⟨hstructure, hboundary, htransitive, -⟩ := hpolicies
  have hstructure : structuralIntegrityPolicy blueprint = [] := Except.ok.inj hstructure
  have hboundary : networkBoundaryPolicy blueprint = [] := Except.ok.inj hboundary
  have hids := zoneIds_nodup (structuralIntegrity_ids hstructure)
  have hdeclared := structuralIntegrity_hops hstructure
  constructor
  · intro hall flow hflow _ source hs destination hd hexecution htrusted hhop
    exact hop_of_walks hall hflow hs hd hexecution htrusted hhop
  · intro hhops source hs destination hd hexecution htrusted es hwalk
    have hne : source.id ≠ destination.id := by
      intro heq
      have hsame : source = destination := List.inj_on_of_nodup_map hids hs hd heq
      rw [← hsame, hexecution] at htrusted
      simp at htrusted
    obtain ⟨fs, edge, gs, rfl, hedge, hstart, hrest, hgone⟩ :=
      hwalk.lastDeparture (List.mem_cons_self) hne
    refine ⟨edge, exitEdge_eq hstart fun g hg heq => hgone (heq ▸ hrest.src_mem g hg), ?_⟩
    by_cases hlong : edge.toId = destination.id
    · exact hop_brokered hids hboundary hhops hs hd hexecution htrusted hedge hstart hlong
    · exact exit_brokered hids hdeclared htransitive hs hd hexecution htrusted hedge hstart hrest hgone hlong

/-! ## A flow through the control plane -/

/-- An execution zone whose way to the workers leads through the control plane. -/
def runnerBlueprint (authorization : FlowAuthorization) : PlatformBlueprint :=
  { sampleBlueprint [] [] with
    posture := ⟨true, false, true, 30⟩
    trustZones := [⟨"runners", .execution, false, .platform, none⟩, ⟨"control", .controlPlane, false, .platform, none⟩,
      ⟨"workers", .workload, false, .platform, none⟩]
    flows := [⟨"dispatch", "runners", "workers", authorization, some ["control"], none⟩]
    evidenceSinks := [⟨"audit", true, 30, .platform⟩] }

theorem execution_brokered_sample : ExecutionBrokered (runnerBlueprint .brokered) :=
  (execution_brokered sampleDates (runnerBlueprint .brokered) (by decide +kernel)).2
    (by unfold TransitHopsBrokered; decide +kernel)

/-- **A hop into the control plane is not seen**: the flow ends elsewhere, and the hop is a path of
two zones. -/
theorem hop_escapes :
    ¬ ∀ (dates : Dates) (blueprint : PlatformBlueprint),
      evaluateBlueprint blueprint (defaultBlueprintPolicies dates) = .ok [] → ExecutionBrokered blueprint := by
  intro h
  have hall := h sampleDates (runnerBlueprint .direct) (by decide +kernel)
  have hflow : (⟨"dispatch", "runners", "workers", .direct, some ["control"], none⟩ : NetworkFlow) ∈
      (runnerBlueprint .direct).flows := List.mem_cons_self
  have hsource : (⟨"runners", .execution, false, .platform, none⟩ : TrustZone) ∈
      (runnerBlueprint .direct).trustZones := by decide
  have hdestination : (⟨"control", .controlPlane, false, .platform, none⟩ : TrustZone) ∈
      (runnerBlueprint .direct).trustZones := by decide
  have hbrokered := hop_of_walks hall hflow hsource hdestination rfl (Or.inl rfl) (by decide)
  cases hbrokered

end SecureSaas.Blueprint
