import SecureSaas.Controller.Authorize

/-!
# Confinement of infrastructure authority

Authority is decided by the string test `startsWith` on a rendered path. Because no identifier
contains the separator and every accepted prefix ends with one, the test compares whole
components.

* `resourcePrefix_names`: an accepted prefix names one organization, tenant and context.
* `startsWith_resource`: it matches the resources of these three only.
* `allowed_confined`: so an allowed request stays inside the claim's own context.
-/

namespace SecureSaas.Controller

open Js

/-- The characters of a path with the given components, up to the claim. -/
def pathChars (o t x : List Char) : List Char :=
  "organization/".toList ++ (o ++ '/' :: ("tenant/".toList ++ (t ++ '/' ::
    ("context/".toList ++ (x ++ '/' :: "claim/".toList)))))

/-- The groups of the prefix expression: the organization, tenant and context it names. -/
def ResourcePrefix.Names (p : ResourcePrefix) (parts : String × String × String) : Prop :=
  p.1.toList = pathChars parts.1.toList parts.2.1.toList parts.2.2.toList ∧
    ∀ s ∈ [parts.1, parts.2.1, parts.2.2], s ≠ "" ∧ ∀ c ∈ s.toList, isResourceChar c = true

/-! ## Components have no separator -/

theorem not_mem_slash {w : List Char} (h : ∀ c ∈ w, isResourceChar c = true) : '/' ∉ w :=
  fun hm => absurd (h _ hm) (by decide)

theorem isResourceChar_of_alnum {c : Char} (h : isAlnum c = true) : isResourceChar c = true := by
  unfold isResourceChar
  simp [h]

theorem Identifier.chars (i : Identifier) : i.1 ≠ "" ∧ ∀ c ∈ i.1.toList, isResourceChar c = true := by
  obtain ⟨s, hs⟩ := i
  have hm := Bool.and_elim_left hs
  rw [isIdentifierText, Pattern.fullMatch_iff, Pattern.mem_seq] at hm
  obtain ⟨m, hfirst, hrest⟩ := hm
  obtain ⟨c, hc, hs⟩ := Pattern.mem_cls.1 hfirst
  obtain ⟨w, -, hw, rfl⟩ := Pattern.mem_upTo.1 hrest
  rw [List.append_nil] at hs
  refine ⟨?_, ?_⟩
  · rintro rfl
    simp at hs
  · rw [hs]
    exact List.forall_mem_cons.2 ⟨isResourceChar_of_alnum hc, hw⟩

/-- Paths with equal texts have equal components: each is cut off at its first separator. -/
theorem pathChars_inj {o t x o' t' x' r r' : List Char}
    (h : ∀ w ∈ [o, t, x, o', t', x'], '/' ∉ w)
    (he : pathChars o t x ++ r = pathChars o' t' x' ++ r') :
    o = o' ∧ t = t' ∧ x = x' := by
  unfold pathChars at he
  generalize "organization/".toList = a, "tenant/".toList = b, "context/".toList = c,
    "claim/".toList = d at he
  simp only [List.forall_mem_cons] at h
  obtain ⟨ho, ht, hx, ho', ht', hx', -⟩ := h
  simp only [List.append_assoc, List.cons_append, List.append_cancel_left_eq] at he
  obtain ⟨rfl, h1⟩ := separator_inj ho ho' he
  obtain ⟨rfl, h2⟩ := separator_inj ht ht' (List.append_cancel_left h1)
  obtain ⟨rfl, -⟩ := separator_inj hx hx' (List.append_cancel_left h2)
  exact ⟨rfl, rfl, rfl⟩

theorem mem_claimPath {cs r : List Char} : r ∈ claimPath cs ↔ ∃ o t x : List Char,
    (∀ w ∈ [o, t, x], w ≠ [] ∧ ∀ c ∈ w, isResourceChar c = true) ∧ cs = pathChars o t x ++ r := by
  have ht : "/tenant/".toList = '/' :: "tenant/".toList := by decide +kernel
  have hx : "/context/".toList = '/' :: "context/".toList := by decide +kernel
  have hc : "/claim/".toList = '/' :: "claim/".toList := by decide +kernel
  unfold claimPath pathChars
  simp only [Pattern.mem_seq, Pattern.mem_lit, Pattern.mem_many1, List.forall_mem_cons]
  rw [ht, hx, hc]
  generalize "organization/".toList = a, "tenant/".toList = b, "context/".toList = c,
    "claim/".toList = d
  constructor
  · intro h
    obtain ⟨_, rfl, _, ⟨o, ho, hoc, rfl⟩, _, rfl, _, ⟨t, ht, htc, rfl⟩, _, rfl, _, ⟨x, hx, hxc, rfl⟩, rfl⟩ := h
    refine ⟨o, t, x, ⟨⟨ho, hoc⟩, ⟨ht, htc⟩, ⟨hx, hxc⟩, by simp⟩, ?_⟩
    simp only [List.append_assoc, List.cons_append]
  · intro h
    obtain ⟨o, t, x, ⟨⟨ho, hoc⟩, ⟨ht, htc⟩, ⟨hx, hxc⟩, -⟩, rfl⟩ := h
    simp only [List.append_assoc, List.cons_append]
    exact ⟨_, rfl, _, ⟨o, ho, hoc, rfl⟩, _, rfl, _, ⟨t, ht, htc, rfl⟩, _, rfl, _, ⟨x, hx, hxc, rfl⟩, rfl⟩

theorem resource_chars (o t x c : Identifier) : (infrastructureResource o t x c).toList =
    pathChars o.1.toList t.1.toList x.1.toList ++ c.1.toList := by
  have ht : "/tenant/".toList = '/' :: "tenant/".toList := by decide +kernel
  have hx : "/context/".toList = '/' :: "context/".toList := by decide +kernel
  have hc : "/claim/".toList = '/' :: "claim/".toList := by decide +kernel
  unfold infrastructureResource pathChars
  simp only [toString, String.toList_append]
  rw [ht, hx, hc]
  simp only [List.append_assoc, List.cons_append]

/-! ## Accepted prefixes -/

theorem ResourcePrefix.Names.components {p : ResourcePrefix} {parts : String × String × String}
    (h : p.Names parts) {o t x r q : List Char} (hw : ∀ w ∈ [o, t, x], '/' ∉ w)
    (he : p.1.toList ++ r = pathChars o t x ++ q) :
    parts = (String.ofList o, String.ofList t, String.ofList x) := by
  obtain ⟨hn, hc⟩ := h
  simp only [List.forall_mem_cons] at hc hw
  obtain ⟨⟨-, ho⟩, ⟨-, ht⟩, ⟨-, hx⟩, -⟩ := hc
  rw [hn] at he
  obtain ⟨rfl, rfl, rfl⟩ := pathChars_inj (by
    simp only [List.forall_mem_cons]
    exact ⟨not_mem_slash ho, not_mem_slash ht, not_mem_slash hx, hw⟩) he
  simp only [String.ofList_toList]

/-- **An accepted prefix names exactly one organization, tenant and context.** -/
theorem resourcePrefix_names (p : ResourcePrefix) : ∃! parts, p.Names parts := by
  obtain ⟨s, hs⟩ := p
  have hm := Bool.and_elim_left hs
  rw [Pattern.fullMatch_iff, mem_claimPath] at hm
  obtain ⟨o, t, x, hw, he⟩ := hm
  rw [List.append_nil] at he
  refine ⟨(String.ofList o, String.ofList t, String.ofList x), ⟨?_, ?_⟩, ?_⟩
  · simpa only [String.toList_ofList] using he
  · simp only [List.forall_mem_cons] at hw ⊢
    obtain ⟨⟨ho, hoc⟩, ⟨ht, htc⟩, ⟨hx, hxc⟩, -⟩ := hw
    simp only [String.toList_ofList, ne_eq, String.ofList_eq_empty_iff]
    exact ⟨⟨ho, hoc⟩, ⟨ht, htc⟩, ⟨hx, hxc⟩, by simp⟩
  · intro parts hparts
    refine hparts.components (r := []) (q := []) (fun w hm => not_mem_slash (hw w hm).2) ?_
    rw [he]

/-- **A prefix matches the resources of its own organization, tenant and context only.** -/
theorem startsWith_resource {p : ResourcePrefix} {parts : String × String × String} (h : p.Names parts)
    {o t x c : Identifier} (hs : startsWith (infrastructureResource o t x c) p.1 = true) :
    parts = (o.1, t.1, x.1) := by
  obtain ⟨rest, hr⟩ := startsWith_iff.1 hs
  have := h.components (r := rest) (q := c.1.toList) (o := o.1.toList) (t := t.1.toList)
    (x := x.1.toList) ?_ (by rw [← hr, resource_chars])
  · simpa only [String.ofList_toList] using this
  · simp only [List.forall_mem_cons]
    exact ⟨not_mem_slash o.chars.2, not_mem_slash t.chars.2, not_mem_slash x.chars.2, by simp⟩

theorem names_of_startsWith {p : ResourcePrefix} {o t x c : Identifier}
    (hs : startsWith (infrastructureResource o t x c) p.1 = true) : p.Names (o.1, t.1, x.1) := by
  obtain ⟨parts, hn, -⟩ := resourcePrefix_names p
  exact startsWith_resource hn hs ▸ hn

/-- **Confinement.** An allowed request's capability names exactly its own resource, its actor,
capability and grant share the organization and tenant, and it rests on a grant prefix and a
plugin permission for just the claim's organization, tenant and context. An accepted prefix names
one such triple, and matches no resource of another. -/
theorem allowed_confined :
    (∀ (rt : Runtime) (state : InfrastructureAuthorizationState) (value : Value),
      (authorizeInfrastructureControllerRequest rt state value).allowed = true →
      ∃ request, parseInfrastructureControllerRequest rt value = .ok request ∧
        request.capability.resource.1 = infrastructureResource request.actor.organizationId
          request.claim.tenantId request.claim.contextId request.claim.claimId ∧
        request.capability.organizationId = request.actor.organizationId ∧
        request.grant.organizationId = request.actor.organizationId ∧
        request.actor.tenantId = request.claim.tenantId ∧
        request.capability.tenantId = request.claim.tenantId ∧
        request.grant.tenantId = request.claim.tenantId ∧
        (∃ p ∈ request.grant.resourcePrefixes.1, p.Names
          (request.actor.organizationId.1, request.claim.tenantId.1, request.claim.contextId.1)) ∧
        ∃ permission ∈ request.plugin.permissions.1,
          permission.action = infrastructureAction request.operation ∧ permission.resourcePrefix.Names
            (request.actor.organizationId.1, request.claim.tenantId.1, request.claim.contextId.1)) ∧
    (∀ p : ResourcePrefix, ∃! parts, p.Names parts) ∧
    ∀ (p : ResourcePrefix) (parts : String × String × String) (o t x c : Identifier), p.Names parts →
      startsWith (infrastructureResource o t x c) p.1 = true → parts = (o.1, t.1, x.1) := by
  refine ⟨?_, resourcePrefix_names, fun p parts o t x c hn hs => startsWith_resource hn hs⟩
  intro rt state value h
  obtain ⟨request, hp, ha⟩ := allowed_iff.1 h
  obtain ⟨ht, htc, htg⟩ := ha.tenant
  refine ⟨request, hp, ha.resource, ha.organization.1.symm, ha.organization.2.symm, ht,
    htc.symm.trans ht, htg.symm.trans ht, ?_, ?_⟩
  · obtain ⟨p, hmem, hs⟩ := ha.granted.2.2
    exact ⟨p, hmem, names_of_startsWith hs⟩
  · obtain ⟨permission, hmem, haction, hs⟩ := ha.permitted
    exact ⟨permission, hmem, haction, names_of_startsWith hs⟩

/-- The reference deletion acts on its own database only. -/
theorem allowed_confined_delete : ∃ request, parseInfrastructureControllerRequest referenceRuntime
      (referenceRequestInput .delete .production true) = .ok request ∧
    request.capability.resource.1 = infrastructureResource request.actor.organizationId
      request.claim.tenantId request.claim.contextId request.claim.claimId := by
  obtain ⟨request, hp, ha, -⟩ := allowedCapability_iff.1 reference_delete_allowed
  obtain ⟨request', hp', hr, -⟩ := allowed_confined.1 referenceRuntime referenceState
    (referenceRequestInput .delete .production true) (allowed_iff.2 ⟨request, hp, ha⟩)
  exact ⟨request', hp', hr⟩

end SecureSaas.Controller
