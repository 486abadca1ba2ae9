import SecureSaas.ManagementSeed.Policies
import SecureSaas.Js.Overwrites

/-!
# What the comparisons of the management seed tell

Names and maps of names are compared by their canonical texts, and so are the properties of a resource.

* `namesJson_inj`, `namesMapJson_inj`: equal texts are of equal names.
* `graph_get`: the expected graph has one resource for a name.
* `expected_plain`: every expected value is JSON.
-/

namespace SecureSaas.ManagementSeed

open Js Core

/-! ## Texts of names -/

theorem textItems_strict (texts : List String) : IsStrict (textItems texts) ∧ UniqueKeys (textItems texts) := by
  unfold textItems
  rw [IsStrict, UniqueKeys]
  induction texts with
  | nil => exact ⟨trivial, trivial⟩
  | cons t texts ih => exact ⟨⟨trivial, ih.1⟩, ⟨trivial, ih.2⟩⟩

/-- Values of JSON with one canonical text are equivalent. -/
theorem equivalent_of_json {rt : Runtime} {v w : Value} (hv : IsStrict v ∧ UniqueKeys v) (hw : IsStrict w ∧ UniqueKeys w)
    (h : canonicalJson rt v = canonicalJson rt w) : Equivalent v w := by
  unfold canonicalJson at h
  rw [InfrastructureController.stableText_eq rt v hv.1, InfrastructureController.stableText_eq rt w hw.1] at h
  exact Equivalent.of_text _ v w hv.1.isJson hw.1.isJson hv.2 hw.2 (Option.some.inj h)

theorem string_equivalent {s t : String} (h : Equivalent (.string s) (.string t)) : s = t := by
  cases h
  rfl

theorem textItems_equivalent {texts others : List String} (h : Equivalent (textItems texts) (textItems others)) :
    texts = others := by
  unfold textItems at h
  cases h with
  | array hlength hitems =>
    rw [List.length_map, List.length_map] at hlength
    refine List.ext_getElem hlength fun i hi hi' => ?_
    exact string_equivalent (hitems i (.string texts[i]) (.string others[i]) (by simp [hi]) (by simp [hi']))

theorem namesJson_inj {rt : Runtime} {names others : List String} (h : namesJson rt names = namesJson rt others) :
    names = others :=
  textItems_equivalent (equivalent_of_json (textItems_strict _) (textItems_strict _) h)

theorem perm_of_sortTexts {names others : List String} (h : sortTexts names = sortTexts others) : names.Perm others :=
  ((sortTexts_perm names).symm.trans (h ▸ List.Perm.refl _)).trans (sortTexts_perm others)

/-! ## Maps of names -/

/-- The object of a map of names. -/
def namesObject (names : Record (List String)) : Value := .object (names.properties.map fun p => (p.1, textItems p.2))

theorem namesObject_strict (names : Record (List String)) : IsStrict (namesObject names) ∧ UniqueKeys (namesObject names) := by
  have hkeys : ((names.properties.map fun p => (p.1, textItems p.2)).map Prod.fst).Nodup := by
    rw [List.map_map]
    exact names.nodup
  unfold namesObject
  rw [IsStrict, UniqueKeys]
  refine ⟨?_, hkeys, ?_⟩
  · generalize names.properties = ps
    induction ps with
    | nil => trivial
    | cons p ps ih => exact ⟨(textItems_strict _).1, ih⟩
  · generalize names.properties = ps
    induction ps with
    | nil => trivial
    | cons p ps ih => exact ⟨(textItems_strict _).2, ih⟩

theorem namesObject_get (names : Record (List String)) (key : String) :
    Value.get (names.properties.map fun p => (p.1, textItems p.2)) key =
      ((names.get? key).map textItems).getD .undefined := by
  unfold Value.get Record.get?
  generalize names.properties = ps
  induction ps with
  | nil => rfl
  | cons p ps ih =>
    rw [List.map_cons, List.lookup_cons, List.lookup_cons]
    cases key == p.1 with
    | true => rfl
    | false => exact ih

theorem namesMapJson_inj {rt : Runtime} {names others : Record (List String)}
    (h : namesMapJson rt names = namesMapJson rt others) (key : String) : names.get? key = others.get? key := by
  have hequivalent := equivalent_of_json (namesObject_strict names) (namesObject_strict others) h
  unfold namesObject at hequivalent
  cases hequivalent with
  | object hsame hvalues =>
    have habsent := hsame key
    have hpresent := hvalues key
    rw [namesObject_get, namesObject_get] at habsent hpresent
    cases hn : names.get? key with
    | none =>
      rw [hn] at habsent
      cases ho : others.get? key with
      | none => rfl
      | some other =>
        rw [ho] at habsent
        cases habsent.1 rfl
    | some name =>
      rw [hn] at habsent hpresent
      cases ho : others.get? key with
      | none =>
        rw [ho] at habsent
        cases habsent.2 rfl
      | some other =>
        rw [ho] at hpresent
        have hitems := hpresent (by simp [textItems])
        rw [textItems_equivalent hitems]

theorem normalizedDependencyMap_get {rt : Runtime} (value : Record (List String)) (key : String) :
    (normalizedDependencyMap rt value).get? key = (value.get? key).map sortTexts := by
  unfold normalizedDependencyMap
  have hkeys : (((rt.sortByKey Prod.fst value.entries).map fun p => (p.1, sortTexts p.2)).map Prod.fst).Nodup := by
    rw [List.map_map]
    exact (((rt.sortByKey_perm Prod.fst value.entries).map Prod.fst).nodup_iff).2 value.keys_nodup
  refine Option.ext fun names => ?_
  rw [Record.fromEntries_get? hkeys, List.mem_map]
  simp only [Option.map_eq_some_iff]
  constructor
  · rintro ⟨p, hp, heq⟩
    obtain ⟨rfl, rfl⟩ := Prod.mk.inj heq
    exact ⟨p.2, Record.mem_entries.1 (Runtime.mem_sortByKey.1 hp), rfl⟩
  · rintro ⟨names', hget, rfl⟩
    exact ⟨(key, names'), Runtime.mem_sortByKey.2 (Record.mem_entries.2 hget), rfl⟩

/-! ## The expected graph -/

variable {rt : Runtime} {host : Host} {seedPrefix : String}

theorem expectedEntries_names : (expectedEntries rt seedPrefix).map Prod.fst =
    seedSuffixes.map fun suffix => seedPrefix ++ "-" ++ suffix := by
  unfold expectedEntries seedSuffixes
  simp only [List.map_cons, List.map_append, List.map_map]
  have haccounts : (seedAccounts.zipIdx.map (Prod.fst ∘ fun entry => expectedAccount rt seedPrefix entry.2 entry.1)) =
      seedAccounts.map ((fun suffix => seedPrefix ++ "-" ++ suffix) ∘ fun account => "account-" ++ slug account.name) := by
    have hfst := List.zipIdx_map_fst 0 seedAccounts
    conv_rhs => rw [← hfst, List.map_map]
    rfl
  rw [haccounts]
  rfl

theorem seedSuffixes_nodup : seedSuffixes.Nodup := by decide +kernel

theorem seedNames_nodup : (seedSuffixes.map fun suffix => seedPrefix ++ "-" ++ suffix).Nodup :=
  seedSuffixes_nodup.map fun _ _ h => (String.append_right_inj _).1 h

theorem expectedKeys_nodup : ((expectedEntries rt seedPrefix).map Prod.fst).Nodup := by
  rw [expectedEntries_names]
  exact seedNames_nodup

theorem graph_get {name : String} {expected : ExpectedSeedResource} :
    (expectedResourceGraph rt seedPrefix).get? name = some expected ↔ (name, expected) ∈ expectedEntries rt seedPrefix :=
  Record.fromEntries_get? expectedKeys_nodup

theorem graph_isSome {name : String} (h : name ∈ expectedResourceNames seedPrefix) :
    ∃ expected, (expectedResourceGraph rt seedPrefix).get? name = some expected := by
  rw [expectedResourceNames, mem_sortTexts, ← @expectedEntries_names rt] at h
  obtain ⟨⟨_, expected⟩, hmem, rfl⟩ := List.mem_map.1 h
  exact ⟨expected, graph_get.2 hmem⟩

/-! ## Expected values -/

/-- A value that the engine could give as well. -/
def Plain (v : Value) : Prop := IsStrict v ∧ UniqueKeys v

theorem plain_string (s : String) : Plain (.string s) := ⟨trivial, trivial⟩

theorem plain_object {ps : List (String × Value)} (hkeys : (ps.map Prod.fst).Nodup) (h : ∀ p ∈ ps, Plain p.2) :
    Plain (.object ps) := by
  have hparts : IsStrictEntries ps ∧ UniqueKeysEntries ps := by
    clear hkeys
    induction ps with
    | nil => exact ⟨trivial, trivial⟩
    | cons p ps ih =>
      rw [List.forall_mem_cons] at h
      exact ⟨⟨h.1.1, (ih h.2).1⟩, h.1.2, (ih h.2).2⟩
  unfold Plain
  rw [IsStrict, UniqueKeys]
  exact ⟨hparts.1, hkeys, hparts.2⟩

theorem plain_array {items : List Value} (h : ∀ v ∈ items, Plain v) : Plain (.array items) := by
  unfold Plain
  rw [IsStrict, UniqueKeys]
  induction items with
  | nil => exact ⟨trivial, trivial⟩
  | cons v items ih =>
    rw [List.forall_mem_cons] at h
    exact ⟨⟨h.1.1, (ih h.2).1⟩, h.1.2, (ih h.2).2⟩

theorem plain_denyStatement {sid : String} {action : Value} (h : Plain action) : Plain (denyStatement sid action) := by
  refine plain_object (by decide : ["Sid", "Effect", "Action", "Resource"].Nodup) fun p hp => ?_
  simp only [List.mem_cons, List.not_mem_nil, or_false] at hp
  rcases hp with rfl | rfl | rfl | rfl
  · exact plain_string _
  · exact plain_string _
  · exact h
  · exact plain_string _

theorem plain_policyDocument {statements : List Value} (h : ∀ v ∈ statements, Plain v) :
    Plain (policyDocument statements) := by
  refine plain_object (by decide : ["Version", "Statement"].Nodup) fun p hp => ?_
  simp only [List.mem_cons, List.not_mem_nil, or_false] at hp
  rcases hp with rfl | rfl
  · exact plain_string _
  · exact plain_array h

theorem plain_seedPolicies : ∀ policy ∈ seedPolicies, Plain policy.2.2 := by
  intro policy hpolicy
  simp only [seedPolicies, List.mem_cons, List.not_mem_nil, or_false] at hpolicy
  rcases hpolicy with rfl | rfl | rfl
  · refine plain_policyDocument fun v hv => ?_
    simp only [List.mem_cons, List.not_mem_nil, or_false] at hv
    rcases hv with rfl | rfl | rfl | rfl | rfl | rfl <;> exact plain_denyStatement (textItems_strict _)
  · refine plain_object (by decide) fun p hp => ?_
    rw [List.mem_singleton.1 hp]
    refine plain_object (by decide) fun q hq => ?_
    rw [List.mem_singleton.1 hq]
    refine plain_object (by decide) fun r hr => ?_
    rw [List.mem_singleton.1 hr]
    exact plain_string _
  · refine plain_policyDocument fun v hv => ?_
    rw [List.mem_singleton.1 hv]
    exact plain_denyStatement (plain_string _)

theorem plain_seedTags {suffix : String} {extra : List (String × Value)} (hextra : ∀ p ∈ extra, Plain p.2)
    (hkeys : (["Project", "Stack", "Organization", "Environment", "ManagedBy", "Name"] ++ extra.map Prod.fst).Nodup) :
    Plain (seedTags seedPrefix suffix extra) := by
  refine plain_object ?_ fun p hp => ?_
  · rw [List.map_append]
    exact hkeys
  · rcases List.mem_append.1 hp with hp | hp
    · simp only [List.mem_cons, List.not_mem_nil, or_false] at hp
      rcases hp with rfl | rfl | rfl | rfl | rfl | rfl <;> exact plain_string _
    · exact hextra p hp

theorem plain_expected {suffix type : String} {props : List (String × Value)} {dependencies : List String}
    {propertyDependencies : List (String × List String)} (h : ∀ p ∈ props, Plain p.2) {property : String} {v : Value}
    (hget : (expectedResource rt seedPrefix suffix type props dependencies propertyDependencies).2.props.get? property =
      some v) : Plain v :=
  h _ (Record.mem_of_fromEntries_get? hget)

/-- **Every expected value is JSON.** By the kinds of entries. -/
theorem expected_plain {entry : String × ExpectedSeedResource} (hentry : entry ∈ expectedEntries rt seedPrefix)
    {property : String} {v : Value} (hget : entry.2.props.get? property = some v) : Plain v := by
  simp only [expectedEntries, List.mem_cons, List.mem_append, List.mem_map] at hentry
  rcases hentry with rfl | rfl | (((⟨unit, -, rfl⟩ | ⟨account, -, rfl⟩) | ⟨principal, -, rfl⟩) | ⟨policy, hpolicy, rfl⟩) |
    ⟨attachment, -, rfl⟩
  · refine plain_expected (fun p hp => ?_) hget
    simp only [List.mem_cons, List.not_mem_nil, or_false] at hp
    rcases hp with rfl | rfl
    · exact plain_string _
    · exact textItems_strict _
  · exact plain_expected (fun p hp => absurd hp List.not_mem_nil) hget
  · refine plain_expected (fun p hp => ?_) hget
    simp only [List.mem_cons, List.not_mem_nil, or_false] at hp
    rcases hp with rfl | rfl
    · exact plain_string _
    · exact plain_seedTags (fun p hp => absurd hp List.not_mem_nil) (by decide)
  · refine plain_expected (fun p hp => ?_) hget
    simp only [List.mem_cons, List.not_mem_nil, or_false] at hp
    rcases hp with rfl | rfl | rfl | rfl | rfl | rfl
    · exact plain_string _
    · exact plain_string _
    · exact plain_string _
    · exact ⟨trivial, trivial⟩
    · exact plain_string _
    · refine plain_seedTags (fun p hp => ?_) (by decide : (["Project", "Stack", "Organization", "Environment",
        "ManagedBy", "Name", "AccountKind", "OrganizationalUnit"]).Nodup)
      simp only [List.mem_cons, List.not_mem_nil, or_false] at hp
      rcases hp with rfl | rfl <;> exact plain_string _
  · refine plain_expected (fun p hp => ?_) hget
    rw [List.mem_singleton.1 hp]
    exact plain_string _
  · refine plain_expected (fun p hp => ?_) hget
    simp only [List.mem_cons, List.not_mem_nil, or_false] at hp
    rcases hp with rfl | rfl | rfl | rfl | rfl
    · exact plain_string _
    · exact plain_string _
    · exact plain_string _
    · exact plain_seedPolicies policy hpolicy
    · exact plain_seedTags (fun p hp => absurd hp List.not_mem_nil) (by decide)
  · exact plain_expected (fun p hp => absurd hp List.not_mem_nil) hget

end SecureSaas.ManagementSeed
