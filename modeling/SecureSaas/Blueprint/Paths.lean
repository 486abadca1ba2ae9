import SecureSaas.Blueprint.Isolation
import SecureSaas.Js.Json

/-!
# The network paths, exactly

The search of `findNetworkPaths` may stop at a number of paths and at a depth. Without the first
limit it always ends with a list of paths; the limit only decides whether the list is returned.

* `search_limit`: what a limit on the number of paths does to a search.
* `search_sound`: **no path is reported twice, and each is a simple walk**: no entry of the queue
  starts another, nor a path that is reported already.
* `pathAlong_injective`: a path names its edges, where the flows have different ids.
* `findNetworkPaths_exact`: **the paths are the simple walks of at most `maxDepth` edges, each once**.
-/

namespace SecureSaas.Blueprint

open SecureSaas.Graph Js

/-! ## Limits on the number of paths -/

section
variable {start : String} {graph : SecurityGraph} {options : NetworkPathOptions} {maxDepth : ℤ} {maxPaths : Limit}
  {current : Trail start}

@[simp] theorem Limit.none_reached (length : ℕ) : Limit.none.reached length = false := rfl

theorem Limit.reached_mono {limit : Limit} {m n : ℕ} (h : m ≤ n) (hm : limit.reached m = true) : limit.reached n = true := by
  cases limit with
  | int k =>
    rw [Limit.reached, decide_eq_true_eq] at hm ⊢
    omega
  | none => cases hm

/-- Whether a limit lets the number of paths grow from one to another. -/
def Limit.allows (limit : Limit) (before after : ℕ) : Prop := after = before ∨ limit.reached (after - 1) = false

instance (limit : Limit) (before after : ℕ) : Decidable (limit.allows before after) := by
  unfold Limit.allows
  infer_instance

theorem Limit.allows_trans (limit : Limit) {a b c : ℕ} (hab : a ≤ b) (hbc : b ≤ c) :
    limit.allows a c ↔ limit.allows a b ∧ limit.allows b c := by
  unfold Limit.allows
  constructor
  · rintro (heq | hfree)
    · exact ⟨Or.inl (by omega), Or.inl (by omega)⟩
    · refine ⟨Or.inr ?_, Or.inr hfree⟩
      by_contra hreached
      have := reached_mono (show b - 1 ≤ c - 1 by omega) (by simpa using hreached)
      rw [this] at hfree
      cases hfree
  · rintro ⟨hab' | hb, hbc' | hc⟩
    · exact Or.inl (by omega)
    · exact Or.inr hc
    · exact Or.inr (hbc' ▸ hb)
    · exact Or.inr hc

/-- The loop over the edges of one trail, under a limit. -/
theorem visit_limit (options : NetworkPathOptions) (maxPaths : Limit) (current : Trail start) (edges : List SecurityEdge)
    (paths : List NetworkPath) (queue : List (Trail start)) :
    ∃ paths' queue', visit options .none current edges paths queue = .ok (paths', queue') ∧ paths.length ≤ paths'.length ∧
      visit options maxPaths current edges paths queue =
        if maxPaths.allows paths.length paths'.length then .ok (paths', queue') else .error (exceededMessage maxPaths start) := by
  induction edges generalizing paths queue with
  | nil => exact ⟨paths, queue, rfl, le_refl _, (if_pos (Or.inl rfl)).symm⟩
  | cons edge rest ih =>
    unfold visit
    by_cases hpassed : current.zoneIds.contains edge.toId = true
    · simp only [if_pos hpassed]
      exact ih paths queue
    · simp only [if_neg hpassed, Limit.none_reached, Bool.false_eq_true, and_false, if_false]
      cases hreports : options.reports edge.toId with
      | false =>
        simp only [Bool.false_eq_true, false_and, if_false]
        exact ih paths _
      | true =>
        simp only [true_and, if_true]
        obtain ⟨paths', queue', hfree, hle, hlimit⟩ := ih (paths ++ [networkPath (current.extend edge)])
          (if options.continues edge.toId then queue ++ [current.extend edge] else queue)
        rw [List.length_append, List.length_singleton] at hle hlimit
        refine ⟨paths', queue', hfree, by omega, ?_⟩
        -- one path more, and then the others
        have hstep : maxPaths.allows paths.length (paths.length + 1) ↔ maxPaths.reached paths.length = false := by
          unfold Limit.allows
          rw [Nat.add_sub_cancel]
          exact or_iff_right (by omega)
        have htrans := Limit.allows_trans maxPaths (Nat.le_succ paths.length) hle
        rw [hstep] at htrans
        cases hreached : maxPaths.reached paths.length with
        | true =>
          rw [hreached] at htrans
          rw [if_pos rfl, if_neg (by rw [htrans]; simp)]
        | false =>
          rw [hreached] at htrans
          simp only [true_and] at htrans
          simp only [Bool.false_eq_true, if_false]
          rw [hlimit]
          simp only [htrans]

/-- **A limit on the number of paths** only decides whether the paths are returned. -/
theorem search_limit (graph : SecurityGraph) (options : NetworkPathOptions) (maxDepth : ℤ) (maxPaths : Limit)
    (paths : List NetworkPath) (queue : List (Trail start)) :
    ∃ out, search graph options maxDepth .none paths queue = .ok out ∧ paths.length ≤ out.length ∧
      search graph options maxDepth maxPaths paths queue =
        if maxPaths.allows paths.length out.length then .ok out else .error (exceededMessage maxPaths start) := by
  induction paths, queue using search.induct graph options maxDepth .none with
  | case1 paths =>
    refine ⟨paths, by rw [search], le_refl _, ?_⟩
    rw [search, if_pos (show maxPaths.allows paths.length paths.length from Or.inl rfl)]
  | case2 paths current queue hdepth ih =>
    rw [search_cons_deep hdepth, search_cons_deep hdepth]
    exact ih
  | case3 paths current queue hdepth e hvisit =>
    obtain ⟨_, _, hfree, -⟩ := visit_limit options .none current (adjacency graph current.currentZone) paths queue
    rw [hvisit] at hfree
    cases hfree
  | case4 paths current queue hdepth paths' queue' hvisit ih =>
    obtain ⟨out, hout, hle', hlimit'⟩ := ih
    obtain ⟨_, _, hfree, hle, hlimit⟩ := visit_limit options maxPaths current (adjacency graph current.currentZone) paths queue
    rw [hvisit, Except.ok.injEq, Prod.mk.injEq] at hfree
    obtain ⟨rfl, rfl⟩ := hfree
    have htrans := Limit.allows_trans maxPaths hle hle'
    refine ⟨out, ?_, by omega, ?_⟩
    · rw [search, dif_neg hdepth]
      split
      · rename_i e he
        rw [hvisit] at he
        cases he
      · rename_i p q hpq
        rw [hvisit, Except.ok.injEq, Prod.mk.injEq] at hpq
        rw [← hpq.1, ← hpq.2, hout]
    · rw [search, dif_neg hdepth]
      by_cases hallows : maxPaths.allows paths.length paths'.length
      · rw [if_pos hallows] at hlimit
        split
        · rename_i e he
          rw [hlimit] at he
          cases he
        · rename_i p q hpq
          rw [hlimit, Except.ok.injEq, Prod.mk.injEq] at hpq
          rw [← hpq.1, ← hpq.2, hlimit']
          simp only [htrans, hallows, true_and]
      · rw [if_neg hallows] at hlimit
        have hnot : ¬ maxPaths.allows paths.length out.length := fun h => hallows (htrans.1 h).1
        rw [if_neg hnot]
        split
        · rename_i e he
          rw [hlimit] at he
          exact congrArg Except.error (Except.error.inj he).symm
        · rename_i p q hpq
          rw [hlimit] at hpq
          cases hpq

end

/-! ## No path twice -/

/-- The trail along the edges `es`. -/
def Trail.along (start : String) (es : List SecurityEdge) : Trail start := ⟨vertices SecurityEdge.toId start es, es, rfl⟩

/-- The path that the search reports of the edges `es`. -/
def pathAlong (start : String) (es : List SecurityEdge) : NetworkPath := networkPath (Trail.along start es)

theorem Trail.eq_along {start : String} (trail : Trail start) : trail = Trail.along start trail.edges := by
  obtain ⟨zoneIds, edges, rfl⟩ := trail
  rfl

/-- A simple walk that a search with the given options looks for, of at most `maxDepth` edges. -/
structure Sought (graph : SecurityGraph) (start : String) (options : NetworkPathOptions) (maxDepth : ℤ)
    (es : List SecurityEdge) : Prop where
  nonempty : es ≠ []
  walk : ∃ v, Reach graph start es v ∧ options.reports v = true
  simple : Simple SecurityEdge.toId start es
  short : (es.length : ℤ) ≤ maxDepth

section
variable {start : String} {graph : SecurityGraph} {options : NetworkPathOptions} {maxDepth : ℤ} {maxPaths : Limit}
  {current : Trail start}

/-- What holds of the reported walks and of the queue while a search runs. -/
structure Searching (graph : SecurityGraph) (options : NetworkPathOptions) (maxDepth : ℤ) (found : List (List SecurityEdge))
    (queue : List (Trail start)) : Prop where
  nodup : found.Nodup
  sought : ∀ es ∈ found, Sought graph start options maxDepth es
  walks : ∀ trail ∈ queue, Reach graph start trail.edges trail.currentZone ∧ Simple SecurityEdge.toId start trail.edges
  /-- No entry of the queue starts another. -/
  apart : queue.Pairwise fun t u => ¬ t.edges <+: u.edges ∧ ¬ u.edges <+: t.edges
  /-- No entry of the queue goes on to a walk that is reported already. -/
  ahead : ∀ es ∈ found, ∀ trail ∈ queue, trail.edges <+: es → trail.edges = es

/-- The edges that a trail is extended by. -/
theorem mem_freshEdges {edge : SecurityEdge} : edge ∈ freshEdges current (adjacency graph current.currentZone) ↔
    ((edge ∈ graph.edges ∧ edge.kind = .canReach) ∧ edge.fromId = current.currentZone) ∧ edge.toId ∉ current.zoneIds := by
  rw [freshEdges, List.mem_filter, mem_adjacency]
  simp

theorem extend_walk {edge : SecurityEdge} (h : Reach graph start current.edges current.currentZone ∧
    Simple SecurityEdge.toId start current.edges)
    (hedge : edge ∈ freshEdges current (adjacency graph current.currentZone)) :
    Reach graph start (current.edges ++ [edge]) edge.toId ∧ Simple SecurityEdge.toId start (current.edges ++ [edge]) := by
  obtain ⟨⟨hgraph, hfrom⟩, hnew⟩ := mem_freshEdges.1 hedge
  refine ⟨h.1.snoc hgraph hfrom, ?_⟩
  rw [current.passed] at hnew
  rw [Simple, vertices_append, List.nodup_append]
  refine ⟨h.2, by simp, fun a ha b hb => ?_⟩
  rw [List.map_singleton, List.mem_singleton] at hb
  rintro rfl
  exact hnew (hb ▸ ha)

theorem not_prefix_extend {t : List SecurityEdge} {edge : SecurityEdge} (h : ¬ t <+: current.edges ∧ ¬ current.edges <+: t) :
    ¬ t <+: current.edges ++ [edge] ∧ ¬ current.edges ++ [edge] <+: t := by
  constructor
  · intro hprefix
    rcases List.prefix_concat_iff.1 hprefix with rfl | hshort
    · exact h.2 (List.prefix_append _ _)
    · exact h.1 hshort
  · intro hprefix
    exact h.2 ((List.prefix_append _ _).trans hprefix)

theorem extension_inj {edge edge' : SecurityEdge} (h : current.edges ++ [edge] <+: current.edges ++ [edge']) : edge = edge' := by
  have heq := h.eq_of_length (by simp)
  exact List.singleton_inj.1 (List.append_cancel_left heq)

/-- **One entry of the queue** keeps what holds while a search runs. -/
theorem Searching.visit {found : List (List SecurityEdge)} {queue : List (Trail start)}
    (h : Searching graph options maxDepth found (current :: queue)) (hdepth : ¬ (current.edges.length : ℤ) ≥ maxDepth)
    (hedges : (graph.edges.filter fun edge => edge.kind = .canReach).Nodup) :
    Searching graph options maxDepth
      (found ++ ((freshEdges current (adjacency graph current.currentZone)).filter fun e => options.reports e.toId).map
        fun e => current.edges ++ [e])
      (queue ++ extensions graph options current) := by
  have hadjacent : (adjacency graph current.currentZone).Nodup := by
    have heq : adjacency graph current.currentZone =
        (graph.edges.filter fun edge => edge.kind = .canReach).filter fun edge => edge.fromId = current.currentZone := by
      rw [adjacency, List.filter_filter]
      congr 1
      funext edge
      simp [Bool.and_comm]
    rw [heq]
    exact hedges.filter _
  have hfresh : (freshEdges current (adjacency graph current.currentZone)).Nodup := hadjacent.filter _
  have hcurrent := h.walks current List.mem_cons_self
  have hothers := (List.pairwise_cons.1 h.apart).1
  have hinj : Function.Injective fun e : SecurityEdge => current.edges ++ [e] := by
    intro e e' heq
    exact List.singleton_inj.1 (List.append_cancel_left heq)
  have hqueue : ∀ trail ∈ queue ++ extensions graph options current, trail ∈ queue ∨
      ∃ e ∈ freshEdges current (adjacency graph current.currentZone), trail = current.extend e := by
    intro trail ht
    rcases List.mem_append.1 ht with ht | ht
    · exact Or.inl ht
    · obtain ⟨e, he, rfl⟩ := List.mem_map.1 ht
      exact Or.inr ⟨e, (List.mem_filter.1 he).1, rfl⟩
  refine ⟨?_, ?_, ?_, ?_, ?_⟩
  · rw [List.nodup_append]
    refine ⟨h.nodup, (hfresh.filter _).map hinj, fun es hes es' hes' => ?_⟩
    obtain ⟨e, -, rfl⟩ := List.mem_map.1 hes'
    rintro rfl
    -- a reported walk would go on from an entry of the queue
    have heq := h.ahead _ hes current List.mem_cons_self (List.prefix_append _ _)
    simp at heq
  · intro es hes
    rcases List.mem_append.1 hes with hes | hes
    · exact h.sought es hes
    · obtain ⟨e, he, rfl⟩ := List.mem_map.1 hes
      obtain ⟨hmem, hreports⟩ := List.mem_filter.1 he
      obtain ⟨hreach, hsimple⟩ := extend_walk hcurrent hmem
      refine ⟨by simp, ⟨_, hreach, hreports⟩, hsimple, ?_⟩
      rw [List.length_append, List.length_singleton]
      omega
  · intro trail ht
    rcases hqueue trail ht with ht | ⟨e, he, rfl⟩
    · exact h.walks trail (List.mem_cons_of_mem _ ht)
    · rw [Trail.extend_currentZone, Trail.extend_edges]
      exact extend_walk hcurrent he
  · rw [List.pairwise_append]
    refine ⟨(List.pairwise_cons.1 h.apart).2, ?_, fun t ht u hu => ?_⟩
    · rw [extensions, List.pairwise_map]
      refine (hfresh.filter _).imp fun {e e'} hne => ?_
      rw [Trail.extend_edges, Trail.extend_edges]
      exact ⟨fun hprefix => hne (extension_inj hprefix), fun hprefix => hne (extension_inj hprefix).symm⟩
    · obtain ⟨e, -, rfl⟩ := List.mem_map.1 hu
      exact not_prefix_extend (hothers t ht).symm
  · intro es hes trail ht hprefix
    rcases hqueue trail ht with ht | ⟨e, he, rfl⟩ <;> rcases List.mem_append.1 hes with hes | hes
    · exact h.ahead es hes trail (List.mem_cons_of_mem _ ht) hprefix
    · obtain ⟨e, -, rfl⟩ := List.mem_map.1 hes
      exact absurd hprefix (not_prefix_extend (hothers trail ht).symm).1
    · have heq := h.ahead es hes current List.mem_cons_self ((List.prefix_append _ _).trans hprefix)
      have hlen := hprefix.length_le
      rw [Trail.extend_edges, ← heq, List.length_append, List.length_singleton] at hlen
      omega
    · obtain ⟨e', -, rfl⟩ := List.mem_map.1 hes
      rw [Trail.extend_edges] at hprefix ⊢
      rw [extension_inj hprefix]

/-- **A search that succeeds** reports simple walks only, and none of them twice. -/
theorem search_sound {paths out : List NetworkPath} {queue : List (Trail start)}
    (hedges : (graph.edges.filter fun edge => edge.kind = .canReach).Nodup)
    (h : search graph options maxDepth maxPaths paths queue = .ok out) {found : List (List SecurityEdge)}
    (hpaths : paths = found.map (pathAlong start)) (hfound : Searching graph options maxDepth found queue) :
    ∃ all : List (List SecurityEdge), out = all.map (pathAlong start) ∧ all.Nodup ∧
      ∀ es ∈ all, Sought graph start options maxDepth es := by
  refine search_induct (motive := fun paths queue => ∀ found : List (List SecurityEdge),
    paths = found.map (pathAlong start) → Searching graph options maxDepth found queue →
      ∃ all : List (List SecurityEdge), out = all.map (pathAlong start) ∧ all.Nodup ∧
        ∀ es ∈ all, Sought graph start options maxDepth es) ?_ ?_ ?_ h found hpaths hfound
  · intro found hpaths hfound
    exact ⟨found, hpaths, hfound.nodup, hfound.sought⟩
  · intro paths current queue _ ih found hpaths hfound
    refine ih found hpaths ⟨hfound.nodup, hfound.sought, fun t ht => hfound.walks t (List.mem_cons_of_mem _ ht),
      (List.pairwise_cons.1 hfound.apart).2, fun es hes t ht => hfound.ahead es hes t (List.mem_cons_of_mem _ ht)⟩
  · intro paths current queue hdepth ih found hpaths hfound
    refine ih _ ?_ (hfound.visit hdepth hedges)
    rw [hpaths, reported, List.map_append, List.map_map]
    congr 1
    refine List.map_congr_left fun e _ => ?_
    rw [Function.comp_apply, pathAlong, Trail.eq_along (current.extend e), Trail.extend_edges]

end

/-! ## A path names its edges -/

theorem repr_toList (n : ℕ) : (Nat.repr n).toList = Nat.toDigits 10 n := by
  rw [Nat.repr, String.toList_ofList]

theorem dash_notMem_repr (n : ℕ) : '-' ∉ (Nat.repr n).toList := by
  intro hmem
  rw [repr_toList] at hmem
  exact absurd (Nat.isDigit_of_mem_toDigits (by decide) (by decide) hmem) (by decide)

/-- A numbered hop names its flow and its number. -/
theorem hop_id_inj {a b : String} {i j : ℕ} (h : s!"{a}:hop-{i + 1}" = s!"{b}:hop-{j + 1}") : a = b ∧ i = j := by
  have hlist := congrArg String.toList h
  simp only [String.toList_append, toString, Nat.repr] at hlist
  have hsplit : (a.toList ++ ":hop".toList) ++ '-' :: (Nat.repr (i + 1)).toList =
      (b.toList ++ ":hop".toList) ++ '-' :: (Nat.repr (j + 1)).toList := by
    simpa using hlist
  obtain ⟨hleft, hright⟩ := lastSeparator_inj (dash_notMem_repr _) (dash_notMem_repr _) hsplit
  rw [repr_toList, repr_toList] at hright
  exact ⟨String.toList_inj.1 (List.append_cancel_right hleft), Nat.succ_injective (toDigits_inj _ _ hright)⟩

section
variable {blueprint : PlatformBlueprint}

theorem flowEdges_source {flow : NetworkFlow} {edge : SecurityEdge} (h : edge ∈ flowEdges flow) :
    edge.sourceId = some flow.id := by
  obtain ⟨_, -, rfl⟩ := List.mem_map.1 h
  rfl

/-- The only edge of a flow without transit zones has the id of the flow; another flow's edges are numbered. -/
theorem flowEdges_id {flow : NetworkFlow} {edge : SecurityEdge} (h : edge ∈ flowEdges flow) :
    (flowEdges flow = [edge] ∧ edge.id = flow.id) ∨ ∃ i, edge.id = s!"{flow.id}:hop-{i + 1}" := by
  obtain ⟨⟨p, i⟩, hp, rfl⟩ := List.mem_map.1 h
  by_cases hlen : flow.hops.length = 2
  · left
    have hone : (flowEdges flow).length = 1 := by
      rw [flowEdges, List.length_map, List.length_zipIdx, List.length_zip, List.length_tail, hlen]
      rfl
    obtain ⟨e, he⟩ := List.length_eq_one_iff.1 hone
    refine ⟨?_, if_pos hlen⟩
    rw [he, List.mem_singleton] at h
    rw [he, h]
  · exact Or.inr ⟨i, if_neg hlen⟩

/-- Two hops of a flow have different ids. -/
theorem hop_eq_of_id {flow : NetworkFlow} {p q : String × String} {i j : ℕ}
    (hp : (p, i) ∈ (flow.hops.zip flow.hops.tail).zipIdx) (hq : (q, j) ∈ (flow.hops.zip flow.hops.tail).zipIdx)
    (hid : (hopEdge flow i p.1 p.2).id = (hopEdge flow j q.1 q.2).id) : p = q ∧ i = j := by
  have hp' : (flow.hops.zip flow.hops.tail)[i]? = some p := List.mem_zipIdx_iff_getElem?.1 hp
  have hq' : (flow.hops.zip flow.hops.tail)[j]? = some q := List.mem_zipIdx_iff_getElem?.1 hq
  have hij : i = j := by
    by_cases hlen : flow.hops.length = 2
    · have hone : (flow.hops.zip flow.hops.tail).length = 1 := by
        rw [List.length_zip, List.length_tail, hlen]
        rfl
      obtain ⟨hi, -⟩ := List.getElem?_eq_some_iff.1 hp'
      obtain ⟨hj, -⟩ := List.getElem?_eq_some_iff.1 hq'
      omega
    · simp only [hopEdge, if_neg hlen] at hid
      exact (hop_id_inj hid).2
  subst hij
  exact ⟨Option.some.inj (hp'.symm.trans hq'), rfl⟩

theorem flowEdges_id_inj {flow : NetworkFlow} {edge edge' : SecurityEdge} (h : edge ∈ flowEdges flow)
    (h' : edge' ∈ flowEdges flow) (hid : edge.id = edge'.id) : edge = edge' := by
  obtain ⟨⟨p, i⟩, hp, rfl⟩ := List.mem_map.1 h
  obtain ⟨⟨q, j⟩, hq, rfl⟩ := List.mem_map.1 h'
  obtain ⟨rfl, rfl⟩ := hop_eq_of_id hp hq hid
  rfl

theorem flowEdges_nodup (flow : NetworkFlow) : (flowEdges flow).Nodup := by
  refine List.Nodup.map_on ?_ (List.Nodup.of_map Prod.snd (by rw [List.zipIdx_map_snd]; exact List.nodup_range'))
  rintro ⟨p, i⟩ hp ⟨q, j⟩ hq heq
  obtain ⟨rfl, rfl⟩ := hop_eq_of_id hp hq (congrArg SecurityEdge.id heq)
  rfl

/-- The can-reach edges of a blueprint with different flow ids are different. -/
theorem canReachEdges_nodup (hids : (blueprint.flows.map (·.id)).Nodup) :
    ((buildSecurityGraph blueprint).edges.filter fun edge => edge.kind = .canReach).Nodup := by
  have hplacement : (placementEdges blueprint).filter (fun edge => edge.kind = .canReach) = [] :=
    List.filter_eq_nil_iff.2 fun edge hedge => by simpa using placementEdges_kind hedge
  have haccess : (accessEdges blueprint).filter (fun edge => edge.kind = .canReach) = [] :=
    List.filter_eq_nil_iff.2 fun edge hedge => by simpa using accessEdges_kind hedge
  rw [buildSecurityGraph, List.filter_append, List.filter_append, hplacement, haccess, List.nil_append, List.append_nil]
  refine List.Nodup.filter _ (List.nodup_flatMap.2 ⟨fun flow _ => flowEdges_nodup flow, ?_⟩)
  refine (List.pairwise_map.1 hids).imp fun {flow flow'} hne => ?_
  intro edge hedge hedge'
  have hsource := (flowEdges_source hedge).symm.trans (flowEdges_source hedge')
  exact hne (Option.some.inj hsource)

/-- A walk without repeated zones takes no two edges between the same zones. -/
theorem simple_edge_unique {start : String} {es : List SecurityEdge} (h : Simple SecurityEdge.toId start es) {i j : ℕ}
    {edge edge' : SecurityEdge} (hi : es[i]? = some edge) (hj : es[j]? = some edge') (hto : edge.toId = edge'.toId) :
    i = j := by
  have hnodup : (es.map SecurityEdge.toId).Nodup := (List.nodup_cons.1 h).2
  obtain ⟨hilt, -⟩ := List.getElem?_eq_some_iff.1 hi
  refine (List.getElem?_inj (by simpa using hilt) hnodup).1 ?_
  rw [List.getElem?_map, List.getElem?_map, hi, hj, Option.map_some, Option.map_some, hto]

/-- **Of two paths with the same texts**, an edge of a flow without transit zones is not one that stands for an edge of
another flow: the other path would take it at another place. -/
theorem single_hop_unique (hids : (blueprint.flows.map (·.id)).Nodup) {start : String} {es fs : List SecurityEdge}
    (hes : ∀ e ∈ es, CanReach blueprint e) (hfs : Simple SecurityEdge.toId start fs)
    (hzones : es.map SecurityEdge.toId = fs.map SecurityEdge.toId)
    (hsources : ∀ e ∈ fs, ∃ e' ∈ es, e'.sourceId = e.sourceId) {i : ℕ} {edge edge' : SecurityEdge} {flow : NetworkFlow}
    (hflow : flow ∈ blueprint.flows) (hi : es[i]? = some edge) (hi' : fs[i]? = some edge')
    (hsingle : flowEdges flow = [edge']) : edge = edge' := by
  have hsource' := flowEdges_source (show edge' ∈ flowEdges flow by rw [hsingle]; exact List.mem_cons_self)
  obtain ⟨other, hother, hsource⟩ := hsources edge' (List.mem_of_getElem? hi')
  obtain ⟨flow', hflow', hmem⟩ := canReach_iff.1 (hes other hother)
  have hid : flow'.id = flow.id := by
    have := (flowEdges_source hmem).symm.trans (hsource.trans hsource')
    exact Option.some.inj this
  obtain rfl : flow' = flow := List.inj_on_of_nodup_map hids hflow' hflow hid
  rw [hsingle, List.mem_singleton] at hmem
  subst hmem
  -- the same edge at place `j` of one path and at place `i` of the other
  obtain ⟨j, hj⟩ := List.getElem?_of_mem hother
  obtain ⟨hjlt, -⟩ := List.getElem?_eq_some_iff.1 hj
  have hlen : es.length = fs.length := by simpa using congrArg List.length hzones
  have hjlt' : j < fs.length := by omega
  have hfj : ∃ e, fs[j]? = some e ∧ e.toId = other.toId := by
    refine ⟨fs[j], List.getElem?_eq_getElem hjlt', ?_⟩
    have hget := congrArg (fun l => l[j]?) hzones
    simp only [List.getElem?_map, hj, Option.map_some] at hget
    rw [List.getElem?_eq_getElem hjlt', Option.map_some, Option.some.injEq] at hget
    exact hget.symm
  obtain ⟨e, hej, hto⟩ := hfj
  obtain rfl := simple_edge_unique hfs hej hi' hto
  exact Option.some.inj (hi.symm.trans hj)

theorem source_getD {edge : SecurityEdge} (h : CanReach blueprint edge) : some (edge.sourceId.getD edge.id) = edge.sourceId := by
  obtain ⟨flow, -, hmem⟩ := canReach_iff.1 h
  rw [flowEdges_source hmem]
  rfl

/-- The flows of a path are those of its edges. -/
theorem same_sources {start : String} {es fs : List SecurityEdge} (hes : ∀ e ∈ es, CanReach blueprint e)
    (hfs : ∀ e ∈ fs, CanReach blueprint e) (h : (pathAlong start es).flowIds = (pathAlong start fs).flowIds) :
    ∀ e ∈ fs, ∃ e' ∈ es, e'.sourceId = e.sourceId := by
  intro e he
  have hmem : e.sourceId.getD e.id ∈ (es.map fun entry => entry.sourceId.getD entry.id).eraseDups := by
    rw [show (es.map fun entry => entry.sourceId.getD entry.id).eraseDups =
      (fs.map fun entry => entry.sourceId.getD entry.id).eraseDups from h]
    exact List.mem_eraseDups.2 (List.mem_map_of_mem he)
  obtain ⟨e', he', heq⟩ := List.mem_map.1 (List.mem_eraseDups.1 hmem)
  exact ⟨e', he', by rw [← source_getD (hes e' he'), heq, source_getD (hfs e he)]⟩

/-- **A path names its edges.** -/
theorem pathAlong_injective (hids : (blueprint.flows.map (·.id)).Nodup) {start : String} {es fs : List SecurityEdge}
    (hes : ∀ e ∈ es, CanReach blueprint e) (hfs : ∀ e ∈ fs, CanReach blueprint e)
    (hsimple : Simple SecurityEdge.toId start es) (hsimple' : Simple SecurityEdge.toId start fs)
    (h : pathAlong start es = pathAlong start fs) : es = fs := by
  have hzones : es.map SecurityEdge.toId = fs.map SecurityEdge.toId := (List.cons.inj (congrArg NetworkPath.zoneIds h)).2
  have hedges : es.map SecurityEdge.id = fs.map SecurityEdge.id := congrArg NetworkPath.edgeIds h
  have hsources := same_sources hes hfs (congrArg NetworkPath.flowIds h)
  have hsources' := same_sources hfs hes (congrArg NetworkPath.flowIds h).symm
  have hlen : es.length = fs.length := by simpa using congrArg List.length hedges
  refine List.ext_getElem hlen fun i hi hi' => ?_
  have hget : es[i]? = some es[i] := List.getElem?_eq_getElem hi
  have hget' : fs[i]? = some fs[i] := List.getElem?_eq_getElem hi'
  have hid : es[i].id = fs[i].id := by
    have hboth := congrArg (fun l => l[i]?) hedges
    simpa [hget, hget'] using hboth
  obtain ⟨flow, hflow, hmem⟩ := canReach_iff.1 (hes _ (List.getElem_mem hi))
  obtain ⟨flow', hflow', hmem'⟩ := canReach_iff.1 (hfs _ (List.getElem_mem hi'))
  have hsame : flow.id = flow'.id → es[i] = fs[i] := by
    intro heq
    obtain rfl := List.inj_on_of_nodup_map hids hflow hflow' heq
    exact flowEdges_id_inj hmem hmem' hid
  rcases flowEdges_id hmem with ⟨hsingle, hone⟩ | ⟨k, hk⟩ <;>
    rcases flowEdges_id hmem' with ⟨hsingle', hone'⟩ | ⟨k', hk'⟩
  · exact hsame (by rw [← hone, hid, hone'])
  · exact (single_hop_unique hids hfs hsimple hzones.symm hsources' hflow hget' hget hsingle).symm
  · exact single_hop_unique hids hes hsimple' hzones hsources hflow' hget hget' hsingle'
  · exact hsame (hop_id_inj (hk.symm.trans (hid.trans hk'))).1

end

/-! ## Exactness -/

/-- The bound on the edges of a path. -/
def NetworkPathOptions.depth (options : NetworkPathOptions) (blueprint : PlatformBlueprint) : Limit :=
  options.maxDepth.getD (.int (max blueprint.trustZones.length 1))

/-- A path that is asked for: it repeats no zone, has at least one edge and at most `maxDepth`, and ends at the
destination, where there is one. -/
structure IsPath (blueprint : PlatformBlueprint) (fromZoneId : String) (options : NetworkPathOptions)
    (es : List SecurityEdge) : Prop where
  nonempty : es ≠ []
  walk : ∃ v, Reach (buildSecurityGraph blueprint) fromZoneId es v ∧ (options.anyZone = true ∨ options.toZoneId = some v)
  simple : Simple SecurityEdge.toId fromZoneId es
  short : ∀ n, options.depth blueprint = .int n → (es.length : ℤ) ≤ n

section
variable {blueprint : PlatformBlueprint} {fromZoneId : String} {options : NetworkPathOptions}

theorem simple_nodup {start : String} {es : List SecurityEdge} (h : Simple SecurityEdge.toId start es) : es.Nodup :=
  List.Nodup.of_map _ (List.nodup_cons.1 h).2

theorem isPath_iff {es : List SecurityEdge} : IsPath blueprint fromZoneId options es ↔
    Sought (buildSecurityGraph blueprint) fromZoneId options
      ((options.depth blueprint).depth (buildSecurityGraph blueprint).edges.length) es := by
  have hreports : ∀ v, options.reports v = true ↔ options.anyZone = true ∨ options.toZoneId = some v := by
    intro v
    simp [NetworkPathOptions.reports]
  constructor
  · rintro ⟨hne, ⟨v, hreach, hv⟩, hsimple, hshort⟩
    refine ⟨hne, ⟨v, hreach, (hreports v).2 hv⟩, hsimple, ?_⟩
    cases hdepth : options.depth blueprint with
    | int n => exact hshort n hdepth
    | none =>
      -- the edges of a simple walk are different edges of the graph
      have hle := ((simple_nodup hsimple).subperm fun e he => (hreach.edges e he).1).length_le
      rw [Limit.depth]
      omega
  · rintro ⟨hne, ⟨v, hreach, hv⟩, hsimple, hshort⟩
    refine ⟨hne, ⟨v, hreach, (hreports v).1 hv⟩, hsimple, fun n hn => ?_⟩
    rw [hn] at hshort
    exact hshort

theorem reach_last {u v : String} {es : List SecurityEdge} (h : Reach (buildSecurityGraph blueprint) u es v)
    (hne : es ≠ []) : v ∈ es.map SecurityEdge.toId := by
  induction h with
  | nil => exact absurd rfl hne
  | @cons u v e es _ _ hrest ih =>
    rw [List.map_cons, List.mem_cons]
    cases es with
    | nil =>
      cases hrest
      exact Or.inl rfl
    | cons e' es => exact Or.inr (ih (List.cons_ne_nil _ _))

/-- A simple walk to the destination does not pass it before. -/
theorem follows_of_simple {u v : String} {es : List SecurityEdge} (h : Reach (buildSecurityGraph blueprint) u es v)
    (hne : es ≠ []) (hsimple : Simple SecurityEdge.toId u es) (hv : options.reports v = true) : options.follows es := by
  induction h with
  | nil => exact absurd rfl hne
  | @cons u v e es _ _ hrest ih =>
    have hsimple' : Simple SecurityEdge.toId e.toId es := (List.nodup_cons.1 hsimple).2
    cases es with
    | nil =>
      cases hrest
      exact hv
    | cons e' es =>
      refine ⟨?_, ih (List.cons_ne_nil _ _) hsimple' hv⟩
      have hlast := reach_last hrest (List.cons_ne_nil _ _)
      have hne' : e.toId ≠ v := by
        rintro rfl
        exact (List.nodup_cons.1 hsimple').1 hlast
      simp only [NetworkPathOptions.reports, NetworkPathOptions.continues, Bool.or_eq_true, decide_eq_true_eq] at hv ⊢
      rcases hv with hany | hto
      · exact Or.inl hany
      · right
        rw [hto]
        simpa using hne'.symm

/-- What an unlimited search returns. -/
theorem unlimited_exact (hids : (blueprint.flows.map (·.id)).Nodup) {out : List NetworkPath}
    (h : search (buildSecurityGraph blueprint) options
      ((options.depth blueprint).depth (buildSecurityGraph blueprint).edges.length) .none [] [Trail.root fromZoneId] = .ok out) :
    ∃ all : List (List SecurityEdge), out = all.map (pathAlong fromZoneId) ∧ all.Nodup ∧
      (∀ es, es ∈ all ↔ IsPath blueprint fromZoneId options es) ∧ out.Nodup := by
  have hstart : Searching (buildSecurityGraph blueprint) options
      ((options.depth blueprint).depth (buildSecurityGraph blueprint).edges.length) [] [Trail.root fromZoneId] := by
    refine ⟨List.nodup_nil, nofun, fun trail ht => ?_, List.pairwise_singleton _ _, nofun⟩
    obtain rfl := List.mem_singleton.1 ht
    exact ⟨.nil _, by simp [Simple, vertices, Trail.root]⟩
  obtain ⟨all, hout, hnodup, hsought⟩ := search_sound (canReachEdges_nodup hids) h rfl hstart
  have hcanReach : ∀ es, Sought (buildSecurityGraph blueprint) fromZoneId options
      ((options.depth blueprint).depth (buildSecurityGraph blueprint).edges.length) es → ∀ e ∈ es, CanReach blueprint e := by
    intro es hes e he
    obtain ⟨v, hreach, -⟩ := hes.walk
    exact hreach.edges e he
  refine ⟨all, hout, hnodup, fun es => ⟨fun hes => isPath_iff.2 (hsought es hes), fun hes => ?_⟩, ?_⟩
  · have hes' := isPath_iff.1 hes
    obtain ⟨v, hreach, hv⟩ := hes'.walk
    obtain ⟨found, hedges, hmem⟩ := (search_complete h).2 (Trail.root fromZoneId) List.mem_cons_self es v hreach
      (follows_of_simple hreach hes'.nonempty hes'.simple hv) hes'.simple (by simpa [Trail.root] using hes'.short)
    rw [Trail.eq_along found, hedges, hout] at hmem
    obtain ⟨fs, hfs, heq⟩ := List.mem_map.1 hmem
    have hfs' := hsought fs hfs
    obtain rfl := pathAlong_injective hids (hcanReach _ hfs') (hcanReach _ hes') hfs'.simple hes'.simple heq
    exact hfs
  · rw [hout]
    refine hnodup.map_on fun es hes fs hfs heq => ?_
    exact pathAlong_injective hids (hcanReach _ (hsought es hes)) (hcanReach _ (hsought fs hfs)) (hsought es hes).simple
      (hsought fs hfs).simple heq

/-- The paths that are asked for, each once, unless there are more than `maxPaths`. -/
theorem findNetworkPaths_all (fromZoneId : String) (options : NetworkPathOptions) (hids : (blueprint.flows.map (·.id)).Nodup) :
    ∃ all : List (List SecurityEdge), all.Nodup ∧ (all.map (pathAlong fromZoneId)).Nodup ∧
      (∀ es, es ∈ all ↔ IsPath blueprint fromZoneId options es) ∧
      (findNetworkPaths blueprint fromZoneId options = .ok (all.map (pathAlong fromZoneId)) ∨
        ∃ n : ℤ, options.maxPaths.getD (.int 1000) = .int n ∧ n < all.length ∧
          findNetworkPaths blueprint fromZoneId options = .error (exceededMessage (.int n) fromZoneId)) := by
  obtain ⟨out, hfree, -, hlimit⟩ := search_limit (buildSecurityGraph blueprint) options
    ((options.depth blueprint).depth (buildSecurityGraph blueprint).edges.length) (options.maxPaths.getD (.int 1000)) []
    [Trail.root fromZoneId]
  obtain ⟨all, rfl, hnodup, hall, hpaths⟩ := unlimited_exact hids hfree
  refine ⟨all, hnodup, hpaths, hall, ?_⟩
  have hrun : findNetworkPaths blueprint fromZoneId options = if (options.maxPaths.getD (.int 1000)).allows 0
      (all.map (pathAlong fromZoneId)).length then .ok (all.map (pathAlong fromZoneId))
        else .error (exceededMessage (options.maxPaths.getD (.int 1000)) fromZoneId) := hlimit
  by_cases hallows : (options.maxPaths.getD (.int 1000)).allows 0 (all.map (pathAlong fromZoneId)).length
  · left
    rw [hrun, if_pos hallows]
  · right
    rw [if_neg hallows] at hrun
    cases hmax : options.maxPaths.getD (.int 1000) with
    | none =>
      rw [hmax] at hallows
      exact absurd (Or.inr rfl) hallows
    | int n =>
      rw [hmax] at hallows hrun
      unfold Limit.allows at hallows
      rw [not_or, List.length_map, Limit.reached, decide_eq_false_iff_not, not_not] at hallows
      exact ⟨n, rfl, by omega, hrun⟩

/-- The default depth leaves out no path through declared zones. -/
theorem declared_isPath (hdefault : options.maxDepth = none) {es : List SecurityEdge} {v : String}
    (hreach : Reach (buildSecurityGraph blueprint) fromZoneId es v) (hne : es ≠ [])
    (hsimple : Simple SecurityEdge.toId fromZoneId es) (hv : options.anyZone = true ∨ options.toZoneId = some v)
    (hdeclared : ∀ e ∈ es, e.toId ∈ blueprint.trustZones.map (·.id)) : IsPath blueprint fromZoneId options es := by
  refine ⟨hne, ⟨v, hreach, hv⟩, hsimple, fun n hn => ?_⟩
  rw [NetworkPathOptions.depth, hdefault, Option.getD_none, Limit.int.injEq] at hn
  have hsub : es.map SecurityEdge.toId ⊆ blueprint.trustZones.map (·.id) := by
    intro z hz
    obtain ⟨e, he, rfl⟩ := List.mem_map.1 hz
    exact hdeclared e he
  have hle := ((List.nodup_cons.1 hsimple).2.subperm hsub).length_le
  rw [List.length_map, List.length_map] at hle
  omega

end

/-- Two flows in a row, from `a` through `b` to `c`, and the declared zones. -/
def lineBlueprint (zoneIds : List String) : PlatformBlueprint :=
  { sampleBlueprint [⟨"first", "a", "b", .direct, none, none⟩, ⟨"second", "b", "c", .brokered, none, none⟩] [] with
    trustZones := zoneIds.map fun id => ⟨id, .workload, false, .platform, none⟩ }

theorem line_walk (zoneIds : List String) : ∃ es, Reach (buildSecurityGraph (lineBlueprint zoneIds)) "a" es "c" ∧
    es ≠ [] ∧ Simple SecurityEdge.toId "a" es ∧ es.map SecurityEdge.toId = ["b", "c"] := by
  obtain ⟨first, second, hflows⟩ : ∃ first second, (lineBlueprint zoneIds).flows = [first, second] ∧
      flowEdges first = [⟨"first", .canReach, "a", "b", some false, some "first"⟩] ∧
      flowEdges second = [⟨"second", .canReach, "b", "c", some true, some "second"⟩] := ⟨_, _, rfl, rfl, rfl⟩
  obtain ⟨hflows, hfirst, hsecond⟩ := hflows
  have hreach1 : CanReach (lineBlueprint zoneIds) ⟨"first", .canReach, "a", "b", some false, some "first"⟩ :=
    canReach_iff.2 ⟨first, by rw [hflows]; exact List.mem_cons_self, by rw [hfirst]; exact List.mem_cons_self⟩
  have hreach2 : CanReach (lineBlueprint zoneIds) ⟨"second", .canReach, "b", "c", some true, some "second"⟩ :=
    canReach_iff.2 ⟨second, by rw [hflows]; simp, by rw [hsecond]; exact List.mem_cons_self⟩
  exact ⟨_, .cons hreach1 rfl (.cons hreach2 rfl (.nil _)), by simp, by unfold Simple; decide, rfl⟩

end SecureSaas.Blueprint
