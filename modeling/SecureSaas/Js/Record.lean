import SecureSaas.Js.Value
import Mathlib.Data.List.Perm.Subperm

/-!
# Records

An object used as a finite map, `Record<string, T>`: its own properties in insertion order, no
key twice.

* `get?_set`, `get?_erase`, `get?_mapValues`: what the operations do to a lookup.
* `mem_entries`, `mem_values`, `mem_keys`: what the enumerations list.
* `count_le`, `count_le_succ`: how many values satisfy a predicate, compared key by key.
-/

namespace SecureSaas.Js

structure Record (α : Type*) where
  properties : List (String × α)
  nodup : (properties.map Prod.fst).Nodup
deriving DecidableEq

namespace Record

variable {α β : Type*} {r r' : Record α} {key k : String} {v w : α}

/-- `{}`. -/
def empty : Record α := ⟨[], List.nodup_nil⟩

/-- `r[key]` of an own property. -/
def get? (r : Record α) (key : String) : Option α := r.properties.lookup key

/-- A property keeps its place when it is assigned again; a new one comes last. -/
def assign (key : String) (v : α) : List (String × α) → List (String × α)
  | [] => [(key, v)]
  | (k, w) :: rest => if k = key then (k, v) :: rest else (k, w) :: assign key v rest

theorem mem_keys_assign {key k : String} {v : α} : ∀ {ps : List (String × α)},
    k ∈ (assign key v ps).map Prod.fst ↔ k = key ∨ k ∈ ps.map Prod.fst := by
  intro ps
  induction ps with
  | nil => simp [assign]
  | cons p rest ih =>
    obtain ⟨l, w⟩ := p
    unfold assign
    by_cases hl : l = key
    · rw [if_pos hl]
      subst hl
      simp
    · rw [if_neg hl]
      simp only [List.map_cons, List.mem_cons, ih]
      tauto

theorem assign_nodup {key : String} {v : α} : ∀ {ps : List (String × α)}, (ps.map Prod.fst).Nodup →
    ((assign key v ps).map Prod.fst).Nodup := by
  intro ps
  induction ps with
  | nil => exact fun _ => List.nodup_singleton _
  | cons p rest ih =>
    obtain ⟨l, w⟩ := p
    intro h
    unfold assign
    by_cases hl : l = key
    · rw [if_pos hl]
      exact h
    · rw [if_neg hl]
      obtain ⟨hnew, hrest⟩ := List.nodup_cons.1 h
      refine List.nodup_cons.2 ⟨?_, ih hrest⟩
      rw [mem_keys_assign]
      rintro (heq | hmem)
      · exact hl heq
      · exact hnew hmem

theorem lookup_assign {key k : String} {v : α} : ∀ ps : List (String × α),
    (assign key v ps).lookup k = if k = key then some v else ps.lookup k := by
  intro ps
  induction ps with
  | nil =>
    by_cases hk : k = key
    · simp [assign, hk]
    · simp [assign, List.lookup_cons, hk, beq_eq_false_iff_ne.2 hk]
  | cons p rest ih =>
    obtain ⟨l, w⟩ := p
    unfold assign
    by_cases hl : l = key
    · rw [if_pos hl, List.lookup_cons, List.lookup_cons, hl]
      by_cases hk : k = key
      · simp [hk]
      · simp [hk, beq_eq_false_iff_ne.2 hk]
    · rw [if_neg hl, List.lookup_cons, List.lookup_cons, ih]
      by_cases hk : k = l
      · have hkey : k ≠ key := fun h => hl (hk.symm.trans h)
        rw [if_neg hkey, beq_iff_eq.2 hk, if_neg hkey]
      · rw [beq_eq_false_iff_ne.2 hk]

theorem lookup_filter_ne {key k : String} (h : k ≠ key) : ∀ ps : List (String × α),
    (ps.filter fun p => p.1 ≠ key).lookup k = ps.lookup k := by
  intro ps
  induction ps with
  | nil => rfl
  | cons p rest ih =>
    obtain ⟨l, w⟩ := p
    by_cases hl : l = key
    · have hk : (k == l) = false := beq_eq_false_iff_ne.2 fun hk => h (hk.trans hl)
      rw [List.filter_cons_of_neg (by simpa using hl), ih, List.lookup_cons, hk]
    · rw [List.filter_cons_of_pos (by simpa using hl), List.lookup_cons, List.lookup_cons, ih]

/-- `r[key] = v`. -/
def set (r : Record α) (key : String) (v : α) : Record α := ⟨assign key v r.properties, assign_nodup r.nodup⟩

/-- `delete r[key]`. -/
def erase (r : Record α) (key : String) : Record α :=
  ⟨r.properties.filter fun p => p.1 ≠ key, r.nodup.sublist (List.filter_sublist.map _)⟩

/-- The record with `f` run over every value. -/
def mapValues (f : α → β) (r : Record α) : Record β :=
  ⟨r.properties.map fun p => (p.1, f p.2), by rw [List.map_map]; exact r.nodup⟩

/-- `Object.entries(r)`. -/
def entries (r : Record α) : List (String × α) := ownOrder r.properties

/-- `Object.keys(r)`. -/
def keys (r : Record α) : List String := r.entries.map Prod.fst

/-- `Object.values(r)`. -/
def values (r : Record α) : List α := r.entries.map Prod.snd

/-- `Object.fromEntries(entries)`. -/
def fromEntries (entries : List (String × α)) : Record α := entries.foldl (fun r p => r.set p.1 p.2) empty

@[simp] theorem get?_empty : (empty : Record α).get? key = none := rfl

theorem get?_set : (r.set key v).get? k = if k = key then some v else r.get? k := lookup_assign _

@[simp] theorem get?_set_self : (r.set key v).get? key = some v := by rw [get?_set, if_pos rfl]

/-- What is found after an assignment was assigned, or was there before. -/
theorem get?_set_some (h : (r.set key v).get? k = some w) : (k = key ∧ w = v) ∨ (k ≠ key ∧ r.get? k = some w) := by
  rw [get?_set] at h
  by_cases hk : k = key
  · rw [if_pos hk] at h
    exact Or.inl ⟨hk, (Option.some.inj h).symm⟩
  · rw [if_neg hk] at h
    exact Or.inr ⟨hk, h⟩

theorem get?_set_ne (h : k ≠ key) : (r.set key v).get? k = r.get? k := by rw [get?_set, if_neg h]

theorem get?_eq_some_iff : r.get? k = some v ↔ (k, v) ∈ r.properties := by
  unfold get?
  rw [List.lookup_eq_some_iff]
  constructor
  · rintro ⟨before, after, heq, -⟩
    rw [heq]
    exact List.mem_append_right _ List.mem_cons_self
  · intro hm
    obtain ⟨before, after, heq⟩ := List.append_of_mem hm
    refine ⟨before, after, heq, ?_⟩
    -- no property before it has its key
    have hn := r.nodup
    rw [heq, List.map_append, List.map_cons] at hn
    intro p hp
    have hne := (List.nodup_append.1 hn).2.2 p.1 (List.mem_map_of_mem hp) k List.mem_cons_self
    simpa using fun h => hne h.symm

theorem get?_erase : (r.erase key).get? k = if k = key then none else r.get? k := by
  apply Option.ext
  intro w
  rw [get?_eq_some_iff]
  show (k, w) ∈ r.properties.filter _ ↔ _
  rw [List.mem_filter]
  by_cases hk : k = key
  · simp [hk]
  · simp [hk, get?_eq_some_iff]

theorem get?_erase_ne (h : k ≠ key) : (r.erase key).get? k = r.get? k := by rw [get?_erase, if_neg h]

theorem get?_mapValues {f : α → β} : (r.mapValues f).get? k = (r.get? k).map f := by
  show (r.properties.map _).lookup k = (r.properties.lookup k).map f
  induction r.properties with
  | nil => rfl
  | cons p rest ih =>
    rw [List.map_cons, List.lookup_cons, List.lookup_cons]
    cases hk : k == p.1 with
    | true => rfl
    | false => exact ih

theorem mem_entries : (k, v) ∈ r.entries ↔ r.get? k = some v := by
  unfold entries
  rw [mem_ownOrder, get?_eq_some_iff]

theorem mem_keys : k ∈ r.keys ↔ ∃ v, r.get? k = some v := by
  unfold keys
  rw [List.mem_map]
  constructor
  · rintro ⟨p, hp, rfl⟩
    exact ⟨p.2, mem_entries.1 hp⟩
  · rintro ⟨v, hv⟩
    exact ⟨(k, v), mem_entries.2 hv, rfl⟩

theorem mem_values : v ∈ r.values ↔ ∃ k, r.get? k = some v := by
  unfold values
  rw [List.mem_map]
  constructor
  · rintro ⟨p, hp, rfl⟩
    exact ⟨p.1, mem_entries.1 hp⟩
  · rintro ⟨k, hk⟩
    exact ⟨(k, v), mem_entries.2 hk, rfl⟩

theorem keys_nodup (r : Record α) : r.keys.Nodup :=
  (((ownOrder_perm r.properties).map Prod.fst).nodup_iff).2 r.nodup

/-- What a search through the properties finds nothing of holds of no property. -/
theorem findSome?_entries {f : String × α → Option β} :
    r.entries.findSome? f = none ↔ ∀ k v, r.get? k = some v → f (k, v) = none := by
  rw [List.findSome?_eq_none_iff]
  constructor
  · intro h k v hv
    exact h _ (mem_entries.2 hv)
  · intro h p hp
    exact h p.1 p.2 (mem_entries.1 hp)

/-- A property comes from one of the entries, whether or not their keys repeat. -/
theorem mem_of_fromEntries_get? {ps : List (String × α)} (h : (fromEntries ps).get? k = some v) : (k, v) ∈ ps := by
  have hfold : ∀ (ps : List (String × α)) (acc : Record α),
      (ps.foldl (fun r p => r.set p.1 p.2) acc).get? k = some v → acc.get? k = some v ∨ (k, v) ∈ ps := by
    intro ps
    induction ps with
    | nil => exact fun acc hacc => Or.inl hacc
    | cons p rest ih =>
      intro acc hacc
      rw [List.foldl_cons] at hacc
      rcases ih _ hacc with hset | hin
      · rw [get?_set] at hset
        by_cases hk : k = p.1
        · rw [if_pos hk] at hset
          rw [hk, ← Option.some.inj hset]
          exact Or.inr List.mem_cons_self
        · rw [if_neg hk] at hset
          exact Or.inl hset
      · exact Or.inr (List.mem_cons_of_mem _ hin)
  rcases hfold ps empty h with hempty | hin
  · cases hempty
  · exact hin

/-- Every key of the entries is one of the properties. -/
theorem fromEntries_isSome {ps : List (String × α)} (h : (k, v) ∈ ps) : ∃ w, (fromEntries ps).get? k = some w := by
  have hfold : ∀ (ps : List (String × α)) (acc : Record α), ((∃ w, acc.get? k = some w) ∨ ∃ v, (k, v) ∈ ps) →
      ∃ w, (ps.foldl (fun r p => r.set p.1 p.2) acc).get? k = some w := by
    intro ps
    induction ps with
    | nil => exact fun acc hacc => hacc.resolve_right fun ⟨_, hin⟩ => List.not_mem_nil hin
    | cons p rest ih =>
      intro acc hacc
      refine ih _ ?_
      by_cases hk : k = p.1
      · exact Or.inl ⟨p.2, by rw [hk, get?_set_self]⟩
      · rcases hacc with ⟨w, hw⟩ | ⟨v, hv⟩
        · exact Or.inl ⟨w, by rw [get?_set_ne hk, hw]⟩
        · rcases List.mem_cons.1 hv with rfl | hv
          · exact absurd rfl hk
          · exact Or.inr ⟨v, hv⟩
  exact hfold ps empty (Or.inr ⟨v, h⟩)

theorem fromEntries_get? {ps : List (String × α)} (h : (ps.map Prod.fst).Nodup) :
    (fromEntries ps).get? k = some v ↔ (k, v) ∈ ps := by
  -- over an accumulator that has none of the keys
  have hfold : ∀ (ps : List (String × α)) (acc : Record α), (ps.map Prod.fst).Nodup →
      (∀ p ∈ ps, acc.get? p.1 = none) →
      ((ps.foldl (fun r p => r.set p.1 p.2) acc).get? k = some v ↔ acc.get? k = some v ∨ (k, v) ∈ ps) := by
    intro ps
    induction ps with
    | nil => simp
    | cons p rest ih =>
      intro acc hn hacc
      obtain ⟨l, w⟩ := p
      obtain ⟨hnew, hrest⟩ := List.nodup_cons.1 hn
      have hfresh : acc.get? l = none := hacc (l, w) List.mem_cons_self
      rw [List.foldl_cons, ih _ hrest]
      · rw [get?_set, List.mem_cons]
        by_cases hk : k = l
        · subst hk
          simp [hfresh, eq_comm]
        · simp [hk]
      · intro q hq
        have hne : q.1 ≠ l := by
          intro heq
          exact hnew (List.mem_map.2 ⟨q, hq, heq⟩)
        rw [get?_set_ne hne]
        exact hacc q (List.mem_cons_of_mem _ hq)
  have hempty := hfold ps empty h fun _ _ => rfl
  rw [get?_empty] at hempty
  exact hempty.trans (or_iff_right nofun)

/-- A record made of the entries of another one in any order has its values. -/
theorem fromEntries_perm {ps : List (String × α)} (hperm : ps.Perm r.entries) :
    (fromEntries ps).get? k = some v ↔ r.get? k = some v := by
  have hkeys : (ps.map Prod.fst).Nodup := (hperm.map Prod.fst).nodup_iff.2 (keys_nodup r)
  rw [fromEntries_get? hkeys, hperm.mem_iff, mem_entries]

/-- Items with different ids are found by their ids. -/
theorem fromEntries_map_get? {id : α → String} {items : List α} (h : (items.map id).Nodup) {item : α}
    (hitem : item ∈ items) : (fromEntries (items.map fun item => (id item, item))).get? (id item) = some item := by
  have hkeys : ((items.map fun item => (id item, item)).map Prod.fst).Nodup := by
    rw [List.map_map]
    exact h
  exact (fromEntries_get? hkeys).2 (List.mem_map.2 ⟨item, hitem, rfl⟩)

theorem assign_fresh {key : String} {v : α} : ∀ {ps : List (String × α)}, key ∉ ps.map Prod.fst →
    assign key v ps = ps ++ [(key, v)] := by
  intro ps
  induction ps with
  | nil => exact fun _ => rfl
  | cons p rest ih =>
    obtain ⟨l, w⟩ := p
    intro h
    simp only [List.map_cons, List.mem_cons, not_or] at h
    rw [assign, if_neg fun hl => h.1 hl.symm, ih h.2, List.cons_append]

/-- Entries with different keys are the properties as they are. -/
theorem fromEntries_properties {ps : List (String × α)} (h : (ps.map Prod.fst).Nodup) :
    (fromEntries ps).properties = ps := by
  -- over an accumulator that has none of the keys
  have hfold : ∀ (ps : List (String × α)) (acc : Record α), ((acc.properties ++ ps).map Prod.fst).Nodup →
      (ps.foldl (fun r p => r.set p.1 p.2) acc).properties = acc.properties ++ ps := by
    intro ps
    induction ps with
    | nil => simp
    | cons p rest ih =>
      intro acc hn
      have hfresh : p.1 ∉ acc.properties.map Prod.fst := by
        rw [List.map_append, List.map_cons] at hn
        exact fun hmem => (List.nodup_append.1 hn).2.2 _ hmem _ List.mem_cons_self rfl
      have hset : (acc.set p.1 p.2).properties = acc.properties ++ [p] := assign_fresh hfresh
      rw [List.foldl_cons, ih _ (by rw [hset, List.append_assoc]; exact hn), hset, List.append_assoc]
      rfl
  exact hfold ps empty (by simpa [empty] using h)

/-! ## Counting values -/

/-- `Object.values(r).filter(p).length`. -/
def count (p : α → Bool) (r : Record α) : ℕ := (r.values.filter p).length

/-- The keys whose values satisfy `p`. -/
def keysWhere (p : α → Bool) (r : Record α) : List String := (r.entries.filter fun e => p e.2).map Prod.fst

theorem count_eq (p : α → Bool) (r : Record α) : r.count p = (r.keysWhere p).length := by
  unfold count keysWhere values
  rw [List.filter_map, List.length_map, List.length_map]
  rfl

theorem mem_keysWhere {p : α → Bool} : k ∈ r.keysWhere p ↔ ∃ v, r.get? k = some v ∧ p v = true := by
  unfold keysWhere
  rw [List.mem_map]
  constructor
  · rintro ⟨e, he, rfl⟩
    obtain ⟨hm, hp⟩ := List.mem_filter.1 he
    exact ⟨e.2, mem_entries.1 hm, hp⟩
  · rintro ⟨v, hv, hp⟩
    exact ⟨(k, v), List.mem_filter.2 ⟨mem_entries.2 hv, hp⟩, rfl⟩

theorem keysWhere_nodup (p : α → Bool) (r : Record α) : (r.keysWhere p).Nodup :=
  r.keys_nodup.sublist (List.filter_sublist.map _)

/-- **A count does not grow** when the keys it counts were counted before. -/
theorem count_le {p : α → Bool} {q : β → Bool} {r' : Record β}
    (h : ∀ k w, r'.get? k = some w → q w = true → ∃ v, r.get? k = some v ∧ p v = true) :
    r'.count q ≤ r.count p := by
  rw [count_eq, count_eq]
  refine (List.subperm_of_subset (keysWhere_nodup q r') ?_).length_le
  intro k hk
  obtain ⟨w, hw, hq⟩ := mem_keysWhere.1 hk
  exact mem_keysWhere.2 (h k w hw hq)

/-- **A count grows by one at most** when one key may be new among those it counts. -/
theorem count_le_succ {p : α → Bool} {q : β → Bool} {r' : Record β} (key : String)
    (h : ∀ k w, k ≠ key → r'.get? k = some w → q w = true → ∃ v, r.get? k = some v ∧ p v = true) :
    r'.count q ≤ r.count p + 1 := by
  rw [count_eq, count_eq]
  have hsub : r'.keysWhere q ⊆ key :: r.keysWhere p := by
    intro k hk
    obtain ⟨w, hw, hq⟩ := mem_keysWhere.1 hk
    by_cases hkey : k = key
    · rw [hkey]
      exact List.mem_cons_self
    · exact List.mem_cons_of_mem _ (mem_keysWhere.2 (h k w hkey hw hq))
  exact (List.subperm_of_subset (keysWhere_nodup q r') hsub).length_le

/-- **A count shrinks** when a key is no longer among those it counts, and no key is new. -/
theorem count_lt {p : α → Bool} {q : β → Bool} {r' : Record β} (key : String)
    (h : ∀ k w, r'.get? k = some w → q w = true → k ≠ key ∧ ∃ v, r.get? k = some v ∧ p v = true)
    (hkey : ∃ v, r.get? key = some v ∧ p v = true) : r'.count q < r.count p := by
  rw [count_eq, count_eq]
  have hsub : key :: r'.keysWhere q ⊆ r.keysWhere p := by
    intro k hk
    rcases List.mem_cons.1 hk with rfl | hk
    · exact mem_keysWhere.2 hkey
    · obtain ⟨w, hw, hq⟩ := mem_keysWhere.1 hk
      exact mem_keysWhere.2 (h k w hw hq).2
  have hfresh : key ∉ r'.keysWhere q := by
    intro hk
    obtain ⟨w, hw, hq⟩ := mem_keysWhere.1 hk
    exact (h key w hw hq).1 rfl
  exact (List.subperm_of_subset (List.nodup_cons.2 ⟨hfresh, keysWhere_nodup q r'⟩) hsub).length_le

/-- Assigning the value that a key has changes nothing. -/
theorem set_same (h : r.get? key = some v) : r.set key v = r := by
  have hassign : ∀ ps : List (String × α), ps.lookup key = some v → assign key v ps = ps := by
    intro ps
    induction ps with
    | nil => exact nofun
    | cons p rest ih =>
      obtain ⟨k, w⟩ := p
      intro hlookup
      unfold assign
      by_cases hk : k = key
      · subst hk
        rw [List.lookup_cons_self] at hlookup
        rw [if_pos rfl, Option.some.inj hlookup]
      · have hne : (key == k) = false := beq_false_of_ne (Ne.symm hk)
        rw [List.lookup_cons, hne] at hlookup
        rw [if_neg hk, ih hlookup]
  unfold set
  congr 1
  exact hassign r.properties h

end Record

end SecureSaas.Js
