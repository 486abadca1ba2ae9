import SecureSaas.Js.Record

/-!
# Objects written and read back

An object is written with the members that have a value, and a record with its properties in the
order that enumerations list them. Reading gives what was written.

* `optional_member`: what an object holds of a member that may be missing.
* `get?_spread`: the later of two spread records decides.
* `entries_relisted`: **a record that has been listed and rebuilt lists the same.**
* `mapM_map_of_ok`: a loop that reads every item back.
-/

namespace SecureSaas.Js

/-! ## Members that may be missing -/

/-- The members that have a value. -/
def present (members : List (String × Option Value)) : List (String × Value) :=
  members.filterMap fun m => m.2.map fun v => (m.1, v)

section
variable {members : List (String × Option Value)} {key : String}

theorem lookup_of_mem {α : Type*} {l : List (String × α)} {a : α} (hkeys : (l.map Prod.fst).Nodup)
    (h : (key, a) ∈ l) : l.lookup key = some a := by
  induction l with
  | nil => exact absurd h List.not_mem_nil
  | cons p rest ih =>
    obtain ⟨hnew, hrest⟩ := List.nodup_cons.1 hkeys
    rw [List.lookup_cons]
    rcases List.mem_cons.1 h with heq | hmem
    · rw [← heq, beq_self_eq_true]
    · have hne : key ≠ p.1 := by
        intro heq
        exact hnew (heq ▸ List.mem_map_of_mem hmem)
      rw [beq_eq_false_iff_ne.2 hne]
      exact ih hrest hmem

/-- A key has the value of its member, if it has one. -/
theorem lookup_present (hkeys : (members.map Prod.fst).Nodup) :
    (present members).lookup key = (members.lookup key).join := by
  induction members with
  | nil => rfl
  | cons m rest ih =>
    obtain ⟨k, o⟩ := m
    obtain ⟨hnew, hrest⟩ := List.nodup_cons.1 hkeys
    rw [List.lookup_cons]
    by_cases hk : key = k
    · rw [hk, beq_self_eq_true]
      cases o with
      | some v => simp [present]
      | none =>
        -- no later member has the key
        have hnone : rest.lookup k = none := by
          rw [List.lookup_eq_none_iff]
          intro m hm
          have hmem : m.1 ∈ rest.map Prod.fst := List.mem_map_of_mem hm
          exact bne_iff_ne.2 fun heq => hnew (heq ▸ hmem)
        have hpresent := ih hrest
        rw [hk, hnone] at hpresent
        exact hpresent
    · have hbeq : (key == k) = false := beq_eq_false_iff_ne.2 hk
      rw [hbeq, ← ih hrest]
      cases o with
      | none => rfl
      | some v => simp [present, List.lookup_cons, hbeq]

/-- An object has no other keys than its members'. -/
theorem mem_present {p : String × Value} (hp : p ∈ present members) : p.1 ∈ members.map Prod.fst := by
  obtain ⟨m, hm, heq⟩ := List.mem_filterMap.1 hp
  obtain ⟨v, -, rfl⟩ := Option.map_eq_some_iff.1 heq
  exact List.mem_map_of_mem hm

/-- A key of a member that may be missing is there exactly when it has a value. -/
theorem optional_member {required : List (String × Value)} {o : Option Value}
    (hkeys : (required.map Prod.fst ++ members.map Prod.fst).Nodup) (h : (key, o) ∈ members) :
    Value.has (required ++ present members) key = o.isSome ∧
      Value.get (required ++ present members) key = o.getD .undefined := by
  obtain ⟨-, hmembers, hdisjoint⟩ := List.nodup_append.1 hkeys
  have hlookup : (present members).lookup key = o := by
    rw [lookup_present hmembers, lookup_of_mem hmembers h]
    rfl
  have hrequired : required.lookup key = none := by
    rw [List.lookup_eq_none_iff]
    intro p hp
    exact bne_iff_ne.2 fun heq => hdisjoint p.1 (List.mem_map_of_mem hp) key (List.mem_map_of_mem h) heq.symm
  have hall : (required ++ present members).lookup key = o := by
    rw [List.lookup_append, hrequired, hlookup, Option.none_or]
  constructor
  · rw [Bool.eq_iff_iff, Value.has, List.contains_iff_mem, ← hall, Option.isSome_iff_ne_none, ne_eq,
      List.lookup_eq_none_iff]
    constructor
    · intro hmem hnone
      obtain ⟨p, hp, heq⟩ := List.mem_map.1 hmem
      exact bne_iff_ne.1 (hnone p hp) heq.symm
    · intro hnone
      by_contra hmem
      exact hnone fun p hp => bne_iff_ne.2 fun heq => hmem (heq ▸ List.mem_map_of_mem hp)
  · rw [Value.get, hall]

end

/-! ## Records -/

theorem ownOrder_map {α β : Type*} (f : α → β) (properties : List (String × α)) :
    ownOrder (properties.map fun p => (p.1, f p.2)) = (ownOrder properties).map fun p => (p.1, f p.2) := by
  have hsort := List.map_insertionSort (fun p q : String × α => (arrayIndex p.1).getD 0 ≤ (arrayIndex q.1).getD 0)
    (s := fun p q : String × β => (arrayIndex p.1).getD 0 ≤ (arrayIndex q.1).getD 0)
    (fun p : String × α => (p.1, f p.2)) (properties.filter fun p => (arrayIndex p.1).isSome) fun _ _ _ _ => Iff.rfl
  unfold ownOrder
  rw [List.map_append, hsort, List.filter_map, List.filter_map]
  rfl

/-- Properties that are listed already are listed as they are. -/
theorem ownOrder_ownOrder {α : Type*} (properties : List (String × α)) :
    ownOrder (ownOrder properties) = ownOrder properties := by
  set le : String × α → String × α → Prop := fun p q => (arrayIndex p.1).getD 0 ≤ (arrayIndex q.1).getD 0 with hle
  have htotal : Std.Total le := ⟨fun p q => Nat.le_total _ _⟩
  have htrans : IsTrans (String × α) le := ⟨fun _ _ _ => Nat.le_trans⟩
  set indexed := (properties.filter fun p => (arrayIndex p.1).isSome).insertionSort le with hindexed
  set named := properties.filter fun p => (arrayIndex p.1).isNone with hnamed
  have hsome : ∀ p ∈ indexed, (arrayIndex p.1).isSome = true := by
    intro p hp
    rw [hindexed, List.mem_insertionSort, List.mem_filter] at hp
    exact hp.2
  have hnone : ∀ p ∈ named, (arrayIndex p.1).isNone = true := fun p hp => (List.mem_filter.1 hp).2
  have hnotIndexed : named.filter (fun p => (arrayIndex p.1).isSome) = [] := by
    refine List.filter_eq_nil_iff.2 fun p hp => ?_
    rw [Option.isNone_iff_eq_none.1 (hnone p hp)]
    simp
  have hnotNamed : indexed.filter (fun p => (arrayIndex p.1).isNone) = [] := by
    refine List.filter_eq_nil_iff.2 fun p hp => ?_
    obtain ⟨n, hn⟩ := Option.isSome_iff_exists.1 (hsome p hp)
    rw [hn]
    simp
  have hfirst : (indexed ++ named).filter (fun p => (arrayIndex p.1).isSome) = indexed := by
    rw [List.filter_append, List.filter_eq_self.2 hsome, hnotIndexed, List.append_nil]
  have hlast : (indexed ++ named).filter (fun p => (arrayIndex p.1).isNone) = named := by
    rw [List.filter_append, List.filter_eq_self.2 hnone, hnotNamed, List.nil_append]
  show (((indexed ++ named).filter fun p => (arrayIndex p.1).isSome).insertionSort le) ++
    (indexed ++ named).filter (fun p => (arrayIndex p.1).isNone) = indexed ++ named
  rw [hfirst, hlast, (List.pairwise_insertionSort le _).insertionSort_eq]

namespace Record

variable {α β : Type} {r r' : Record α}

/-- The record that is rebuilt from the enumeration of its properties. -/
def relisted (r : Record α) : Record α := fromEntries r.entries

/-- **A record that has been listed and rebuilt lists the same.** -/
theorem entries_relisted : r.relisted.entries = r.entries := by
  have hkeys : (r.entries.map Prod.fst).Nodup := r.keys_nodup
  show ownOrder (fromEntries r.entries).properties = _
  rw [fromEntries_properties hkeys]
  exact ownOrder_ownOrder r.properties

/-- Records that list the same hold the same. -/
theorem get?_of_entries (h : r.entries = r'.entries) : r.get? = r'.get? := by
  funext key
  refine Option.ext fun v => ?_
  rw [← mem_entries, ← mem_entries, h]

/-- `{ ...base, ...extra }`. -/
def spread (base extra : Record α) : Record α := extra.entries.foldl (fun r p => r.set p.1 p.2) base

/-- The later of two spread records decides. -/
theorem get?_spread (base extra : Record α) (key : String) :
    (base.spread extra).get? key = (extra.get? key).or (base.get? key) := by
  have hfold : ∀ (ps : List (String × α)) (acc : Record α), (ps.map Prod.fst).Nodup →
      (ps.foldl (fun r p => r.set p.1 p.2) acc).get? key = (ps.lookup key).or (acc.get? key) := by
    intro ps
    induction ps with
    | nil => exact fun _ _ => rfl
    | cons p rest ih =>
      intro acc hn
      obtain ⟨hnew, hrest⟩ := List.nodup_cons.1 hn
      rw [List.foldl_cons, ih _ hrest, get?_set, List.lookup_cons]
      by_cases hk : key = p.1
      · -- the key does not come back, so what is set here stays
        have hnone : rest.lookup key = none :=
          List.lookup_eq_none_iff.2 fun q hq => bne_iff_ne.2 fun he => hnew (hk ▸ he ▸ List.mem_map_of_mem hq)
        rw [if_pos hk, hnone, beq_iff_eq.2 hk]
        rfl
      · rw [if_neg hk, beq_eq_false_iff_ne.2 hk]
  have hkeys : (extra.entries.map Prod.fst).Nodup := extra.keys_nodup
  have hlookup : extra.entries.lookup key = extra.get? key := by
    have hown : (fromEntries extra.entries).get? key = extra.get? key := by
      refine Option.ext fun v => ?_
      rw [fromEntries_get? hkeys, mem_entries]
    rw [← hown, get?, fromEntries_properties hkeys]
  rw [spread, hfold _ _ hkeys, hlookup]

end Record

/-! ## Loops -/

/-- A loop that reads every item back gives the items. -/
theorem mapM_map_of_ok {α β ε : Type} {f : β → Except ε α} {g : α → β} {l : List α}
    (h : ∀ a ∈ l, f (g a) = .ok a) : (l.map g).mapM f = .ok l := by
  induction l with
  | nil => rfl
  | cons a l ih =>
    obtain ⟨ha, hl⟩ := List.forall_mem_cons.1 h
    rw [List.map_cons, List.mapM_cons, ha, ih hl]
    rfl

end SecureSaas.Js
