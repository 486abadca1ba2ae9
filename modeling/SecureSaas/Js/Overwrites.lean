import SecureSaas.Js.Record
import Mathlib.Data.List.Induction

/-!
# Maps that are written more than once

`new Map(entries)`, and a loop of `map.set`, keep the last value for a key.

* `lastWith_of_mem`: every key that is written has a last value.
* `mem_fromEntries_iff`: **the values of a map are the last ones for their keys.**
-/

namespace SecureSaas.Js

variable {α κ : Type*} {key : α → κ} {items : List α} {a b : α}

/-- No later item has the key of this one. -/
def LastWith (key : α → κ) (items : List α) (a : α) : Prop :=
  ∃ before after, items = before ++ a :: after ∧ ∀ b ∈ after, key b ≠ key a

theorem LastWith.mem (h : LastWith key items a) : a ∈ items := by
  obtain ⟨before, after, rfl, -⟩ := h
  exact List.mem_append_right _ List.mem_cons_self

/-- What comes at the end of the list is last with its key, and hides what was. -/
theorem lastWith_concat : LastWith key (items ++ [b]) a ↔ a = b ∨ key a ≠ key b ∧ LastWith key items a := by
  constructor
  · rintro ⟨before, after, heq, hafter⟩
    rcases List.eq_nil_or_concat after with rfl | ⟨rest, c, rfl⟩
    · exact Or.inl (List.cons.inj (List.append_inj_right' heq rfl)).1.symm
    · rw [List.concat_eq_append, ← List.cons_append, ← List.append_assoc] at heq
      obtain ⟨hitems, hlast⟩ := List.append_inj' heq rfl
      obtain rfl := (List.cons.inj hlast).1
      refine Or.inr ⟨(hafter b (by simp)).symm, before, rest, hitems, fun c hc => hafter c (by simp [hc])⟩
  · rintro (rfl | ⟨hne, before, after, rfl, hafter⟩)
    · exact ⟨items, [], rfl, fun _ hmem => absurd hmem List.not_mem_nil⟩
    · refine ⟨before, after ++ [b], by simp, fun c hc => ?_⟩
      rcases List.mem_append.1 hc with hc | hc
      · exact hafter c hc
      · rw [List.mem_singleton.1 hc]
        exact hne.symm

/-- **Every key that is written has a last value.** -/
theorem lastWith_of_mem [DecidableEq κ] (h : a ∈ items) : ∃ b, LastWith key items b ∧ key b = key a := by
  induction items using List.reverseRecOn with
  | nil => exact absurd h List.not_mem_nil
  | append_singleton rest c ih =>
    by_cases hkey : key c = key a
    · exact ⟨c, lastWith_concat.2 (Or.inl rfl), hkey⟩
    · rcases List.mem_append.1 h with hrest | hlast
      · obtain ⟨b, hb, hbkey⟩ := ih hrest
        exact ⟨b, lastWith_concat.2 (Or.inr ⟨fun heq => hkey (heq.symm.trans hbkey), hb⟩), hbkey⟩
      · exact absurd (congrArg key (List.mem_singleton.1 hlast)).symm hkey

/-- A key gives its last value. -/
theorem fromEntries_get?_last {key : α → String} {k : String} :
    (Record.fromEntries (items.map fun a => (key a, a))).get? k = some a ↔ LastWith key items a ∧ key a = k := by
  induction items using List.reverseRecOn with
  | nil =>
    refine iff_of_false (fun h => ?_) fun h => List.not_mem_nil h.1.mem
    cases h
  | append_singleton rest c ih =>
    have hset : Record.fromEntries ((rest ++ [c]).map fun a => (key a, a)) =
        (Record.fromEntries (rest.map fun a => (key a, a))).set (key c) c := by
      rw [List.map_append, Record.fromEntries, List.foldl_append]
      rfl
    rw [hset, Record.get?_set, lastWith_concat]
    by_cases hk : k = key c
    · rw [if_pos hk, Option.some.injEq]
      constructor
      · rintro rfl
        exact ⟨Or.inl rfl, hk.symm⟩
      · rintro ⟨rfl | ⟨hne, -⟩, hkey⟩
        · rfl
        · exact absurd (hkey.trans hk) hne
    · rw [if_neg hk, ih]
      constructor
      · rintro ⟨hlast, hkey⟩
        exact ⟨Or.inr ⟨fun heq => hk (hkey.symm.trans heq), hlast⟩, hkey⟩
      · rintro ⟨rfl | ⟨-, hlast⟩, hkey⟩
        · exact absurd hkey.symm hk
        · exact ⟨hlast, hkey⟩

/-- **The values of a map are the last ones for their keys.** -/
theorem mem_fromEntries_iff {key : α → String} :
    a ∈ (Record.fromEntries (items.map fun a => (key a, a))).properties.map Prod.snd ↔ LastWith key items a := by
  rw [List.mem_map]
  constructor
  · rintro ⟨⟨k, v⟩, hmem, rfl⟩
    exact (fromEntries_get?_last.1 (Record.get?_eq_some_iff.2 hmem)).1
  · intro h
    exact ⟨(key a, a), Record.get?_eq_some_iff.1 (fromEntries_get?_last.2 ⟨h, rfl⟩), rfl⟩

end SecureSaas.Js
