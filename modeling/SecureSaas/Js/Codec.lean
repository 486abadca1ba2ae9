import SecureSaas.Js.Parse
import SecureSaas.Js.JsonParse

/-!
# Parsers that read what a writer writes

A parser reads a writer's values back when it gives each value of a kind from every value with
the same contents, whatever the order of properties. The rules go through a value the way the
parser does.

* `reads_text`, `reads_integer`, `Reads.nullable`: single values.
* `Reads.entries`: arrays.
* `Same.members`: the members of an object.
-/

namespace SecureSaas.Js

variable {ε α : Type}

/-- `check` gives `a` back from every value with the contents of `write a`, where `P a`. -/
def Reads (check : Check ε α) (write : α → Value) (P : α → Prop) : Prop :=
  ∀ (a : α) (w : Value) (path : String), P a → Same (write a) w → check w path = .ok a

theorem reads_text {check : Check ε α} {text : α → String} {P : α → Prop}
    (h : ∀ a path, P a → check (.string (text a)) path = .ok a) : Reads check (fun a => .string (text a)) P := by
  intro a w path ha hw
  rw [hw.string_eq]
  exact h a path ha

theorem reads_integer {check : Check ε ℤ} {P : ℤ → Prop}
    (h : ∀ n path, P n → check (.number (.int n)) path = .ok n) : Reads check (fun n => .number (.int n)) P := by
  intro n w path hn hw
  rw [hw.number_eq]
  exact h n path hn

theorem Same.null_eq {w : Value} (h : Same .null w) : w = .null := by
  cases h
  rfl

theorem Same.eq_null {v : Value} (h : Same v .null) : v = .null := by
  cases h
  rfl

theorem Reads.nullable {check : Check ε α} {write : α → Value} {P : α → Prop} (h : Reads check write P)
    (hnull : ∀ a, write a ≠ .null) :
    Reads (nullable check) (fun o => o.elim .null write) (fun o => ∀ a, o = some a → P a) := by
  intro o w path ho hw
  cases o with
  | none =>
    obtain rfl := hw.null_eq
    rfl
  | some a =>
    have hread := h a w path (ho a rfl) hw
    have hw' : w ≠ .null := by
      rintro rfl
      exact hnull a (Same.eq_null hw)
    unfold Js.nullable
    split
    · exact absurd rfl hw'
    · rw [hread]
      rfl

theorem Same.array_items {items : List Value} {w : Value} (h : Same (.array items) w) :
    ∃ others, w = .array others ∧ List.Forall₂ Same items others := by
  cases h with
  | @array _ others hlen hsame =>
    refine ⟨others, rfl, List.forall₂_iff_get.2 ⟨hlen, ?_⟩⟩
    intro i h1 h2
    exact hsame i _ _ (List.getElem?_eq_getElem h1) (List.getElem?_eq_getElem h2)

/-- What holds of each parsed item holds of the items of a parsed array. -/
theorem parseEntries_all {check : Check ε α} {P : α → Prop} (h : ∀ v path a, check v path = .ok a → P a)
    {path : String} : ∀ {vs : List Value} {index : ℕ} {l : List α}, parseEntries check path index vs = .ok l →
      ∀ a ∈ l, P a := by
  intro vs
  induction vs with
  | nil =>
    intro index l hl
    obtain rfl : [] = l := Except.ok.inj hl
    exact fun _ ha => absurd ha List.not_mem_nil
  | cons v rest ih =>
    intro index l hl
    simp only [parseEntries, bind_ok, pure_ok] at hl
    obtain ⟨a, ha, entries, hentries, rfl⟩ := hl
    exact List.forall_mem_cons.2 ⟨h v _ a ha, ih hentries⟩

/-- The items of an array are read back one by one. -/
theorem Reads.entries {check : Check ε α} {write : α → Value} {P : α → Prop} (h : Reads check write P)
    {path : String} : ∀ {l : List α} {ws : List Value} {index : ℕ}, (∀ a ∈ l, P a) →
      List.Forall₂ Same (l.map write) ws → parseEntries check path index ws = .ok l := by
  intro l
  induction l with
  | nil =>
    intro ws index _ hw
    cases hw
    rfl
  | cons a l ih =>
    intro ws index hl hw
    rw [List.map_cons] at hw
    cases hw with
    | @cons _ w _ ws hhead htail =>
      obtain ⟨ha, hrest⟩ := List.forall_mem_cons.1 hl
      unfold parseEntries
      rw [h a w _ ha hhead, ih hrest htail]
      rfl

/-- **The members of an object**: it has the same keys, and the same contents at each. -/
theorem Same.members {ps : List (String × Value)} {w : Value} (h : Same (.object ps) w)
    (hkeys : (ps.map Prod.fst).Nodup) : ∃ qs, w = .object qs ∧ (qs.map Prod.fst).Perm (ps.map Prod.fst) ∧
      ∀ p ∈ ps, Same p.2 (Value.get qs p.1) := by
  obtain ⟨qs, rfl, hperm, hget⟩ := h.object_get hkeys
  exact ⟨qs, rfl, hperm, fun p hp => hget p.1 p.2 hp⟩

end SecureSaas.Js
