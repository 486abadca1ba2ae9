import Mathlib.Data.List.Basic
import Mathlib.Data.List.Nodup

/-!
# Round robin

A scan goes round a list from some index on and takes the first element that satisfies a predicate;
the next scan starts after the element taken last.

* `firstFrom_some`, `firstFrom_none`: what a scan takes, and when it takes nothing.
* `firstFrom_turn`: **a scan that starts between `a` and `b` gets no further than `b`**, when the
  element there satisfies the predicate.
-/

namespace SecureSaas

variable {α : Type*} {p : α → Bool} {xs : List α} {x y : α}

/-- The first element that satisfies `p`, from the index `start` on and round the end. -/
def firstFrom (start : ℕ) (p : α → Bool) (xs : List α) : Option α :=
  ((List.range xs.length).filterMap fun offset => xs[(start + offset) % xs.length]?).find? p

theorem firstFrom_some {start : ℕ} (h : firstFrom start p xs = some x) :
    ∃ offset, offset < xs.length ∧ xs[(start + offset) % xs.length]? = some x ∧ p x = true ∧
      ∀ o, o < offset → ∀ y, xs[(start + o) % xs.length]? = some y → p y = false := by
  unfold firstFrom at h
  have hx : p x = true := List.find?_some h
  rw [List.find?_filterMap, Option.bind_eq_some_iff] at h
  obtain ⟨offset, hfind, hget⟩ := h
  obtain ⟨-, hmem, hbefore⟩ := List.find?_range_eq_some.1 hfind
  refine ⟨offset, List.mem_range.1 hmem, hget, hx, ?_⟩
  intro o ho y hy
  have hnot := hbefore o ho
  rw [hy] at hnot
  simpa using hnot

/-- A scan that takes nothing has tried every element. -/
theorem firstFrom_none {start : ℕ} (h : firstFrom start p xs = none) (hx : x ∈ xs) : p x = false := by
  obtain ⟨i, hi, hget⟩ := List.mem_iff_getElem.1 hx
  -- the offset at which the scan reaches the index
  have hreach : ∃ offset, offset < xs.length ∧ (start + offset) % xs.length = i := by
    refine ⟨(i + (xs.length - start % xs.length)) % xs.length, Nat.mod_lt _ (by omega), ?_⟩
    have hlt : start % xs.length < xs.length := Nat.mod_lt _ (by omega)
    have hsum : start % xs.length + (i + (xs.length - start % xs.length)) = i + xs.length := by omega
    rw [Nat.add_mod_mod, Nat.add_mod, ← Nat.mod_add_mod, Nat.mod_mod, Nat.add_mod_mod, hsum, Nat.add_mod_right,
      Nat.mod_eq_of_lt hi]
  obtain ⟨offset, hoffset, hat⟩ := hreach
  have hmem : x ∈ (List.range xs.length).filterMap fun offset => xs[(start + offset) % xs.length]? := by
    refine List.mem_filterMap.2 ⟨offset, List.mem_range.2 hoffset, ?_⟩
    rw [hat]
    exact List.getElem?_eq_some_iff.2 ⟨hi, hget⟩
  simpa using List.find?_eq_none.1 h x hmem

/-- Going round from `a`, the index `i` comes before `b`. -/
def ComesBefore (a b i : ℕ) : Prop := (a ≤ i ∧ i < b) ∨ (b < a ∧ (a ≤ i ∨ i < b))

theorem ComesBefore.start {a b : ℕ} (h : a ≠ b) : ComesBefore a b a := by
  unfold ComesBefore
  omega

/-- An offset that does not go past `b` ends before it or at it, and not at `a`. -/
theorem ComesBefore.move {n a b i o : ℕ} (h : ComesBefore a b i) (hb : b < n) (hi : i < n) (ho : o < n)
    (hnear : ∀ o', o' < n → (i + 1 + o') % n = b → o ≤ o') :
    (i + 1 + o) % n = b ∨ (ComesBefore a b ((i + 1 + o) % n) ∧ (i + 1 + o) % n ≠ a) := by
  -- sums below `2 * n` wrap once at most
  have hwrap : ∀ k, k < n → (i + 1 + k) % n = if i + 1 + k < n then i + 1 + k else i + 1 + k - n := by
    intro k hk
    by_cases hlt : i + 1 + k < n
    · rw [if_pos hlt, Nat.mod_eq_of_lt hlt]
    · rw [if_neg hlt, Nat.mod_eq_sub_mod (by omega), Nat.mod_eq_of_lt (by omega)]
  have hreach : o ≤ if i < b then b - (i + 1) else b + n - (i + 1) := by
    refine hnear _ ?_ ?_
    · split <;> omega
    · rw [hwrap _ (by split <;> omega)]
      split <;> split <;> omega
  unfold ComesBefore at h ⊢
  rw [hwrap o ho]
  split at hreach <;> split <;> omega

/-- **A scan that starts after `i` goes no further than `b`**: it takes the element there, or one
that comes before it and is not the one at `a`. -/
theorem firstFrom_turn {a b i : ℕ} (hi : i < xs.length) (hb : xs[b]? = some y) (hy : p y = true)
    (hbefore : ComesBefore a b i) (h : firstFrom ((i + 1) % xs.length) p xs = some x) :
    x = y ∨ ∃ j, j < xs.length ∧ xs[j]? = some x ∧ ComesBefore a b j ∧ j ≠ a := by
  obtain ⟨offset, hoffset, hget, -, hskipped⟩ := firstFrom_some h
  simp only [Nat.mod_add_mod] at hget hskipped
  have hbn : b < xs.length := (List.getElem?_eq_some_iff.1 hb).1
  have hnear : ∀ o', o' < xs.length → (i + 1 + o') % xs.length = b → offset ≤ o' := by
    intro o' _ hat
    by_contra hlt
    have hfalse := hskipped o' (by omega) y (by rw [hat]; exact hb)
    rw [hy] at hfalse
    cases hfalse
  rcases hbefore.move hbn hi hoffset hnear with hat | ⟨hj, hja⟩
  · rw [hat, hb] at hget
    exact Or.inl (Option.some.inj hget).symm
  · exact Or.inr ⟨_, Nat.mod_lt _ (by omega), hget, hj, hja⟩

end SecureSaas
