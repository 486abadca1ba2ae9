import Mathlib.Algebra.GroupWithZero.Nat
import Mathlib.Algebra.Group.Int.Defs
import Mathlib.Data.Int.Notation
import Mathlib.Tactic.Common

/-!
# Integers held by doubles

A number of the language is a double. An integer is held exactly up to `2 ^ 53`; beyond that the
result of an operation is the nearest integer with 53 significant bits, and a tie goes to the even
one. From `infinity` on an integer stands for `Infinity`.

* `roundNat_exact`: no rounding below `2 ^ 53`.
* `le_roundNat`: rounding does not fall below a power of two, so it keeps signs.
* `addNumber_exact`, `mulNumber_exact`, `subNumber_exact`: exact operations.
* `countTo_exact`: a counter counts exactly.
-/

namespace SecureSaas.Js

/-- The nearest integer with 53 significant bits, the even one of two. -/
def roundNat (n : ℕ) : ℕ :=
  let unit := 2 ^ (n.log2 - 52)
  let q := n / unit
  let r := n % unit
  if 2 * r < unit ∨ (2 * r = unit ∧ q % 2 = 0) then q * unit else (q + 1) * unit

def toDouble : ℤ → ℤ
  | .ofNat n => roundNat n
  | .negSucc n => -roundNat (n + 1)

/-- The first integer that is held as `Infinity`. -/
def infinity : ℤ := (2 ^ 1024 : ℕ)

/-- `a + b` -/
def addNumber (a b : ℤ) : ℤ := toDouble (a + b)

/-- `a - b` -/
def subNumber (a b : ℤ) : ℤ := toDouble (a - b)

/-- `a * b` -/
def mulNumber (a b : ℤ) : ℤ := toDouble (a * b)

theorem roundNat_exact {n : ℕ} (h : n < 2 ^ 53) : roundNat n = n := by
  have hunit : n.log2 - 52 = 0 := by
    by_cases h0 : n = 0
    · rw [h0]
      rfl
    · have := (Nat.log2_lt h0).2 h
      omega
  unfold roundNat
  simp only [hunit, Nat.pow_zero, Nat.mod_one, Nat.div_one, Nat.mul_one, Nat.mul_zero]
  rw [if_pos (Or.inl Nat.zero_lt_one)]

/-- The power of two below `n` is a multiple of the unit, so it is not above the rounding. -/
theorem le_roundNat {n : ℕ} (h : n ≠ 0) : 2 ^ n.log2 ≤ roundNat n := by
  have hle := Nat.log2_self_le h
  have hq : 2 ^ n.log2 ≤ n / 2 ^ (n.log2 - 52) * 2 ^ (n.log2 - 52) := by
    obtain ⟨k, hk⟩ : 2 ^ (n.log2 - 52) ∣ 2 ^ n.log2 := Nat.pow_dvd_pow 2 (Nat.sub_le _ _)
    have hpos : 0 < 2 ^ (n.log2 - 52) := Nat.pow_pos (by decide)
    have hkn : k ≤ n / 2 ^ (n.log2 - 52) := by
      rw [Nat.le_div_iff_mul_le hpos, Nat.mul_comm, ← hk]
      exact hle
    rw [hk, Nat.mul_comm]
    exact Nat.mul_le_mul_right _ hkn
  unfold roundNat
  dsimp only
  split
  · exact hq
  · exact Nat.le_trans hq (Nat.mul_le_mul_right _ (Nat.le_succ _))

theorem toDouble_exact {n : ℤ} (h : n.natAbs < 2 ^ 53) : toDouble n = n := by
  cases n with
  | ofNat m =>
    have hm : roundNat m = m := roundNat_exact h
    show ((roundNat m : ℕ) : ℤ) = _
    rw [hm]
    rfl
  | negSucc m =>
    have hm : roundNat (m + 1) = m + 1 := roundNat_exact h
    show -((roundNat (m + 1) : ℕ) : ℤ) = _
    rw [hm]
    rfl

theorem toDouble_nonneg {n : ℤ} (h : 0 ≤ n) : 0 ≤ toDouble n := by
  obtain ⟨m, rfl⟩ := Int.eq_ofNat_of_zero_le h
  exact Int.natCast_nonneg (roundNat m)

theorem toDouble_pos {n : ℤ} (h : 0 < n) : 1 ≤ toDouble n := by
  obtain ⟨m, rfl⟩ := Int.eq_ofNat_of_zero_le (Int.le_of_lt h)
  have hround := le_roundNat (n := m) (by omega)
  have hpow : 1 ≤ 2 ^ m.log2 := Nat.one_le_two_pow
  show 1 ≤ ((roundNat m : ℕ) : ℤ)
  omega

/-- A counter that is not negative stays so. -/
theorem addNumber_nonneg {a b : ℤ} (ha : 0 ≤ a) (hb : 0 ≤ b) : 0 ≤ addNumber a b :=
  toDouble_nonneg (Int.add_nonneg ha hb)

theorem addNumber_pos {a b : ℤ} (ha : 0 ≤ a) (hb : 0 < b) : 1 ≤ addNumber a b :=
  toDouble_pos (Int.add_pos_of_nonneg_of_pos ha hb)

theorem addNumber_exact {a b : ℤ} (h : (a + b).natAbs < 2 ^ 53) : addNumber a b = a + b := toDouble_exact h

theorem subNumber_exact {a b : ℤ} (h : (a - b).natAbs < 2 ^ 53) : subNumber a b = a - b := toDouble_exact h

theorem mulNumber_exact {a b : ℤ} (h : (a * b).natAbs < 2 ^ 53) : mulNumber a b = a * b := toDouble_exact h

theorem lt_infinity {n : ℤ} (h : n < 2 ^ 53) : n < infinity := by
  have hpow : ∀ k, 53 ≤ k → 2 ^ 53 ≤ 2 ^ k := fun k => Nat.pow_le_pow_right (by decide)
  calc n < ((2 ^ 53 : ℕ) : ℤ) := h
    _ ≤ infinity := Int.ofNat_le.2 (hpow 1024 (by decide))

/-- A counter stays where it cannot be raised any more. -/
theorem addNumber_one_le {a : ℤ} (h0 : 0 ≤ a) (h : a ≤ 2 ^ 53) : addNumber a 1 ≤ 2 ^ 53 := by
  by_cases hlt : a + 1 < 2 ^ 53
  · rw [addNumber_exact (by omega)]
    omega
  · have hmax : a = 2 ^ 53 - 1 ∨ a = 2 ^ 53 := by omega
    rcases hmax with rfl | rfl
    · decide
    · decide

/-- The value of a counter that has been raised by one `n` times. -/
def countTo : ℕ → ℤ
  | 0 => 0
  | n + 1 => addNumber (countTo n) 1

/-- A counter is exact up to `2 ^ 53`. -/
theorem countTo_exact {n : ℕ} (h : n < 2 ^ 53) : countTo n = n := by
  induction n with
  | zero => rfl
  | succ n ih =>
    rw [countTo, ih (by omega), addNumber_exact (by omega)]
    rfl

example : addNumber (2 ^ 60) 660 = 2 ^ 60 + 768 := by decide

end SecureSaas.Js
