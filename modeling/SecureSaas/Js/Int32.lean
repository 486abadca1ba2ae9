import Mathlib.Algebra.Group.Int.Defs
import Mathlib.Algebra.Group.Nat.Defs
import Mathlib.Data.Int.Notation
import Mathlib.Tactic.Common

/-!
# Bit operations on 32 bits

`>>>` and `&` take the low 32 bits of their operands. `>>>` reads its result without a sign,
`&` with one.

* `shiftRightUnsigned_exact`: below `2 ^ 32` a shift is a division, and a shift by zero does
  nothing.
* `bitAnd_lowByte`: masking with `255` gives the low byte of any integer, high bit or not.
-/

namespace SecureSaas.Js

/-- `ToUint32`, `ToInt32` -/
def word (n : ℤ) : BitVec 32 := BitVec.ofInt 32 n

/-- `value >>> count`: only the low five bits of the count matter. -/
def shiftRightUnsigned (value count : ℤ) : ℕ := (word value >>> ((word count).toNat % 32)).toNat

/-- `a & b` -/
def bitAnd (a b : ℤ) : ℤ := (word a &&& word b).toInt

theorem word_toNat {n : ℕ} (h : n < 2 ^ 32) : (word n).toNat = n := by
  rw [word, BitVec.toNat_ofInt]
  omega

/-- **A shift of what fits is a division.** -/
theorem shiftRightUnsigned_exact {value count : ℕ} (hvalue : value < 2 ^ 32) (hcount : count < 32) :
    shiftRightUnsigned value count = value / 2 ^ count := by
  have hlow : (word count).toNat % 32 = count := by
    rw [word_toNat (by omega)]
    exact Nat.mod_eq_of_lt hcount
  rw [shiftRightUnsigned, hlow, BitVec.toNat_ushiftRight, word_toNat hvalue, Nat.shiftRight_eq_div_pow]

theorem shiftRightUnsigned_lt (value count : ℤ) : shiftRightUnsigned value count < 2 ^ 32 :=
  BitVec.isLt _

/-- **The low byte** is not negative, whatever the sign of the operand. -/
theorem bitAnd_lowByte (n : ℕ) : bitAnd n 255 = (n % 256 : ℕ) := by
  have hmask : (word 255).toNat = 2 ^ 8 - 1 := by decide
  have hand : (word n &&& word 255).toNat = n % 256 := by
    rw [BitVec.toNat_and, hmask, Nat.and_two_pow_sub_one_eq_mod, word, BitVec.toNat_ofInt]
    omega
  rw [bitAnd, BitVec.toInt_eq_toNat_of_lt (by omega), hand]

end SecureSaas.Js
