import Mathlib.Data.Int.Basic

/-!
# Texts of Go programs

A string of Go is a sequence of bytes, UTF-8 or not.

* `integer_itoa`: a number is read back from its text.
-/

namespace SecureSaas.Go

abbrev Bytes := List UInt8

/-- Equality of byte strings is decided by `==`. -/
scoped instance bytesLawful : LawfulBEq Bytes := inferInstance

/-- A character below U+0080 as a byte. -/
def byte (c : Char) : UInt8 := c.toNat.toUInt8

/-- The bytes of a literal. -/
def utf8 (s : String) : Bytes := s.toByteArray.data.toList

/-- `fmt.Errorf(format, arguments)`. -/
structure Failure where
  format : String
  arguments : List Bytes := []

/-- `strings.Split(s, separator)` for a separator of one byte. -/
def split (separator : UInt8) (s : Bytes) : List Bytes := s.splitOn separator

/-! ## Decimal numbers -/

def isDigit (b : UInt8) : Bool := decide (48 ≤ b ∧ b ≤ 57)

/-- The number that a text of digits denotes. -/
def natural (s : Bytes) : Option ℕ :=
  if !s.isEmpty && s.all isDigit then some (Nat.ofDigitChars 10 (s.map fun b => Char.ofNat b.toNat) 0) else none

/-- A decimal number with a sign or without, with leading zeros or without. -/
def integer : Bytes → Option ℤ
  | 43 :: s => (natural s).map Int.ofNat
  | 45 :: s => (natural s).map fun n : ℕ => -Int.ofNat n
  | s => (natural s).map Int.ofNat

def digits (n : ℕ) : Bytes := (Nat.toDigits 10 n).map byte

/-- `strconv.Itoa(n)`. -/
def itoa (n : ℤ) : Bytes := if n < 0 then byte '-' :: digits n.natAbs else digits n.natAbs

theorem digit_char {c : Char} (h : c.isDigit = true) : isDigit (byte c) = true ∧ Char.ofNat (byte c).toNat = c := by
  have hrange : 48 ≤ c.toNat ∧ c.toNat ≤ 57 := by
    simpa [Char.isDigit, UInt32.le_iff_toNat_le] using h
  have hbyte : (byte c).toNat = c.toNat := by
    simp only [byte, Nat.toUInt8, UInt8.toNat_ofNat']
    omega
  constructor
  · simp only [isDigit, UInt8.le_iff_toNat_le, hbyte, decide_eq_true_eq]
    exact hrange
  · rw [hbyte, Char.ofNat_toNat]

theorem natural_digits (n : ℕ) : natural (digits n) = some n := by
  have hchars : ∀ c ∈ Nat.toDigits 10 n, isDigit (byte c) = true ∧ Char.ofNat (byte c).toNat = c :=
    fun c hc => digit_char (Nat.isDigit_of_mem_toDigits (by decide) (by decide) hc)
  have hback : (digits n).map (fun b => Char.ofNat b.toNat) = Nat.toDigits 10 n := by
    rw [digits, List.map_map]
    conv_rhs => rw [← List.map_id (Nat.toDigits 10 n)]
    exact List.map_congr_left fun c hc => (hchars c hc).2
  have hdigits : (!(digits n).isEmpty && (digits n).all isDigit) = true := by
    rw [Bool.and_eq_true, Bool.not_eq_true', List.isEmpty_eq_false_iff, List.all_eq_true]
    refine ⟨fun h => Nat.toDigits_ne_nil (List.map_eq_nil_iff.1 h), fun b hb => ?_⟩
    obtain ⟨c, hc, rfl⟩ := List.mem_map.1 hb
    exact (hchars c hc).1
  rw [natural, if_pos hdigits, hback, Nat.ofDigitChars_toDigits (by decide) (by decide)]

/-- **A number is read back from its text.** -/
theorem integer_itoa (n : ℤ) : integer (itoa n) = some n := by
  unfold itoa
  split
  · rename_i hneg
    show (natural (digits n.natAbs)).map (fun n : ℕ => -Int.ofNat n) = some n
    have habs : -Int.ofNat n.natAbs = n := by
      rw [Int.ofNat_eq_natCast]
      omega
    rw [natural_digits, Option.map_some, habs]
  · -- the first digit is no sign
    rename_i hpos
    have hread : integer (digits n.natAbs) = (natural (digits n.natAbs)).map Int.ofNat := by
      unfold integer
      split
      · rename_i s hs
        have hsign : isDigit 43 = true := by
          obtain ⟨c, hc, heq⟩ := List.mem_map.1 (hs ▸ List.mem_cons_self : (43 : UInt8) ∈ digits n.natAbs)
          exact heq ▸ (digit_char (Nat.isDigit_of_mem_toDigits (by decide) (by decide) hc)).1
        exact absurd hsign (by decide)
      · rename_i s hs
        have hsign : isDigit 45 = true := by
          obtain ⟨c, hc, heq⟩ := List.mem_map.1 (hs ▸ List.mem_cons_self : (45 : UInt8) ∈ digits n.natAbs)
          exact heq ▸ (digit_char (Nat.isDigit_of_mem_toDigits (by decide) (by decide) hc)).1
        exact absurd hsign (by decide)
      · rfl
    have habs : Int.ofNat n.natAbs = n := by
      rw [Int.ofNat_eq_natCast]
      omega
    rw [hread, natural_digits, Option.map_some, habs]

example : itoa 993 = utf8 "993" ∧ integer (utf8 "0993") = some 993 ∧ integer (utf8 "-5") = some (-5) := by decide

end SecureSaas.Go
