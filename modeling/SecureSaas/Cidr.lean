import SecureSaas.Js.Date
import SecureSaas.Js.Int32
import Mathlib.Data.List.Induction

/-!
# IPv4 ranges

`parseCidr` reads `a.b.c.d/n`, with an address that is aligned to the prefix.

* `accumulate_exact`: no step of the reading of an address exceeds 32 bits.
* `parseCidr_ok`: an accepted range begins at a multiple of its size, `2 ^ (32 - n)`, and ends
  below `2 ^ 32`.
* `parseCidr_text`: **the text of an aligned address is read back**, so what is written is canonical.
* `cidrsOverlap_iff`: **two ranges overlap exactly if they share an address.**
-/

namespace SecureSaas

open Js

structure ParsedCidr where
  cidr : String
  networkAddress : ℕ
  broadcastAddress : ℕ
  prefixLength : ℕ
deriving DecidableEq

def invalidAddress (ip : String) : String := s!"Invalid IPv4 address '{ip}'."

/-- `/^\d{1,3}$/`, as a number up to 255. -/
def readOctet (part : List Char) : Option ℕ :=
  if part.length = 0 ∨ 3 < part.length then none else (readDecimal part).filter fun octet => octet ≤ 255

/-- `(acc * 256 + octet) >>> 0` -/
def accumulate (acc octet : ℕ) : ℕ := shiftRightUnsigned (acc * 256 + octet) 0

def ipToNumber (ip : String) : Except String ℕ :=
  let parts := ip.toList.splitOn '.'
  if parts.length ≠ 4 then .error (invalidAddress ip)
  else match parts.mapM readOctet with
    | none => .error (invalidAddress ip)
    | some octets => .ok (octets.foldl accumulate 0)

/-- `(value >>> shift) & 255` -/
def octetAt (value : ℤ) (shift : ℤ) : ℤ := bitAnd (shiftRightUnsigned value shift) 255

def numberToIp (value : ℤ) : String :=
  ".".intercalate ([24, 16, 8, 0].map fun shift => toString (octetAt value shift))

def parseCidr (value : String) : Except String ParsedCidr :=
  match value.toList.splitOn '/' with
  | [address, bits] =>
    if bits.length = 0 ∨ 2 < bits.length then .error s!"Invalid IPv4 CIDR '{value}'."
    else match readDecimal bits with
      | none => .error s!"Invalid IPv4 CIDR '{value}'."
      | some bits => do
        let address ← ipToNumber (String.ofList address)
        let size := 2 ^ (32 - bits)
        let networkAddress := address / size * size
        if 32 < bits then .error s!"Invalid IPv4 CIDR prefix '{value}'."
        else if address ≠ networkAddress then .error s!"IPv4 CIDR '{value}' is not aligned to its network boundary."
        else
          .ok
            { cidr := s!"{numberToIp networkAddress}/{bits}"
              networkAddress
              broadcastAddress := networkAddress + size - 1
              prefixLength := bits }
  | _ => .error s!"Invalid IPv4 CIDR '{value}'."

def cidrsOverlap (left right : String) : Except String Bool := do
  let a ← parseCidr left
  let b ← parseCidr right
  .ok (decide (a.networkAddress ≤ b.broadcastAddress) && decide (b.networkAddress ≤ a.broadcastAddress))

/-! ## Addresses -/

/-- The value of octets, as large as it gets. -/
def octetsValue (octets : List ℕ) : ℕ := octets.foldl (fun acc octet => acc * 256 + octet) 0

theorem readOctet_le {part : List Char} {octet : ℕ} (h : readOctet part = some octet) : octet ≤ 255 := by
  unfold readOctet at h
  split_ifs at h
  obtain ⟨-, hle⟩ := Option.filter_eq_some_iff.1 h
  simpa using hle

theorem accumulate_lt (acc octet : ℕ) : accumulate acc octet < 2 ^ 32 := shiftRightUnsigned_lt _ _

theorem octetsValue_lt {octets : List ℕ} (h : ∀ octet ∈ octets, octet ≤ 255) :
    octetsValue octets < 256 ^ octets.length := by
  induction octets using List.reverseRecOn with
  | nil => exact Nat.one_pos
  | append_singleton octets octet ih =>
    have hlt := ih fun o ho => h o (List.mem_append_left _ ho)
    have hle := h octet (List.mem_append_right _ List.mem_cons_self)
    rw [octetsValue, List.foldl_append, List.length_append, List.length_singleton, Nat.pow_succ]
    simp only [List.foldl_cons, List.foldl_nil]
    rw [octetsValue] at hlt
    omega

/-- **Reading does not wrap**: up to four octets accumulate to their value. -/
theorem accumulate_exact {octets : List ℕ} (h : ∀ octet ∈ octets, octet ≤ 255) (hlength : octets.length ≤ 4) :
    octets.foldl accumulate 0 = octetsValue octets := by
  induction octets using List.reverseRecOn with
  | nil => rfl
  | append_singleton octets octet ih =>
    have hvalue := octetsValue_lt h
    have hbound : 256 ^ (octets ++ [octet]).length ≤ 2 ^ 32 := by
      calc 256 ^ (octets ++ [octet]).length ≤ 256 ^ 4 := Nat.pow_le_pow_right (by decide) hlength
        _ = 2 ^ 32 := by decide
    have hinit := ih (fun o ho => h o (List.mem_append_left _ ho)) (by
      rw [List.length_append] at hlength
      omega)
    rw [octetsValue, List.foldl_append] at hvalue ⊢
    rw [List.foldl_append, hinit]
    simp only [List.foldl_cons, List.foldl_nil] at hvalue ⊢
    rw [← octetsValue] at hvalue ⊢
    have hexact := shiftRightUnsigned_exact (hvalue.trans_le hbound) (Nat.two_pow_pos 5 : 0 < 32)
    rw [Nat.pow_zero, Nat.div_one] at hexact
    exact hexact

/-- **Writing does not lose the sign**: an octet is that of the value. -/
theorem octetAt_exact {value shift : ℕ} (hvalue : value < 2 ^ 32) (hshift : shift < 32) :
    octetAt value shift = (value / 2 ^ shift % 256 : ℕ) := by
  rw [octetAt, shiftRightUnsigned_exact hvalue hshift, bitAnd_lowByte]

theorem ipToNumber_lt {ip : String} {address : ℕ} (h : ipToNumber ip = .ok address) : address < 2 ^ 32 := by
  unfold ipToNumber at h
  dsimp only at h
  split_ifs at h
  split at h
  · cases h
  · rename_i octets _
    obtain rfl := Except.ok.inj h
    rcases List.eq_nil_or_concat octets with rfl | ⟨init, last, rfl⟩
    · exact Nat.two_pow_pos 32
    · rw [List.concat_eq_append, List.foldl_append]
      exact accumulate_lt _ last

/-- What an octet is written as. -/
def octetChars (octet : ℕ) : List Char := (toString (octet : ℤ)).toList

theorem readOctet_octetChars : ∀ octet < 256, readOctet (octetChars octet) = some octet ∧ '.' ∉ octetChars octet ∧
    '/' ∉ octetChars octet := by
  decide +kernel

theorem dotted_toList (a b c d : String) :
    (".".intercalate [a, b, c, d]).toList = ['.'].intercalate [a.toList, b.toList, c.toList, d.toList] := by
  have hjoin : ".".intercalate [a, b, c, d] = a ++ "." ++ b ++ "." ++ c ++ "." ++ d := rfl
  rw [hjoin]
  simp [List.intercalate]

theorem numberToIp_toList {value : ℕ} (h : value < 2 ^ 32) :
    (numberToIp value).toList = ['.'].intercalate
      ([24, 16, 8, 0].map fun shift => octetChars (value / 2 ^ shift % 256)) := by
  have h24 : octetAt value 24 = _ := octetAt_exact h (by decide : 24 < 32)
  have h16 : octetAt value 16 = _ := octetAt_exact h (by decide : 16 < 32)
  have h8 : octetAt value 8 = _ := octetAt_exact h (by decide : 8 < 32)
  have h0 : octetAt value 0 = _ := octetAt_exact h (by decide : 0 < 32)
  simp only [numberToIp, List.map_cons, List.map_nil, h24, h16, h8, h0]
  exact dotted_toList _ _ _ _

/-- **A written address is read back.** -/
theorem ipToNumber_numberToIp {value : ℕ} (h : value < 2 ^ 32) : ipToNumber (numberToIp value) = .ok value := by
  have hoctet := fun shift => readOctet_octetChars (value / 2 ^ shift % 256) (Nat.mod_lt _ (by decide))
  have hsplit : (numberToIp value).toList.splitOn '.' =
      [24, 16, 8, 0].map fun shift => octetChars (value / 2 ^ shift % 256) := by
    rw [numberToIp_toList h]
    refine List.splitOn_intercalate '.' ?_ (by simp)
    intro part hpart
    obtain ⟨shift, -, rfl⟩ := List.mem_map.1 hpart
    exact (hoctet shift).2.1
  have hread : ([24, 16, 8, 0].map fun shift => octetChars (value / 2 ^ shift % 256)).mapM readOctet =
      some ([24, 16, 8, 0].map fun shift => value / 2 ^ shift % 256) := by
    simp only [List.map_cons, List.map_nil, List.mapM_cons, List.mapM_nil, (hoctet _).1]
    rfl
  unfold ipToNumber
  dsimp only
  rw [hsplit, if_neg (by simp), hread]
  dsimp only
  rw [accumulate_exact (by simp; omega) (by simp)]
  congr 1
  simp only [octetsValue, List.map_cons, List.map_nil, List.foldl_cons, List.foldl_nil]
  omega

/-! ## What a range holds -/

/-- An aligned block below a multiple of its size stays below it as a whole. -/
theorem aligned_block {address size total : ℕ} (htotal : size ∣ total) (h : address < total)
    (haligned : address = address / size * size) : address + size ≤ total := by
  obtain ⟨blocks, rfl⟩ := htotal
  have hlt : address / size < blocks := Nat.div_lt_of_lt_mul h
  have hle : (address / size + 1) * size ≤ blocks * size := Nat.mul_le_mul_right size hlt
  calc address + size = (address / size + 1) * size := by rw [Nat.succ_mul, ← haligned]
    _ ≤ size * blocks := by rwa [Nat.mul_comm size]

/-- What an accepted range is: it begins at a multiple of its size, `cidr` is its text. -/
structure ParsedCidr.WellFormed (range : ParsedCidr) : Prop where
  prefix_le : range.prefixLength ≤ 32
  aligned : 2 ^ (32 - range.prefixLength) ∣ range.networkAddress
  fits : range.networkAddress + 2 ^ (32 - range.prefixLength) ≤ 2 ^ 32
  broadcast : range.broadcastAddress = range.networkAddress + 2 ^ (32 - range.prefixLength) - 1
  text : range.cidr = s!"{numberToIp range.networkAddress}/{range.prefixLength}"

/-- **An accepted range is well formed.** -/
theorem parseCidr_ok {value : String} {range : ParsedCidr} (h : parseCidr value = .ok range) : range.WellFormed := by
  unfold parseCidr at h
  split at h
  · split_ifs at h
    split at h
    · cases h
    · rename_i bits _
      obtain ⟨address, haddress, h⟩ := bind_ok.1 h
      dsimp only at h
      split_ifs at h with hbits haligned
      obtain rfl := Except.ok.inj h
      have hdvd : 2 ^ (32 - bits) ∣ 2 ^ 32 := Nat.pow_dvd_pow 2 (Nat.sub_le 32 bits)
      have heq := not_not.1 haligned
      have hfits := aligned_block hdvd (ipToNumber_lt haddress) heq
      exact
        { prefix_le := not_lt.1 hbits
          aligned := Nat.dvd_mul_left _ _
          fits := heq ▸ hfits
          broadcast := rfl
          text := rfl }
  · cases h

/-- **An accepted range** holds the addresses that its prefix leaves open. -/
theorem parseCidr_range {value : String} {range : ParsedCidr} (h : parseCidr value = .ok range) :
    range.broadcastAddress = range.networkAddress + (2 ^ (32 - range.prefixLength) - 1) ∧
      range.broadcastAddress < 2 ^ 32 := by
  have hwf := parseCidr_ok h
  have hfits := hwf.fits
  have hsize : 0 < 2 ^ (32 - range.prefixLength) := Nat.two_pow_pos _
  have hbroadcast := hwf.broadcast
  omega

/-- What a prefix length is written as. -/
theorem readDecimal_prefixLength : ∀ bits ≤ 32, readDecimal (toString bits).toList = some bits ∧
    '/' ∉ (toString bits).toList ∧ ¬ ((toString bits).toList.length = 0 ∨ 2 < (toString bits).toList.length) := by
  decide +kernel

theorem splitOn_cidrText {address bits : ℕ} (haddress : address < 2 ^ 32) (hbits : bits ≤ 32) :
    (s!"{numberToIp address}/{bits}").toList.splitOn '/' = [(numberToIp address).toList, (toString bits).toList] := by
  have hparts : ∀ part ∈ [(numberToIp address).toList, (toString bits).toList], '/' ∉ part := by
    intro part hpart
    rcases List.mem_cons.1 hpart with rfl | hpart
    · rw [numberToIp_toList haddress]
      have hoctet := fun shift => (readOctet_octetChars (address / 2 ^ shift % 256) (Nat.mod_lt _ (by decide))).2.2
      have hdot : '/' ≠ '.' := by decide
      simp only [List.intercalate, List.map_cons, List.map_nil, List.intersperse_cons_cons, List.intersperse_singleton,
        List.flatten_cons, List.flatten_nil, List.mem_append, List.mem_cons, List.not_mem_nil, hoctet, hdot, or_false,
        not_false_iff]
    · obtain rfl := List.mem_singleton.1 hpart
      exact (readDecimal_prefixLength bits hbits).2.1
  have htext : s!"{numberToIp address}/{bits}" = numberToIp address ++ "/" ++ toString bits := rfl
  have hjoin : ['/'].intercalate [(numberToIp address).toList, (toString bits).toList] =
      (numberToIp address ++ "/" ++ toString bits).toList := by
    simp [List.intercalate]
  rw [htext, ← hjoin]
  exact List.splitOn_intercalate '/' hparts (by simp)

/-- **The text of an aligned address is read back.** -/
theorem parseCidr_text {address bits : ℕ} (hbits : bits ≤ 32) (haligned : 2 ^ (32 - bits) ∣ address)
    (haddress : address < 2 ^ 32) :
    parseCidr s!"{numberToIp address}/{bits}" = .ok
      { cidr := s!"{numberToIp address}/{bits}"
        networkAddress := address
        broadcastAddress := address + 2 ^ (32 - bits) - 1
        prefixLength := bits } := by
  obtain ⟨hread, -, hlength⟩ := readDecimal_prefixLength bits hbits
  have hblock : address / 2 ^ (32 - bits) * 2 ^ (32 - bits) = address := Nat.div_mul_cancel haligned
  rw [parseCidr, splitOn_cidrText haddress hbits]
  dsimp only
  rw [if_neg hlength, hread]
  dsimp only
  rw [String.ofList_toList, ipToNumber_numberToIp haddress]
  show (if 32 < bits then _ else if address ≠ address / 2 ^ (32 - bits) * 2 ^ (32 - bits) then _ else _) = _
  rw [if_neg (not_lt.2 hbits), hblock, if_neg (not_not.2 rfl)]

/-- **Two ranges overlap exactly if they share an address.** -/
theorem cidrsOverlap_iff {left right : String} {a b : ParsedCidr} (ha : parseCidr left = .ok a)
    (hb : parseCidr right = .ok b) :
    cidrsOverlap left right = .ok true ↔ ∃ address,
      (a.networkAddress ≤ address ∧ address ≤ a.broadcastAddress) ∧
        (b.networkAddress ≤ address ∧ address ≤ b.broadcastAddress) := by
  obtain ⟨hra, -⟩ := parseCidr_range ha
  obtain ⟨hrb, -⟩ := parseCidr_range hb
  have hrun : cidrsOverlap left right =
      .ok (decide (a.networkAddress ≤ b.broadcastAddress) && decide (b.networkAddress ≤ a.broadcastAddress)) := by
    rw [cidrsOverlap, ha, hb]
    rfl
  rw [hrun, Except.ok.injEq, Bool.and_eq_true, decide_eq_true_iff, decide_eq_true_iff]
  constructor
  · intro h
    -- the later of the two first addresses is in both
    refine ⟨max a.networkAddress b.networkAddress, ?_⟩
    omega
  · rintro ⟨address, h1, h2⟩
    omega

end SecureSaas
