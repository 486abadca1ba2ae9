import SecureSaas.Cidr
import SecureSaas.Js.Double

/-!
# Subnets of an IPv4 range

`cidrSubnet` divides a range into `2 ^ newBits` parts of one size and names the one with a given
number. Its arithmetic is that of doubles; what it writes goes through bit operations on 32 bits.

* `cidrSubnet_ok`: what an accepted call returns.
* `parseCidr_subnetOf`: **a subnet is a canonical range.**
* `cidrSubnet_partition`: the subnets **divide the range**, no step of the arithmetic wraps, and
  ranges overlap exactly if they share an address.
-/

namespace SecureSaas

open Js

/-- What both counts are checked for. -/
def requireCount (name baseCidr : String) : Number → Except String ℕ
  | .int (.ofNat n) => .ok n
  | _ => .error s!"{name} must be a non-negative integer for {baseCidr}."

def cidrSubnet (baseCidr : String) (newBits netNum : Number) : Except String String := do
  let parsed ← parseCidr baseCidr
  let newBits ← requireCount "newBits" baseCidr newBits
  let netNum ← requireCount "netNum" baseCidr netNum
  let newPrefix := addNumber parsed.prefixLength newBits
  if 32 < newPrefix then .error s!"Invalid subnet prefix {newPrefix} for {baseCidr}"
  else
    let availableSubnets := 2 ^ newBits
    if availableSubnets ≤ netNum then
      .error s!"Subnet number {netNum} is outside {baseCidr}; expected less than {availableSubnets}."
    else
      let subnetSize : ℕ := 2 ^ (32 - newPrefix).toNat
      let subnetBase := addNumber parsed.networkAddress (mulNumber subnetSize netNum)
      .ok s!"{numberToIp subnetBase}/{newPrefix}"

/-- The addresses of a range. -/
def ParsedCidr.Holds (range : ParsedCidr) (address : ℕ) : Prop :=
  range.networkAddress ≤ address ∧ address ≤ range.broadcastAddress

/-! ## Blocks of one size -/

theorem block_le (size : ℕ) {blocks i : ℕ} (h : i < blocks) : size * i + size ≤ size * blocks := by
  calc size * i + size = size * (i + 1) := (Nat.mul_succ size i).symm
    _ ≤ size * blocks := Nat.mul_le_mul_left size h

/-- What lies in a block has the block's number as its quotient. -/
theorem block_number {size a i : ℕ} (hle : size * i ≤ a) (hlt : a < size * i + size) : a / size = i := by
  refine Nat.div_eq_of_lt_le ?_ ?_
  · rw [Nat.mul_comm]
    exact hle
  · rw [Nat.succ_mul, Nat.mul_comm]
    exact hlt

/-- Whatever lies below a number of blocks lies in one of them. -/
theorem block_exists {size : ℕ} (blocks a : ℕ) (hsize : 0 < size) (h : a < size * blocks) :
    ∃ i < blocks, size * i ≤ a ∧ a < size * i + size :=
  ⟨a / size, Nat.div_lt_of_lt_mul h, Nat.mul_div_le a size, by
    have := Nat.lt_mul_div_succ a hsize
    rwa [Nat.mul_succ] at this⟩

/-! ## The subnet with a number -/

/-- The part of `base` with number `i`, where `bits` more bits are fixed. -/
def subnetOf (base : ParsedCidr) (bits i : ℕ) : ParsedCidr :=
  let size := 2 ^ (32 - (base.prefixLength + bits))
  let networkAddress := base.networkAddress + size * i
  { cidr := s!"{numberToIp networkAddress}/{base.prefixLength + bits}"
    networkAddress
    broadcastAddress := networkAddress + size - 1
    prefixLength := base.prefixLength + bits }

section
variable {baseCidr cidr : String} {base : ParsedCidr} {newBits netNum : Number} {bits i j : ℕ}

theorem requireCount_ok {name : String} {value : Number} {n : ℕ} :
    requireCount name baseCidr value = .ok n ↔ value = .int n := by
  constructor
  · intro h
    cases value with
    | int m =>
      cases m with
      | ofNat m =>
        obtain rfl : m = n := Except.ok.inj h
        rfl
      | negSucc m => cases h
    | fraction text wf => cases h
    | nan => cases h
    | infinity negative => cases h
  · rintro rfl
    rfl

/-- A sum of doubles that is small is the sum. -/
theorem addNumber_le {a b : ℕ} {bound : ℤ} (hbound : bound < 2 ^ 53) (h : addNumber a b ≤ bound) :
    ((a + b : ℕ) : ℤ) ≤ bound ∧ addNumber a b = (a + b : ℕ) := by
  by_cases hsmall : a + b < 2 ^ 53
  · have hexact : addNumber a b = a + b := addNumber_exact (by omega)
    rw [hexact] at h
    exact ⟨by omega, by rw [hexact, Int.natCast_add]⟩
  · exfalso
    have hround : addNumber a b = (roundNat (a + b) : ℕ) := rfl
    have hlog : 53 ≤ (a + b).log2 := by
      rw [Nat.le_log2 (by omega)]
      omega
    have hge : 2 ^ 53 ≤ roundNat (a + b) :=
      (Nat.pow_le_pow_right (by decide) hlog).trans (le_roundNat (by omega))
    omega

/-- The size of the range is that of its subnets together. -/
theorem size_split (hbits : base.prefixLength + bits ≤ 32) :
    2 ^ (32 - base.prefixLength) = 2 ^ (32 - (base.prefixLength + bits)) * 2 ^ bits := by
  rw [← Nat.pow_add]
  congr 1
  omega

/-- A subnet does not reach beyond its range. -/
theorem subnetOf_fits (hbits : base.prefixLength + bits ≤ 32) (hi : i < 2 ^ bits) :
    (subnetOf base bits i).networkAddress + 2 ^ (32 - (base.prefixLength + bits)) ≤
      base.networkAddress + 2 ^ (32 - base.prefixLength) := by
  have hblock := block_le (2 ^ (32 - (base.prefixLength + bits))) hi
  rw [← size_split hbits] at hblock
  show base.networkAddress + _ + _ ≤ _
  omega

theorem subnetOf_lt (hbase : base.WellFormed) (hbits : base.prefixLength + bits ≤ 32) (hi : i < 2 ^ bits) :
    (subnetOf base bits i).networkAddress < 2 ^ 32 := by
  have hfits : (subnetOf base bits i).networkAddress + _ ≤ _ := subnetOf_fits hbits hi
  have hsize : 0 < 2 ^ (32 - (base.prefixLength + bits)) := Nat.two_pow_pos _
  have htotal := hbase.fits
  omega

/-- **A subnet is a canonical range**: its text is read as the subnet itself. -/
theorem parseCidr_subnetOf (hbase : base.WellFormed) (hbits : base.prefixLength + bits ≤ 32) (hi : i < 2 ^ bits) :
    parseCidr (subnetOf base bits i).cidr = .ok (subnetOf base bits i) := by
  refine parseCidr_text hbits ?_ (subnetOf_lt hbase hbits hi)
  refine Nat.dvd_add ?_ (Nat.dvd_mul_right _ i)
  exact Nat.dvd_trans (Nat.pow_dvd_pow 2 (by omega)) hbase.aligned

/-- The arithmetic of a subnet's address is exact. -/
theorem subnetBase_exact (hbase : base.WellFormed) (hbits : base.prefixLength + bits ≤ 32) (hi : i < 2 ^ bits) :
    addNumber base.networkAddress (mulNumber (2 ^ (32 - (base.prefixLength + bits)) : ℕ) i) =
      (subnetOf base bits i).networkAddress := by
  have hlt := subnetOf_lt hbase hbits hi
  set size := 2 ^ (32 - (base.prefixLength + bits)) with hsize
  have haddress : (subnetOf base bits i).networkAddress = base.networkAddress + size * i := rfl
  rw [haddress] at hlt ⊢
  have hmul : mulNumber size i = (size * i : ℕ) := by
    rw [Int.natCast_mul]
    refine mulNumber_exact ?_
    rw [← Int.natCast_mul, Int.natAbs_natCast]
    omega
  rw [hmul, Int.natCast_add]
  refine addNumber_exact ?_
  rw [← Int.natCast_add, Int.natAbs_natCast]
  omega

/-- **What an accepted call returns** is the subnet with that number. -/
theorem cidrSubnet_ok (hbase : parseCidr baseCidr = .ok base) :
    cidrSubnet baseCidr newBits netNum = .ok cidr ↔ ∃ bits i : ℕ, newBits = .int bits ∧ netNum = .int i ∧
      base.prefixLength + bits ≤ 32 ∧ i < 2 ^ bits ∧ cidr = (subnetOf base bits i).cidr := by
  have hwf := parseCidr_ok hbase
  constructor
  · intro h
    obtain ⟨parsed, hparsed, h⟩ := bind_ok.1 h
    obtain rfl : base = parsed := Except.ok.inj (hbase.symm.trans hparsed)
    obtain ⟨bits, hbits, h⟩ := bind_ok.1 h
    obtain ⟨i, hi, h⟩ := bind_ok.1 h
    dsimp only at h
    split_ifs at h with hlong havailable
    -- no double rounds: the sum of the prefix lengths is small
    obtain ⟨hle, hexact⟩ := addNumber_le (by decide) (not_lt.1 hlong)
    have hlt : i < 2 ^ bits := not_le.1 havailable
    refine ⟨bits, i, requireCount_ok.1 hbits, requireCount_ok.1 hi, by omega, hlt, ?_⟩
    have hsub : (32 - ((base.prefixLength + bits : ℕ) : ℤ)).toNat = 32 - (base.prefixLength + bits) := by omega
    rw [hexact, hsub, subnetBase_exact hwf (by omega) hlt] at h
    exact (Except.ok.inj h).symm
  · rintro ⟨bits, i, rfl, rfl, hbits, hlt, rfl⟩
    have hexact : addNumber base.prefixLength bits = (base.prefixLength + bits : ℕ) := by
      rw [Int.natCast_add]
      exact addNumber_exact (by omega)
    have hsub : (32 - ((base.prefixLength + bits : ℕ) : ℤ)).toNat = 32 - (base.prefixLength + bits) := by omega
    rw [cidrSubnet, hbase]
    show (if _ then _ else if _ then _ else Except.ok _) = _
    rw [hexact, if_neg (by omega), if_neg (not_le.2 hlt), hsub, subnetBase_exact hwf hbits hlt]
    rfl

/-! ## The division of a range -/

/-- The subnets of `base` with `bits` more bits. -/
structure Partition (baseCidr : String) (base : ParsedCidr) (bits : ℕ) : Prop where
  accepted : ∀ netNum, (∃ cidr, cidrSubnet baseCidr (.int bits) netNum = .ok cidr) ↔
    ∃ i : ℕ, i < 2 ^ bits ∧ netNum = .int i
  canonical : ∀ netNum cidr, cidrSubnet baseCidr (.int bits) netNum = .ok cidr →
    ∃ range, parseCidr cidr = .ok range ∧ range.cidr = cidr
  contained : ∀ netNum cidr range, cidrSubnet baseCidr (.int bits) netNum = .ok cidr → parseCidr cidr = .ok range →
    ∀ address, range.Holds address → base.Holds address
  disjoint : ∀ m n c d r s, cidrSubnet baseCidr (.int bits) m = .ok c → cidrSubnet baseCidr (.int bits) n = .ok d →
    m ≠ n → parseCidr c = .ok r → parseCidr d = .ok s → ∀ address, ¬ (r.Holds address ∧ s.Holds address)
  cover : ∀ address, base.Holds address → ∃ netNum cidr range, cidrSubnet baseCidr (.int bits) netNum = .ok cidr ∧
    parseCidr cidr = .ok range ∧ range.Holds address

/-- Every number that the calls on `base` come across is exact and keeps within 32 bits. -/
structure Exact (base : ParsedCidr) (bits : ℕ) : Prop where
  last : base.broadcastAddress < 2 ^ 32
  subnetBase : ∀ i < 2 ^ bits, ∃ address < 2 ^ 32,
    address = base.networkAddress + 2 ^ (32 - (base.prefixLength + bits)) * i ∧
      addNumber base.networkAddress (mulNumber (2 ^ (32 - (base.prefixLength + bits)) : ℕ) i) = (address : ℕ)

theorem subnetOf_holds {address : ℕ} :
    (subnetOf base bits i).Holds address ↔
      base.networkAddress + 2 ^ (32 - (base.prefixLength + bits)) * i ≤ address ∧
        address < base.networkAddress + 2 ^ (32 - (base.prefixLength + bits)) * i +
          2 ^ (32 - (base.prefixLength + bits)) := by
  have hsize : 0 < 2 ^ (32 - (base.prefixLength + bits)) := Nat.two_pow_pos _
  show base.networkAddress + _ ≤ address ∧ address ≤ base.networkAddress + _ + _ - 1 ↔ _
  omega

theorem ParsedCidr.WellFormed.holds (h : base.WellFormed) {address : ℕ} :
    base.Holds address ↔
      base.networkAddress ≤ address ∧ address < base.networkAddress + 2 ^ (32 - base.prefixLength) := by
  have hsize : 0 < 2 ^ (32 - base.prefixLength) := Nat.two_pow_pos _
  rw [ParsedCidr.Holds, h.broadcast]
  omega

/-- An accepted call, with the subnet it names. -/
theorem cidrSubnet_range (hbase : parseCidr baseCidr = .ok base)
    (h : cidrSubnet baseCidr (.int bits) netNum = .ok cidr) :
    ∃ i : ℕ, netNum = .int i ∧ base.prefixLength + bits ≤ 32 ∧ i < 2 ^ bits ∧
      cidr = (subnetOf base bits i).cidr ∧ parseCidr cidr = .ok (subnetOf base bits i) := by
  obtain ⟨bits', i, hbits, hnum, hle, hlt, rfl⟩ := (cidrSubnet_ok hbase).1 h
  obtain rfl : bits = bits' := by
    have := Number.int.inj hbits
    omega
  exact ⟨i, hnum, hle, hlt, rfl, parseCidr_subnetOf (parseCidr_ok hbase) hle hlt⟩

/-- **The subnets divide the range.** -/
theorem partition_of_le (hbase : parseCidr baseCidr = .ok base) (hbits : base.prefixLength + bits ≤ 32) :
    Partition baseCidr base bits := by
  have hwf := parseCidr_ok hbase
  constructor
  case accepted =>
    intro netNum
    constructor
    · rintro ⟨cidr, h⟩
      obtain ⟨i, hnum, -, hlt, -⟩ := cidrSubnet_range hbase h
      exact ⟨i, hlt, hnum⟩
    · rintro ⟨i, hlt, hnum⟩
      exact ⟨_, (cidrSubnet_ok hbase).2 ⟨bits, i, rfl, hnum, hbits, hlt, rfl⟩⟩
  case canonical =>
    intro netNum cidr h
    obtain ⟨i, -, -, -, hcidr, hparse⟩ := cidrSubnet_range hbase h
    exact ⟨_, hparse, hcidr.symm⟩
  case contained =>
    intro netNum cidr range h hrange address haddress
    obtain ⟨i, -, -, hlt, -, hparse⟩ := cidrSubnet_range hbase h
    obtain rfl := Except.ok.inj (hparse.symm.trans hrange)
    have hfits := subnetOf_fits hbits hlt
    rw [subnetOf_holds] at haddress
    rw [hwf.holds]
    change base.networkAddress + _ + _ ≤ _ at hfits
    omega
  case disjoint =>
    rintro m n c d r s hm hn hne hr hs address ⟨hleft, hright⟩
    obtain ⟨i, rfl, -, -, -, hparse⟩ := cidrSubnet_range hbase hm
    obtain rfl := Except.ok.inj (hparse.symm.trans hr)
    obtain ⟨j, rfl, -, -, -, hparse'⟩ := cidrSubnet_range hbase hn
    obtain rfl := Except.ok.inj (hparse'.symm.trans hs)
    rw [subnetOf_holds] at hleft hright
    -- the offset of a common address has both numbers as its quotient
    set size := 2 ^ (32 - (base.prefixLength + bits))
    have hi : (address - base.networkAddress) / size = i := block_number (by omega) (by omega)
    have hj : (address - base.networkAddress) / size = j := block_number (by omega) (by omega)
    exact hne (by rw [← hi, ← hj])
  case cover =>
    intro address haddress
    rw [hwf.holds] at haddress
    have hsize : 0 < 2 ^ (32 - (base.prefixLength + bits)) := Nat.two_pow_pos _
    obtain ⟨i, hlt, hle, hend⟩ := block_exists (2 ^ bits) (address - base.networkAddress) hsize (by
      rw [← size_split hbits]
      omega)
    refine ⟨.int i, _, subnetOf base bits i, (cidrSubnet_ok hbase).2 ⟨bits, i, rfl, rfl, hbits, hlt, rfl⟩,
      parseCidr_subnetOf hwf hbits hlt, ?_⟩
    rw [subnetOf_holds]
    omega

theorem exact_of_le (hbase : parseCidr baseCidr = .ok base) (hbits : base.prefixLength + bits ≤ 32) :
    Exact base bits := by
  have hwf := parseCidr_ok hbase
  exact
    { last := (parseCidr_range hbase).2
      subnetBase := fun i hi => ⟨_, subnetOf_lt hwf hbits hi, rfl, subnetBase_exact hwf hbits hi⟩ }

/-- **The arithmetic of ranges.** The subnets of an accepted call divide its range, and no number
on the way leaves 32 bits: not in the call, not while an address is read, not while one is
written. Ranges overlap exactly if they share an address. -/
theorem cidrSubnet_partition :
    (∀ baseCidr newBits netNum cidr, cidrSubnet baseCidr newBits netNum = .ok cidr →
      ∃ base bits, parseCidr baseCidr = .ok base ∧ newBits = .int (bits : ℕ) ∧ Partition baseCidr base bits ∧
        Exact base bits) ∧
    (∀ octets : List ℕ, (∀ octet ∈ octets, octet ≤ 255) → octets.length ≤ 4 →
      octets.foldl accumulate 0 = octetsValue octets ∧ octetsValue octets < 2 ^ 32) ∧
    (∀ value < 2 ^ 32, ∀ shift ∈ [24, 16, 8, 0], shiftRightUnsigned (value : ℕ) (shift : ℕ) = value / 2 ^ shift ∧
      octetAt (value : ℕ) (shift : ℕ) = (value / 2 ^ shift % 256 : ℕ)) ∧
    ∀ left right a b, parseCidr left = .ok a → parseCidr right = .ok b →
      (cidrsOverlap left right = .ok true ↔ ∃ address < 2 ^ 32, a.Holds address ∧ b.Holds address) := by
  refine ⟨?_, ?_, ?_, ?_⟩
  · intro baseCidr newBits netNum cidr h
    obtain ⟨base, hbase, -⟩ := bind_ok.1 h
    obtain ⟨bits, i, hnew, -, hbits, -, -⟩ := (cidrSubnet_ok hbase).1 h
    exact ⟨base, bits, hbase, hnew, partition_of_le hbase hbits, exact_of_le hbase hbits⟩
  · intro octets hoctets hlength
    refine ⟨accumulate_exact hoctets hlength, (octetsValue_lt hoctets).trans_le ?_⟩
    calc 256 ^ octets.length ≤ 256 ^ 4 := Nat.pow_le_pow_right (by decide) hlength
      _ = 2 ^ 32 := by decide
  · intro value hvalue shift hshift
    have hlt : shift < 32 := by
      simp only [List.mem_cons, List.not_mem_nil, or_false] at hshift
      omega
    exact ⟨shiftRightUnsigned_exact hvalue hlt, octetAt_exact hvalue hlt⟩
  · intro left right a b ha hb
    rw [cidrsOverlap_iff ha hb]
    constructor
    · rintro ⟨address, hleft, hright⟩
      exact ⟨address, hleft.2.trans_lt (parseCidr_range ha).2, hleft, hright⟩
    · rintro ⟨address, -, hleft, hright⟩
      exact ⟨address, hleft, hright⟩

/-- The upper half of the upper half of all addresses. -/
example : cidrSubnet "128.0.0.0/1" (.int 1) (.int 1) = .ok "192.0.0.0/2" := by decide +kernel

end

end SecureSaas
