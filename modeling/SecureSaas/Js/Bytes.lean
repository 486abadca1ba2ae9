import SecureSaas.Js.Pattern

/-!
# Bytes and their texts (`Buffer`)

UTF-8 and base64url, on lists of bytes. Decoding base64url is lenient: the bits of the last
character that belong to no byte are dropped, so several texts have the same bytes.

* `base64UrlDecode_encode`: decoding gives the encoded bytes back.
* `base64UrlEncode_length`, `mem_base64UrlEncode`: the length and the alphabet of a text.
-/

namespace SecureSaas.Js

/-- `Buffer.from(text, "utf8")`. -/
def utf8Bytes (s : String) : List UInt8 := s.toList.flatMap String.utf8EncodeChar

/-- The characters of the base64url alphabet: `[A-Za-z0-9_-]`. -/
def isBase64UrlChar (c : Char) : Bool := isAlnum c || c == '-' || c == '_'

/-- The character of six bits. -/
def base64UrlChar (n : ℕ) : Char :=
  if n < 26 then Char.ofNat (65 + n)
  else if n < 52 then Char.ofNat (71 + n)
  else if n < 62 then Char.ofNat (n - 4)
  else if n = 62 then '-'
  else '_'

/-- The six bits of a character. -/
def base64UrlValue (c : Char) : ℕ :=
  if isUpperLetter c then c.toNat - 65
  else if isLowerLetter c then c.toNat - 71
  else if isDecimal c then c.toNat + 4
  else if c = '-' then 62
  else 63

/-- `bytes.toString("base64url")`. -/
def base64UrlEncode : List UInt8 → List Char
  | [] => []
  | [x] => [base64UrlChar (x.toNat / 4), base64UrlChar (x.toNat % 4 * 16)]
  | [x, y] => [base64UrlChar (x.toNat / 4), base64UrlChar (x.toNat % 4 * 16 + y.toNat / 16),
      base64UrlChar (y.toNat % 16 * 4)]
  | x :: y :: z :: rest => base64UrlChar (x.toNat / 4) :: base64UrlChar (x.toNat % 4 * 16 + y.toNat / 16) ::
      base64UrlChar (y.toNat % 16 * 4 + z.toNat / 64) :: base64UrlChar (z.toNat % 64) :: base64UrlEncode rest

/-- The first byte of two characters. -/
def firstByte (a b : Char) : UInt8 := UInt8.ofNat (base64UrlValue a * 4 + base64UrlValue b / 16)

/-- The second byte of three characters, given the last two. -/
def secondByte (b c : Char) : UInt8 := UInt8.ofNat (base64UrlValue b % 16 * 16 + base64UrlValue c / 4)

/-- The third byte of four characters, given the last two. -/
def thirdByte (c d : Char) : UInt8 := UInt8.ofNat (base64UrlValue c % 4 * 64 + base64UrlValue d)

/-- `Buffer.from(text, "base64url")` on a text of the alphabet: bits that fill no byte are
dropped. -/
def base64UrlDecode : List Char → List UInt8
  | a :: b :: c :: d :: rest => firstByte a b :: secondByte b c :: thirdByte c d :: base64UrlDecode rest
  | [a, b, c] => [firstByte a b, secondByte b c]
  | [a, b] => [firstByte a b]
  | _ => []

theorem base64UrlChar_spec : ∀ n < 64, base64UrlValue (base64UrlChar n) = n ∧
    isBase64UrlChar (base64UrlChar n) = true := by decide

theorem ofNat_toNat {x : UInt8} {n : ℕ} (h : n = x.toNat) : UInt8.ofNat n = x := by
  rw [h, UInt8.ofNat_toNat]

/-- **Decoding gives the encoded bytes back.** -/
theorem base64UrlDecode_encode : ∀ bytes : List UInt8, base64UrlDecode (base64UrlEncode bytes) = bytes
  | [] => rfl
  | [x] => by
    have hx := x.toNat_lt
    simp only [base64UrlEncode, base64UrlDecode, firstByte, (base64UrlChar_spec (x.toNat / 4) (by omega)).1,
      (base64UrlChar_spec (x.toNat % 4 * 16) (by omega)).1]
    rw [@ofNat_toNat x _ (by omega)]
  | [x, y] => by
    have hx := x.toNat_lt
    have hy := y.toNat_lt
    simp only [base64UrlEncode, base64UrlDecode, firstByte, secondByte, (base64UrlChar_spec (x.toNat / 4) (by omega)).1,
      (base64UrlChar_spec (x.toNat % 4 * 16 + y.toNat / 16) (by omega)).1,
      (base64UrlChar_spec (y.toNat % 16 * 4) (by omega)).1]
    rw [@ofNat_toNat x _ (by omega), @ofNat_toNat y _ (by omega)]
  | x :: y :: z :: rest => by
    have hx := x.toNat_lt
    have hy := y.toNat_lt
    have hz := z.toNat_lt
    simp only [base64UrlEncode, base64UrlDecode, firstByte, secondByte, thirdByte,
      (base64UrlChar_spec (x.toNat / 4) (by omega)).1,
      (base64UrlChar_spec (x.toNat % 4 * 16 + y.toNat / 16) (by omega)).1,
      (base64UrlChar_spec (y.toNat % 16 * 4 + z.toNat / 64) (by omega)).1,
      (base64UrlChar_spec (z.toNat % 64) (by omega)).1, base64UrlDecode_encode rest]
    rw [@ofNat_toNat x _ (by omega), @ofNat_toNat y _ (by omega), @ofNat_toNat z _ (by omega)]

theorem base64UrlEncode_injective : Function.Injective base64UrlEncode :=
  Function.LeftInverse.injective base64UrlDecode_encode

theorem base64UrlEncode_length : ∀ bytes : List UInt8,
    (base64UrlEncode bytes).length = (4 * bytes.length + 2) / 3
  | [] => rfl
  | [_] => by simp [base64UrlEncode]
  | [_, _] => by simp [base64UrlEncode]
  | _ :: _ :: _ :: rest => by
    simp only [base64UrlEncode, List.length_cons, base64UrlEncode_length rest]
    omega

theorem mem_base64UrlEncode : ∀ {bytes : List UInt8}, ∀ c ∈ base64UrlEncode bytes, isBase64UrlChar c = true
  | [], c, h => absurd h List.not_mem_nil
  | [x], c, h => by
    have hx := x.toNat_lt
    simp only [base64UrlEncode, List.mem_cons, List.not_mem_nil, or_false] at h
    rcases h with rfl | rfl <;> exact (base64UrlChar_spec _ (by omega)).2
  | [x, y], c, h => by
    have hx := x.toNat_lt
    have hy := y.toNat_lt
    simp only [base64UrlEncode, List.mem_cons, List.not_mem_nil, or_false] at h
    rcases h with rfl | rfl | rfl <;> exact (base64UrlChar_spec _ (by omega)).2
  | x :: y :: z :: rest, c, h => by
    have hx := x.toNat_lt
    have hy := y.toNat_lt
    have hz := z.toNat_lt
    simp only [base64UrlEncode, List.mem_cons] at h
    rcases h with rfl | rfl | rfl | rfl | h
    · exact (base64UrlChar_spec _ (by omega)).2
    · exact (base64UrlChar_spec _ (by omega)).2
    · exact (base64UrlChar_spec _ (by omega)).2
    · exact (base64UrlChar_spec _ (by omega)).2
    · exact mem_base64UrlEncode c h

/-- A text of ASCII characters has a byte for each. -/
theorem utf8Bytes_length {s : String} (h : ∀ c ∈ s.toList, c.toNat < 128) :
    (utf8Bytes s).length = s.toList.length := by
  unfold utf8Bytes
  generalize s.toList = cs at h ⊢
  induction cs with
  | nil => rfl
  | cons c rest ih =>
    rw [List.forall_mem_cons] at h
    have hsize : c.utf8Size = 1 := by
      rw [Char.utf8Size_eq_one_iff, UInt32.le_iff_toNat_le]
      have := h.1
      change c.toNat ≤ 127
      omega
    rw [List.flatMap_cons, List.length_append, ih h.2, String.length_utf8EncodeChar, hsize, List.length_cons]
    omega

end SecureSaas.Js
