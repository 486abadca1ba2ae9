import SecureSaas.Js.Bytes
import Mathlib.Data.List.DropRight

/-!
# The two encodings of bytes with 64 characters

They differ in two characters and in the padding. `Buffer.from` reads both alphabets under either name and stops at the
padding.

* `bufferFrom_encoded`: decoding gives the encoded bytes back, with and without padding.
* `trimPadding_encoded`: an encoding without its padding.
-/

namespace SecureSaas.Js

inductive Base64Encoding
  | base64 | base64url

namespace Base64Encoding

/-- The character that stands for one of base64url. -/
def char : Base64Encoding → Char → Char
  | .base64, c => if c = '-' then '+' else if c = '_' then '/' else c
  | .base64url, c => c

/-- The characters of bytes, without padding. -/
def unpadded (encoding : Base64Encoding) (bytes : List UInt8) : List Char :=
  (base64UrlEncode bytes).map encoding.char

def padding (encoding : Base64Encoding) (length : ℕ) : List Char :=
  match encoding with
  | .base64 => List.replicate ((4 - length % 4) % 4) '='
  | .base64url => []

/-- `bytes.toString(encoding)`. -/
def encode (encoding : Base64Encoding) (bytes : List UInt8) : List Char :=
  encoding.unpadded bytes ++ encoding.padding (encoding.unpadded bytes).length

end Base64Encoding

/-- The character of base64url that a character of either alphabet is read as. -/
def base64UrlOf (c : Char) : Char := if c = '+' then '-' else if c = '/' then '_' else c

/-- `Buffer.from(text, encoding)` for a text of the two alphabets and padding. -/
def bufferFrom (text : List Char) : List UInt8 := base64UrlDecode ((text.takeWhile (· != '=')).map base64UrlOf)

/-- `text.replace(/=+$/, "")`. -/
def trimPadding (text : List Char) : List Char := text.rdropWhile (· == '=')

/-- `[A-Za-z0-9+/_-]`. -/
def isBase64Char (c : Char) : Bool := isAlnum c || c == '+' || c == '/' || c == '_' || c == '-'

variable {encoding : Base64Encoding} {bytes : List UInt8}

theorem char_spec {c : Char} (h : isBase64UrlChar c = true) :
    base64UrlOf (encoding.char c) = c ∧ isBase64Char (encoding.char c) = true := by
  have hplus : c ≠ '+' := by
    rintro rfl
    exact absurd h (by decide)
  have hslash : c ≠ '/' := by
    rintro rfl
    exact absurd h (by decide)
  have hkept : isBase64Char c = true := by
    unfold isBase64UrlChar at h
    unfold isBase64Char
    simp only [Bool.or_eq_true, beq_iff_eq] at h ⊢
    tauto
  cases encoding with
  | base64url =>
    refine ⟨?_, hkept⟩
    rw [Base64Encoding.char, base64UrlOf, if_neg hplus, if_neg hslash]
  | base64 =>
    rw [Base64Encoding.char]
    by_cases hdash : c = '-'
    · subst hdash
      exact ⟨rfl, rfl⟩
    · by_cases hline : c = '_'
      · subst hline
        exact ⟨rfl, rfl⟩
      · rw [if_neg hdash, if_neg hline, base64UrlOf, if_neg hplus, if_neg hslash]
        exact ⟨rfl, hkept⟩

theorem mem_unpadded {c : Char} (h : c ∈ encoding.unpadded bytes) : isBase64Char c = true := by
  obtain ⟨d, hd, rfl⟩ := List.mem_map.1 h
  exact (char_spec (mem_base64UrlEncode d hd)).2

theorem unpadded_ne_padding {c : Char} (h : c ∈ encoding.unpadded bytes) : c ≠ '=' := by
  rintro rfl
  exact absurd (mem_unpadded h) (by decide)

/-- **Decoding gives the encoded bytes back**, whatever the padding. -/
theorem bufferFrom_encoded (k : ℕ) : bufferFrom (encoding.unpadded bytes ++ List.replicate k '=') = bytes := by
  have htake : (encoding.unpadded bytes ++ List.replicate k '=').takeWhile (· != '=') = encoding.unpadded bytes := by
    rw [List.takeWhile_append_of_pos fun c hc => bne_iff_ne.2 (unpadded_ne_padding hc)]
    cases k <;> simp [List.replicate_succ]
  have hread : (encoding.unpadded bytes).map base64UrlOf = base64UrlEncode bytes := by
    unfold Base64Encoding.unpadded
    rw [List.map_map]
    exact (List.map_congr_left fun c hc => (char_spec (mem_base64UrlEncode c hc)).1).trans (List.map_id _)
  unfold bufferFrom
  rw [htake, hread, base64UrlDecode_encode]

/-- **An encoding without its padding.** -/
theorem trimPadding_encoded (k : ℕ) : trimPadding (encoding.unpadded bytes ++ List.replicate k '=') =
    encoding.unpadded bytes := by
  unfold trimPadding
  induction k with
  | zero =>
    rw [List.replicate_zero, List.append_nil, List.rdropWhile_eq_self_iff]
    intro hne heq
    exact unpadded_ne_padding (List.getLast_mem hne) (beq_iff_eq.1 heq)
  | succ k ih =>
    rw [List.replicate_succ', ← List.append_assoc, List.rdropWhile_concat_pos _ _ _ (by rfl), ih]

theorem encode_eq : ∃ k, encoding.encode bytes = encoding.unpadded bytes ++ List.replicate k '=' := by
  unfold Base64Encoding.encode
  cases encoding with
  | base64 => exact ⟨_, rfl⟩
  | base64url => exact ⟨0, rfl⟩

theorem utf8Bytes_eq_nil {s : String} (h : utf8Bytes s = []) : s = "" := by
  unfold utf8Bytes at h
  rw [List.flatMap_eq_nil_iff] at h
  refine String.toList_eq_nil_iff.1 (List.eq_nil_iff_forall_not_mem.2 fun c hc => ?_)
  exact absurd (congrArg List.length (h c hc)) (by rw [String.length_utf8EncodeChar]; exact c.utf8Size_pos.ne')

theorem unpadded_eq_nil (h : encoding.unpadded bytes = []) : bytes = [] := by
  have hdecoded := @bufferFrom_encoded encoding bytes 0
  rw [h] at hdecoded
  exact hdecoded.symm

end SecureSaas.Js
