import SecureSaas.Js.Runtime
import SecureSaas.Js.Bytes
import SecureSaas.Js.JsonParse

/-!
# The host of a service

A runtime with the message authentication of `node:crypto`, the decoding of bytes as text, and
the rounding of decimal numbers to doubles. Programs are modelled for every such host.
-/

namespace SecureSaas.Js

/-- A host.

* `hmacSha256`: `createHmac("sha256", key).update(text).digest()`;
* `utf8Text`: `bytes.toString("utf8")`, which replaces what is not UTF-8;
* `roundNumber`: the number of a JSON number token that is not a safe integer. -/
structure Host extends Runtime where
  hmacSha256 : List UInt8 → String → List UInt8
  hmacSha256_length : ∀ key text, (hmacSha256 key text).length = 32
  utf8Text : List UInt8 → String
  utf8Text_utf8Bytes : ∀ s, utf8Text (utf8Bytes s) = s
  roundNumber : List Char → Number

/-- `JSON.parse(text)`. -/
def Host.jsonParse (host : Host) (text : String) : Option Value := Js.jsonParse host.roundNumber text

/-! ## A tabulated host -/

/-- The text of bytes that are UTF-8, and a replacement character for all others. -/
def utf8TextOf (bytes : List UInt8) : String := (String.fromUTF8? bytes.toByteArray).getD "\ufffd"

theorem utf8TextOf_utf8Bytes (s : String) : utf8TextOf (utf8Bytes s) = s := by
  have hbytes : (utf8Bytes s).toByteArray = s.toByteArray := by
    rw [← String.utf8Encode_toList]
    rfl
  have hvalid : s.toByteArray.IsValidUTF8 := s.isValidUTF8
  unfold utf8TextOf String.fromUTF8?
  rw [hbytes, dif_pos hvalid]
  rfl

theorem codes_nil : ∀ p ∈ ([] : List ((List UInt8 × String) × List UInt8)), p.2.length = 32 := by
  simp

/-- A host whose authentication codes are those of a table. -/
def Host.tabulated (rt : Runtime) (table : List ((List UInt8 × String) × List UInt8))
    (h : ∀ p ∈ table, p.2.length = 32) : Host where
  toRuntime := rt
  hmacSha256 key text := (table.lookup (key, text)).getD (List.replicate 32 0)
  hmacSha256_length key text := by
    cases hl : table.lookup (key, text) with
    | none => rfl
    | some d =>
      obtain ⟨before, after, rfl, -⟩ := List.lookup_eq_some_iff.1 hl
      exact h ((key, text), d) (List.mem_append_right _ List.mem_cons_self)
  utf8Text := utf8TextOf
  utf8Text_utf8Bytes := utf8TextOf_utf8Bytes
  roundNumber _ := .nan

end SecureSaas.Js
