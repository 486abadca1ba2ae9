import SecureSaas.Protocol.Accepted
import SecureSaas.Js.Host

/-!
# Resume cursors (`src/core/infrastructureControllerProtocol.ts`)

A cursor is `v1.payload.signature`: the base64url of the canonical JSON of its value, and the
base64url of the authentication code of that text.

* `verify_ok`: what the verifier accepts.
* `create_ok`: what the writer writes.
-/

namespace SecureSaas.Protocol

open Js

/-! ## Data -/

structure InfrastructureOperationCursorSubject where
  organizationId : String
  tenantId : String
  operationId : String
deriving DecidableEq

structure InfrastructureOperationCursorValue extends InfrastructureOperationCursorSubject where
  nextSequence : ℤ
  expiresAtEpochSeconds : ℤ
deriving DecidableEq

def InfrastructureOperationCursorValue.toValue (v : InfrastructureOperationCursorValue) : Value := .object [
  ("organizationId", .string v.organizationId),
  ("tenantId", .string v.tenantId),
  ("operationId", .string v.operationId),
  ("nextSequence", .number (.int v.nextSequence)),
  ("expiresAtEpochSeconds", .number (.int v.expiresAtEpochSeconds))]

/-- `string | Uint8Array`. -/
inductive SigningKey
  | text (s : String)
  | bytes (b : List UInt8)

/-- `Buffer.from(value, "utf8")` or `Buffer.from(value)`. -/
def SigningKey.buffer : SigningKey → List UInt8
  | .text s => utf8Bytes s
  | .bytes b => b

/-! ## The functions of the source -/

def cursorInvalid : InfrastructureProtocolError :=
  ⟨"INFRA_PROTOCOL_CURSOR_INVALID", "The operation cursor is invalid."⟩

/-- `/^v1\.[A-Za-z0-9_-]+\.[A-Za-z0-9_-]+$/` and at most 2048 characters. -/
def isCursorText (s : String) : Bool :=
  open Pattern in
  decide (stringLength s ≤ 2048) &&
    fullMatch (seq (lit "v1.") <| seq (many1 isBase64UrlChar) <| seq (lit ".") (many1 isBase64UrlChar)) s

def cursor : Parser String := fun value path =>
  (checkedText isCursorText (fun path => ⟨"INFRA_PROTOCOL_CURSOR_INVALID",
    path ++ " is not a valid opaque operation cursor."⟩) value path).map Subtype.val

def cursorPayloadKeys : List String :=
  ["organizationId", "tenantId", "operationId", "nextSequence", "expiresAtEpochSeconds"]

def validateCursorValue (value : Value) : Result InfrastructureOperationCursorValue := do
  let root ← exactObject invalid value "cursorPayload" cursorPayloadKeys
  let organizationId ← identifier (Value.get root "organizationId") "cursorPayload.organizationId"
  let tenantId ← identifier (Value.get root "tenantId") "cursorPayload.tenantId"
  let operationId ← identifier (Value.get root "operationId") "cursorPayload.operationId"
  let nextSequence ← positiveInteger (Value.get root "nextSequence") "cursorPayload.nextSequence"
  let expiresAtEpochSeconds ← positiveInteger (Value.get root "expiresAtEpochSeconds")
    "cursorPayload.expiresAtEpochSeconds"
  pure { organizationId, tenantId, operationId, nextSequence, expiresAtEpochSeconds }

def cursorSigningKey (value : SigningKey) : Result (List UInt8) := do
  ensure (decide (32 ≤ value.buffer.length))
    ⟨"INFRA_PROTOCOL_INTERNAL", "The cursor signing key must contain at least 32 bytes."⟩
  pure value.buffer

def decodeBase64Url (value : List Char) : Result (List UInt8) := do
  ensure (!value.isEmpty && value.all isBase64UrlChar) cursorInvalid
  let decoded := base64UrlDecode value
  ensure (base64UrlEncode decoded == value) cursorInvalid
  pure decoded

/-- `Buffer.from(canonicalJson(payload)).toString("base64url")`. -/
def encodedPayload (rt : Runtime) (payload : InfrastructureOperationCursorValue) : List Char :=
  base64UrlEncode (utf8Bytes (String.ofList (textWith rt.sortedStyle payload.toValue)))

/-- `v1.${encoded}.${signature}`. -/
def cursorText (encoded signature : List Char) : String :=
  String.ofList ("v1".toList ++ '.' :: (encoded ++ '.' :: signature))

variable (host : Host)

def createInfrastructureOperationCursor (value : Value) (signingKey : SigningKey) : Result String := do
  let payload ← validateCursorValue value
  let key ← cursorSigningKey signingKey
  let encoded := encodedPayload host.toRuntime payload
  let signature := base64UrlEncode (host.hmacSha256 key (String.ofList encoded))
  pure (cursorText encoded signature)

/-- The checks of a payload against the subject and the time of the request. -/
def checkCursorPayload (payload : InfrastructureOperationCursorValue)
    (expectedSubject : InfrastructureOperationCursorSubject) (nowEpochSeconds : ℤ) :
    Result InfrastructureOperationCursorValue := do
  let organizationId ← identifier (.string expectedSubject.organizationId) "expected.organizationId"
  let tenantId ← identifier (.string expectedSubject.tenantId) "expected.tenantId"
  let operationId ← identifier (.string expectedSubject.operationId) "expected.operationId"
  ensure (payload.organizationId == organizationId && payload.tenantId == tenantId &&
      payload.operationId == operationId)
    ⟨"INFRA_PROTOCOL_CURSOR_SUBJECT_MISMATCH", "The operation cursor is not bound to the requested subject."⟩
  let now ← positiveInteger (.number (.int nowEpochSeconds)) "nowEpochSeconds"
  ensure (decide (now < payload.expiresAtEpochSeconds))
    ⟨"INFRA_PROTOCOL_CURSOR_EXPIRED", "The operation cursor has expired."⟩
  pure payload

def verifyInfrastructureOperationCursor (value : Value) (signingKey : SigningKey)
    (expectedSubject : InfrastructureOperationCursorSubject) (nowEpochSeconds : ℤ) :
    Result InfrastructureOperationCursorValue := do
  let encodedCursor ← cursor value "cursor"
  match encodedCursor.toList.splitOn '.' with
  | [version, encodedPayload, signature] => do
    ensure (version == "v1".toList) cursorInvalid
    let suppliedSignature ← decodeBase64Url signature
    let key ← cursorSigningKey signingKey
    let expectedSignature := host.hmacSha256 key (String.ofList encodedPayload)
    ensure (suppliedSignature == expectedSignature) cursorInvalid
    match host.jsonParse (host.utf8Text (base64UrlDecode encodedPayload)) with
    | none => .error cursorInvalid
    | some decoded => do
      let payload ← validateCursorValue decoded
      checkCursorPayload payload expectedSubject nowEpochSeconds
  | _ => .error cursorInvalid

/-! ## What the writer and the verifier accept -/

structure InfrastructureOperationCursorSubject.Ok (s : InfrastructureOperationCursorSubject) : Prop where
  organizationId : isIdentifier s.organizationId = true
  tenantId : isIdentifier s.tenantId = true
  operationId : isIdentifier s.operationId = true

structure InfrastructureOperationCursorValue.Ok (v : InfrastructureOperationCursorValue) : Prop where
  subject : v.toInfrastructureOperationCursorSubject.Ok
  nextSequence : 1 ≤ v.nextSequence ∧ v.nextSequence ≤ maxSafeInteger
  expiresAtEpochSeconds : 1 ≤ v.expiresAtEpochSeconds ∧ v.expiresAtEpochSeconds ≤ maxSafeInteger

theorem validateCursorValue_ok {value : Value} {v : InfrastructureOperationCursorValue}
    (h : validateCursorValue value = .ok v) : v.Ok := by
  unfold validateCursorValue at h
  simp only [bind_ok, pure_ok, identifier_ok, positiveInteger_ok] at h
  obtain ⟨root, -, organization, ⟨-, ho⟩, tenant, ⟨-, ht⟩, operation, ⟨-, hp⟩, next, ⟨-, hn⟩, expires, ⟨-, he⟩,
    rfl⟩ := h
  exact ⟨⟨ho, ht, hp⟩, hn, he⟩

theorem cursorSigningKey_ok {key : SigningKey} {b : List UInt8} :
    cursorSigningKey key = .ok b ↔ b = key.buffer ∧ 32 ≤ key.buffer.length := by
  unfold cursorSigningKey
  simp only [bind_ok, ensure_ok, pure_ok, exists_unit, decide_eq_true_eq]
  constructor
  · rintro ⟨h, rfl⟩
    exact ⟨rfl, h⟩
  · rintro ⟨rfl, h⟩
    exact ⟨h, rfl⟩

/-- A text of the base64url alphabet. -/
def IsBase64Url (cs : List Char) : Prop := cs ≠ [] ∧ ∀ c ∈ cs, isBase64UrlChar c = true

theorem isBase64Url_encode {bytes : List UInt8} (h : bytes ≠ []) : IsBase64Url (base64UrlEncode bytes) := by
  refine ⟨fun hnil => h ?_, mem_base64UrlEncode⟩
  rw [← base64UrlDecode_encode bytes, hnil]
  rfl

theorem decodeBase64Url_ok {cs : List Char} {bytes : List UInt8} (hbytes : bytes ≠ []) :
    decodeBase64Url cs = .ok bytes ↔ cs = base64UrlEncode bytes := by
  unfold decodeBase64Url
  simp only [bind_ok, ensure_ok, pure_ok, exists_unit, Bool.and_eq_true, Bool.not_eq_true',
    List.isEmpty_eq_false_iff, List.all_eq_true, beq_iff_eq]
  constructor
  · rintro ⟨-, he, rfl⟩
    exact he.symm
  · rintro rfl
    exact ⟨isBase64Url_encode hbytes, by rw [base64UrlDecode_encode], base64UrlDecode_encode bytes⟩

theorem cursorText_inj {e g e' g' : List Char} (he : IsBase64Url e) (he' : IsBase64Url e')
    (h : cursorText e g = cursorText e' g') : e = e' ∧ g = g' := by
  have hdot : ∀ {cs}, IsBase64Url cs → '.' ∉ cs := fun hcs hmem =>
    absurd (hcs.2 _ hmem) (by decide)
  have hchars := List.append_cancel_left (String.ofList_injective h)
  exact separator_inj (hdot he) (hdot he') (List.cons.inj hchars).2

/-- The verifier reads the texts of cursors of at most 2048 characters. -/
theorem isCursorText_iff {s : String} : isCursorText s = true ↔
    ∃ e g, IsBase64Url e ∧ IsBase64Url g ∧ s = cursorText e g ∧ stringLength s ≤ 2048 := by
  unfold isCursorText
  rw [Bool.and_eq_true, decide_eq_true_eq, Pattern.fullMatch_iff]
  constructor
  · rintro ⟨hlen, hmatch⟩
    obtain ⟨m1, h1, hmatch⟩ := Pattern.mem_seq.1 hmatch
    obtain ⟨m2, h2, hmatch⟩ := Pattern.mem_seq.1 hmatch
    obtain ⟨m3, h3, h4⟩ := Pattern.mem_seq.1 hmatch
    obtain ⟨e, hene, he, rfl⟩ := Pattern.mem_many1.1 h2
    obtain ⟨g, hgne, hg, rfl⟩ := Pattern.mem_many1.1 h4
    rw [Pattern.mem_lit] at h1 h3
    subst h3
    refine ⟨e, g, ⟨hene, he⟩, ⟨hgne, hg⟩, String.toList_inj.1 ?_, hlen⟩
    rw [cursorText, String.toList_ofList, h1, List.append_nil]
    rfl
  · rintro ⟨e, g, ⟨hene, he⟩, ⟨hgne, hg⟩, rfl, hlen⟩
    refine ⟨hlen, ?_⟩
    rw [cursorText, String.toList_ofList]
    refine Pattern.mem_seq.2 ⟨e ++ '.' :: g, Pattern.mem_lit.2 rfl,
      Pattern.mem_seq.2 ⟨'.' :: g, Pattern.mem_many1.2 ⟨e, hene, he, rfl⟩,
        Pattern.mem_seq.2 ⟨g, Pattern.mem_lit.2 rfl, Pattern.mem_many1.2 ⟨g, hgne, hg, ?_⟩⟩⟩⟩
    rw [List.append_nil]

theorem splitOn_cursorText {e g : List Char} (he : IsBase64Url e) (hg : IsBase64Url g) :
    (cursorText e g).toList.splitOn '.' = ["v1".toList, e, g] := by
  have hdot : ∀ l ∈ ["v1".toList, e, g], '.' ∉ l := by
    intro l hl hmem
    simp only [List.mem_cons, List.not_mem_nil, or_false] at hl
    rcases hl with rfl | rfl | rfl
    · exact absurd hmem (by decide)
    · exact absurd (he.2 _ hmem) (by decide)
    · exact absurd (hg.2 _ hmem) (by decide)
  have hjoin := List.splitOn_intercalate '.' hdot (by simp)
  rw [cursorText, String.toList_ofList]
  rw [← hjoin]
  congr 1
  simp [List.intercalate]

theorem checkCursorPayload_ok {payload v : InfrastructureOperationCursorValue}
    {subject : InfrastructureOperationCursorSubject} {now : ℤ} :
    checkCursorPayload payload subject now = .ok v ↔ v = payload ∧ subject.Ok ∧
      payload.toInfrastructureOperationCursorSubject = subject ∧ (1 ≤ now ∧ now ≤ maxSafeInteger) ∧
      now < payload.expiresAtEpochSeconds := by
  unfold checkCursorPayload
  simp only [bind_ok, pure_ok, identifier_ok, positiveInteger_ok, ensure_ok, exists_unit, Value.string.injEq,
    Value.number.injEq, Number.int.injEq, Bool.and_eq_true, beq_iff_eq, decide_eq_true_eq]
  constructor
  · rintro ⟨_, ⟨rfl, ho⟩, _, ⟨rfl, ht⟩, _, ⟨rfl, hp⟩, ⟨⟨h1, h2⟩, h3⟩, n, ⟨rfl, hn⟩, hlt, rfl⟩
    refine ⟨rfl, ⟨ho, ht, hp⟩, ?_, hn, hlt⟩
    cases subject
    simp only at h1 h2 h3
    rw [← h1, ← h2, ← h3]
  · rintro ⟨rfl, hok, rfl, hn, hlt⟩
    exact ⟨_, ⟨rfl, hok.organizationId⟩, _, ⟨rfl, hok.tenantId⟩, _, ⟨rfl, hok.operationId⟩,
      ⟨⟨rfl, rfl⟩, rfl⟩, now, ⟨rfl, hn⟩, hlt, rfl⟩

/-- The text carries a value: its bytes are JSON of the value. -/
def Carries (host : Host) (encoded : List Char) (v : InfrastructureOperationCursorValue) : Prop :=
  ∃ decoded, host.jsonParse (host.utf8Text (base64UrlDecode encoded)) = some decoded ∧
    validateCursorValue decoded = .ok v

/-- The signature that belongs to a payload under a key. -/
def signatureText (host : Host) (key : SigningKey) (encoded : List Char) : List Char :=
  base64UrlEncode (host.hmacSha256 key.buffer (String.ofList encoded))

variable {host : Host} {key : SigningKey}

theorem hmac_ne_nil {text : String} : host.hmacSha256 key.buffer text ≠ [] := by
  intro h
  have := host.hmacSha256_length key.buffer text
  rw [h] at this
  simp at this

/-- **What the verifier accepts**: a signed payload of the subject that is not expired. -/
theorem verify_ok {s : String} {subject : InfrastructureOperationCursorSubject} {now : ℤ}
    {v : InfrastructureOperationCursorValue} :
    verifyInfrastructureOperationCursor host (.string s) key subject now = .ok v ↔
      ∃ e, IsBase64Url e ∧ s = cursorText e (signatureText host key e) ∧ stringLength s ≤ 2048 ∧
        32 ≤ key.buffer.length ∧ Carries host e v ∧ v.toInfrastructureOperationCursorSubject = subject ∧
        (1 ≤ now ∧ now ≤ maxSafeInteger) ∧ now < v.expiresAtEpochSeconds := by
  have hcursor : ∀ t, cursor (.string s) "cursor" = .ok t ↔ t = s ∧ isCursorText s = true := by
    intro t
    unfold cursor
    rw [map_val_ok]
    simp only [checkedText_ok, Value.string.injEq]
    constructor
    · rintro ⟨h, rfl⟩
      exact ⟨rfl, h⟩
    · rintro ⟨rfl, h⟩
      exact ⟨h, rfl⟩
  unfold verifyInfrastructureOperationCursor
  simp only [bind_ok, hcursor]
  constructor
  · rintro ⟨_, ⟨rfl, hs⟩, h⟩
    obtain ⟨e, g, he, hg, rfl, hlen⟩ := isCursorText_iff.1 hs
    rw [splitOn_cursorText he hg] at h
    simp only [bind_ok, ensure_ok, exists_unit, beq_iff_eq, cursorSigningKey_ok] at h
    obtain ⟨-, supplied, hsupplied, _, ⟨rfl, hkey⟩, rfl, h⟩ := h
    rw [decodeBase64Url_ok hmac_ne_nil] at hsupplied
    cases hparse : host.jsonParse (host.utf8Text (base64UrlDecode e)) with
    | none =>
      rw [hparse] at h
      cases h
    | some decoded =>
      rw [hparse] at h
      simp only [bind_ok, checkCursorPayload_ok] at h
      obtain ⟨payload, hpayload, rfl, -, hsubject, hnow, hlt⟩ := h
      exact ⟨e, he, by rw [hsupplied]; rfl, hlen, hkey, ⟨decoded, hparse, hpayload⟩, hsubject, hnow, hlt⟩
  · rintro ⟨e, he, rfl, hlen, hkey, ⟨decoded, hparse, hpayload⟩, rfl, hnow, hlt⟩
    have hg : IsBase64Url (signatureText host key e) := isBase64Url_encode hmac_ne_nil
    refine ⟨_, ⟨rfl, isCursorText_iff.2 ⟨e, _, he, hg, rfl, hlen⟩⟩, ?_⟩
    rw [splitOn_cursorText he hg]
    simp only [bind_ok, ensure_ok, exists_unit, beq_iff_eq, cursorSigningKey_ok]
    refine ⟨trivial, _, (decodeBase64Url_ok hmac_ne_nil).2 rfl, _, ⟨rfl, hkey⟩, rfl, ?_⟩
    rw [hparse]
    simp only [bind_ok, checkCursorPayload_ok]
    exact ⟨v, hpayload, rfl, (validateCursorValue_ok hpayload).subject, rfl, hnow, hlt⟩

/-- The verifier accepts strings only. -/
theorem verify_string {value : Value} {subject : InfrastructureOperationCursorSubject} {now : ℤ}
    {v : InfrastructureOperationCursorValue}
    (h : verifyInfrastructureOperationCursor host value key subject now = .ok v) : ∃ s, value = .string s := by
  unfold verifyInfrastructureOperationCursor at h
  obtain ⟨s, hs, -⟩ := bind_ok.1 h
  unfold cursor at hs
  rw [map_val_ok] at hs
  obtain ⟨_, hs⟩ := hs
  exact ⟨s, checkedText_ok.1 hs⟩

theorem create_ok {value : Value} {s : String} :
    createInfrastructureOperationCursor host value key = .ok s ↔
      ∃ v, validateCursorValue value = .ok v ∧ 32 ≤ key.buffer.length ∧
        s = cursorText (encodedPayload host.toRuntime v)
          (signatureText host key (encodedPayload host.toRuntime v)) := by
  unfold createInfrastructureOperationCursor
  simp only [bind_ok, pure_ok, cursorSigningKey_ok]
  constructor
  · rintro ⟨v, hv, _, ⟨rfl, hkey⟩, rfl⟩
    exact ⟨v, hv, hkey, rfl⟩
  · rintro ⟨v, hv, hkey, rfl⟩
    exact ⟨v, hv, _, ⟨rfl, hkey⟩, rfl⟩

end SecureSaas.Protocol
