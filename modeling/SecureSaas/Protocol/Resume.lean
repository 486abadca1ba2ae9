import SecureSaas.Protocol.Cursor

/-!
# Created and accepted cursors

The verifier checks the encoding of the signature of a cursor, not that of its payload. A signed
payload with another encoding of the same bytes is accepted.

* `carries_encodedPayload`: a written payload is read back to its value.
* `created_length`: a written cursor is within the bound of the verifier.
* `cursor_recreated_iff`: which accepted cursors are the ones that the writer makes.
* `loose_payload_accepted`: a signed payload that is not canonical is accepted.
-/

namespace SecureSaas.Protocol

open Js

variable {host : Host} {key : SigningKey}

/-! ## A written payload is read back -/

theorem cursorPayloadKeys_nodup : cursorPayloadKeys.Nodup := by decide

theorem InfrastructureOperationCursorValue.Ok.plain {v : InfrastructureOperationCursorValue} (h : v.Ok) :
    Plain v.toValue := by
  have hn := h.nextSequence
  have he := h.expiresAtEpochSeconds
  unfold InfrastructureOperationCursorValue.toValue
  simp only [Plain, PlainEntries, and_true, true_and]
  unfold maxSafeInteger at *
  exact ⟨cursorPayloadKeys_nodup, ⟨by omega, by omega⟩, by omega, by omega⟩

/-- A value with the contents of a cursor value is parsed to it. -/
theorem validateCursorValue_same {v : InfrastructureOperationCursorValue} (h : v.Ok) {w : Value}
    (hw : Same v.toValue w) : validateCursorValue w = .ok v := by
  obtain ⟨qs, rfl, hperm, hget⟩ := Same.object_get hw cursorPayloadKeys_nodup
  have hobject : exactObject invalid (.object qs) "cursorPayload" cursorPayloadKeys = .ok qs :=
    exactObject_perm hperm
  have h1 := (hget "organizationId" (.string v.organizationId) (by simp)).string_eq
  have h2 := (hget "tenantId" (.string v.tenantId) (by simp)).string_eq
  have h3 := (hget "operationId" (.string v.operationId) (by simp)).string_eq
  have h4 := (hget "nextSequence" (.number (.int v.nextSequence)) (by simp)).number_eq
  have h5 := (hget "expiresAtEpochSeconds" (.number (.int v.expiresAtEpochSeconds)) (by simp)).number_eq
  unfold validateCursorValue
  rw [hobject]
  simp only [bind_ok, pure_ok, identifier_ok, positiveInteger_ok, Except.ok.injEq, exists_eq_left', h1, h2, h3, h4,
    h5]
  exact ⟨_, ⟨rfl, h.subject.organizationId⟩, _, ⟨rfl, h.subject.tenantId⟩, _, ⟨rfl, h.subject.operationId⟩, _,
    ⟨rfl, h.nextSequence⟩, _, ⟨rfl, h.expiresAtEpochSeconds⟩, rfl⟩

/-- **A written payload carries its value.** -/
theorem carries_encodedPayload {v : InfrastructureOperationCursorValue} (h : v.Ok) :
    Carries host (encodedPayload host.toRuntime v) v := by
  obtain ⟨w, hw, hsame⟩ := @jsonParse_text host.roundNumber host.sortedStyle _ h.plain
  refine ⟨w, ?_, validateCursorValue_same h hsame⟩
  unfold encodedPayload
  rw [base64UrlDecode_encode, host.utf8Text_utf8Bytes]
  exact hw

/-! ## The length of a cursor -/

/-- A text of `n` ASCII characters at most. -/
def Ascii (n : ℕ) (cs : List Char) : Prop := cs.length ≤ n ∧ ∀ c ∈ cs, c.toNat < 128

theorem identifier_ascii {s : String} (h : isIdentifier s = true) : Ascii 130 (quoteChars s) := by
  have hclass : ∀ c : Char, (isAlnum c || c == '.' || c == '_' || c == ':' || c == '-') = true →
      escapeChar c = [c] ∧ c.toNat < 128 := by
    intro c hc
    simp only [Bool.or_eq_true, beq_iff_eq] at hc
    rcases hc with (((hc | rfl) | rfl) | rfl) | rfl
    · have hrange := isAlnum_toNat hc
      refine ⟨escapeChar_plain ?_ ?_ (by omega), by omega⟩
      · rintro rfl
        exact absurd hc (by decide)
      · rintro rfl
        exact absurd hc (by decide)
    all_goals decide
  unfold isIdentifier at h
  simp only [Bool.and_eq_true, Pattern.fullMatch_iff] at h
  obtain ⟨⟨hmatch, -⟩, -⟩ := h
  obtain ⟨m, h1, h2⟩ := Pattern.mem_seq.1 hmatch
  obtain ⟨c, hc, hs⟩ := Pattern.mem_cls.1 h1
  obtain ⟨w, hlen, hw, rfl⟩ := Pattern.mem_upTo.1 h2
  rw [List.append_nil] at hs
  have hall : ∀ d ∈ s.toList, escapeChar d = [d] ∧ d.toNat < 128 := by
    rw [hs]
    exact List.forall_mem_cons.2 ⟨hclass c (by simp [hc]), fun d hd => hclass d (hw d hd)⟩
  have hquote : quoteChars s = '"' :: s.toList ++ ['"'] := by
    unfold quoteChars
    rw [List.flatMap_congr fun d hd => (hall d hd).1, List.flatMap_singleton']
  rw [hquote]
  constructor
  · simp only [hs, List.length_append, List.length_cons, List.length_nil]
    omega
  · intro d hd
    rcases List.mem_append.1 hd with hd | hd
    · rcases List.mem_cons.1 hd with rfl | hd
      · decide
      · exact (hall d hd).2
    · rw [List.mem_singleton.1 hd]
      decide

theorem positive_ascii {n : ℤ} (h : 1 ≤ n ∧ n ≤ maxSafeInteger) : Ascii 16 (intChars n) := by
  unfold maxSafeInteger at h
  unfold intChars
  rw [if_neg (by omega)]
  constructor
  · rw [Nat.length_toDigits_le_iff (by decide) (by decide)]
    omega
  · intro c hc
    have hd := Nat.isDigit_of_mem_toDigits (by decide) (by decide) hc
    have hrange := isDecimal_toNat (isDecimal_isDigit.trans hd)
    omega

theorem commaJoin_length_le (texts : List (List Char)) :
    (commaJoin texts).length ≤ (texts.map fun t => t.length + 1).sum := by
  induction texts with
  | nil => simp [commaJoin]
  | cons t texts ih =>
    rw [commaJoin_cons_length, List.map_cons, List.sum_cons]
    split <;> omega

theorem mem_commaJoin {texts : List (List Char)} {c : Char} (h : c ∈ commaJoin texts) :
    c = ',' ∨ ∃ t ∈ texts, c ∈ t := by
  induction texts with
  | nil => exact absurd h List.not_mem_nil
  | cons t texts ih =>
    cases texts with
    | nil => exact Or.inr ⟨t, List.mem_cons_self, h⟩
    | cons u texts =>
      rw [commaJoin, List.mem_append, List.mem_cons] at h
      rcases h with h | h | h
      · exact Or.inr ⟨t, List.mem_cons_self, h⟩
      · exact Or.inl h
      · rcases ih h with h | ⟨w, hw, hc⟩
        · exact Or.inl h
        · exact Or.inr ⟨w, List.mem_cons_of_mem _ hw, hc⟩

theorem Ascii.entry {n m : ℕ} {k : String} {t : List Char} (hk : Ascii n (quoteChars k)) (ht : Ascii m t) :
    Ascii (n + m + 1) (entryChars (k, t)) := by
  unfold entryChars
  constructor
  · have h1 := hk.1
    have h2 := ht.1
    simp only [List.length_append, List.length_cons]
    omega
  · intro c hc
    rcases List.mem_append.1 hc with hc | hc
    · exact hk.2 c hc
    · rcases List.mem_cons.1 hc with rfl | hc
      · decide
      · exact ht.2 c hc

theorem ascii_entries {bounds : List ℕ} {entries : List (String × List Char)}
    (h : List.Forall₂ (fun n p => Ascii n (entryChars p)) bounds entries) :
    (entries.map fun p => (entryChars p).length + 1).sum ≤ bounds.sum + bounds.length ∧
      ∀ p ∈ entries, ∀ c ∈ entryChars p, c.toNat < 128 := by
  induction h with
  | nil => simp
  | @cons n p bounds entries hp _ ih =>
    have hlen := hp.1
    refine ⟨?_, List.forall_mem_cons.2 ⟨hp.2, ih.2⟩⟩
    have hrest := ih.1
    simp only [List.map_cons, List.sum_cons, List.length_cons]
    omega

/-- The text of an object, from bounds on its members. -/
theorem ascii_object (st : TextStyle) {ps : List (String × Value)} {bounds : List ℕ}
    (h : List.Forall₂ (fun n p => Ascii n (entryChars p)) bounds (entryTexts st ps)) :
    Ascii (bounds.sum + bounds.length + 2) (textWith st (.object ps)) := by
  have hperm := (st.order_perm (entryTexts st ps)).map entryChars
  obtain ⟨hsum, hmem⟩ := ascii_entries h
  rw [textWith]
  constructor
  · have hlen := commaJoin_length_le ((st.order (entryTexts st ps)).map entryChars)
    rw [(hperm.map fun t => t.length + 1).sum_nat, List.map_map] at hlen
    simp only [List.length_cons, List.length_append, List.length_nil]
    have : ((entryTexts st ps).map ((fun t => t.length + 1) ∘ entryChars)).sum ≤ bounds.sum + bounds.length := hsum
    omega
  · intro c hc
    rcases List.mem_cons.1 hc with rfl | hc
    · decide
    rcases List.mem_append.1 hc with hc | hc
    · rcases mem_commaJoin hc with rfl | ⟨t, ht, hct⟩
      · decide
      · obtain ⟨p, hp, rfl⟩ := List.mem_map.1 (hperm.mem_iff.1 ht)
        exact hmem p hp c hct
    · rw [List.mem_singleton.1 hc]
      decide

/-- The text of a cursor value has at most 512 characters, one byte each. -/
theorem InfrastructureOperationCursorValue.Ok.ascii {v : InfrastructureOperationCursorValue} (h : v.Ok)
    (st : TextStyle) : Ascii 512 (textWith st v.toValue) := by
  have hkey : ∀ k ∈ cursorPayloadKeys, Ascii (quoteChars k).length (quoteChars k) := by
    have hall : ∀ k ∈ cursorPayloadKeys, ((quoteChars k).all fun c => decide (c.toNat < 128)) = true := by decide
    exact fun k hk => ⟨le_rfl, fun c hc => of_decide_eq_true (List.all_eq_true.1 (hall k hk) c hc)⟩
  have hbounds := @ascii_object st [("organizationId", .string v.organizationId), ("tenantId", .string v.tenantId),
    ("operationId", .string v.operationId), ("nextSequence", .number (.int v.nextSequence)),
    ("expiresAtEpochSeconds", .number (.int v.expiresAtEpochSeconds))] [147, 141, 144, 31, 40]
    (.cons ((hkey "organizationId" (by decide)).entry (identifier_ascii h.subject.organizationId))
      (.cons ((hkey "tenantId" (by decide)).entry (identifier_ascii h.subject.tenantId))
        (.cons ((hkey "operationId" (by decide)).entry (identifier_ascii h.subject.operationId))
          (.cons ((hkey "nextSequence" (by decide)).entry (positive_ascii h.nextSequence))
            (.cons ((hkey "expiresAtEpochSeconds" (by decide)).entry (positive_ascii h.expiresAtEpochSeconds))
              .nil)))))
  exact ⟨hbounds.1.trans (by decide), hbounds.2⟩

theorem isBase64UrlChar_toNat {c : Char} (h : isBase64UrlChar c = true) : c.toNat < 128 := by
  unfold isBase64UrlChar at h
  simp only [Bool.or_eq_true, beq_iff_eq] at h
  rcases h with (h | rfl) | rfl
  · have := isAlnum_toNat h
    omega
  · decide
  · decide

theorem isBase64Url_encodedPayload (rt : Runtime) (v : InfrastructureOperationCursorValue) :
    IsBase64Url (encodedPayload rt v) := by
  refine isBase64Url_encode fun h => ?_
  have htext : (utf8Bytes (String.ofList (textWith rt.sortedStyle v.toValue))) ≠ [] := by
    unfold utf8Bytes
    rw [String.toList_ofList, InfrastructureOperationCursorValue.toValue, textWith, List.flatMap_cons]
    intro hnil
    exact String.utf8EncodeChar_ne_nil (List.append_eq_nil_iff.1 hnil).1
  exact htext h

theorem isBase64Url_signatureText (e : List Char) : IsBase64Url (signatureText host key e) :=
  isBase64Url_encode hmac_ne_nil

theorem cursorText_length {e g : List Char} (he : IsBase64Url e) (hg : IsBase64Url g) :
    stringLength (cursorText e g) = e.length + g.length + 4 := by
  have hbase : ∀ {c}, isBase64UrlChar c = true → c.toNat < 65536 := fun hc => by
    have := isBase64UrlChar_toNat hc
    omega
  unfold cursorText
  rw [stringLength_ofList]
  · have hversion : "v1".toList.length = 2 := rfl
    simp only [List.length_append, List.length_cons, hversion]
    omega
  · intro c hc
    rcases List.mem_append.1 hc with hc | hc
    · have hall : ("v1".toList.all fun c => decide (c.toNat < 65536)) = true := by decide
      exact of_decide_eq_true (List.all_eq_true.1 hall c hc)
    rcases List.mem_cons.1 hc with rfl | hc
    · decide
    rcases List.mem_append.1 hc with hc | hc
    · exact hbase (he.2 c hc)
    rcases List.mem_cons.1 hc with rfl | hc
    · decide
    · exact hbase (hg.2 c hc)

theorem encodedPayload_length {v : InfrastructureOperationCursorValue} (h : v.Ok) (rt : Runtime) :
    (encodedPayload rt v).length ≤ 683 := by
  have hascii := h.ascii rt.sortedStyle
  have htext : (utf8Bytes (String.ofList (textWith rt.sortedStyle v.toValue))).length ≤ 512 := by
    rw [utf8Bytes_length (by rw [String.toList_ofList]; exact hascii.2), String.toList_ofList]
    exact hascii.1
  unfold encodedPayload
  rw [base64UrlEncode_length]
  omega

theorem signatureText_length (e : List Char) : (signatureText host key e).length = 43 := by
  unfold signatureText
  rw [base64UrlEncode_length, host.hmacSha256_length]

/-- **No written cursor exceeds the bound of the verifier.** -/
theorem created_length {v : InfrastructureOperationCursorValue} (h : v.Ok) :
    stringLength (cursorText (encodedPayload host.toRuntime v)
      (signatureText host key (encodedPayload host.toRuntime v))) ≤ 2048 := by
  rw [cursorText_length (isBase64Url_encodedPayload _ v) (isBase64Url_signatureText _), signatureText_length]
  have := encodedPayload_length h host.toRuntime
  omega

/-! ## Created and accepted cursors -/

/-- The payload of the cursor is one that the writer writes. -/
def CanonicalPayload (rt : Runtime) (s : String) : Prop :=
  ∃ v : InfrastructureOperationCursorValue, v.Ok ∧ ∃ signature, s = cursorText (encodedPayload rt v) signature

/-- An object with the fields of a cursor value is parsed to it. -/
theorem validateCursorValue_toValue {v : InfrastructureOperationCursorValue} (h : v.Ok) :
    validateCursorValue v.toValue = .ok v := by
  have hobject : exactObject invalid v.toValue "cursorPayload" cursorPayloadKeys = .ok _ := exactObject_keys rfl
  unfold validateCursorValue
  rw [hobject]
  simp only [bind_ok, pure_ok, identifier_ok, positiveInteger_ok, Except.ok.injEq, exists_eq_left',
    Value.get_cons, String.reduceEq, if_true, if_false]
  exact ⟨_, ⟨rfl, h.subject.organizationId⟩, _, ⟨rfl, h.subject.tenantId⟩, _, ⟨rfl, h.subject.operationId⟩, _,
    ⟨rfl, h.nextSequence⟩, _, ⟨rfl, h.expiresAtEpochSeconds⟩, rfl⟩

theorem Carries.unique {encoded : List Char} {v w : InfrastructureOperationCursorValue}
    (hv : Carries host encoded v) (hw : Carries host encoded w) : v = w := by
  obtain ⟨d, hd, hvd⟩ := hv
  obtain ⟨d', hd', hwd⟩ := hw
  obtain rfl := Option.some.inj (hd.symm.trans hd')
  exact Except.ok.inj (hvd.symm.trans hwd)

/-- **Resume cursors.** A created cursor is verified to its value by the subject of the value until it
expires; the verifier accepts a cursor for its own subject and before its expiry only; and an
accepted cursor is the one that the writer makes of its value exactly if its payload is
one that the writer writes. -/
theorem cursor_recreated_iff (host : Host) (key : SigningKey) :
    (∀ (value : Value) (s : String), createInfrastructureOperationCursor host value key = .ok s →
      ∃ v, validateCursorValue value = .ok v ∧ ∀ now, 1 ≤ now → now < v.expiresAtEpochSeconds →
        verifyInfrastructureOperationCursor host (.string s) key v.toInfrastructureOperationCursorSubject now =
          .ok v) ∧
    ∀ (value : Value) (subject : InfrastructureOperationCursorSubject) (now : ℤ)
      (v : InfrastructureOperationCursorValue),
      verifyInfrastructureOperationCursor host value key subject now = .ok v →
        v.toInfrastructureOperationCursorSubject = subject ∧ now < v.expiresAtEpochSeconds ∧
        ∃ s, value = .string s ∧ (createInfrastructureOperationCursor host v.toValue key = .ok s ↔
          CanonicalPayload host.toRuntime s) := by
  constructor
  · intro value s h
    obtain ⟨v, hv, hkey, rfl⟩ := create_ok.1 h
    have hok := validateCursorValue_ok hv
    have hmax := hok.expiresAtEpochSeconds.2
    refine ⟨v, hv, fun now h1 hlt => verify_ok.2 ⟨_, isBase64Url_encodedPayload _ v, rfl, ?_, hkey,
      carries_encodedPayload hok, rfl, ⟨h1, by omega⟩, hlt⟩⟩
    exact created_length hok
  · intro value subject now v h
    obtain ⟨s, rfl⟩ := verify_string h
    obtain ⟨e, he, hs, -, hkey, hcarries, hsubject, -, hlt⟩ := verify_ok.1 h
    have hok : v.Ok := by
      obtain ⟨d, -, hd⟩ := hcarries
      exact validateCursorValue_ok hd
    refine ⟨hsubject, hlt, s, rfl, ?_⟩
    rw [create_ok]
    constructor
    · rintro ⟨w, hw, -, rfl⟩
      exact ⟨w, validateCursorValue_ok hw, _, rfl⟩
    · rintro ⟨w, hw, g, hsw⟩
      -- the payload of the cursor is that of `w`, which carries `w`
      have hpayload : e = encodedPayload host.toRuntime w :=
        (cursorText_inj he (isBase64Url_encodedPayload host.toRuntime w) (hs.symm.trans hsw)).1
      rw [hpayload] at hs hcarries
      obtain rfl : v = w := Carries.unique hcarries (carries_encodedPayload hw)
      exact ⟨v, validateCursorValue_toValue hw, hkey, hs⟩

/-! ## A payload that is not canonical -/

/-- The text with its last character replaced by the next one of the alphabet. -/
def loosen : List Char → List Char
  | [] => []
  | [c] => [base64UrlChar (base64UrlValue c + 1)]
  | c :: d :: rest => c :: loosen (d :: rest)

theorem loosen_length : ∀ cs : List Char, (loosen cs).length = cs.length
  | [] => rfl
  | [_] => rfl
  | c :: d :: rest => by rw [loosen, List.length_cons, loosen_length (d :: rest)]; rfl

/-- The last character of bytes with one left over has four bits that fill no byte. -/
theorem loosen_spec : ∀ bytes : List UInt8, bytes.length % 3 = 1 →
    base64UrlDecode (loosen (base64UrlEncode bytes)) = bytes ∧
      loosen (base64UrlEncode bytes) ≠ base64UrlEncode bytes ∧
      ∀ c ∈ loosen (base64UrlEncode bytes), isBase64UrlChar c = true
  | [], h => absurd h (by decide)
  | [x], _ => by
    have hx := x.toNat_lt
    have h1 := base64UrlChar_spec (x.toNat / 4) (by omega)
    have h2 := base64UrlChar_spec (x.toNat % 4 * 16) (by omega)
    have h3 := base64UrlChar_spec (x.toNat % 4 * 16 + 1) (by omega)
    simp only [base64UrlEncode, loosen, base64UrlDecode, firstByte, h1.1, h2.1, h3.1]
    refine ⟨by rw [@ofNat_toNat x _ (by omega)], fun he => ?_, ?_⟩
    · simp only [List.cons.injEq, and_true, true_and] at he
      have hval := congrArg base64UrlValue he
      rw [h2.1, h3.1] at hval
      omega
    · intro c hc
      simp only [List.mem_cons, List.not_mem_nil, or_false] at hc
      rcases hc with rfl | rfl
      · exact h1.2
      · exact h3.2
  | [_, _], h => absurd h (by simp)
  | x :: y :: z :: rest, h => by
    have hx := x.toNat_lt
    have hy := y.toNat_lt
    have hz := z.toNat_lt
    have h1 := base64UrlChar_spec (x.toNat / 4) (by omega)
    have h2 := base64UrlChar_spec (x.toNat % 4 * 16 + y.toNat / 16) (by omega)
    have h3 := base64UrlChar_spec (y.toNat % 16 * 4 + z.toNat / 64) (by omega)
    have h4 := base64UrlChar_spec (z.toNat % 64) (by omega)
    obtain ⟨hdecode, hne, hchars⟩ := loosen_spec rest (by simp only [List.length_cons] at h; omega)
    obtain ⟨c, cs, hcs⟩ : ∃ c cs, base64UrlEncode rest = c :: cs := by
      refine List.exists_cons_of_ne_nil fun hnil => ?_
      have hrest := base64UrlDecode_encode rest
      rw [hnil] at hrest
      rw [← hrest] at h
      simp [base64UrlDecode] at h
    rw [hcs] at hdecode hne hchars
    simp only [base64UrlEncode, loosen, hcs, base64UrlDecode, firstByte, secondByte, thirdByte, h1.1, h2.1, h3.1,
      h4.1, hdecode]
    refine ⟨?_, fun he => hne ?_, ?_⟩
    · rw [@ofNat_toNat x _ (by omega), @ofNat_toNat y _ (by omega), @ofNat_toNat z _ (by omega)]
    · simpa only [List.cons.injEq, true_and] using he
    · exact List.forall_mem_cons.2 ⟨h1.2, List.forall_mem_cons.2 ⟨h2.2, List.forall_mem_cons.2 ⟨h3.2,
        List.forall_mem_cons.2 ⟨h4.2, hchars⟩⟩⟩⟩

def sampleCursor : InfrastructureOperationCursorValue :=
  ⟨⟨"acme1", "shop", "operation-1"⟩, 3, 1800000300⟩

/-- The bytes `0` to `31`. -/
def sampleKey : SigningKey := .bytes ((List.range 32).map UInt8.ofNat)

def cursorRuntime : Runtime :=
  Runtime.tabulated [] (fun _ => none) hex_nil

/-- A host with the authentication codes of the sample payload, as it is written and with its last
character replaced. -/
def cursorHost : Host := Host.tabulated cursorRuntime [
  ((sampleKey.buffer, String.ofList (encodedPayload cursorRuntime sampleCursor)),
    [199, 84, 47, 45, 195, 211, 238, 251, 165, 220, 192, 46, 77, 166, 211, 164, 79, 156, 45, 75, 152, 130, 18, 173,
      228, 80, 205, 211, 3, 127, 7, 235]),
  ((sampleKey.buffer, String.ofList (loosen (encodedPayload cursorRuntime sampleCursor))),
    [79, 30, 130, 207, 244, 81, 252, 202, 204, 76, 45, 106, 62, 39, 219, 96, 205, 183, 200, 243, 13, 91, 181, 135,
      15, 236, 191, 114, 98, 68, 201, 33])] (by decide)

theorem sampleCursor_ok : sampleCursor.Ok :=
  ⟨⟨by decide, by decide, by decide⟩, by decide, by decide⟩

theorem sampleKey_length : 32 ≤ sampleKey.buffer.length := by decide

/-- The sample cursor is verified for its subject until it expires. -/
theorem cursor_recreated_sample : ∃ s v,
    createInfrastructureOperationCursor cursorHost sampleCursor.toValue sampleKey = .ok s ∧
      verifyInfrastructureOperationCursor cursorHost (.string s) sampleKey
        ⟨"acme1", "shop", "operation-1"⟩ 1800000299 = .ok v := by
  have hcreate := (@create_ok cursorHost sampleKey _ _).2
    ⟨sampleCursor, validateCursorValue_toValue sampleCursor_ok, sampleKey_length, rfl⟩
  obtain ⟨v, hv, hverify⟩ := (cursor_recreated_iff cursorHost sampleKey).1 _ _ hcreate
  obtain rfl : sampleCursor = v := Except.ok.inj ((validateCursorValue_toValue sampleCursor_ok).symm.trans hv)
  exact ⟨_, _, hcreate, hverify 1800000299 (by decide) (by decide)⟩

/-- **A signed payload that is not canonical is accepted**, and is not the one that the writer
makes of its value. -/
theorem loose_payload_accepted : ¬ ∀ (value : Value) (key : SigningKey)
    (subject : InfrastructureOperationCursorSubject) (now : ℤ) (v : InfrastructureOperationCursorValue),
    verifyInfrastructureOperationCursor cursorHost value key subject now = .ok v →
      ∃ s, value = .string s ∧ createInfrastructureOperationCursor cursorHost v.toValue key = .ok s := by
  intro hrecreated
  have hascii := sampleCursor_ok.ascii cursorHost.sortedStyle
  have hlength : (utf8Bytes (String.ofList (textWith cursorHost.sortedStyle sampleCursor.toValue))).length % 3 = 1 := by
    rw [utf8Bytes_length (by rw [String.toList_ofList]; exact hascii.2), String.toList_ofList]
    decide +kernel
  obtain ⟨hdecode, hne, hchars⟩ := loosen_spec _ hlength
  -- the loose payload has the bytes of the canonical one
  have hcarries : Carries cursorHost (loosen (encodedPayload cursorHost.toRuntime sampleCursor)) sampleCursor := by
    obtain ⟨d, hd, hv⟩ := @carries_encodedPayload cursorHost _ sampleCursor_ok
    refine ⟨d, ?_, hv⟩
    unfold encodedPayload at hd ⊢
    rw [base64UrlDecode_encode] at hd
    rw [hdecode, hd]
  have hbase : IsBase64Url (loosen (encodedPayload cursorHost.toRuntime sampleCursor)) := by
    refine ⟨fun hnil => (isBase64Url_encodedPayload cursorHost.toRuntime sampleCursor).1 ?_, hchars⟩
    rw [← List.length_eq_zero_iff, ← loosen_length, hnil]
    rfl
  have hbound := encodedPayload_length sampleCursor_ok cursorHost.toRuntime
  have hverify := (@verify_ok cursorHost sampleKey _ ⟨"acme1", "shop", "operation-1"⟩ 1800000000 sampleCursor).2
    ⟨_, hbase, rfl, by
      rw [cursorText_length hbase (isBase64Url_signatureText _), signatureText_length, loosen_length]
      omega, sampleKey_length, hcarries, rfl, by decide, by decide⟩
  obtain ⟨s, hs, hcreate⟩ := hrecreated _ _ _ _ _ hverify
  obtain ⟨v, hv, -, rfl⟩ := create_ok.1 hcreate
  obtain rfl : sampleCursor = v := Except.ok.inj ((validateCursorValue_toValue sampleCursor_ok).symm.trans hv)
  exact hne (cursorText_inj hbase (isBase64Url_encodedPayload cursorHost.toRuntime sampleCursor)
    (Value.string.inj hs)).1

end SecureSaas.Protocol
