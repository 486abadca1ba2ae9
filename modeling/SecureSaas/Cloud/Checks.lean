import SecureSaas.Js.Codec
import SecureSaas.Js.Timestamp
import SecureSaas.Js.Runtime
import SecureSaas.Js.Bytes

/-!
# Checks of single values (`src/core/cloudContextVerification.ts`)

What the observation contract asks of an identifier, a digest, a timestamp and so on, and the
canonical text that digests and signatures are taken of. Errors are the texts `code: message`.

* `identifier_ok`, `digestValue_ok`, `timestamp_ok`, ...: what a check accepts.
* `isDependencyKey_of`: the key made of accepted parts is accepted.
* `isSignatureText_encode`: the text of 64 bytes is a signature text.
-/

namespace SecureSaas.Cloud

open Js

/-- `fail(code, message)`. -/
def failure (code message : String) : String := code ++ ": " ++ message

abbrev Result := Except String

/-! ## Tests -/

/-- `[a-z][a-z0-9]*(?:[._:-][a-z0-9]+)*`. -/
def namePattern : Pattern :=
  open Pattern in
  seq (cls isLowerLetter) <| seq (many isLowerAlnum) <|
    group (seq (cls fun c => c == '.' || c == '_' || c == ':' || c == '-') (many1 isLowerAlnum))

def isIdentifier (s : String) : Bool := decide (stringLength s ≤ 128) && Pattern.fullMatch namePattern s

/-- The kinds of dependencies, as texts. -/
def kindTexts : List String :=
  ["context", "runtime", "network", "registry", "identity", "observability", "dns", "resource-binding"]

def isDependencyKey (s : String) : Bool :=
  open Pattern in
  decide (stringLength s ≤ 512) &&
    fullMatch (seq namePattern <| seq (lit "/") <| seq (anyOf kindTexts) <| seq (lit "/") namePattern) s

/-- The characters `[a-z0-9+.-]` of a scheme. -/
def isSchemeChar (c : Char) : Bool := isLowerAlnum c || c == '+' || c == '.' || c == '-'

/-- `/^[a-z][a-z0-9+.-]{0,31}$/`. -/
def isScheme (s : String) : Bool :=
  open Pattern in fullMatch (seq (cls isLowerLetter) (upTo isSchemeChar 31)) s

/-- `/^[0-9]+\.[0-9]+\.[0-9]+$/`. -/
def isVersion (s : String) : Bool :=
  open Pattern in
  fullMatch (seq (many1 isDecimal) <| seq (lit ".") <| seq (many1 isDecimal) <| seq (lit ".") (many1 isDecimal)) s

/-- `/^[A-Za-z0-9][A-Za-z0-9._:-]*$/`, of at most 128 characters. -/
def isKeyId (s : String) : Bool :=
  open Pattern in
  decide (stringLength s ≤ 128) &&
    fullMatch (seq (cls isAlnum) (many fun c => isAlnum c || c == '.' || c == '_' || c == ':' || c == '-')) s

/-- `/^[A-Za-z0-9_-]+$/`, of 32 to 128 characters. -/
def isNonce (s : String) : Bool :=
  decide (32 ≤ stringLength s ∧ stringLength s ≤ 128) && Pattern.fullMatch (Pattern.many1 isBase64UrlChar) s

/-- `/^[A-Za-z0-9_-]{86}$/`, the base64url of 64 bytes as an encoder writes it. -/
def isSignatureText (s : String) : Bool :=
  let decoded := base64UrlDecode s.toList
  Pattern.fullMatch (Pattern.exactly isBase64UrlChar 86) s && decoded.length == 64 &&
    base64UrlEncode decoded == s.toList

/-- `/password|secret|credential|access[_-]?key|session[_-]?token/i`. -/
def namesCredential (s : String) : Bool :=
  open Pattern in
  let dash := opt (cls fun c => c == '_' || c == '-')
  search (alt (litI "password") <| alt (litI "secret") <| alt (litI "credential") <|
    alt (seq (litI "access") (seq dash (litI "key"))) (seq (litI "session") (seq dash (litI "token")))) s

def isExactAuthority (s : String) : Bool :=
  decide (1 ≤ stringLength s ∧ stringLength s ≤ 512) &&
    !s.toList.any (fun c => c == '*' || c == '?' || isSpace c || c == '@' || c == '#') && !namesCredential s

/-! ## Checks -/

section
variable {α : Type}

/-- `if (typeof value !== "string" || !test(value)) fail(code, path + message)`. -/
def text (test : String → Bool) (code message : String) : Check String String := fun value path =>
  (checkedText test (fun path => failure code (path ++ message)) value path).map Subtype.val

@[simp] theorem text_ok {test : String → Bool} {code message : String} {v : Value} {path s : String} :
    text test code message v path = .ok s ↔ v = .string s ∧ test s = true := by
  unfold text
  rw [map_val_ok]
  simp only [checkedText_ok]
  exact ⟨fun ⟨h, hv⟩ => ⟨hv, h⟩, fun ⟨hv, h⟩ => ⟨h, hv⟩⟩

def identifier := text isIdentifier "CLOUD_OBSERVATION_IDENTIFIER" " is not an exact identifier"

def dependencyKey := text isDependencyKey "CLOUD_OBSERVATION_DEPENDENCY_KEY" " is not exact"

def schemeValue := text isScheme "CLOUD_REF_SCHEME_INVALID" " is not a valid URI scheme"

def version := text isVersion "CLOUD_OBSERVATION_VERSION" " must be an exact semver"

def keyId := text isKeyId "CLOUD_OBSERVATION_KEY_ID" " must be an exact key identifier"

def nonce := text isNonce "CLOUD_OBSERVATION_NONCE" " must have 32-128 base64url characters"

def signatureValue := text isSignatureText "CLOUD_OBSERVATION_SIGNATURE" " is not an Ed25519 signature"

def digestValue := text isHexDigest "CLOUD_OBSERVATION_DIGEST" " must be a SHA-256 digest"

def exactAuthority := text isExactAuthority "CLOUD_REF_AUTHORITY_INVALID" " is not an exact safe authority"

@[simp] theorem identifier_ok {v : Value} {path s : String} :
    identifier v path = .ok s ↔ v = .string s ∧ isIdentifier s = true := text_ok

@[simp] theorem dependencyKey_ok {v : Value} {path s : String} :
    dependencyKey v path = .ok s ↔ v = .string s ∧ isDependencyKey s = true := text_ok

@[simp] theorem schemeValue_ok {v : Value} {path s : String} :
    schemeValue v path = .ok s ↔ v = .string s ∧ isScheme s = true := text_ok

@[simp] theorem version_ok {v : Value} {path s : String} :
    version v path = .ok s ↔ v = .string s ∧ isVersion s = true := text_ok

@[simp] theorem keyId_ok {v : Value} {path s : String} :
    keyId v path = .ok s ↔ v = .string s ∧ isKeyId s = true := text_ok

@[simp] theorem nonce_ok {v : Value} {path s : String} :
    nonce v path = .ok s ↔ v = .string s ∧ isNonce s = true := text_ok

@[simp] theorem signatureValue_ok {v : Value} {path s : String} :
    signatureValue v path = .ok s ↔ v = .string s ∧ isSignatureText s = true := text_ok

@[simp] theorem digestValue_ok {v : Value} {path s : String} :
    digestValue v path = .ok s ↔ v = .string s ∧ isHexDigest s = true := text_ok

@[simp] theorem exactAuthority_ok {v : Value} {path s : String} :
    exactAuthority v path = .ok s ↔ v = .string s ∧ isExactAuthority s = true := text_ok

def timestamp : Check String String := fun value path => do
  let s ← text (fun s => isTimestampText s && (dateParse s).isSome) "CLOUD_OBSERVATION_TIMESTAMP"
    " must be an ISO-8601 UTC timestamp" value path
  ensure (isUtcTimestamp s)
    (failure "CLOUD_OBSERVATION_TIMESTAMP" (path ++ " must be a canonical calendar timestamp"))
  pure s

@[simp] theorem timestamp_ok {v : Value} {path s : String} :
    timestamp v path = .ok s ↔ v = .string s ∧ isUtcTimestamp s = true := by
  unfold timestamp
  simp only [bind_ok, text_ok, ensure_ok, pure_ok, exists_unit]
  constructor
  · rintro ⟨_, ⟨rfl, -⟩, h, rfl⟩
    exact ⟨rfl, h⟩
  · rintro ⟨rfl, h⟩
    have htext : isTimestampText s = true := (Bool.and_eq_true_iff.1 h).1
    obtain ⟨t, hparse, -⟩ := isUtcTimestamp_time h
    exact ⟨s, ⟨rfl, by rw [htext, hparse]; rfl⟩, h, rfl⟩

def integer (value : Value) (path : String) (minimum maximum : ℤ) : Result ℤ :=
  let error := failure "CLOUD_OBSERVATION_INTEGER"
    s!"{path} must be an integer from {minimum} to {maximum}"
  match value with
  | .number (.int n) => if minimum ≤ n ∧ n ≤ maximum then .ok n else .error error
  | _ => .error error

@[simp] theorem integer_ok {v : Value} {path : String} {minimum maximum n : ℤ} :
    integer v path minimum maximum = .ok n ↔ v = .number (.int n) ∧ minimum ≤ n ∧ n ≤ maximum := by
  unfold integer
  split
  · rename_i m
    rw [Value.number.injEq, Number.int.injEq]
    by_cases h : minimum ≤ m ∧ m ≤ maximum
    · rw [if_pos h, Except.ok.injEq]
      exact ⟨fun he => ⟨he, he ▸ h⟩, fun he => he.1⟩
    · rw [if_neg h]
      refine ⟨fun he => absurd he (by simp), fun he => absurd (he.1 ▸ he.2) h⟩
  · rename_i hv
    have : v ≠ .number (.int n) := hv n
    simp [this]

def literal (value : Value) (path expected : String) : Result String :=
  match value with
  | .string s =>
    if s = expected then .ok expected else .error (failure "CLOUD_OBSERVATION_VALUE" s!"{path} must be '{expected}'")
  | _ => .error (failure "CLOUD_OBSERVATION_VALUE" s!"{path} must be '{expected}'")

@[simp] theorem literal_ok {v : Value} {path expected s : String} :
    literal v path expected = .ok s ↔ v = .string expected ∧ s = expected := by
  unfold literal
  split
  · rename_i t
    rw [Value.string.injEq]
    by_cases h : t = expected
    · rw [if_pos h, Except.ok.injEq]
      exact ⟨fun he => ⟨h, he.symm⟩, fun he => he.2.symm⟩
    · rw [if_neg h]
      simp [h]
  · rename_i hv
    have : v ≠ .string expected := hv expected
    simp [this]

/-- The member of an enumeration with a given text. -/
def enumValue (name : α → String) (allowed : List α) : Check String α := fun value path =>
  enumeration (fun _ => failure "CLOUD_OBSERVATION_VALUE"
    (path ++ " must be one of: " ++ ", ".intercalate (allowed.map name))) name allowed value path

theorem enumValue_ok {name : α → String} {allowed : List α} {v : Value} {path : String} {a : α}
    (hinj : Function.Injective name) : enumValue name allowed v path = .ok a ↔ v = .string (name a) ∧ a ∈ allowed :=
  enumeration_ok hinj

def array (value : Value) (path : String) (parser : Check String α) : Result (List α) :=
  match value with
  | .array items => parseEntries parser path 0 items
  | _ => .error (failure "CLOUD_OBSERVATION_SHAPE" (path ++ " must be an array"))

/-- The members of an object that has exactly the given keys. -/
def exactObject (value : Value) (path : String) (fields : List String) : Result (List (String × Value)) :=
  match value with
  | .object properties =>
    -- the sorted keys are the sorted fields
    if (properties.map Prod.fst).Perm fields then .ok properties
    else .error (failure "CLOUD_OBSERVATION_SHAPE"
      (path ++ " fields must exactly match [" ++ ", ".intercalate (fields.insertionSort fun a b => a ≤ b) ++ "]"))
  | _ => .error (failure "CLOUD_OBSERVATION_SHAPE" (path ++ " must be an object"))

theorem exactObject_ok {v : Value} {path : String} {fields : List String} {properties : List (String × Value)} :
    exactObject v path fields = .ok properties ↔ v = .object properties ∧ (properties.map Prod.fst).Perm fields := by
  unfold exactObject
  split
  · rename_i ps
    rw [Value.object.injEq]
    by_cases h : (ps.map Prod.fst).Perm fields
    · rw [if_pos h, Except.ok.injEq]
      exact ⟨fun he => ⟨he, he ▸ h⟩, fun he => he.1⟩
    · rw [if_neg h]
      exact ⟨fun he => absurd he (by simp), fun he => absurd (he.1 ▸ he.2) h⟩
  · rename_i hv
    have : v ≠ .object properties := hv properties
    simp [this]

/-- The strings are pairwise different. -/
def unique (values : List String) (path : String) : Result Unit :=
  ensure (decide values.Nodup) (failure "CLOUD_OBSERVATION_SET" (path ++ " values must be unique strings"))

@[simp] theorem unique_ok {values : List String} {path : String} {u : Unit} :
    unique values path = .ok u ↔ values.Nodup := by
  simp [unique]

/-- A non-empty set of members of an enumeration. -/
def exactEnumSet [DecidableEq α] (values allowed : List α) (path : String) (requireAll : Bool) : Result Unit := do
  ensure (!values.isEmpty) (failure "CLOUD_OBSERVATION_SET" (path ++ " must be a non-empty array"))
  ensure (decide values.Nodup) (failure "CLOUD_OBSERVATION_SET" (path ++ " values must be unique strings"))
  ensure (values.all allowed.contains && (!requireAll || values.length == allowed.length))
    (failure "CLOUD_OBSERVATION_SET" (path ++ " contains an unsupported value"))

end

/-! ## Texts that pass -/

theorem namePattern_extends : Pattern.Extends namePattern :=
  Pattern.Extends.cls.seq (Pattern.Extends.many.seq
    (Pattern.Extends.group (Pattern.Extends.cls.seq (Pattern.Extends.cls.seq Pattern.Extends.many))))

/-- **The key made of two identifiers and a kind is a dependency key.** -/
theorem isDependencyKey_of {contextId kind id : String} (hc : isIdentifier contextId = true)
    (hk : kind ∈ kindTexts) (hid : isIdentifier id = true) :
    isDependencyKey (contextId ++ "/" ++ kind ++ "/" ++ id) = true := by
  obtain ⟨hclen, hcname⟩ := Bool.and_eq_true_iff.1 hc
  obtain ⟨hidlen, hidname⟩ := Bool.and_eq_true_iff.1 hid
  have hklen : ∀ k ∈ kindTexts, stringLength k ≤ 16 := by decide
  have hslash : stringLength "/" = 1 := by decide
  refine Bool.and_eq_true_iff.2 ⟨?_, ?_⟩
  · have := hklen kind hk
    rw [decide_eq_true_eq] at hclen hidlen ⊢
    simp only [stringLength_append]
    omega
  · rw [Pattern.fullMatch_iff] at hcname hidname ⊢
    have hchars : (contextId ++ "/" ++ kind ++ "/" ++ id).toList =
        contextId.toList ++ ("/".toList ++ (kind.toList ++ ("/".toList ++ id.toList))) := by
      simp only [String.toList_append, List.append_assoc]
    rw [hchars]
    refine Pattern.mem_seq.2 ⟨_, namePattern_extends _ hcname, ?_⟩
    refine Pattern.mem_seq.2 ⟨_, Pattern.mem_lit.2 rfl, ?_⟩
    refine Pattern.mem_seq.2 ⟨_, Pattern.mem_anyOf.2 ⟨kind, hk, rfl⟩, ?_⟩
    exact Pattern.mem_seq.2 ⟨_, Pattern.mem_lit.2 rfl, hidname⟩

/-- **The base64url of 64 bytes is a signature text.** -/
theorem isSignatureText_encode {bytes : List UInt8} (h : bytes.length = 64) :
    isSignatureText (String.ofList (base64UrlEncode bytes)) = true := by
  unfold isSignatureText
  simp only [String.toList_ofList, base64UrlDecode_encode, h, beq_self_eq_true, Bool.and_true]
  rw [Pattern.fullMatch_iff, String.toList_ofList]
  refine Pattern.mem_exactly.2 ⟨base64UrlEncode bytes, ?_, mem_base64UrlEncode, (List.append_nil _).symm⟩
  rw [base64UrlEncode_length, h]

end SecureSaas.Cloud
