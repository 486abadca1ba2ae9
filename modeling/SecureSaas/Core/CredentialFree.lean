import SecureSaas.Js.Base64
import SecureSaas.Js.Collect
import SecureSaas.Js.Host
import SecureSaas.Js.Label
import SecureSaas.Js.Search

/-!
# Values without credentials (`src/core/credentialFree.ts`)

A scan of a whole JSON value: its keys, the objects that are secrets of Kubernetes, and its texts, as they are and as
what they encode.

* `visit_ok`: the scan accepts a value exactly if it accepts the keys, the objects and the texts in it.
* `decodedCredential_false`: a text that is let through encodes no credential.
* `credentialFree_sound`: **what an accepted value is free of, at every depth.**
-/

namespace SecureSaas.Core

open Js

/-! ## Credentials -/

def forbiddenCredentialKeys : List String :=
  ["apikey", "authorization", "authtoken", "accesstoken", "clientsecret", "connectionstring", "credential",
    "credentials", "databaseurl", "dbpassword", "dsn", "masterpassword", "passphrase", "passwd", "password",
    "privatekey", "privatekeypem", "refreshtoken", "secret", "secretkey", "secretstring", "secretvalue",
    "sessiontoken", "token"]

/-- `value.replace(/[^A-Za-z0-9]/g, "").toLowerCase()`. -/
def normalizedCredentialKey (value : String) : String := String.ofList ((value.toList.filter isAlnum).map Char.toLower)

def isKeyIdChar (c : Char) : Bool := isUpperLetter c || isDecimal c

/-- `[A-Za-z0-9_-]`. -/
def isTokenChar (c : Char) : Bool := isAlnum c || c == '_' || c == '-'

section
open Pattern Finder

/-- The line that starts a private key: `BEGIN [A-Z0-9 ]*PRIVATE KEY` between dashes. -/
def privateKeyText : Finder :=
  of (seq (lit "-----BEGIN ") (seq (many fun c => isUpperLetter c || isDecimal c || c == ' ')
    (lit "PRIVATE KEY-----")))

/-- `/\bAKIA[A-Z0-9]{16}\b/` and `/\bASIA[A-Z0-9]{16}\b/`. -/
def accessKeyText (initial : String) : Finder := wholeWord (Pattern.seq (lit initial) (exactly isKeyIdChar 16))

/-- `/\beyJ[A-Za-z0-9_-]+\.[A-Za-z0-9_-]+\.[A-Za-z0-9_-]+\b/`. -/
def webTokenText : Finder :=
  wholeWord (Pattern.seq (lit "eyJ") (Pattern.seq (many1 isTokenChar) (Pattern.seq (lit ".")
    (Pattern.seq (many1 isTokenChar) (Pattern.seq (lit ".") (many1 isTokenChar))))))

/-- `/\bBearer\s+[…]+=*/i` with letters, digits and the characters that are listed. -/
def bearerText : Finder :=
  word (Pattern.seq (litI "Bearer") (Pattern.seq (many1 isSpace)
    (Pattern.seq (many1 fun c => isAlnum c || "-._~+/".toList.contains c) (many (· == '=')))))

/-- `/\bBasic\s+[A-Za-z0-9+/]+=*/i`. -/
def basicText : Finder :=
  word (Pattern.seq (litI "Basic") (Pattern.seq (many1 isSpace)
    (Pattern.seq (many1 fun c => isAlnum c || "+/".toList.contains c) (many (· == '=')))))

/-- `/\bgh[opusr]_[A-Za-z0-9_]{20,}\b/`. -/
def gitHubTokenText : Finder :=
  wholeWord (Pattern.seq (lit "gh") (Pattern.seq (cls fun c => "opusr".toList.contains c) (Pattern.seq (lit "_")
    (Pattern.seq (exactly isWordChar 20) (many isWordChar)))))

/-- `/[a-z][a-z0-9+.-]*:\/\/[^\s/:@]+:[^\s@]+@/i`. -/
def urlCredentialText : Finder :=
  of (Pattern.seq (cls isLetter) (Pattern.seq (many fun c => isAlnum c || "+.-".toList.contains c)
    (Pattern.seq (lit "://") (Pattern.seq (many1 fun c => !(isSpace c || "/:@".toList.contains c))
      (Pattern.seq (lit ":") (Pattern.seq (many1 fun c => !(isSpace c || c == '@')) (lit "@")))))))

/-- `/\b(?:password|passwd|secret|token|authorization|api[_-]?key)\s*[:=]/i`. -/
def assignedCredentialText : Finder :=
  word (Pattern.seq
    (alt (litI "password") (alt (litI "passwd") (alt (litI "secret") (alt (litI "token") (alt (litI "authorization")
      (Pattern.seq (litI "api") (Pattern.seq (opt (cls fun c => c == '_' || c == '-')) (litI "key"))))))))
    (Pattern.seq (many isSpace) (cls fun c => c == ':' || c == '=')))

end

def credentialValuePatterns : List Finder :=
  [privateKeyText, accessKeyText "AKIA", accessKeyText "ASIA", webTokenText, bearerText, basicText, gitHubTokenText,
    urlCredentialText]

def decodedCredentialPatterns : List Finder := credentialValuePatterns ++ [assignedCredentialText]

/-! ## The scan -/

structure CredentialFreeJsonOptions where
  code : String
  path : String
  allowedNullKeys : List String

/-- `[\t\n\r\x20-\x7e]`. -/
def isPlainChar (c : Char) : Bool := c == '\t' || c == '\n' || c == '\r' || (0x20 ≤ c.toNat && c.toNat ≤ 0x7e)

/-- What one encoding makes of the text. -/
def decodesToCredential (host : Host) (value compact : List Char) (encoding : Base64Encoding) : Bool :=
  let bytes := bufferFrom value
  let canonical := trimPadding (encoding.encode bytes)
  let decoded := host.utf8Text bytes
  !bytes.isEmpty && canonical == compact && !decoded.toList.contains '\ufffd' &&
    decodedCredentialPatterns.any (·.test decoded)

def decodedCredential (host : Host) (value : String) : Bool :=
  let compact := trimPadding value.toList
  if stringLength value < 16 ∨ 8192 < stringLength value then false
  else if !Pattern.fullMatch (Pattern.many1 isBase64Char) (String.ofList compact) then false
  else [Base64Encoding.base64, Base64Encoding.base64url].any (decodesToCredential host value.toList compact)

/-- `deny(code, message)` in a branch of its own. -/
def denyIf (forbidden : Bool) (code message : String) : Except String Unit :=
  if forbidden then .error (code ++ ": " ++ message) else .ok ()

def isSecretObject (properties : List (String × Value)) : Bool :=
  (match Value.get properties "kind" with | .string kind => kind == "Secret" | _ => false) &&
    (match Value.get properties "apiVersion" with | .string version => version == "v1" | _ => false)

def isNull : Value → Bool
  | .null => true
  | _ => false

/-- The key may not stand over the value. -/
def forbidsKey (allowedNullKeys : List String) (key : String) (entry : Value) : Bool :=
  let normalized := normalizedCredentialKey key
  forbiddenCredentialKeys.contains normalized && !(isNull entry && allowedNullKeys.contains normalized)

def visitText (host : Host) (path code value : String) : Except String Unit := do
  denyIf (value.toList.any fun c => !isPlainChar c) code
    (path ++ " contains control or non-ASCII credential material")
  denyIf (credentialValuePatterns.any (·.test value) || decodedCredential host value) code
    (path ++ " contains a credential-shaped value")

/-- `Object.entries(object)`, each with what is done for it: the order of the entries decides which error is thrown. -/
def visitInOrder (visits : List (String × Except String Unit)) : Except String Unit := (ownOrder visits).forM Prod.snd

mutual
def visit (host : Host) (code : String) (allowedNullKeys : List String) (path : String) : Value → Except String Unit
  | .array items => visitItems host code allowedNullKeys path 0 items
  | .object properties => do
    denyIf (isSecretObject properties) code (path ++ " must not contain a Kubernetes Secret object")
    visitInOrder (visitEntries host code allowedNullKeys path properties)
  | .string s => visitText host path code s
  | _ => .ok ()
def visitItems (host : Host) (code : String) (allowedNullKeys : List String) (path : String) :
    ℕ → List Value → Except String Unit
  | _, [] => .ok ()
  | index, v :: rest => do
    visit host code allowedNullKeys s!"{path}[{index}]" v
    visitItems host code allowedNullKeys path (index + 1) rest
def visitEntries (host : Host) (code : String) (allowedNullKeys : List String) (path : String) :
    List (String × Value) → List (String × Except String Unit)
  | [] => []
  | (key, entry) :: rest =>
    (key, do
      denyIf (forbidsKey allowedNullKeys key entry) code (path ++ "." ++ key ++ " is forbidden credential material")
      visit host code allowedNullKeys (path ++ "." ++ key) entry) ::
    visitEntries host code allowedNullKeys path rest
end

def assertCredentialFreeJson (host : Host) (value : Value) (options : CredentialFreeJsonOptions) : Except String Unit :=
  let allowedNullKeys := options.allowedNullKeys.map normalizedCredentialKey
  visit host options.code allowedNullKeys options.path value

/-! ## What the scan accepts -/

variable {host : Host} {code : String} {allowedNullKeys : List String}

theorem denyIf_ok {forbidden : Bool} {message : String} : denyIf forbidden code message = .ok () ↔ forbidden = false := by
  unfold denyIf
  cases forbidden <;> simp

/-- The first value is the second one or in it. -/
inductive Within : Value → Value → Prop
  | self (v : Value) : Within v v
  | item {w v : Value} {items : List Value} : v ∈ items → Within w v → Within w (.array items)
  | entry {w v : Value} {key : String} {properties : List (String × Value)} :
      (key, v) ∈ properties → Within w v → Within w (.object properties)

theorem Within.trans {u v w : Value} (huv : Within u v) (hvw : Within v w) : Within u w := by
  induction hvw with
  | self => exact huv
  | item hmem _ ih => exact .item hmem ih
  | entry hmem _ ih => exact .entry hmem ih

/-- What the scan asks of a value, apart from the values in it. -/
def Clean (host : Host) (allowedNullKeys : List String) : Value → Prop
  | .object properties => isSecretObject properties = false ∧
      ∀ p ∈ properties, forbidsKey allowedNullKeys p.1 p.2 = false
  | .string s => (∀ c ∈ s.toList, isPlainChar c = true) ∧ (∀ pattern ∈ credentialValuePatterns, pattern.test s = false) ∧
      decodedCredential host s = false
  | _ => True

theorem visitText_ok {path s : String} :
    visitText host path code s = .ok () ↔ Clean host allowedNullKeys (.string s) := by
  unfold visitText
  simp only [bind_ok, denyIf_ok, exists_unit, Bool.or_eq_false_iff, List.any_eq_false, Bool.not_eq_true', Bool.not_eq_false,
    Bool.not_eq_true]
  rfl

theorem visitInOrder_ok {visits : List (String × Except String Unit)} :
    visitInOrder visits = .ok () ↔ ∀ v ∈ visits, v.2 = .ok () := by
  unfold visitInOrder
  simp only [forM_ok, mem_ownOrder]

mutual
/-- **The scan accepts a value exactly if every value in it is clean.** -/
theorem visit_ok : ∀ (v : Value) (path : String), visit host code allowedNullKeys path v = .ok () ↔
    ∀ w, Within w v → Clean host allowedNullKeys w
  | .undefined, _ => ⟨fun _ w hw => by cases hw; trivial, fun _ => rfl⟩
  | .null, _ => ⟨fun _ w hw => by cases hw; trivial, fun _ => rfl⟩
  | .bool _, _ => ⟨fun _ w hw => by cases hw; trivial, fun _ => rfl⟩
  | .number _, _ => ⟨fun _ w hw => by cases hw; trivial, fun _ => rfl⟩
  | .string s, path => by
    rw [visit, visitText_ok]
    constructor
    · intro h w hw
      cases hw
      exact h
    · exact fun h => h _ (.self _)
  | .array items, path => by
    rw [visit, visitItems_ok items path 0]
    constructor
    · intro h w hw
      cases hw with
      | self => trivial
      | item hmem hin => exact h _ hmem w hin
    · exact fun h v hmem w hin => h w (.item hmem hin)
  | .object properties, path => by
    rw [visit, bind_ok, exists_unit, denyIf_ok, visitInOrder_ok, visitEntries_ok properties path]
    constructor
    · rintro ⟨hsecret, hentries⟩ w hw
      cases hw with
      | self => exact ⟨hsecret, fun p hp => (hentries p hp).1⟩
      | entry hmem hin => exact (hentries _ hmem).2 w hin
    · intro h
      have hself := h _ (.self _)
      exact ⟨hself.1, fun p hp => ⟨hself.2 p hp, fun w hin => h w (.entry hp hin)⟩⟩
theorem visitItems_ok : ∀ (items : List Value) (path : String) (index : ℕ),
    visitItems host code allowedNullKeys path index items = .ok () ↔
      ∀ v ∈ items, ∀ w, Within w v → Clean host allowedNullKeys w
  | [], _, _ => by simp [visitItems]
  | v :: rest, path, index => by
    rw [visitItems, bind_ok, exists_unit, visit_ok v, visitItems_ok rest, List.forall_mem_cons]
theorem visitEntries_ok : ∀ (properties : List (String × Value)) (path : String),
    (∀ e ∈ visitEntries host code allowedNullKeys path properties, e.2 = .ok ()) ↔
      ∀ p ∈ properties, forbidsKey allowedNullKeys p.1 p.2 = false ∧
        ∀ w, Within w p.2 → Clean host allowedNullKeys w
  | [], _ => by simp [visitEntries]
  | (key, entry) :: rest, path => by
    rw [visitEntries, List.forall_mem_cons, List.forall_mem_cons, visitEntries_ok rest]
    dsimp only
    rw [bind_ok, exists_unit, denyIf_ok, visit_ok entry]
end

/-! ## Encoded credentials -/

/-- **A text that is let through encodes no credential.** -/
theorem decodedCredential_false {s text : String} {encoding : Base64Encoding} {k : ℕ}
    (h : decodedCredential host s = false) (hshort : 16 ≤ stringLength s) (hlong : stringLength s ≤ 8192)
    (hreplacement : '\ufffd' ∉ text.toList)
    (hencoded : s.toList = encoding.unpadded (utf8Bytes text) ++ List.replicate k '=') :
    ∀ pattern ∈ decodedCredentialPatterns, pattern.test text = false := by
  have hcompact : trimPadding s.toList = encoding.unpadded (utf8Bytes text) := by
    rw [hencoded, trimPadding_encoded]
  have hbytes : bufferFrom s.toList = utf8Bytes text := by rw [hencoded, bufferFrom_encoded]
  by_cases hempty : utf8Bytes text = []
  · -- nothing is encoded
    obtain rfl := utf8Bytes_eq_nil hempty
    decide +kernel
  · have hmatch : Pattern.fullMatch (Pattern.many1 isBase64Char) (String.ofList (trimPadding s.toList)) = true := by
      rw [hcompact, Pattern.fullMatch_iff, Pattern.mem_many1, String.toList_ofList]
      refine ⟨encoding.unpadded (utf8Bytes text), ?_, fun c hc => mem_unpadded hc, (List.append_nil _).symm⟩
      exact fun hnil => hempty (unpadded_eq_nil hnil)
    obtain ⟨m, hcanonical⟩ := @encode_eq encoding (utf8Bytes text)
    unfold decodedCredential at h
    dsimp only at h
    rw [if_neg (by omega), hmatch, Bool.not_true, if_neg Bool.false_ne_true, List.any_eq_false] at h
    have hone := h encoding (by cases encoding <;> simp)
    rw [Bool.not_eq_true] at hone
    unfold decodesToCredential at hone
    dsimp only at hone
    rw [hbytes, hcanonical, trimPadding_encoded, hcompact, host.utf8Text_utf8Bytes] at hone
    simpa [hempty, hreplacement] using hone

/-! ## Accepted values -/

/-- What an accepted value is free of, at every depth. `allowedNullKeys` are the keys as they are given. -/
structure FreeOfCredentials (allowedNullKeys : List String) (value : Value) : Prop where
  keys : ∀ properties, Within (.object properties) value → ∀ key entry, (key, entry) ∈ properties →
    normalizedCredentialKey key ∈ forbiddenCredentialKeys →
      entry = .null ∧ normalizedCredentialKey key ∈ allowedNullKeys.map normalizedCredentialKey
  secrets : ∀ properties, Within (.object properties) value →
    ¬ (Value.get properties "kind" = .string "Secret" ∧ Value.get properties "apiVersion" = .string "v1")
  printable : ∀ s, Within (.string s) value → ∀ c ∈ s.toList,
    c = '\t' ∨ c = '\n' ∨ c = '\r' ∨ 0x20 ≤ c.toNat ∧ c.toNat ≤ 0x7e
  texts : ∀ s, Within (.string s) value → ∀ pattern ∈ credentialValuePatterns, ¬ pattern.Occurs s
  encodings : ∀ s, Within (.string s) value → 16 ≤ stringLength s → stringLength s ≤ 8192 →
    ∀ (text : String) (encoding : Base64Encoding) (k : ℕ), '\ufffd' ∉ text.toList →
      s.toList = encoding.unpadded (utf8Bytes text) ++ List.replicate k '=' →
        ∀ pattern ∈ decodedCredentialPatterns, ¬ pattern.Occurs text

theorem forbidsKey_false {key : String} {entry : Value} (h : forbidsKey allowedNullKeys key entry = false)
    (hkey : normalizedCredentialKey key ∈ forbiddenCredentialKeys) :
    entry = .null ∧ normalizedCredentialKey key ∈ allowedNullKeys := by
  have hnull : isNull entry = true ∧ normalizedCredentialKey key ∈ allowedNullKeys := by
    simpa [forbidsKey, hkey] using h
  refine ⟨?_, hnull.2⟩
  have hentry := hnull.1
  unfold isNull at hentry
  split at hentry
  · rfl
  · cases hentry

theorem isSecretObject_false {properties : List (String × Value)} (h : isSecretObject properties = false) :
    ¬ (Value.get properties "kind" = .string "Secret" ∧ Value.get properties "apiVersion" = .string "v1") := by
  rintro ⟨hkind, hversion⟩
  unfold isSecretObject at h
  rw [hkind, hversion] at h
  cases h

theorem free_of_clean {given : List String} {value : Value}
    (h : ∀ w, Within w value → Clean host (given.map normalizedCredentialKey) w) : FreeOfCredentials given value where
  keys properties hin key entry hentry hkey := forbidsKey_false ((h _ hin).2 (key, entry) hentry) hkey
  secrets properties hin := isSecretObject_false (h _ hin).1
  printable s hin c hc := by
    have hplain := (h _ hin).1 c hc
    simpa [isPlainChar, or_assoc] using hplain
  texts s hin pattern hpattern hoccurs := by
    have hnone := (h _ hin).2.1 pattern hpattern
    rw [Finder.test_iff.2 hoccurs] at hnone
    cases hnone
  encodings s hin hshort hlong text encoding k hreplacement hencoded pattern hpattern hoccurs := by
    have hnone := decodedCredential_false (h _ hin).2.2 hshort hlong hreplacement hencoded pattern hpattern
    rw [Finder.test_iff.2 hoccurs] at hnone
    cases hnone

/-- **What an accepted value is free of, at every depth.** Every value in it is accepted by itself, under any path, and a
value that is rejected is rejected wherever it is put. -/
theorem credentialFree_sound {value : Value} {options : CredentialFreeJsonOptions}
    (h : assertCredentialFreeJson host value options = .ok ()) :
    FreeOfCredentials options.allowedNullKeys value ∧
      (∀ part path, Within part value → assertCredentialFreeJson host part { options with path } = .ok ()) ∧
        ∀ part whole path, Within part whole → assertCredentialFreeJson host part options ≠ .ok () →
          assertCredentialFreeJson host whole { options with path } ≠ .ok () := by
  refine ⟨free_of_clean ((visit_ok value _).1 h), ?_, ?_⟩
  · intro part path hpart
    exact (visit_ok part path).2 fun w hw => (visit_ok value _).1 h w (hw.trans hpart)
  · intro part whole path hpart hrejected haccepted
    exact hrejected ((visit_ok part _).2 fun w hw => (visit_ok whole path).1 haccepted w (hw.trans hpart))

/-- A host that authenticates nothing. -/
def plainHost : Host :=
  Host.tabulated (Runtime.tabulated [] (fun _ => none) hex_nil) [] codes_nil

/-- A null under an allowed key, and a text that encodes another one. -/
def sampleProfile : Value := .object [
  ("kind", .string "PostgresAccessProfile"), ("password", .null),
  ("labels", .array [.string "c2VydmljZTogb3JkZXJzIQ==", .string "https://db.internal:5432"])]

def sampleProfileOptions : CredentialFreeJsonOptions :=
  { code := "SEC_PROFILE_INVALID", path := "profile", allowedNullKeys := ["password"] }

theorem credentialFree_sample : FreeOfCredentials ["password"] sampleProfile ∧
    (∀ part path, Within part sampleProfile →
      assertCredentialFreeJson plainHost part { sampleProfileOptions with path } = .ok ()) ∧
      ∀ part whole path, Within part whole → assertCredentialFreeJson plainHost part sampleProfileOptions ≠ .ok () →
        assertCredentialFreeJson plainHost whole { sampleProfileOptions with path } ≠ .ok () := by
  have haccepted : (assertCredentialFreeJson plainHost sampleProfile sampleProfileOptions).isOk = true := by
    decide +kernel
  obtain ⟨⟨⟩, h⟩ := exists_of_isOk haccepted
  exact credentialFree_sound h

/-- The text of a login is found in what it encodes. -/
example : decodedCredential plainHost "cGFzc3dvcmQ6IGh1bnRlcjI=" = true := by decide +kernel

end SecureSaas.Core
