import SecureSaas.Bootstrap.Canonical
import SecureSaas.Js.Bytes

/-!
# The schema of a candidate (`schemas/bootstrap-candidate-v1.schema.json`)

Finalization validates a candidate before it writes the file. The schema leaves many of its strings free.

* `conforms_plain`: a document that satisfies a schema of plain keys and bounded integers is plain.
* `candidate_plain`: the schema of a candidate is one of these.
-/

namespace SecureSaas.Bootstrap

open Js Document

/-! ## Equality of documents -/

namespace Document

mutual
/-- Deep equality; the members of an object in any order. -/
def same : Document → Document → Bool
  | .null, .null => true
  | .bool a, .bool b => a == b
  | .number m, .number n => m == n
  | .string s, .string t => s == t
  | .array items, .array others => sameItems items others
  | .object members, .object others => members.length == others.length && sameMembers members others
  | _, _ => false
def sameItems : List Document → List Document → Bool
  | [], [] => true
  | v :: rest, w :: others => same v w && sameItems rest others
  | _, _ => false
def sameMembers : List (String × Document) → List (String × Document) → Bool
  | [], _ => true
  | (k, v) :: rest, others => (match others.lookup k with
    | some w => same v w
    | none => false) && sameMembers rest others
end

/-- `uniqueItems`. -/
def distinct : List Document → Bool
  | [] => true
  | v :: rest => rest.all (fun w => !same v w) && distinct rest

end Document

/-! ## Schemas -/

/-- The schemas of this document: an object has all its properties and no other ones. -/
inductive Schema
  | constFalse
  | string (test : List UInt16 → Bool)
  | integer (minimum maximum : ℤ)
  | array (minItems : ℕ) (maxItems : Option ℕ) (uniqueItems : Bool) (items : Schema)
  | object (properties : List (String × Schema))

namespace Schema

mutual
/-- The document satisfies the schema. An object of JavaScript has a key once. -/
def conforms : Schema → Document → Bool
  | .constFalse, .bool b => !b
  | .string test, .string s => test s
  | .integer minimum maximum, .number n => minimum ≤ n && n ≤ maximum
  | .array minItems maxItems uniqueItems items, .array entries =>
    minItems ≤ entries.length && maxItems.all (fun bound => entries.length ≤ bound) &&
      (!uniqueItems || distinct entries) && entries.all fun entry => conforms items entry
  | .object properties, .object members =>
    decide (members.map Prod.fst).Nodup && members.all (fun p => (properties.map Prod.fst).contains p.1) &&
      conformsAll properties members
  | _, _ => false
/-- Every property is there and satisfies its schema. -/
def conformsAll : List (String × Schema) → List (String × Document) → Bool
  | [], _ => true
  | (k, schema) :: rest, members => (match members.lookup k with
    | some v => conforms schema v
    | none => false) && conformsAll rest members
end

/-! ## The schema of a candidate -/

/-- `const`. -/
def const (text : String) : Schema := .string fun s => s == units text

/-- `enum`. -/
def enum (texts : List String) : Schema := .string fun s => texts.any fun text => s == units text

/-- The characters of a string; no pattern of the schema matches U+FFFD. -/
def chars (s : List UInt16) : List Char := (codePoints s).map unitChar

/-- `pattern`, for an expression between `^` and `$`. -/
def pattern (a : Pattern) : Schema := .string fun s => (a (chars s)).contains []

/-- `minLength` and `maxLength`, in code points. -/
def length (minLength : ℕ) (maxLength : Option ℕ) : Schema := .string fun s =>
  minLength ≤ (codePoints s).length && maxLength.all fun bound => (codePoints s).length ≤ bound

def sha256 : Schema := pattern (Pattern.exactly isHex 64)

/-- A relative path of letters, digits, dots, underscores, slashes and dashes without a segment `..`. -/
def path : Schema := .string fun s =>
  !((chars s).head? == some '/') && !(((chars s).splitOn '/').contains ['.', '.']) &&
    (Pattern.many1 (fun c => isAlnum c || c == '.' || c == '_' || c == '/' || c == '-') (chars s)).contains []

def file : Schema := .object [("path", path), ("sha256", sha256)]

def source : Schema := .object [
  ("revision", pattern (Pattern.exactly isHex 40)),
  ("dirty", constFalse),
  ("treeDigest", sha256)]

def evidence : Schema := .object [("path", path), ("sha256", sha256), ("evidenceDigest", sha256)]

def locator : Schema := length 1 (some 4096)

def executable : Schema := .object [
  ("name", pattern (Pattern.many1 fun c => isLowerAlnum c || c == '-')),
  ("path", locator),
  ("realPath", locator),
  ("sha256", sha256),
  ("version", length 1 (some 512))]

def directory : Schema := .object [
  ("name", enum ["aws-cli-install", "dependencies", "policy-build", "pulumi-install"]),
  ("path", locator),
  ("realPath", locator),
  ("treeDigest", sha256)]

def plugin : Schema := .object [
  ("kind", const "resource"),
  ("name", const "aws"),
  ("version", const "7.27.0"),
  ("path", locator),
  ("realPath", locator),
  ("treeDigest", sha256)]

def runtime : Schema := .object [
  ("executables", .array 6 (some 6) true executable),
  ("directories", .array 4 (some 4) true directory),
  ("pulumiPlugins", .array 1 (some 1) false plugin)]

def pulumiBackend : Schema := .object [
  ("kind", const "pulumi-cloud"),
  ("url", const "https://api.pulumi.com"),
  ("organization", pattern (Pattern.many1 fun c => isAlnum c || c == '_' || c == '.' || c == '-'))]

def tools : Schema := .object [
  ("node", length 1 none),
  ("npm", length 1 none),
  ("pulumi", length 1 none),
  ("aws", length 1 none),
  ("git", length 1 none)]

def sealInventory : Schema := .object [
  ("path", const "artifacts/bootstrap-seal-inventory.json"),
  ("sha256", sha256),
  ("entryCount", .integer 1 300000),
  ("totalFileBytes", .integer 1 8589934592),
  ("maximumFileSize", .integer 1 2147483648)]

def signature : Schema := .object [
  ("algorithm", const "Ed25519"),
  ("keyId", sha256),
  ("value", pattern (Pattern.exactly isBase64UrlChar 86))]

/-- `bootstrap-candidate-v1.schema.json`; `isDateTime` is the format `date-time` of the validator. -/
def candidate (isDateTime : List UInt16 → Bool) : Schema := .object [
  ("apiVersion", const "security.deus.dev/bootstrap-candidate/v1"),
  ("generatedAt", .string isDateTime),
  ("signingKeyId", sha256),
  ("source", source),
  ("configuration", .array 1 none true file),
  ("pulumiBackend", pulumiBackend),
  ("build", .object [("path", const "dist-management-seed"), ("treeDigest", sha256)]),
  ("localGateEvidence", evidence),
  ("nativeLauncher", .object [("path", const "artifacts/deus-aws-bootstrap"), ("sha256", sha256)]),
  ("releaseEvidence", evidence),
  ("tools", tools),
  ("runtime", runtime),
  ("runtimeProvenance", .object [
    ("path", const "/usr/local/lib/deus-bootstrap/runtime-provenance.json"), ("sha256", sha256)]),
  ("sealInventory", sealInventory),
  ("candidateDigest", sha256),
  ("signature", signature)]

/-! ## Plain schemas -/

mutual
/-- The keys are plain and the integers are nonnegative and safe. -/
def Plain : Schema → Prop
  | .integer minimum maximum => 0 ≤ minimum ∧ maximum ≤ maxSafeInteger
  | .array _ _ _ items => Plain items
  | .object properties => PlainKeys (properties.map Prod.fst) ∧ PlainProperties properties
  | _ => True
def PlainProperties : List (String × Schema) → Prop
  | [] => True
  | (_, schema) :: rest => Plain schema ∧ PlainProperties rest
end

end Schema

/-! ## Documents that satisfy a schema -/

/-- Some of plain keys are plain. -/
theorem PlainKeys.subset {keys others : List String} (h : PlainKeys keys) (hnodup : others.Nodup)
    (hsub : ∀ k ∈ others, k ∈ keys) : PlainKeys others :=
  ⟨hnodup, fun k hk => h.alnum k (hsub k hk), fun k hk l hl => h.ordered k (hsub k hk) l (hsub l hl)⟩

namespace Schema

theorem conformsAll_lookup {properties : List (String × Schema)} {members : List (String × Document)}
    (h : conformsAll properties members = true) :
    ∀ q ∈ properties, ∃ v, members.lookup q.1 = some v ∧ conforms q.2 v = true := by
  induction properties with
  | nil => exact fun q hq => absurd hq List.not_mem_nil
  | cons p rest ih =>
    obtain ⟨k, schema⟩ := p
    rw [conformsAll, Bool.and_eq_true] at h
    refine List.forall_mem_cons.2 ⟨?_, ih h.2⟩
    have hv := h.1
    split at hv
    · rename_i v hlookup
      exact ⟨v, hlookup, hv⟩
    · cases hv

/-- What an object that satisfies its schema has. -/
structure HasAll (properties : List (String × Schema)) (members : List (String × Document)) : Prop where
  nodup : (members.map Prod.fst).Nodup
  known : ∀ p ∈ members, p.1 ∈ properties.map Prod.fst
  conforms : ∀ q ∈ properties, ∃ v, members.lookup q.1 = some v ∧ conforms q.2 v = true

theorem conforms_object {properties : List (String × Schema)} {members : List (String × Document)}
    (h : conforms (.object properties) (.object members) = true) : HasAll properties members := by
  rw [Schema.conforms, Bool.and_eq_true, Bool.and_eq_true, decide_eq_true_eq, List.all_eq_true] at h
  obtain ⟨⟨hnodup, hknown⟩, hall⟩ := h
  exact ⟨hnodup, fun p hp => List.contains_iff_mem.1 (hknown p hp), conformsAll_lookup hall⟩

/-- A member satisfies the schema of its property. -/
theorem HasAll.member {properties : List (String × Schema)} {members : List (String × Document)}
    (h : HasAll properties members) {p : String × Document} (hp : p ∈ members) :
    ∃ schema, (p.1, schema) ∈ properties ∧ Schema.conforms schema p.2 = true := by
  obtain ⟨⟨k, schema⟩, hq, rfl⟩ : ∃ q ∈ properties, q.1 = p.1 := List.mem_map.1 (h.known p hp)
  obtain ⟨v, hlookup, hv⟩ := h.conforms _ hq
  rw [lookup_of_mem h.nodup hp, Option.some.injEq] at hlookup
  exact ⟨schema, hq, hlookup ▸ hv⟩

mutual
/-- **A document that satisfies a plain schema is plain.** -/
theorem conforms_plain : ∀ (schema : Schema), Plain schema → ∀ v, conforms schema v = true → v.Plain
  | .constFalse, _, v, h => by
    cases v with
    | bool b => trivial
    | _ => simp [conforms] at h
  | .string test, _, v, h => by
    cases v with
    | string s => trivial
    | _ => simp [conforms] at h
  | .integer minimum maximum, hschema, v, h => by
    cases v with
    | number n =>
      rw [conforms, Bool.and_eq_true, decide_eq_true_eq, decide_eq_true_eq] at h
      exact ⟨le_trans hschema.1 h.1, le_trans h.2 hschema.2⟩
    | _ => simp [conforms] at h
  | .array minItems maxItems uniqueItems items, hschema, v, h => by
    cases v with
    | array entries =>
      rw [conforms, Bool.and_eq_true, List.all_eq_true] at h
      exact plainItems_iff.2 fun v hv => conforms_plain items hschema v (h.2 v hv)
    | _ => simp [conforms] at h
  | .object properties, hschema, v, h => by
    cases v with
    | object members =>
      have hall := conforms_object h
      refine ⟨hschema.1.subset hall.nodup fun k hk => ?_, plainEntries_iff.2 fun p hp => ?_⟩
      · obtain ⟨p, hp, rfl⟩ := List.mem_map.1 hk
        exact hall.known p hp
      · obtain ⟨schema, hmem, hv⟩ := hall.member hp
        exact properties_plain properties hschema.2 _ hmem p.2 hv
    | _ => simp [conforms] at h
theorem properties_plain : ∀ (properties : List (String × Schema)), PlainProperties properties →
    ∀ q ∈ properties, ∀ v, conforms q.2 v = true → v.Plain
  | [], _ => fun _ h => absurd h List.not_mem_nil
  | (_, schema) :: rest, h =>
    List.forall_mem_cons.2 ⟨conforms_plain schema h.1, properties_plain rest h.2⟩
end

instance (keys : List String) : Decidable (PlainKeys keys) :=
  decidable_of_iff (keys.Nodup ∧ (keys.all fun k => k.toList.all isAlnum) = true ∧
      ∀ k ∈ keys, ∀ l ∈ keys, (lowerLE k l = true ↔ k ≤ l))
    ⟨fun h => ⟨h.1, fun k hk => List.all_eq_true.1 (List.all_eq_true.1 h.2.1 k hk), h.2.2⟩,
      fun h => ⟨h.nodup, List.all_eq_true.2 fun k hk => List.all_eq_true.2 (h.alnum k hk), h.ordered⟩⟩

theorem runtime_plain : runtime.Plain := by
  have hexecutable : PlainKeys ["name", "path", "realPath", "sha256", "version"] := by decide +kernel
  have hdirectory : PlainKeys ["name", "path", "realPath", "treeDigest"] := by decide +kernel
  have hplugin : PlainKeys ["kind", "name", "version", "path", "realPath", "treeDigest"] := by decide +kernel
  refine ⟨by decide +kernel, ⟨hexecutable, ?_⟩, ⟨hdirectory, ?_⟩, ⟨hplugin, ?_⟩, trivial⟩
  all_goals simp only [PlainProperties, Plain, const, enum, pattern, length, sha256, locator, and_self]

/-- **The schema of a candidate is plain.** -/
theorem candidate_plain (isDateTime : List UInt16 → Bool) : (candidate isDateTime).Plain := by
  have hkeys : PlainKeys ["apiVersion", "generatedAt", "signingKeyId", "source", "configuration", "pulumiBackend",
      "build", "localGateEvidence", "nativeLauncher", "releaseEvidence", "tools", "runtime", "runtimeProvenance",
      "sealInventory", "candidateDigest", "signature"] := by decide +kernel
  have hsource : PlainKeys ["revision", "dirty", "treeDigest"] := by decide +kernel
  have hfile : PlainKeys ["path", "sha256"] := by decide +kernel
  have hbackend : PlainKeys ["kind", "url", "organization"] := by decide +kernel
  have hbuild : PlainKeys ["path", "treeDigest"] := by decide +kernel
  have hevidence : PlainKeys ["path", "sha256", "evidenceDigest"] := by decide +kernel
  have htools : PlainKeys ["node", "npm", "pulumi", "aws", "git"] := by decide +kernel
  have hinventory : PlainKeys ["path", "sha256", "entryCount", "totalFileBytes", "maximumFileSize"] := by
    decide +kernel
  have hsignature : PlainKeys ["algorithm", "keyId", "value"] := by decide +kernel
  refine ⟨hkeys, ?_⟩
  simp only [PlainProperties, Plain, const, pattern, length, sha256, source, file, path, pulumiBackend, evidence, tools,
    sealInventory, signature, List.map_cons, List.map_nil, true_and, and_true, maxSafeInteger]
  exact ⟨hsource, hfile, hbackend, hbuild, hevidence, hfile, hevidence, htools, runtime_plain, hfile,
    ⟨hinventory, by omega⟩, hsignature⟩

end Schema

end SecureSaas.Bootstrap
