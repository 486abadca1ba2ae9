import SecureSaas.Bootstrap.Candidate

/-!
# The digest of a signed candidate

Finalization signs the hash of the canonical text of a candidate without its digest and its signature. The
launcher takes the hash anew from what it decodes.

* `canonicalJSON_subject`: the launcher's text of the subject.
* `verify_of_agree`: the digest is accepted if the texts agree.
* `agrees_iff`, `candidate_agrees_iff`: **they agree exactly if no string of the subject has a lone surrogate,
  U+2028 or U+2029.**
-/

namespace SecureSaas.Bootstrap

open Js Document

/-- The file that finalization writes: `JSON.stringify(candidate, null, 2)` and a line break. -/
def candidateFile (members : List (String × Document)) : List Char := prettyChars 0 (.object members) ++ ['\n']

/-- The canonical text of the subject, which is hashed. -/
def subjectText (rt : Runtime) (members : List (String × Document)) : List Char :=
  canonicalChars rt (.object (GoValue.subject members))

/-- `candidateDigest` is the hash of the canonical text of the subject. -/
def Digested (rt : Runtime) (members : List (String × Document)) : Prop :=
  members.lookup "candidateDigest" = some (.string (units (rt.sha256 (String.ofList (subjectText rt members)))))

/-- **The launcher agrees with finalization**: its text of the subject is the text that was hashed, and it
accepts the digest. -/
def Agrees (rt : Runtime) (members : List (String × Document)) : Prop :=
  ∃ candidate, GoValue.decodeJSONObject (candidateFile members) = .ok candidate ∧
    GoValue.canonicalJSON (.object (GoValue.subject candidate)) = .ok (subjectText rt members) ∧
    GoValue.verifyCandidateDigest rt (candidateFile members) = .ok ()

/-- No string of the subject has a lone surrogate, a line separator or a paragraph separator. -/
def CleanSubject (members : List (String × Document)) : Prop :=
  ∀ s ∈ strings (.object (GoValue.subject members)), Clean s

/-! ## Texts of ASCII -/

theorem codePoints_single {s : List UInt16} (h : ∀ u ∈ s, u.toNat < 0xd800) : codePoints s = s.map UInt16.toNat := by
  induction s using codePoints.induct with
  | case1 => rfl
  | case2 u => rfl
  | case3 hi lo rest hpair ih =>
    simp only [isHighSurrogate, Bool.and_eq_true, decide_eq_true_eq] at hpair
    have := h hi List.mem_cons_self
    omega
  | case4 hi lo rest hpair ih =>
    rw [codePoints, if_neg hpair, ih (List.forall_mem_cons.1 h).2, List.map_cons, List.map_cons, List.map_cons]

/-- A text of ASCII is the text of its string. -/
theorem wellFormed_units {text : String} (h : ∀ c ∈ text.toList, c.toNat < 128) : wellFormed (units text) = text := by
  have hunits : units text = text.toList.map fun c => UInt16.ofNat c.toNat := by
    rw [units, List.map_eq_flatMap]
    refine List.flatMap_congr fun c hc => if_pos ?_
    have := h c hc
    omega
  have hnat : ∀ c ∈ text.toList, (UInt16.ofNat c.toNat).toNat = c.toNat := by
    intro c hc
    have := h c hc
    rw [UInt16.toNat_ofNat']
    omega
  have hpoints : codePoints (units text) = text.toList.map Char.toNat := by
    rw [hunits, codePoints_single, List.map_map]
    · exact List.map_congr_left hnat
    · intro u hu
      obtain ⟨c, hc, rfl⟩ := List.mem_map.1 hu
      have := h c hc
      rw [hnat c hc]
      omega
  have hchars : (text.toList.map Char.toNat).map unitChar = text.toList := by
    rw [List.map_map]
    refine (List.map_congr_left fun c hc => ?_).trans (List.map_id _)
    have := h c hc
    show unitChar c.toNat = c
    rw [unitChar, if_neg (by omega), Char.ofNat_toNat]
  rw [wellFormed, hpoints, hchars, String.ofList_toList]

theorem isHexDigest_ascii {s : String} (h : isHexDigest s = true) : ∀ c ∈ s.toList, c.toNat < 128 := by
  intro c hc
  have hclass := (isHexDigest_spec h).2 c hc
  unfold isHex at hclass
  rw [Bool.or_eq_true, Bool.and_eq_true, decide_eq_true_eq, decide_eq_true_eq, char_le_iff, char_le_iff] at hclass
  rcases hclass with ⟨-, hle⟩ | hdecimal
  · have hf : 'f'.toNat = 102 := rfl
    omega
  · have := isDecimal_toNat hdecimal
    omega

/-! ## The subject -/

section
variable {rt : Runtime} {members : List (String × Document)}

theorem subject_plain (h : Plain (.object members)) : Plain (.object (GoValue.subject members)) := by
  have hsub : (GoValue.subject members).Sublist members := List.filter_sublist
  refine ⟨h.1.subset (h.1.nodup.sublist (hsub.map _)) fun k hk => (hsub.map _).subset hk, ?_⟩
  exact plainEntries_iff.2 fun p hp => plainEntries_iff.1 h.2 p (hsub.subset hp)

theorem subject_decoded : GoValue.subject (ownOrder (decodedEntries members)) =
    (GoValue.subject (ownOrder members)).map fun p => (p.1, decoded p.2) := by
  rw [decodedEntries_map, ownOrder_map, GoValue.subject, List.filter_map]
  rfl

/-- **The launcher's text of the subject.** -/
theorem canonicalJSON_subject (h : Plain (.object members)) :
    GoValue.canonicalJSON (.object (GoValue.subject (ownOrder (decodedEntries members)))) =
      .ok (skeleton quoteDecoded (.object (GoValue.subject members))) := by
  have hsubject := subject_plain h
  have hperm : (GoValue.subject (ownOrder members)).Perm (GoValue.subject members) := (ownOrder_perm members).filter _
  rw [subject_decoded]
  exact canonicalJSON_object hsubject.1 hperm (canonicalJSON_entries _ hsubject.2)

theorem lookup_decoded (h : Plain (.object members)) {k : String} {v : Document} (hv : members.lookup k = some v) :
    (ownOrder (decodedEntries members)).lookup k = some (decoded v) := by
  rw [decodedEntries_map, ownOrder_map]
  have hperm := (ownOrder_perm members).map fun p : String × Document => (p.1, decoded p.2)
  have hmem : (k, v) ∈ members := by
    obtain ⟨before, after, rfl, -⟩ := List.lookup_eq_some_iff.1 hv
    exact List.mem_append_right _ List.mem_cons_self
  refine lookup_of_mem ?_ (hperm.mem_iff.2 (List.mem_map.2 ⟨(k, v), hmem, rfl⟩))
  rw [(hperm.map Prod.fst).nodup_iff, List.map_map]
  exact h.1.nodup

/-- The digest is accepted if the texts agree. -/
theorem verify_of_agree (h : Plain (.object members)) (hdigest : Digested rt members) {others : List (String × Document)}
    (hsignature : members.lookup "signature" = some (.object others))
    (hagree : skeleton quoteDecoded (.object (GoValue.subject members)) = subjectText rt members) :
    GoValue.verifyCandidateDigest rt (candidateFile members) = .ok () := by
  have hhex := rt.sha256_hex (String.ofList (subjectText rt members))
  have hlookup := lookup_decoded h hdigest
  rw [decoded, wellFormed_units (isHexDigest_ascii hhex)] at hlookup
  rw [GoValue.verifyCandidateDigest, candidateFile, decodeJSONObject_file h]
  have hlookupSignature := lookup_decoded h hsignature
  rw [decoded] at hlookupSignature
  simp only [Except.mapError, bind, Except.bind, hlookup, hlookupSignature, hhex, canonicalJSON_subject h, hagree,
    beq_self_eq_true, throwUnless, if_true]

/-- **The launcher agrees exactly if the strings of the subject are clean.** -/
theorem agrees_iff (hrt : Collates rt) (h : Plain (.object members)) (hdigest : Digested rt members)
    {others : List (String × Document)} (hsignature : members.lookup "signature" = some (.object others)) :
    Agrees rt members ↔ CleanSubject members := by
  have hsubject := subject_plain h
  have htext : subjectText rt members = skeleton quoteUnits (.object (GoValue.subject members)) :=
    canonicalChars_skeleton hrt _ hsubject
  unfold CleanSubject
  rw [← texts_agree_iff hsubject, ← htext]
  constructor
  · rintro ⟨candidate, hcandidate, hcanonical, -⟩
    rw [candidateFile, decodeJSONObject_file h, Except.ok.injEq] at hcandidate
    rw [← hcandidate, canonicalJSON_subject h, Except.ok.injEq] at hcanonical
    exact hcanonical.symm
  · intro hagree
    refine ⟨_, decodeJSONObject_file h, ?_, verify_of_agree h hdigest hsignature hagree.symm⟩
    rw [canonicalJSON_subject h, hagree]

end

/-- What the schema says about the signature. -/
theorem signature_object {isDateTime : List UInt16 → Bool} {members : List (String × Document)}
    (h : (Schema.candidate isDateTime).conforms (.object members) = true) :
    ∃ others, members.lookup "signature" = some (.object others) := by
  obtain ⟨v, hlookup, hv⟩ := (Schema.conforms_object h).conforms ("signature", Schema.signature) (by simp)
  cases v with
  | object others => exact ⟨others, hlookup⟩
  | _ => simp [Schema.signature, Schema.conforms] at hv

/-- **The launcher accepts the digest of a signed candidate, from the text that was signed, exactly if no
string of the subject has a lone surrogate, a line separator or a paragraph separator.** -/
theorem candidate_agrees_iff {rt : Runtime} {isDateTime : List UInt16 → Bool} {members : List (String × Document)}
    (hrt : Collates rt) (h : (Schema.candidate isDateTime).conforms (.object members) = true)
    (hdigest : Digested rt members) : Agrees rt members ↔ CleanSubject members := by
  obtain ⟨others, hsignature⟩ := signature_object h
  exact agrees_iff hrt (Schema.conforms_plain _ (Schema.candidate_plain isDateTime) _ h) hdigest hsignature

/-! ## A candidate -/

/-- A text as a document. -/
def textOf (text : String) : Document := .string (units text)

/-- A text of one character. -/
def repeated (n : ℕ) (c : Char) : Document := .string (List.replicate n (UInt16.ofNat c.toNat))

def digestOf (c : Char) : Document := repeated 64 c

/-- A candidate whose plugins are below some home directory. -/
def sampleSubject (home : List UInt16) : List (String × Document) :=
  let plugin : Document := .string (home ++ units "/.pulumi/plugins/resource-aws-v7.27.0")
  let evidence (path : String) (c : Char) : Document :=
    .object [("path", textOf path), ("sha256", digestOf c), ("evidenceDigest", digestOf c)]
  let executable (name : String) : Document := .object [("name", textOf name), ("path", textOf ("/usr/bin/" ++ name)),
    ("realPath", textOf ("/usr/bin/" ++ name)), ("sha256", digestOf '2'), ("version", textOf "1")]
  let directory (name : String) : Document := .object [("name", textOf name), ("path", textOf ("/opt/" ++ name)),
    ("realPath", textOf ("/opt/" ++ name)), ("treeDigest", digestOf '3')]
  [("apiVersion", textOf "security.deus.dev/bootstrap-candidate/v1"),
    ("generatedAt", textOf "2026-01-01T00:00:00.000Z"),
    ("signingKeyId", digestOf 'a'),
    ("source", .object [("revision", repeated 40 'b'), ("dirty", .bool false),
      ("treeDigest", digestOf 'b')]),
    ("configuration", .array [.object [("path", textOf "Pulumi.management.yaml"), ("sha256", digestOf 'c')]]),
    ("pulumiBackend", .object [("kind", textOf "pulumi-cloud"), ("url", textOf "https://api.pulumi.com"),
      ("organization", textOf "deus")]),
    ("build", .object [("path", textOf "dist-management-seed"), ("treeDigest", digestOf 'd')]),
    ("localGateEvidence", evidence "artifacts/local-gate.json" 'e'),
    ("nativeLauncher", .object [("path", textOf "artifacts/deus-aws-bootstrap"), ("sha256", digestOf 'f')]),
    ("releaseEvidence", evidence "artifacts/release.json" '1'),
    ("tools", .object [("node", textOf "24"), ("npm", textOf "11"), ("pulumi", textOf "3"), ("aws", textOf "2"),
      ("git", textOf "2")]),
    ("runtime", .object [
      ("executables", .array (["node", "pulumi", "aws", "pulumi-analyzer-policy", "pulumi-language-nodejs",
        "pulumi-resource-pulumi-nodejs"].map executable)),
      ("directories", .array (["aws-cli-install", "dependencies", "policy-build", "pulumi-install"].map directory)),
      ("pulumiPlugins", .array [.object [("kind", textOf "resource"), ("name", textOf "aws"),
        ("version", textOf "7.27.0"), ("path", plugin), ("realPath", plugin), ("treeDigest", digestOf '4')]])]),
    ("runtimeProvenance", .object [("path", textOf "/usr/local/lib/deus-bootstrap/runtime-provenance.json"),
      ("sha256", digestOf '5')]),
    ("sealInventory", .object [("path", textOf "artifacts/bootstrap-seal-inventory.json"), ("sha256", digestOf '6'),
      ("entryCount", .number 100), ("totalFileBytes", .number 1000000), ("maximumFileSize", .number 50000)])]

def sampleMembers (home : List UInt16) (digest : String) : List (String × Document) :=
  sampleSubject home ++ [("candidateDigest", textOf digest),
    ("signature", .object [("algorithm", textOf "Ed25519"), ("keyId", digestOf 'a'),
      ("value", repeated 86 'A')])]

/-- The format on the timestamp of the sample. -/
def sampleDateTime (s : List UInt16) : Bool := wellFormed s == "2026-01-01T00:00:00.000Z"

def plainRuntime : Runtime := .tabulated [] (fun _ => none) hex_nil

/-- The runtime that hashes the subject of a candidate. -/
def signingRuntime (home : List UInt16) (digest : String) (h : isHexDigest digest = true) : Runtime :=
  .tabulated [(String.ofList (subjectText plainRuntime (sampleMembers home digest)), digest)] (fun _ => none)
    (by simpa using h)

theorem tabulated_collates {table : List (String × String)} {parseUrl : String → Option Url}
    {hex : ∀ p ∈ table, isHexDigest p.2 = true} : Collates (.tabulated table parseUrl hex) := fun _ _ _ _ _ => rfl

theorem sampleMembers_digested {home : List UInt16} {digest : String} (h : isHexDigest digest = true)
    (hconforms : (Schema.candidate sampleDateTime).conforms (.object (sampleMembers home digest)) = true) :
    Digested (signingRuntime home digest h) (sampleMembers home digest) := by
  have hplain := subject_plain (Schema.conforms_plain _ (Schema.candidate_plain _) _ hconforms)
  have htext : subjectText (signingRuntime home digest h) (sampleMembers home digest) =
      subjectText plainRuntime (sampleMembers home digest) :=
    (canonicalChars_skeleton tabulated_collates _ hplain).trans
      (canonicalChars_skeleton tabulated_collates _ hplain).symm
  rw [Digested, htext, signingRuntime, Runtime.tabulated_sha256, List.lookup_cons_self]
  rfl

def plainHome : List UInt16 := units "/home/deus"

/-- A home directory with a line separator in its name. -/
def brokenHome : List UInt16 := units "/home/deus" ++ 0x2028 :: units "ops"

def plainDigest : String := "f1221c0c0d905f442c528dd43d04c3cc97ee192b132aa6a91e4b33cc6ef163b1"

def brokenDigest : String := "0ddb946a2d2462185c795d1b4e675b8a0f8ce0cb5c96a203e903596a93d7ab5e"

/-- The candidate in a plain home directory. -/
theorem plain_sample :
    (Schema.candidate sampleDateTime).conforms (.object (sampleMembers plainHome plainDigest)) = true ∧
      isHexDigest plainDigest = true ∧ CleanSubject (sampleMembers plainHome plainDigest) := by
  unfold CleanSubject Clean CleanPoint
  decide +kernel

theorem plainDigest_hex : isHexDigest plainDigest = true := plain_sample.2.1

/-- The candidate in the broken home directory conforms to the schema, and its subject is not clean. -/
theorem broken_sample :
    (Schema.candidate sampleDateTime).conforms (.object (sampleMembers brokenHome brokenDigest)) = true ∧
      isHexDigest brokenDigest = true ∧ ¬ CleanSubject (sampleMembers brokenHome brokenDigest) := by
  unfold CleanSubject Clean CleanPoint
  decide +kernel

theorem candidate_agrees_sample :
    Agrees (signingRuntime plainHome plainDigest plainDigest_hex) (sampleMembers plainHome plainDigest) :=
  (candidate_agrees_iff tabulated_collates plain_sample.1
    (sampleMembers_digested plainDigest_hex plain_sample.1)).2 plain_sample.2.2

/-- **A candidate that was signed is refused** if one of its paths has a line separator. -/
theorem line_separator_refused :
    ¬ ∀ (rt : Runtime) (isDateTime : List UInt16 → Bool) (members : List (String × Document)), Collates rt →
      (Schema.candidate isDateTime).conforms (.object members) = true → Digested rt members → Agrees rt members := by
  intro hall
  obtain ⟨hconforms, hhex, hunclean⟩ := broken_sample
  have hdigest := sampleMembers_digested hhex hconforms
  have hagrees := hall _ _ _ tabulated_collates hconforms hdigest
  obtain ⟨others, hsignature⟩ := signature_object hconforms
  have hplain := Schema.conforms_plain _ (Schema.candidate_plain _) _ hconforms
  exact hunclean ((agrees_iff tabulated_collates hplain hdigest hsignature).1 hagrees)

end SecureSaas.Bootstrap
