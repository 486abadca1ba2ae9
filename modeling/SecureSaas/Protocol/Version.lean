import SecureSaas.Protocol.Accepted

/-!
# Version negotiation (`src/core/infrastructureControllerProtocol.ts`)

The server takes the first of its own versions that the client supports too. What is left is
whether that one version can be used: its features and its sunset.

* `negotiate_ok`: the answer, by the first common version.
* `negotiation_answers`: when the answer selects a version, and which one.
* `sunset_masks_later_version`: a version past its sunset hides those after it.
-/

namespace SecureSaas.Protocol

open Js

/-! ## Data -/

structure InfrastructureControllerVersionRequest where
  requestId : String
  supportedProtocolVersions : List String
  requiredFeatures : List String
deriving DecidableEq

structure InfrastructureControllerVersionDeprecation where
  protocolVersion : String
  replacementProtocolVersion : String
  sunsetEpochSeconds : ℤ
deriving DecidableEq

structure InfrastructureControllerVersionResponse where
  requestId : String
  compatible : Bool
  selectedProtocolVersion : Option String
  serverProtocolVersions : List String
  availableFeatures : List String
  reasonCodes : List String
  deprecation : Option InfrastructureControllerVersionDeprecation
deriving DecidableEq

structure InfrastructureControllerVersionPolicy where
  supportedProtocolVersions : List String
  availableFeatures : List String
  deprecations : List InfrastructureControllerVersionDeprecation
deriving DecidableEq

/-! ## The functions of the source -/

/-- The items of an array without repetition that is not empty. -/
def nonEmptyUniqueTexts (parse : Parser String) : Parser (List String) := fun value path =>
  (nonEmptyUniqueArray invalid parse (fun s => jsonStringify (.string s)) value path).map Subtype.val

def parseInfrastructureControllerVersionRequest (value : Value) :
    Result InfrastructureControllerVersionRequest := do
  let root ← exactObject invalid value "versionRequest" ["apiVersion", "kind", "requestId",
    "supportedProtocolVersions", "requiredFeatures"]
  let _ ← literal invalid infrastructureControllerProtocolApiVersion (Value.get root "apiVersion")
    "versionRequest.apiVersion"
  let _ ← literal invalid "InfrastructureControllerVersionRequest" (Value.get root "kind") "versionRequest.kind"
  let requestId ← identifier (Value.get root "requestId") "versionRequest.requestId"
  let supportedProtocolVersions ← nonEmptyUniqueTexts protocolVersion
    (Value.get root "supportedProtocolVersions") "versionRequest.supportedProtocolVersions"
  let requiredFeatures ← uniqueTexts identifier (Value.get root "requiredFeatures")
    "versionRequest.requiredFeatures"
  pure { requestId, supportedProtocolVersions, requiredFeatures }

def versionResponse (request : InfrastructureControllerVersionRequest)
    (serverProtocolVersions availableFeatures : List String) (selectedProtocolVersion : Option String)
    (reasonCodes : List String) (deprecation : Option InfrastructureControllerVersionDeprecation) :
    InfrastructureControllerVersionResponse where
  requestId := request.requestId
  compatible := selectedProtocolVersion.isSome
  selectedProtocolVersion := selectedProtocolVersion
  serverProtocolVersions := serverProtocolVersions
  availableFeatures := availableFeatures
  reasonCodes := reasonCodes
  deprecation := deprecation

def validateDeprecation (value : InfrastructureControllerVersionDeprecation)
    (supportedVersions : List String) : Result Unit := do
  let _ ← protocolVersion (.string value.protocolVersion) "deprecation.protocolVersion"
  let _ ← protocolVersion (.string value.replacementProtocolVersion) "deprecation.replacementProtocolVersion"
  let _ ← positiveInteger (.number (.int value.sunsetEpochSeconds)) "deprecation.sunsetEpochSeconds"
  ensure (supportedVersions.contains value.replacementProtocolVersion)
    (invalid "a deprecated version must name a supported replacement.")
  ensure (value.protocolVersion != value.replacementProtocolVersion)
    (invalid "a deprecated version must name a different replacement.")

/-- The answer once the request and the policy are parsed: the rest of
`negotiateInfrastructureControllerVersion`. -/
def answerVersionRequest (request : InfrastructureControllerVersionRequest)
    (serverVersions availableFeatures : List String)
    (deprecations : List InfrastructureControllerVersionDeprecation) (nowEpochSeconds : ℤ) :
    Result InfrastructureControllerVersionResponse :=
  match serverVersions.find? fun entry => request.supportedProtocolVersions.contains entry with
  | none =>
    pure (versionResponse request serverVersions availableFeatures none
      ["INFRA_PROTOCOL_UNSUPPORTED_VERSION"] none)
  | some selected =>
    if request.requiredFeatures.any fun feature => !availableFeatures.contains feature then
      pure (versionResponse request serverVersions availableFeatures none
        ["INFRA_PROTOCOL_REQUIRED_FEATURE_UNAVAILABLE"] none)
    else
      match deprecations.find? fun entry => entry.protocolVersion == selected with
      | none => do
        let _ ← positiveInteger (.number (.int nowEpochSeconds)) "nowEpochSeconds"
        pure (versionResponse request serverVersions availableFeatures (some selected) [] none)
      | some deprecation => do
        validateDeprecation deprecation serverVersions
        let now ← positiveInteger (.number (.int nowEpochSeconds)) "nowEpochSeconds"
        if deprecation.sunsetEpochSeconds ≤ now then
          pure (versionResponse request serverVersions availableFeatures none
            ["INFRA_PROTOCOL_VERSION_SUNSET"] (some deprecation))
        else
          pure (versionResponse request serverVersions availableFeatures (some selected)
            ["INFRA_PROTOCOL_DEPRECATED_VERSION"] (some deprecation))

def negotiateInfrastructureControllerVersion (value : Value) (policy : InfrastructureControllerVersionPolicy)
    (nowEpochSeconds : ℤ) : Result InfrastructureControllerVersionResponse := do
  let request ← parseInfrastructureControllerVersionRequest value
  let serverVersions ← nonEmptyUniqueTexts protocolVersion
    (.array (policy.supportedProtocolVersions.map .string)) "versionPolicy.supportedProtocolVersions"
  let availableFeatures ← uniqueTexts identifier (.array (policy.availableFeatures.map .string))
    "versionPolicy.availableFeatures"
  answerVersionRequest request serverVersions availableFeatures policy.deprecations nowEpochSeconds

/-! ## What a version is good for -/

/-- An element is the first of a list with a property. -/
def First {α : Type} (P : α → Prop) (l : List α) (a : α) : Prop :=
  ∃ before after, l = before ++ a :: after ∧ P a ∧ ∀ b ∈ before, ¬ P b

theorem find?_some_iff {α : Type} {l : List α} {p : α → Bool} {a : α} :
    l.find? p = some a ↔ First (fun b => p b = true) l a := by
  rw [List.find?_eq_some_iff_append]
  unfold First
  simp only [Bool.not_eq_true, Bool.not_eq_true']
  constructor
  · rintro ⟨hp, before, after, hl, hb⟩
    exact ⟨before, after, hl, hp, hb⟩
  · rintro ⟨before, after, hl, hp, hb⟩
    exact ⟨hp, before, after, hl, hb⟩

variable (request : InfrastructureControllerVersionRequest) (policy : InfrastructureControllerVersionPolicy)
  (now : ℤ)

/-- Both sides support the version. -/
def Common (version : String) : Prop :=
  version ∈ policy.supportedProtocolVersions ∧ version ∈ request.supportedProtocolVersions

/-- The version is the highest in the server's preference that the client supports. -/
def Preferred (version : String) : Prop :=
  First (· ∈ request.supportedProtocolVersions) policy.supportedProtocolVersions version

/-- The deprecation that the policy declares for a version is at its end. -/
def PastSunset (version : String) : Prop :=
  ∃ d, First (fun d => d.protocolVersion = version) policy.deprecations d ∧ d.sunsetEpochSeconds ≤ now

def FeaturesAvailable : Prop := ∀ feature ∈ request.requiredFeatures, feature ∈ policy.availableFeatures

/-- A version that both sides support, with all features and before its sunset. -/
def Usable (version : String) : Prop :=
  Common request policy version ∧ ¬ PastSunset policy now version ∧ FeaturesAvailable request policy

structure InfrastructureControllerVersionDeprecation.Ok (d : InfrastructureControllerVersionDeprecation)
    (supportedVersions : List String) : Prop where
  protocolVersion : isProtocolVersion d.protocolVersion = true
  replacementProtocolVersion : isProtocolVersion d.replacementProtocolVersion = true
  sunsetEpochSeconds : 1 ≤ d.sunsetEpochSeconds ∧ d.sunsetEpochSeconds ≤ maxSafeInteger
  supported : d.replacementProtocolVersion ∈ supportedVersions
  different : d.protocolVersion ≠ d.replacementProtocolVersion

/-- What the negotiation checks of a policy whatever the request. -/
structure InfrastructureControllerVersionPolicy.Checked (p : InfrastructureControllerVersionPolicy) : Prop where
  versions : (∀ s ∈ p.supportedProtocolVersions, isProtocolVersion s = true) ∧
    p.supportedProtocolVersions.Nodup ∧ p.supportedProtocolVersions ≠ []
  features : (∀ s ∈ p.availableFeatures, isIdentifier s = true) ∧ p.availableFeatures.Nodup

/-- A policy all of whose deprecations are well formed too. -/
structure InfrastructureControllerVersionPolicy.Ok (p : InfrastructureControllerVersionPolicy) : Prop
    extends p.Checked where
  deprecations : ∀ d ∈ p.deprecations, d.Ok p.supportedProtocolVersions

def PositiveSafe (n : ℤ) : Prop := 1 ≤ n ∧ n ≤ maxSafeInteger

/-- The answers to a request, by the preferred version. -/
inductive Answer : InfrastructureControllerVersionResponse → Prop
  | unsupported : (∀ v, ¬ Common request policy v) →
      Answer (versionResponse request policy.supportedProtocolVersions policy.availableFeatures none
        ["INFRA_PROTOCOL_UNSUPPORTED_VERSION"] none)
  | unavailable {v : String} : Preferred request policy v → ¬ FeaturesAvailable request policy →
      Answer (versionResponse request policy.supportedProtocolVersions policy.availableFeatures none
        ["INFRA_PROTOCOL_REQUIRED_FEATURE_UNAVAILABLE"] none)
  | current {v : String} : Preferred request policy v → FeaturesAvailable request policy →
      (∀ d ∈ policy.deprecations, d.protocolVersion ≠ v) → PositiveSafe now →
      Answer (versionResponse request policy.supportedProtocolVersions policy.availableFeatures (some v) [] none)
  | sunset {v : String} {d : InfrastructureControllerVersionDeprecation} : Preferred request policy v →
      FeaturesAvailable request policy → First (fun d => d.protocolVersion = v) policy.deprecations d →
      d.Ok policy.supportedProtocolVersions → PositiveSafe now → d.sunsetEpochSeconds ≤ now →
      Answer (versionResponse request policy.supportedProtocolVersions policy.availableFeatures none
        ["INFRA_PROTOCOL_VERSION_SUNSET"] (some d))
  | deprecated {v : String} {d : InfrastructureControllerVersionDeprecation} : Preferred request policy v →
      FeaturesAvailable request policy → First (fun d => d.protocolVersion = v) policy.deprecations d →
      d.Ok policy.supportedProtocolVersions → PositiveSafe now → now < d.sunsetEpochSeconds →
      Answer (versionResponse request policy.supportedProtocolVersions policy.availableFeatures (some v)
        ["INFRA_PROTOCOL_DEPRECATED_VERSION"] (some d))

/-! ## The answer -/

theorem First.mem {α : Type} {P : α → Prop} {l : List α} {a : α} (h : First P l a) : a ∈ l := by
  obtain ⟨before, after, rfl, -⟩ := h
  exact List.mem_append_right _ List.mem_cons_self

theorem First.holds {α : Type} {P : α → Prop} {l : List α} {a : α} (h : First P l a) : P a := by
  obtain ⟨_, _, -, hp, -⟩ := h
  exact hp

theorem First.unique {α : Type} {P : α → Prop} {l : List α} {a b : α} (ha : First P l a) (hb : First P l b) :
    a = b := by
  classical
  have hfind : ∀ {c : α}, First P l c → l.find? (fun c => decide (P c)) = some c := fun hc =>
    find?_some_iff.2 (by simpa using hc)
  exact Option.some.inj ((hfind ha).symm.trans (hfind hb))

theorem nonEmptyUniqueTexts_ok {parse : Parser String} {test : String → Bool}
    (hp : ∀ v path s, parse v path = .ok s ↔ v = .string s ∧ test s = true) {v : Value} {path : String}
    {l : List String} : nonEmptyUniqueTexts parse v path = .ok l ↔
      v = .array (l.map .string) ∧ (∀ s ∈ l, test s = true) ∧ l.Nodup ∧ l ≠ [] := by
  unfold nonEmptyUniqueTexts
  simp only [map_val_ok, nonEmptyUniqueArray_ok hp]
  constructor
  · rintro ⟨⟨hn, hne⟩, hv, hall⟩
    exact ⟨hv, hall, hn.of_map _, hne⟩
  · rintro ⟨hv, hall, hn, hne⟩
    exact ⟨⟨hn.map jsonStringify_string_inj, hne⟩, hv, hall⟩

theorem validateDeprecation_ok {d : InfrastructureControllerVersionDeprecation} {versions : List String}
    {u : Unit} : validateDeprecation d versions = .ok u ↔ d.Ok versions := by
  unfold validateDeprecation
  simp only [bind_ok, protocolVersion_ok, positiveInteger_ok, ensure_ok, exists_unit, Value.string.injEq,
    Value.number.injEq, Number.int.injEq, List.contains_iff_mem, bne_iff_ne]
  constructor
  · rintro ⟨_, ⟨rfl, hv⟩, _, ⟨rfl, hr⟩, _, ⟨rfl, hs⟩, hsup, hdiff⟩
    exact ⟨hv, hr, hs, hsup, hdiff⟩
  · rintro ⟨hv, hr, hs, hsup, hdiff⟩
    exact ⟨_, ⟨rfl, hv⟩, _, ⟨rfl, hr⟩, _, ⟨rfl, hs⟩, hsup, hdiff⟩

variable {request policy now}

theorem strings_injective : Function.Injective (List.map Value.string) :=
  List.map_injective_iff.2 fun _ _ => Value.string.inj

/-- The answer for a preferred version with all features, by its deprecation. -/
theorem answer_available {v : String} {response : InfrastructureControllerVersionResponse}
    (hv : Preferred request policy v) (hcommon : Common request policy v)
    (hf : FeaturesAvailable request policy) :
    (match policy.deprecations.find? fun entry => entry.protocolVersion == v with
      | none => do
        let _ ← positiveInteger (.number (.int now)) "nowEpochSeconds"
        pure (versionResponse request policy.supportedProtocolVersions policy.availableFeatures (some v) [] none)
      | some deprecation => do
        validateDeprecation deprecation policy.supportedProtocolVersions
        let now ← positiveInteger (.number (.int now)) "nowEpochSeconds"
        if deprecation.sunsetEpochSeconds ≤ now then
          pure (versionResponse request policy.supportedProtocolVersions policy.availableFeatures none
            ["INFRA_PROTOCOL_VERSION_SUNSET"] (some deprecation))
        else
          pure (versionResponse request policy.supportedProtocolVersions policy.availableFeatures (some v)
            ["INFRA_PROTOCOL_DEPRECATED_VERSION"] (some deprecation)) :
        Result InfrastructureControllerVersionResponse) = .ok response ↔ Answer request policy now response := by
  have hnow : ∀ n path, positiveInteger (.number (.int now)) path = .ok n ↔ n = now ∧ PositiveSafe now := by
    intro n path
    rw [positiveInteger_ok, Value.number.injEq, Number.int.injEq]
    constructor
    · rintro ⟨rfl, hn⟩
      exact ⟨rfl, hn⟩
    · rintro ⟨rfl, hn⟩
      exact ⟨rfl, hn⟩
  cases hfind : policy.deprecations.find? fun entry => entry.protocolVersion == v with
  | none =>
    have hnone : ∀ d ∈ policy.deprecations, d.protocolVersion ≠ v := by
      simpa using List.find?_eq_none.1 hfind
    simp only [bind_ok, pure_ok, hnow]
    constructor
    · rintro ⟨_, ⟨-, hsafe⟩, rfl⟩
      exact .current hv hf hnone hsafe
    · intro h
      cases h with
      | unsupported hn => exact absurd hcommon (hn v)
      | unavailable _ hf' => exact absurd hf hf'
      | current hv' _ _ hsafe => exact ⟨now, ⟨rfl, hsafe⟩, by rw [First.unique hv hv']⟩
      | sunset hv' _ hd =>
        rw [← First.unique hv hv'] at hd
        exact absurd hd.holds (hnone _ hd.mem)
      | deprecated hv' _ hd =>
        rw [← First.unique hv hv'] at hd
        exact absurd hd.holds (hnone _ hd.mem)
  | some d =>
    have hd : First (fun d => d.protocolVersion = v) policy.deprecations d := by
      have hfirst := find?_some_iff.1 hfind
      simp only [beq_iff_eq] at hfirst
      exact hfirst
    simp only [bind_ok, hnow, validateDeprecation_ok, exists_unit]
    constructor
    · rintro ⟨hok, n, ⟨rfl, hsafe⟩, h⟩
      split at h
      · rename_i hle
        obtain rfl := pure_ok.1 h
        exact .sunset hv hf hd hok hsafe hle
      · rename_i hle
        obtain rfl := pure_ok.1 h
        exact .deprecated hv hf hd hok hsafe (by omega)
    · intro h
      cases h with
      | unsupported hn => exact absurd hcommon (hn v)
      | unavailable _ hf' => exact absurd hf hf'
      | current hv' _ hn => exact absurd (hd.holds.trans (First.unique hv hv')) (hn d hd.mem)
      | sunset hv' _ hd' hok hsafe hle =>
        rw [← First.unique hv hv'] at hd'
        obtain rfl := First.unique hd hd'
        exact ⟨hok, now, ⟨rfl, hsafe⟩, by rw [if_pos hle]; rfl⟩
      | deprecated hv' _ hd' hok hsafe hlt =>
        rw [← First.unique hv hv'] at hd'
        obtain rfl := First.unique hd hd'
        exact ⟨hok, now, ⟨rfl, hsafe⟩, by rw [if_neg (by omega), First.unique hv hv']; rfl⟩

theorem answer_ok {response : InfrastructureControllerVersionResponse} :
    answerVersionRequest request policy.supportedProtocolVersions policy.availableFeatures
      policy.deprecations now = .ok response ↔ Answer request policy now response := by
  have hmissing : (request.requiredFeatures.any fun feature => !policy.availableFeatures.contains feature) =
      true ↔ ¬ FeaturesAvailable request policy := by
    unfold FeaturesAvailable
    simp [List.any_eq_true]
  unfold answerVersionRequest
  cases hfind : policy.supportedProtocolVersions.find? fun entry =>
      request.supportedProtocolVersions.contains entry with
  | none =>
    have hnone : ∀ v, ¬ Common request policy v := fun v hv =>
      List.find?_eq_none.1 hfind v hv.1 (List.contains_iff_mem.2 hv.2)
    have hpreferred : ∀ {v}, ¬ Preferred request policy v := fun hv => hnone _ ⟨hv.mem, hv.holds⟩
    simp only [pure_ok]
    constructor
    · rintro rfl
      exact .unsupported hnone
    · intro h
      cases h with
      | unsupported _ => rfl
      | unavailable hp => exact absurd hp hpreferred
      | current hp => exact absurd hp hpreferred
      | sunset hp => exact absurd hp hpreferred
      | deprecated hp => exact absurd hp hpreferred
  | some v =>
    have hv : Preferred request policy v := by
      have hfirst := find?_some_iff.1 hfind
      simp only [List.contains_iff_mem] at hfirst
      exact hfirst
    have hcommon : Common request policy v := ⟨hv.mem, hv.holds⟩
    dsimp only
    by_cases hf : FeaturesAvailable request policy
    · rw [if_neg fun h => hmissing.1 h hf]
      exact answer_available hv hcommon hf
    · rw [if_pos (hmissing.2 hf), pure_ok]
      constructor
      · rintro rfl
        exact .unavailable hv hf
      · intro h
        cases h with
        | unsupported hn => exact absurd hcommon (hn v)
        | unavailable _ _ => rfl
        | current _ hf' => exact absurd hf' hf
        | sunset _ hf' => exact absurd hf' hf
        | deprecated _ hf' => exact absurd hf' hf

/-- **The answer of the negotiation**, which it gives for every checked policy. -/
theorem negotiate_ok {value : Value} {response : InfrastructureControllerVersionResponse}
    (hrequest : parseInfrastructureControllerVersionRequest value = .ok request) :
    negotiateInfrastructureControllerVersion value policy now = .ok response ↔
      policy.Checked ∧ Answer request policy now response := by
  unfold negotiateInfrastructureControllerVersion
  simp only [hrequest, bind_ok, Except.ok.injEq, exists_eq_left', nonEmptyUniqueTexts_ok @protocolVersion_ok,
    uniqueTexts_ok @identifier_ok, Value.array.injEq, strings_injective.eq_iff]
  constructor
  · rintro ⟨_, ⟨rfl, hversions⟩, _, ⟨rfl, hfeatures⟩, hanswer⟩
    exact ⟨⟨hversions, hfeatures⟩, answer_ok.1 hanswer⟩
  · rintro ⟨⟨hversions, hfeatures⟩, hanswer⟩
    exact ⟨_, ⟨rfl, hversions⟩, _, ⟨rfl, hfeatures⟩, answer_ok.2 hanswer⟩

theorem First.of_exists {α : Type} {P : α → Prop} {l : List α} (h : ∃ a ∈ l, P a) : ∃ a, First P l a := by
  classical
  obtain ⟨a, ha, hp⟩ := h
  cases hfind : l.find? fun b => decide (P b) with
  | none => exact absurd (decide_eq_true hp) (List.find?_eq_none.1 hfind a ha)
  | some b => exact ⟨b, by simpa using find?_some_iff.1 hfind⟩

/-- Every request of a well-formed policy has an answer. -/
theorem exists_answer (hok : policy.Ok) (hsafe : PositiveSafe now) :
    ∃ response, Answer request policy now response := by
  by_cases hcommon : ∃ v ∈ policy.supportedProtocolVersions, v ∈ request.supportedProtocolVersions
  · obtain ⟨v, hv⟩ := First.of_exists hcommon
    by_cases hf : FeaturesAvailable request policy
    · by_cases hd : ∃ d ∈ policy.deprecations, d.protocolVersion = v
      · obtain ⟨d, hd⟩ := First.of_exists hd
        have hdok := hok.deprecations d hd.mem
        rcases le_or_gt d.sunsetEpochSeconds now with hle | hlt
        · exact ⟨_, .sunset hv hf hd hdok hsafe hle⟩
        · exact ⟨_, .deprecated hv hf hd hdok hsafe hlt⟩
      · exact ⟨_, .current hv hf (fun d hmem heq => hd ⟨d, hmem, heq⟩) hsafe⟩
    · exact ⟨_, .unavailable hv hf⟩
  · exact ⟨_, .unsupported fun v hv => hcommon ⟨v, hv.1, hv.2⟩⟩

/-- **When the negotiation selects, and what.** The answer is incompatible exactly if there is no
common version, a required feature is missing, or the preferred version is past its sunset; an
answer that selects takes the preferred version. A well-formed policy always gets an answer. -/
theorem negotiation_answers (value : Value) (request : InfrastructureControllerVersionRequest)
    (policy : InfrastructureControllerVersionPolicy) (now : ℤ)
    (hrequest : parseInfrastructureControllerVersionRequest value = .ok request) :
    (∀ response, negotiateInfrastructureControllerVersion value policy now = .ok response →
      (response.compatible = false ↔ (∀ v, ¬ Common request policy v) ∨ ¬ FeaturesAvailable request policy ∨
        ∃ v, Preferred request policy v ∧ PastSunset policy now v) ∧
      (response.compatible = true ↔ ∃ v, response.selectedProtocolVersion = some v) ∧
      ∀ v, response.selectedProtocolVersion = some v →
        Preferred request policy v ∧ Usable request policy now v) ∧
    (policy.Ok → PositiveSafe now →
      ∃ response, negotiateInfrastructureControllerVersion value policy now = .ok response) := by
  constructor
  · intro response h
    obtain ⟨-, hanswer⟩ := (negotiate_ok hrequest).1 h
    -- a version with a preferred one is common, and its sunset is that of its first deprecation
    have hnot : ∀ {v}, Preferred request policy v → FeaturesAvailable request policy →
        ¬ PastSunset policy now v → ¬ ((∀ v, ¬ Common request policy v) ∨
          ¬ FeaturesAvailable request policy ∨ ∃ v, Preferred request policy v ∧ PastSunset policy now v) := by
      intro v hv hf hs hor
      rcases hor with hn | hn | ⟨v', hv', hs'⟩
      · exact hn v ⟨hv.mem, hv.holds⟩
      · exact hn hf
      · exact hs (First.unique hv hv' ▸ hs')
    cases hanswer with
    | unsupported hn => exact ⟨by simp [versionResponse, hn], by simp [versionResponse], by simp [versionResponse]⟩
    | unavailable hv hf =>
      exact ⟨by simp [versionResponse, hf], by simp [versionResponse], by simp [versionResponse]⟩
    | @sunset v d hv hf hd hok hsafe hle =>
      have hpast : ∃ v, Preferred request policy v ∧ PastSunset policy now v := ⟨v, hv, d, hd, hle⟩
      exact ⟨by simp [versionResponse, hpast], by simp [versionResponse], by simp [versionResponse]⟩
    | @current v hv hf hn hsafe =>
      have hs : ¬ PastSunset policy now v := fun ⟨d, hd, _⟩ => hn d hd.mem hd.holds
      refine ⟨by simp [versionResponse, hnot hv hf hs], by simp [versionResponse], ?_⟩
      intro w hw
      obtain rfl : v = w := Option.some.inj hw
      exact ⟨hv, ⟨hv.mem, hv.holds⟩, hs, hf⟩
    | @deprecated v d hv hf hd hok hsafe hlt =>
      have hs : ¬ PastSunset policy now v := by
        rintro ⟨d', hd', hle⟩
        rw [First.unique hd' hd] at hle
        omega
      refine ⟨by simp [versionResponse, hnot hv hf hs], by simp [versionResponse], ?_⟩
      intro w hw
      obtain rfl : v = w := Option.some.inj hw
      exact ⟨hv, ⟨hv.mem, hv.holds⟩, hs, hf⟩
  · intro hok hsafe
    obtain ⟨response, h⟩ := exists_answer hok hsafe
    exact ⟨response, (negotiate_ok hrequest).2 ⟨hok.toChecked, h⟩⟩

/-! ## A version past its sunset -/

def sunsetDeprecation : InfrastructureControllerVersionDeprecation := ⟨"2026-06-01", "2026-07-16", 1900000000⟩

/-- A server that still prefers a version at the end of its deprecation. -/
def sunsetPolicy : InfrastructureControllerVersionPolicy where
  supportedProtocolVersions := ["2026-06-01", "2026-07-16"]
  availableFeatures := ["operation-events"]
  deprecations := [sunsetDeprecation]

def versionRequest (versions features : List String) : Value := .object [
  ("apiVersion", .string infrastructureControllerProtocolApiVersion),
  ("kind", .string "InfrastructureControllerVersionRequest"),
  ("requestId", .string "request-1"),
  ("supportedProtocolVersions", .array (versions.map .string)),
  ("requiredFeatures", .array (features.map .string))]

/-- A well-formed hello is parsed as it is. -/
theorem versionRequest_ok {versions features : List String}
    (hversions : (∀ s ∈ versions, isProtocolVersion s = true) ∧ versions.Nodup ∧ versions ≠ [])
    (hfeatures : (∀ s ∈ features, isIdentifier s = true) ∧ features.Nodup) :
    parseInfrastructureControllerVersionRequest (versionRequest versions features) =
      .ok ⟨"request-1", versions, features⟩ := by
  have hkeys : exactObject invalid (versionRequest versions features) "versionRequest" ["apiVersion", "kind",
      "requestId", "supportedProtocolVersions", "requiredFeatures"] = .ok _ := exactObject_keys rfl
  unfold parseInfrastructureControllerVersionRequest
  simp only [hkeys, bind_ok, pure_ok, literal_ok, identifier_ok, nonEmptyUniqueTexts_ok @protocolVersion_ok,
    uniqueTexts_ok @identifier_ok, Except.ok.injEq, exists_eq_left', Value.get_cons, String.reduceEq, if_true,
    if_false]
  exact ⟨⟨_, rfl⟩, trivial, ⟨_, rfl⟩, trivial, "request-1", ⟨rfl, by decide⟩, versions, ⟨rfl, hversions⟩,
    features, ⟨rfl, hfeatures⟩, rfl⟩

theorem sunsetPolicy_checked : sunsetPolicy.Checked :=
  ⟨by decide +kernel, by decide⟩

theorem sunsetDeprecation_ok : sunsetDeprecation.Ok sunsetPolicy.supportedProtocolVersions :=
  ⟨by decide +kernel, by decide +kernel, by decide +kernel, by decide, by decide⟩

theorem sunset_hello (versions : List String) (hne : versions ≠ []) (hnodup : versions.Nodup)
    (h : ∀ v ∈ versions, v ∈ sunsetPolicy.supportedProtocolVersions) :
    parseInfrastructureControllerVersionRequest (versionRequest versions ["operation-events"]) =
      .ok ⟨"request-1", versions, ["operation-events"]⟩ :=
  versionRequest_ok ⟨fun s hs => sunsetPolicy_checked.versions.1 s (h s hs), hnodup, hne⟩ (by decide)

/-- A client of the newer version only is answered at the time of the sunset. -/
theorem negotiation_answers_current :
    (∃ response, negotiateInfrastructureControllerVersion (versionRequest ["2026-07-16"] ["operation-events"])
      sunsetPolicy 1900000000 = .ok response) ∧
    ∀ response, negotiateInfrastructureControllerVersion (versionRequest ["2026-07-16"] ["operation-events"])
      sunsetPolicy 1900000000 = .ok response → ∀ v, response.selectedProtocolVersion = some v →
        Preferred ⟨"request-1", ["2026-07-16"], ["operation-events"]⟩ sunsetPolicy v := by
  have hanswers := negotiation_answers _ _ sunsetPolicy 1900000000
    (sunset_hello ["2026-07-16"] (by decide) (by decide) (by decide))
  refine ⟨hanswers.2 ⟨sunsetPolicy_checked, ?_⟩ (by unfold PositiveSafe maxSafeInteger; omega), fun response h v hv =>
    ((hanswers.1 response h).2.2 v hv).1⟩
  intro d hd
  obtain rfl : d = sunsetDeprecation := by simpa [sunsetPolicy] using hd
  exact sunsetDeprecation_ok

/-- **A version past its sunset masks a usable one after it.** -/
theorem sunset_masks_later_version : ¬ ∀ (value : Value) (request : InfrastructureControllerVersionRequest)
    (policy : InfrastructureControllerVersionPolicy) (now : ℤ)
    (response : InfrastructureControllerVersionResponse),
    parseInfrastructureControllerVersionRequest value = .ok request →
      negotiateInfrastructureControllerVersion value policy now = .ok response →
      response.compatible = false → ¬ ∃ v, Usable request policy now v := by
  intro hcomplete
  have hrequest := sunset_hello ["2026-06-01", "2026-07-16"] (by decide) (by decide) (by decide)
  have hfirst : First (fun d => d.protocolVersion = "2026-06-01") sunsetPolicy.deprecations
      sunsetDeprecation := ⟨[], [], rfl, rfl, by simp⟩
  have hpreferred : Preferred ⟨"request-1", ["2026-06-01", "2026-07-16"], ["operation-events"]⟩ sunsetPolicy
      "2026-06-01" := ⟨[], ["2026-07-16"], rfl, by decide, by simp⟩
  have hanswer := (@negotiate_ok _ sunsetPolicy 1900000000 _ _ hrequest).2 ⟨sunsetPolicy_checked, .sunset hpreferred (by
    unfold FeaturesAvailable; decide) hfirst sunsetDeprecation_ok
    (by unfold PositiveSafe maxSafeInteger; omega) le_rfl⟩
  refine hcomplete _ _ _ _ _ hrequest hanswer rfl ⟨"2026-07-16", ⟨by decide, by decide⟩, ?_, by
    unfold FeaturesAvailable; decide⟩
  rintro ⟨d, hd, -⟩
  obtain rfl : d = sunsetDeprecation := by simpa [sunsetPolicy] using hd.mem
  exact absurd hd.holds (by decide)

end SecureSaas.Protocol
