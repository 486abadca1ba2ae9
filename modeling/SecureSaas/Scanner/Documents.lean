import SecureSaas.Scanner.Scan

/-!
# The documents of a scan

A scan runs through the documents of its sources one after another: the lists, and what is in
them at any depth.

* `scanResource_eq`: the recursion of the scan is a run over the documents.
* `Effect`: what a step adds to the findings, the keys and the exceptions used; `Effect.trans` and
  `Effect.foldl` compose steps.
* `scanOne_effect`: **what the scan does with a document.**
-/

namespace SecureSaas.Scanner

open Js

/-! ## Documents -/

/-- The kind of a list. -/
def isListObject (properties : List (String × Value)) : Bool :=
  match typeOf properties with
  | some (_, kind) => isListKind kind
  | none => false

mutual
/-- The document and, when it is a list, all documents in it. -/
def documents : Value → Place → List (Value × Place)
  | .object properties, place =>
    (.object properties, place) :: if isListObject properties then listDocuments properties place else []
  | value, place => [(value, place)]
def listDocuments : List (String × Value) → Place → List (Value × Place)
  | [], _ => []
  | (key, value) :: rest, place =>
    if key = "items" then
      match value with
      | .array items => itemDocuments items 0 place
      | _ => []
    else listDocuments rest place
def itemDocuments : List Value → ℕ → Place → List (Value × Place)
  | [], _, _ => []
  | item :: rest, index, place =>
    documents item { place with fieldPath := place.fieldPath ++ s!".items[{index}]" } ++ itemDocuments rest (index + 1) place
end

/-- What the scan does with a document, apart from the documents in it. -/
def scanOne (state : ScanState) (document : Value × Place) : ScanState :=
  match document.1 with
  | .object properties =>
    match typeOf properties with
    | some (apiVersion, kind) =>
      if isListKind kind then
        if isArray (Value.get properties "items") then state
        else documentInvalid state { document.2 with fieldPath := document.2.fieldPath ++ ".items" }
          "Kubernetes List items must be an array"
      else scanSingle state document.2 properties apiVersion kind
    | none => documentInvalid state document.2 "rendered Kubernetes resource requires string apiVersion and kind"
  | _ => documentInvalid state document.2 "rendered Kubernetes document must be an object"

mutual
/-- The recursion of the scan is a run over the documents. -/
theorem scanResource_eq (value : Value) (place : Place) (state : ScanState) :
    scanResource value place state = (documents value place).foldl scanOne state := by
  cases value with
  | object properties =>
    rw [scanResource, documents, List.foldl_cons]
    cases htype : typeOf properties with
    | none => simp only [isListObject, scanOne, htype]; rfl
    | some t =>
      obtain ⟨apiVersion, kind⟩ := t
      by_cases hlist : isListKind kind = true
      · simp only [isListObject, scanOne, htype, hlist, if_true]
        exact scanList_eq properties place state
      · simp only [isListObject, scanOne, htype, hlist]
        rfl
  | _ => rfl
theorem scanList_eq (properties : List (String × Value)) (place : Place) (state : ScanState) :
    scanList properties place state = (listDocuments properties place).foldl scanOne
      (if isArray (Value.get properties "items") then state
      else documentInvalid state { place with fieldPath := place.fieldPath ++ ".items" }
        "Kubernetes List items must be an array") := by
  cases properties with
  | nil => rfl
  | cons p rest =>
    obtain ⟨key, value⟩ := p
    by_cases hkey : key = "items"
    · subst hkey
      cases value with
      | array items =>
        simp only [scanList, listDocuments, Value.get_cons_self, isArray, if_true]
        exact scanItems_eq items 0 place state
      | _ => simp [scanList, listDocuments, isArray]
    · have hrest := scanList_eq rest place state
      rw [Value.get_cons_ne (Ne.symm hkey)]
      cases value <;> simp only [scanList, listDocuments, if_neg hkey] <;> exact hrest
theorem scanItems_eq (items : List Value) (index : ℕ) (place : Place) (state : ScanState) :
    scanItems items index place state = (itemDocuments items index place).foldl scanOne state := by
  cases items with
  | nil => rfl
  | cons item rest =>
    rw [scanItems, itemDocuments, List.foldl_append, scanItems_eq, scanResource_eq]
end

/-! ## What a step does -/

/-- What a step of the scan makes of a state: it adds no finding exactly when it is quiet, the
resources it meets are new and the token uses it meets are excepted. -/
structure Effect (state state' : ScanState) (quiet : Prop) (keys uses : List String) : Prop where
  findings : state'.findings = [] ↔ state.findings = [] ∧ quiet ∧ (∀ key ∈ keys, key ∉ state.resourceKeys) ∧ keys.Nodup ∧
    ∀ use ∈ uses, (state.exceptions.get? use).isSome
  exceptions : state'.exceptions = state.exceptions
  resourceKeys : ∀ key, key ∈ state'.resourceKeys ↔ key ∈ state.resourceKeys ∨ key ∈ keys
  exceptionsUsed : ∀ id, id ∈ state'.exceptionsUsed ↔ id ∈ state.exceptionsUsed ∨
    ∃ use ∈ uses, ∃ exception, state.exceptions.get? use = some exception ∧ exception.id = id

namespace Effect

variable {state state' state'' : ScanState} {quiet quiet' : Prop} {keys keys' uses uses' : List String}

/-- A step that changes none of these. -/
theorem of_same (hfindings : state'.findings = state.findings) (hexceptions : state'.exceptions = state.exceptions)
    (hkeys : state'.resourceKeys = state.resourceKeys) (hused : state'.exceptionsUsed = state.exceptionsUsed) :
    Effect state state' True [] [] where
  findings := by simp [hfindings]
  exceptions := hexceptions
  resourceKeys key := by simp [hkeys]
  exceptionsUsed id := by simp [hused]

protected theorem refl (state : ScanState) : Effect state state True [] [] := of_same rfl rfl rfl rfl

theorem trans (h : Effect state state' quiet keys uses) (h' : Effect state' state'' quiet' keys' uses') :
    Effect state state'' (quiet ∧ quiet') (keys ++ keys') (uses ++ uses') where
  findings := by
    rw [h'.findings, h.findings, h.exceptions, List.nodup_append']
    simp only [h.resourceKeys, List.mem_append, not_or, or_imp, forall_and, List.Disjoint]
    constructor
    · rintro ⟨⟨hf, hq, hk, hn, hu⟩, hq', ⟨hk', hdisjoint⟩, hn', hu'⟩
      exact ⟨hf, ⟨hq, hq'⟩, ⟨hk, hk'⟩, ⟨hn, hn', fun key hkey hkey' => hdisjoint key hkey' hkey⟩, hu, hu'⟩
    · rintro ⟨hf, ⟨hq, hq'⟩, ⟨hk, hk'⟩, ⟨hn, hn', hdisjoint⟩, hu, hu'⟩
      exact ⟨⟨hf, hq, hk, hn, hu⟩, hq', ⟨hk', fun key hkey' hkey => hdisjoint hkey hkey'⟩, hn', hu'⟩
  exceptions := h'.exceptions.trans h.exceptions
  resourceKeys key := by rw [h'.resourceKeys, h.resourceKeys, List.mem_append, or_assoc]
  exceptionsUsed id := by
    rw [h'.exceptionsUsed, h.exceptionsUsed, h.exceptions, or_assoc]
    simp only [List.mem_append, or_and_right, exists_or]

/-- A run over a list whose steps have such effects. -/
theorem foldl {α : Type} {step : ScanState → α → ScanState} {quiet : α → Prop} {keys uses : α → List String}
    (hstep : ∀ state a, Effect state (step state a) (quiet a) (keys a) (uses a)) :
    ∀ (items : List α) (state : ScanState),
      Effect state (items.foldl step state) (∀ a ∈ items, quiet a) (items.flatMap keys) (items.flatMap uses) := by
  intro items
  induction items with
  | nil =>
    intro state
    simpa using Effect.refl state
  | cons a items ih =>
    intro state
    have hrun := (hstep state a).trans (ih (step state a))
    rw [List.foldl_cons, List.flatMap_cons, List.flatMap_cons, List.forall_mem_cons]
    exact hrun

theorem finding (state : ScanState) (found : WorkloadTokenScanFinding) : Effect state (addFinding state found) False [] [] where
  findings := by simp [addFinding]
  exceptions := rfl
  resourceKeys key := by simp [addFinding]
  exceptionsUsed id := by simp [addFinding]

theorem deny (state : ScanState) (identity : ResourceIdentity) (issue : WorkloadTokenExceptionIssue)
    (found : WorkloadTokenScanFinding) :
    Effect state (denyOrExcept state identity issue found) True [] [exceptionKey identity.key issue.text] := by
  unfold denyOrExcept
  cases hget : state.exceptions.get? (exceptionKey identity.key issue.text) with
  | none =>
    exact { findings := by simp [addFinding, hget], exceptions := rfl, resourceKeys := by simp [addFinding]
            exceptionsUsed := by simp [addFinding, hget] }
  | some exception =>
    refine { findings := by simp [hget], exceptions := rfl, resourceKeys := by simp, exceptionsUsed := fun id => ?_ }
    dsimp only
    split_ifs with hused
    · rw [List.contains_iff_mem] at hused
      simp only [List.mem_singleton, exists_eq_left, hget, Option.some.injEq]
      refine ⟨Or.inl, ?_⟩
      rintro (hmem | ⟨_, rfl, rfl⟩)
      · exact hmem
      · exact hused
    · simp [hget, eq_comm]

end Effect

/-! ## Token uses -/

/-- The use of a token by an object that does not switch its mount off. -/
def automountUse (properties : List (String × Value)) (issue : WorkloadTokenExceptionIssue) :
    List WorkloadTokenExceptionIssue :=
  if isFalse (Value.get properties "automountServiceAccountToken") then [] else [issue]

def podSpecUses (podSpec : List (String × Value)) : List WorkloadTokenExceptionIssue :=
  automountUse podSpec .workloadAutomount ++ (projectedTokens podSpec).map fun _ => .projectedServiceAccountToken

/-- The uses of a token by a workload that keeps its pod spec at the path. -/
def workloadUses (properties : List (String × Value)) (path : List String) : List WorkloadTokenExceptionIssue :=
  match asObject (atPath (.object properties) path) with
  | some podSpec => podSpecUses podSpec
  | none => []

def isServiceAccount (apiVersion kind : String) : Bool := apiVersion == "v1" && kind == "ServiceAccount"

/-- Where the known workloads keep their pod spec. -/
def podSpecPathOf (apiVersion kind : String) : Option (List String) := podSpecPaths.lookup (apiVersion ++ "/" ++ kind)

/-- The uses of a token by a resource. -/
def tokenUses (properties : List (String × Value)) (apiVersion kind : String) : List WorkloadTokenExceptionIssue :=
  if isServiceAccount apiVersion kind then automountUse properties .serviceAccountAutomount
  else match podSpecPathOf apiVersion kind with
    | some path => workloadUses properties path
    | none => []

/-- A workload has its pod spec, and what is no workload has none where one is looked for. -/
def isWellShaped (properties : List (String × Value)) (apiVersion kind : String) : Bool :=
  isServiceAccount apiVersion kind || match podSpecPathOf apiVersion kind with
    | some path => (asObject (atPath (.object properties) path)).isSome
    | none => (findStructuralPodSpecPath (.object properties)).isNone

/-- The identity of a document that is no list. -/
def documentIdentity : Value → Option ResourceIdentity
  | .object properties => do
    let (apiVersion, kind) ← typeOf properties
    if isListKind kind then none else resourceIdentity properties apiVersion kind
  | _ => none

def documentKeys (document : Value) : List String := ((documentIdentity document).map ResourceIdentity.key).toList

/-- The keys of the exceptions that the document needs. -/
def documentUses : Value → List String
  | .object properties => match typeOf properties, documentIdentity (.object properties) with
    | some (apiVersion, kind), some identity =>
      (tokenUses properties apiVersion kind).map fun issue => exceptionKey identity.key issue.text
    | _, _ => []
  | _ => []

/-- The document has nothing that is reported in any case. -/
def isQuiet : Value → Bool
  | .object properties => match typeOf properties with
    | some (apiVersion, kind) =>
      if isListKind kind then isArray (Value.get properties "items")
      else (resourceIdentity properties apiVersion kind).isSome && isWellShaped properties apiVersion kind
    | none => false
  | _ => false

theorem denyAutomount_effect (state : ScanState) (properties : List (String × Value)) (identity : ResourceIdentity)
    (issue : WorkloadTokenExceptionIssue) (found : WorkloadTokenScanFinding) :
    Effect state (denyAutomount state properties identity issue found) True []
      ((automountUse properties issue).map fun issue => exceptionKey identity.key issue.text) := by
  unfold denyAutomount automountUse
  split_ifs
  · exact Effect.refl state
  · exact Effect.deny state identity issue found

theorem tokens_effect (identity : ResourceIdentity) (found : ℕ × ℕ → WorkloadTokenScanFinding) (tokens : List (ℕ × ℕ))
    (state : ScanState) :
    Effect state
      (tokens.foldl (fun state token => denyOrExcept state identity .projectedServiceAccountToken (found token)) state)
      True [] (tokens.map fun _ => exceptionKey identity.key WorkloadTokenExceptionIssue.projectedServiceAccountToken.text) := by
  have hrun := Effect.foldl (fun state (token : ℕ × ℕ) =>
    Effect.deny state identity .projectedServiceAccountToken (found token)) tokens state
  have hkeys : (tokens.flatMap fun _ => ([] : List String)) = [] := List.flatMap_eq_nil_iff.2 fun _ _ => rfl
  rw [hkeys, ← List.map_eq_flatMap] at hrun
  simpa using hrun

theorem scanPodSpec_effect (state : ScanState) (place : Place) (identity : ResourceIdentity) (podSpecField : String)
    (podSpec : List (String × Value)) :
    Effect state (scanPodSpec state place identity podSpecField podSpec) True []
      ((podSpecUses podSpec).map fun issue => exceptionKey identity.key issue.text) := by
  have hmount := denyAutomount_effect state podSpec identity .workloadAutomount
    (place.finding .workloadAutomountNotFalse (some identity.key) (podSpecField ++ ".automountServiceAccountToken")
      "PodSpec automountServiceAccountToken must be boolean false")
  have htokens := tokens_effect identity (fun token => place.finding .projectedTokenForbidden (some identity.key)
    (podSpecField ++ s!".volumes[{token.1}].projected.sources[{token.2}].serviceAccountToken")
    "projected serviceAccountToken volume source is forbidden") (projectedTokens podSpec)
  have hrun := hmount.trans (htokens _)
  rw [and_self, List.nil_append] at hrun
  unfold podSpecUses
  rw [List.map_append, List.map_map]
  exact hrun

/-- Counting a resource has no effect. -/
theorem Effect.of_counted {state counted state' : ScanState} {quiet : Prop} {keys uses : List String}
    (hcounted : Effect state counted True [] []) (h : Effect counted state' quiet keys uses) :
    Effect state state' quiet keys uses := by
  have hrun := hcounted.trans h
  rwa [true_and, List.nil_append, List.nil_append] at hrun

theorem scanServiceAccount_effect (state : ScanState) (place : Place) (identity : ResourceIdentity)
    (properties : List (String × Value)) :
    Effect state (scanServiceAccount state place identity properties) True []
      ((automountUse properties .serviceAccountAutomount).map fun issue => exceptionKey identity.key issue.text) := by
  have hcounted : Effect state { state with serviceAccountCount := state.serviceAccountCount + 1 } True [] [] :=
    Effect.of_same rfl rfl rfl rfl
  exact hcounted.of_counted (denyAutomount_effect _ properties identity _ _)

theorem scanWorkload_effect (state : ScanState) (place : Place) (identity : ResourceIdentity)
    (properties : List (String × Value)) (path : List String) :
    Effect state (scanWorkload state place identity properties path)
      ((asObject (atPath (.object properties) path)).isSome = true) []
      ((workloadUses properties path).map fun issue => exceptionKey identity.key issue.text) := by
  have hcounted : Effect state { state with workloadCount := state.workloadCount + 1 } True [] [] :=
    Effect.of_same rfl rfl rfl rfl
  refine hcounted.of_counted ?_
  unfold workloadUses
  cases hpodSpec : asObject (atPath (.object properties) path) with
  | none => simpa [scanWorkload, hpodSpec] using Effect.finding _ _
  | some podSpec => simpa [scanWorkload, hpodSpec] using scanPodSpec_effect _ place identity _ podSpec

theorem scanOther_effect (state : ScanState) (place : Place) (identity : ResourceIdentity)
    (properties : List (String × Value)) :
    Effect state (scanOther state place identity properties)
      ((findStructuralPodSpecPath (.object properties)).isNone = true) [] [] := by
  unfold scanOther
  cases findStructuralPodSpecPath (.object properties) with
  | none => simpa using Effect.refl state
  | some path => simpa using Effect.finding state _

theorem addResourceKey_effect (state : ScanState) (place : Place) (identity : ResourceIdentity) :
    Effect state (addResourceKey state place identity) True [identity.key] [] := by
  unfold addResourceKey
  split_ifs with hseen
  · rw [List.contains_iff_mem] at hseen
    refine { findings := by simp [addFinding, hseen], exceptions := rfl, resourceKeys := fun key => ?_
             exceptionsUsed := by simp [addFinding] }
    rw [List.mem_singleton]
    exact ⟨Or.inl, fun h => h.elim id fun heq => heq ▸ hseen⟩
  · rw [List.contains_iff_mem] at hseen
    exact { findings := by simp [hseen], exceptions := rfl, resourceKeys := by simp, exceptionsUsed := by simp }

/-- A resource with an identity: it is new or reported, and then scanned by its kind. -/
theorem scanSingle_effect {properties : List (String × Value)} {apiVersion kind : String} {identity : ResourceIdentity}
    (state : ScanState) (place : Place) (hidentity : resourceIdentity properties apiVersion kind = some identity) :
    Effect state (scanSingle state place properties apiVersion kind) (isWellShaped properties apiVersion kind = true)
      [identity.key] ((tokenUses properties apiVersion kind).map fun issue => exceptionKey identity.key issue.text) := by
  have hcounted : Effect state { state with resourceCount := state.resourceCount + 1 } True [] [] :=
    Effect.of_same rfl rfl rfl rfl
  refine hcounted.of_counted ?_
  unfold scanSingle
  rw [hidentity]
  dsimp only
  have hkey := addResourceKey_effect { state with resourceCount := state.resourceCount + 1 } place identity
  have hjoin : ∀ {state' : ScanState} {quiet : Prop} {uses : List String},
      Effect (addResourceKey { state with resourceCount := state.resourceCount + 1 } place identity) state' quiet [] uses →
        Effect { state with resourceCount := state.resourceCount + 1 } state' quiet [identity.key] uses := by
    intro state' quiet uses h
    have hrun := hkey.trans h
    rwa [true_and, List.append_nil, List.nil_append] at hrun
  refine hjoin ?_
  unfold isWellShaped tokenUses
  by_cases haccount : apiVersion = "v1" ∧ kind = "ServiceAccount"
  · have hb : isServiceAccount apiVersion kind = true := by simp [isServiceAccount, haccount]
    rw [if_pos haccount, if_pos hb, hb, Bool.true_or, eq_self]
    exact scanServiceAccount_effect _ place identity properties
  · have hb : isServiceAccount apiVersion kind = false := by
      rw [← Bool.not_eq_true]
      simpa [isServiceAccount] using haccount
    rw [if_neg haccount, hb, Bool.false_or, if_neg Bool.false_ne_true]
    unfold podSpecPathOf
    cases podSpecPaths.lookup (apiVersion ++ "/" ++ kind) with
    | none => exact scanOther_effect _ place identity properties
    | some path => exact scanWorkload_effect _ place identity properties path

/-- **What the scan does with a document.** -/
theorem scanOne_effect (state : ScanState) (document : Value × Place) :
    Effect state (scanOne state document) (isQuiet document.1 = true) (documentKeys document.1) (documentUses document.1) := by
  obtain ⟨value, place⟩ := document
  have hinvalid : ∀ place message, Effect state (documentInvalid state place message) False [] [] :=
    fun place message => Effect.finding state _
  cases value with
  | object properties =>
    unfold scanOne isQuiet documentKeys documentUses documentIdentity
    dsimp only
    cases htype : typeOf properties with
    | none => simpa using hinvalid _ _
    | some t =>
      obtain ⟨apiVersion, kind⟩ := t
      by_cases hlist : isListKind kind = true
      · by_cases harray : isArray (Value.get properties "items") = true
        · simpa [hlist, harray] using Effect.refl state
        · simpa [hlist, harray] using hinvalid _ _
      · cases hidentity : resourceIdentity properties apiVersion kind with
        | none =>
          have hcounted : Effect state { state with resourceCount := state.resourceCount + 1 } True [] [] :=
            Effect.of_same rfl rfl rfl rfl
          simpa [hlist, hidentity, scanSingle] using hcounted.of_counted (Effect.finding _ _)
        | some identity => simpa [hlist, hidentity] using scanSingle_effect state place hidentity
  | _ => simpa [scanOne, isQuiet, documentKeys, documentUses, documentIdentity] using hinvalid _ _

end SecureSaas.Scanner
