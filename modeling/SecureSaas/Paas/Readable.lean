import SecureSaas.Paas.Snapshot
import SecureSaas.Paas.Closure

/-!
# States that are read back

The parser of snapshots asks more of a field than the state check does, so a state that passes the
check need not be read back.

* `Readable`: what the parser asks of a state on top of the state check.
* `stateRecord_value`: a record is read back when each of its values is.
* `SameState`: the state that is read back lists the same.
* `parse_toValue`: **a readable state that passes the check is read back.**
-/

namespace SecureSaas.Paas

open Js

/-! ## Reading single values -/

section
variable {s path field : String} {n minimum : ℤ} {pattern : String → Bool}

theorem stateString_text (h : hasText s = true) : stateString (.string s) path = .ok s := if_pos h

theorem statePattern_text (htext : hasText s = true) (h : pattern s = true) :
    statePattern (.string s) path pattern = .ok s := by
  unfold statePattern
  rw [bind_ok]
  exact ⟨s, stateString_text htext, bind_ok.2 ⟨(), throwUnless_ok.2 h, rfl⟩⟩

theorem stateResource_text (h : boundedResource s = true) : stateResource (.string s) path = .ok s := by
  obtain ⟨htext, hstar⟩ := Bool.and_eq_true_iff.1 h
  unfold stateResource
  rw [bind_ok]
  exact ⟨s, stateString_text htext, bind_ok.2 ⟨(), throwUnless_ok.2 hstar, rfl⟩⟩

theorem stateInteger_number (h : minimum ≤ n) : stateInteger (.number (.int n)) path minimum = .ok n := if_pos h

theorem stateEnum_text {α : Type} {text : α → String} {allowed : List α} {a : α} (hinj : Function.Injective text)
    (h : a ∈ allowed) : stateEnum (.string (text a)) path text allowed = .ok a := by
  have hfind : allowed.find? (fun b => text b == text a) = some a := by
    cases hf : allowed.find? fun b => text b == text a with
    | none => exact absurd (beq_self_eq_true (text a)) (List.find?_eq_none.1 hf a h)
    | some b =>
      have htext : (text b == text a) = true := List.find?_some (p := fun b => text b == text a) hf
      rw [hinj (beq_iff_eq.1 htext)]
  unfold stateEnum
  simp only [hfind]

theorem numberValue_finite (h0 : 0 ≤ n) (h : n < infinity) : numberValue n = .number (.int n) :=
  if_pos ⟨by omega, h⟩

theorem numberValue_epoch (h : validEpoch n = true) : numberValue n = .number (.int n) ∧ 0 ≤ n := by
  simp only [validEpoch, Bool.and_eq_true, decide_eq_true_eq] at h
  exact ⟨numberValue_finite h.1 h.2, h.1⟩

theorem le_infinity (h : n ≤ 2 ^ 53) : n < infinity := by
  have hpow : (2 : ℤ) ^ 53 < infinity := by decide +kernel
  omega

/-- A counter is stored as a number. -/
theorem numberValue_counter (h0 : 0 ≤ n) (h : n ≤ 2 ^ 53) : numberValue n = .number (.int n) :=
  numberValue_finite h0 (le_infinity h)

end

/-! ## Texts that match are not blank -/

section
variable {s : String}

theorem hasText_jobId (h : isJobId s = true) : hasText s = true := hasText_lowerAlnum h

theorem hasText_stateName (h : isStateName s = true) : hasText s = true := hasText_lowerAlnum h

theorem hasText_hexDigest (h : isHexDigest s = true) : hasText s = true :=
  hasText_hex (k := 63) (Pattern.fullMatch_iff.1 h)

theorem hasText_sourceRevision (h : isSourceRevision s = true) : hasText s = true := by
  obtain ⟨m, hm, -⟩ := Pattern.mem_seq.1 (Pattern.fullMatch_iff.1 h)
  exact hasText_hex (k := 39) hm

theorem hasText_stateDigest (h : isStateDigest s = true) : hasText s = true := by
  have hmatch : Pattern.fullMatch (.seq (.lit "sha256:") (.exactly isHex 64)) s = true := h
  obtain ⟨m, hm, -⟩ := Pattern.mem_seq.1 (Pattern.fullMatch_iff.1 hmatch)
  have hs : 's' ∈ s.toList := by
    rw [Pattern.mem_lit.1 hm]
    exact List.mem_append_left _ (by decide)
  exact hasText_of_mem hs (by decide)

end

/-! ## Reading objects and arrays -/

/-- An object that was written with the fields a check asks for passes it. -/
theorem stateObject_members {required : List (String × Value)} {optional : List (String × Option Value)}
    {path : String} : stateObject (.object (required ++ present optional)) path (required.map Prod.fst)
      (optional.map Prod.fst) = .ok (required ++ present optional) := by
  have hunknown : (((ownOrder (required ++ present optional)).map Prod.fst).filter fun key =>
      !(required.map Prod.fst ++ optional.map Prod.fst).contains key) = [] := by
    refine List.filter_eq_nil_iff.2 fun key hkey => ?_
    obtain ⟨p, hp, rfl⟩ := List.mem_map.1 hkey
    have hmem : p.1 ∈ required.map Prod.fst ++ optional.map Prod.fst := by
      rcases List.mem_append.1 (mem_ownOrder.1 hp) with hp | hp
      · exact List.mem_append_left _ (List.mem_map_of_mem hp)
      · exact List.mem_append_right _ (mem_present hp)
    rw [List.contains_iff_mem.2 hmem]
    exact Bool.false_ne_true
  have hmissing : ((required.map Prod.fst).filter fun key =>
      !Value.has (required ++ present optional) key) = [] := by
    refine List.filter_eq_nil_iff.2 fun key hkey => ?_
    have hhas : Value.has (required ++ present optional) key = true := by
      rw [Value.has, List.contains_iff_mem, List.map_append]
      exact List.mem_append_left _ hkey
    rw [hhas]
    exact Bool.false_ne_true
  unfold stateObject
  simp only [hunknown, hmissing]
  rfl

/-- The same without optional fields. -/
theorem stateObject_required {required : List (String × Value)} {path : String} :
    stateObject (.object required) path (required.map Prod.fst) [] = .ok required := by
  have h : stateObject (.object (required ++ present [])) path (required.map Prod.fst)
      (([] : List (String × Option Value)).map Prod.fst) = .ok (required ++ present []) := stateObject_members
  have hnil : required ++ present [] = required := List.append_nil required
  rwa [hnil] at h

/-- **A record is read back** when each of its values is. -/
theorem stateRecord_value {α : Type} {write : α → Value} {parse : Check String α} {r : Record α} {path : String}
    (h : ∀ key v, r.get? key = some v → ∀ path, parse (write v) path = .ok v) :
    stateRecord (recordValue write r) path parse = .ok r.relisted := by
  have horder : ownOrder (r.entries.map fun p => (p.1, write p.2)) = r.entries.map fun p => (p.1, write p.2) := by
    rw [ownOrder_map, Record.entries, ownOrder_ownOrder]
  unfold stateRecord recordValue
  rw [bind_ok]
  refine ⟨r.entries, ?_, rfl⟩
  rw [horder]
  refine mapM_map_of_ok fun p hp => ?_
  rw [bind_ok]
  exact ⟨p.2, h p.1 p.2 (Record.mem_entries.1 hp) _, rfl⟩

theorem parseEntries_map {parse : Check String String} {path : String} {texts : List String}
    (h : ∀ s ∈ texts, ∀ path, parse (.string s) path = .ok s) (index : ℕ) :
    parseEntries parse path index (texts.map .string) = .ok texts := by
  induction texts generalizing index with
  | nil => rfl
  | cons s texts ih =>
    obtain ⟨hs, htexts⟩ := List.forall_mem_cons.1 h
    rw [List.map_cons, parseEntries, bind_ok]
    exact ⟨s, hs _, bind_ok.2 ⟨texts, ih htexts _, rfl⟩⟩

theorem stateStringArray_texts {texts : List String} {path : String} {pattern : Option (String → Bool)}
    (h : ∀ s ∈ texts, hasText s = true ∧ pattern.all (fun p => p s) = true) (hn : texts.Nodup) :
    stateStringArray (textsValue texts) path true pattern = .ok texts := by
  unfold stateStringArray textsValue
  rw [bind_ok]
  refine ⟨(), rfl, bind_ok.2 ⟨texts, parseEntries_map ?_ 0, bind_ok.2 ⟨(), ?_, rfl⟩⟩⟩
  · intro s hs path
    obtain ⟨htext, hpattern⟩ := h s hs
    cases pattern with
    | none => exact stateString_text htext
    | some p => exact statePattern_text htext hpattern
  · rw [throwUnless_ok, beq_iff_eq, dedup_length]
    exact hn

/-- **An optional text is read back.** -/
theorem assignOptionalString_of {input : List (String × Value)} {field path : String}
    {pattern : Option (String → Bool)} {o : Option String} (hhas : Value.has input field = o.isSome)
    (hget : Value.get input field = (o.map Value.string).getD .undefined)
    (h : ∀ s, o = some s → hasText s = true ∧ pattern.all (fun p => p s) = true) :
    assignOptionalString input field path pattern = .ok o := by
  unfold assignOptionalString
  rw [hhas, hget]
  cases o with
  | none => rfl
  | some s =>
    obtain ⟨htext, hpattern⟩ := h s rfl
    cases pattern with
    | none =>
      show some <$> stateString (.string s) _ = _
      rw [stateString_text htext]
      rfl
    | some p =>
      show some <$> statePattern (.string s) _ p = _
      rw [statePattern_text htext hpattern]
      rfl

/-- **An optional time is read back.** -/
theorem assignOptionalInteger_of {input : List (String × Value)} {field path : String} {o : Option ℤ}
    (hhas : Value.has input field = o.isSome)
    (hget : Value.get input field = (o.map numberValue).getD .undefined)
    (h : ∀ t, o = some t → validEpoch t = true) : assignOptionalInteger input field path = .ok o := by
  unfold assignOptionalInteger
  rw [hhas, hget]
  cases o with
  | none => rfl
  | some t =>
    obtain ⟨hvalue, hmin⟩ := numberValue_epoch (h t rfl)
    show some <$> stateInteger (numberValue t) _ 0 = _
    rw [hvalue, stateInteger_number hmin]
    rfl

/-! ## Readable states -/

/-- What the parser asks of a job on top of the state check. -/
structure ReadableJob (job : PaasControlJob) : Prop where
  tenantId : isStateName job.tenantId = true
  sourceRevision : ∀ text, job.sourceRevision = some text → isSourceRevision text = true
  artifactDigest : ∀ text, job.artifactDigest = some text → isStateDigest text = true
  capabilityId : ∀ text, job.capabilityId = some text → hasText text = true
  started : ∀ t, job.startedAtEpochSeconds = some t → validEpoch t = true
  completed : ∀ t, job.completedAtEpochSeconds = some t → validEpoch t = true
  attempt : job.attempt ≤ 2 ^ 53
  lastErrorCode : ∀ text, job.lastErrorCode = some text → hasText text = true
  cleanupEvidence : ∀ text, job.cleanupEvidence = some text → hasText text = true
  resultArtifactDigest : ∀ text, job.resultArtifactDigest = some text → isStateDigest text = true

/-- What the parser asks of a state on top of the state check. -/
structure Readable (state : PaasControlState) : Prop where
  revision : state.revision ≤ 2 ^ 53
  lastScheduled : ∀ tenantId, state.lastScheduledTenant = some tenantId → isStateName tenantId = true
  jobs : ∀ id job, state.jobs.get? id = some job → ReadableJob job
  idempotency : ∀ key record, state.idempotency.get? key = some record →
    hasText record.idempotencyKey = true ∧ isHexDigest record.fingerprint = true
  redemptions : ∀ key redemption, state.redeemedCapabilities.get? key = some redemption →
    hasText redemption.capabilityId = true ∧ validEpoch redemption.redeemedAtEpochSeconds = true
  deployments : ∀ key deployment, state.deployments.get? key = some deployment →
    deployment.generation ≤ 2 ^ 53 ∧ validEpoch deployment.updatedAtEpochSeconds = true

theorem PaasJobOperation.text_injective : Function.Injective PaasJobOperation.text := by
  intro a b h
  cases a <;> cases b <;> first | rfl | exact absurd h (by decide)

theorem PaasJobStatus.text_injective : Function.Injective PaasJobStatus.text := by
  intro a b h
  cases a <;> cases b <;> first | rfl | exact absurd h (by decide)

theorem PaasWorkerRole.text_injective : Function.Injective PaasWorkerRole.text := by
  intro a b h
  cases a <;> cases b <;> first | rfl | exact absurd h (by decide)

theorem PaasCancellationReason.text_injective : Function.Injective PaasCancellationReason.text := by
  intro a b h
  cases a <;> cases b <;> first | rfl | exact absurd h (by decide)

theorem PaasIdempotencyAction.text_injective : Function.Injective PaasIdempotencyAction.text := by
  intro a b h
  cases a <;> cases b <;> first | rfl | exact absurd h (by decide)

section
variable (job : PaasControlJob) {field path : String}

/-- The members of a written job. -/
abbrev PaasControlJob.input : List (String × Value) := job.members ++ present job.optionalMembers

theorem PaasControlJob.required : Value.get job.input "id" = .string job.id ∧
    Value.get job.input "tenantId" = .string job.tenantId ∧
    Value.get job.input "operation" = .string job.operation.text ∧
    Value.get job.input "resource" = .string job.resource ∧ Value.get job.input "status" = .string job.status.text ∧
    Value.get job.input "workerRole" = .string job.workerRole.text ∧
    Value.get job.input "idempotencyKey" = .string job.idempotencyKey ∧
    Value.get job.input "createdAtEpochSeconds" = numberValue job.createdAtEpochSeconds ∧
    Value.get job.input "updatedAtEpochSeconds" = numberValue job.updatedAtEpochSeconds ∧
    Value.get job.input "deadlineAtEpochSeconds" = numberValue job.deadlineAtEpochSeconds ∧
    Value.get job.input "attempt" = numberValue job.attempt ∧
    Value.get job.input "maxAttempts" = numberValue job.maxAttempts := by
  simp [PaasControlJob.input, PaasControlJob.members, Value.get_cons]

theorem PaasControlJob.optional {o : Option Value} (h : (field, o) ∈ job.optionalMembers) :
    Value.has job.input field = o.isSome ∧
      Value.get job.input field = o.getD .undefined := by
  refine optional_member ?_ h
  show (["id", "tenantId", "operation", "resource", "status", "workerRole", "idempotencyKey", "createdAtEpochSeconds",
    "updatedAtEpochSeconds", "deadlineAtEpochSeconds", "attempt", "maxAttempts", "sourceRevision", "artifactDigest",
    "capabilityId", "startedAtEpochSeconds", "completedAtEpochSeconds", "lastErrorCode", "cancellationReason",
    "cleanupEvidence", "resultArtifactDigest"] : List String).Nodup
  decide +kernel

theorem PaasControlJob.optional_text {pattern : Option (String → Bool)} {o : Option String}
    (hmem : (field, o.map Value.string) ∈ job.optionalMembers)
    (h : ∀ s, o = some s → hasText s = true ∧ pattern.all (fun p => p s) = true) :
    assignOptionalString job.input field path pattern = .ok o := by
  obtain ⟨hhas, hget⟩ := job.optional hmem
  refine assignOptionalString_of ?_ hget h
  rw [hhas, Option.isSome_map]

theorem PaasControlJob.optional_time {o : Option ℤ} (hmem : (field, o.map numberValue) ∈ job.optionalMembers)
    (h : ∀ t, o = some t → validEpoch t = true) :
    assignOptionalInteger job.input field path = .ok o := by
  obtain ⟨hhas, hget⟩ := job.optional hmem
  refine assignOptionalInteger_of ?_ hget h
  rw [hhas, Option.isSome_map]

theorem PaasControlJob.optional_reason : assignCancellationReason job.input path = .ok job.cancellationReason := by
  have hmem : ("cancellationReason", job.cancellationReason.map fun reason => Value.string reason.text) ∈
      job.optionalMembers := by simp [PaasControlJob.optionalMembers]
  obtain ⟨hhas, hget⟩ := job.optional hmem
  unfold assignCancellationReason
  rw [hhas, hget]
  cases job.cancellationReason with
  | none => rfl
  | some reason =>
    show some <$> stateEnum (.string reason.text) _ PaasCancellationReason.text [.user, .deadline] = _
    rw [stateEnum_text PaasCancellationReason.text_injective (by cases reason <;> simp)]
    rfl

/-- **A readable job that passes the check is read back.** -/
theorem parseStateJob_toValue {job : PaasControlJob} {id : String} (hfields : durableFields id job = true)
    (hcreated : validEpoch job.createdAtEpochSeconds = true) (hupdated : validEpoch job.updatedAtEpochSeconds = true)
    (hdeadline : validEpoch job.deadlineAtEpochSeconds = true) (h : ReadableJob job) :
    parseStateJob job.toValue path = .ok job := by
  simp only [durableFields, Bool.and_eq_true, decide_eq_true_eq] at hfields
  obtain ⟨⟨⟨⟨⟨⟨⟨-, hid⟩, hresource⟩, hkey⟩, hattempt⟩, hmin⟩, hmax⟩, -⟩ := hfields
  obtain ⟨hcreatedValue, hcreatedMin⟩ := numberValue_epoch hcreated
  obtain ⟨hupdatedValue, hupdatedMin⟩ := numberValue_epoch hupdated
  obtain ⟨hdeadlineValue, hdeadlineMin⟩ := numberValue_epoch hdeadline
  have hattemptValue := numberValue_counter hattempt h.attempt
  have hmaxValue : numberValue job.maxAttempts = .number (.int job.maxAttempts) :=
    numberValue_counter (by omega) (by omega)
  have hrevision : ("sourceRevision", job.sourceRevision.map Value.string) ∈ job.optionalMembers := by
    simp [PaasControlJob.optionalMembers]
  have hartifact : ("artifactDigest", job.artifactDigest.map Value.string) ∈ job.optionalMembers := by
    simp [PaasControlJob.optionalMembers]
  have hcapability : ("capabilityId", job.capabilityId.map Value.string) ∈ job.optionalMembers := by
    simp [PaasControlJob.optionalMembers]
  have hstarted : ("startedAtEpochSeconds", job.startedAtEpochSeconds.map numberValue) ∈ job.optionalMembers := by
    simp [PaasControlJob.optionalMembers]
  have hcompleted : ("completedAtEpochSeconds", job.completedAtEpochSeconds.map numberValue) ∈
      job.optionalMembers := by simp [PaasControlJob.optionalMembers]
  have herror : ("lastErrorCode", job.lastErrorCode.map Value.string) ∈ job.optionalMembers := by
    simp [PaasControlJob.optionalMembers]
  have hevidence : ("cleanupEvidence", job.cleanupEvidence.map Value.string) ∈ job.optionalMembers := by
    simp [PaasControlJob.optionalMembers]
  have hresult : ("resultArtifactDigest", job.resultArtifactDigest.map Value.string) ∈ job.optionalMembers := by
    simp [PaasControlJob.optionalMembers]
  obtain ⟨gid, gtenant, goperation, gresource, gstatus, grole, gkey, gcreated, gupdated, gdeadline, gattempt, gmax⟩ :=
    job.required
  unfold parseStateJob
  simp only [bind_ok]
  refine ⟨job.input, stateObject_members, ?_⟩
  simp only [gid, gtenant, goperation, gresource, gstatus, grole, gkey, gcreated, gupdated, gdeadline, gattempt, gmax,
    hcreatedValue, hupdatedValue, hdeadlineValue, hattemptValue, hmaxValue]
  refine ⟨_, statePattern_text (hasText_jobId hid) hid, _, statePattern_text (hasText_stateName h.tenantId) h.tenantId,
    _, stateEnum_text PaasJobOperation.text_injective (by cases job.operation <;> simp),
    _, stateResource_text hresource,
    _, stateEnum_text PaasJobStatus.text_injective (by cases job.status <;> simp),
    _, stateEnum_text PaasWorkerRole.text_injective (by cases job.workerRole <;> simp),
    _, stateString_text hkey, _, stateInteger_number hcreatedMin, _, stateInteger_number hupdatedMin,
    _, stateInteger_number hdeadlineMin, _, stateInteger_number hattempt, _, stateInteger_number hmin,
    _, job.optional_text hrevision ?_, _, job.optional_text hartifact ?_, _, job.optional_text hcapability ?_,
    _, job.optional_time hstarted h.started, _, job.optional_time hcompleted h.completed,
    _, job.optional_text herror ?_, _, job.optional_reason,
    _, job.optional_text hevidence ?_, _, job.optional_text hresult ?_, rfl⟩
  · exact fun s hs => ⟨hasText_sourceRevision (h.sourceRevision s hs), h.sourceRevision s hs⟩
  · exact fun s hs => ⟨hasText_stateDigest (h.artifactDigest s hs), h.artifactDigest s hs⟩
  · exact fun s hs => ⟨h.capabilityId s hs, rfl⟩
  · exact fun s hs => ⟨h.lastErrorCode s hs, rfl⟩
  · exact fun s hs => ⟨h.cleanupEvidence s hs, rfl⟩
  · exact fun s hs => ⟨hasText_stateDigest (h.resultArtifactDigest s hs), h.resultArtifactDigest s hs⟩

end

section
variable {path : String}

theorem parseIdempotencyRecord_toValue {record : PaasIdempotencyRecord} (htenant : isStateName record.tenantId = true)
    (hkey : hasText record.idempotencyKey = true) (hfingerprint : isHexDigest record.fingerprint = true)
    (hjob : isJobId record.jobId = true) : parseIdempotencyRecord record.toValue path = .ok record := by
  unfold parseIdempotencyRecord
  simp only [bind_ok]
  refine ⟨_, stateObject_required, ?_⟩
  simp only [Value.get_cons, String.reduceEq, if_true, if_false]
  exact ⟨_, stateEnum_text PaasIdempotencyAction.text_injective (by cases record.action <;> simp),
    _, statePattern_text (hasText_stateName htenant) htenant, _, stateString_text hkey,
    _, statePattern_text (hasText_hexDigest hfingerprint) hfingerprint,
    _, statePattern_text (hasText_jobId hjob) hjob, rfl⟩

theorem parseCapabilityRedemption_toValue {redemption : PaasCapabilityRedemption}
    (hcapability : hasText redemption.capabilityId = true) (htenant : isStateName redemption.tenantId = true)
    (hjob : isJobId redemption.jobId = true) (hredeemed : validEpoch redemption.redeemedAtEpochSeconds = true) :
    parseCapabilityRedemption redemption.toValue path = .ok redemption := by
  obtain ⟨hvalue, hmin⟩ := numberValue_epoch hredeemed
  unfold parseCapabilityRedemption
  simp only [bind_ok]
  refine ⟨_, stateObject_required, ?_⟩
  simp only [Value.get_cons, String.reduceEq, if_true, if_false, hvalue]
  exact ⟨_, stateString_text hcapability, _, statePattern_text (hasText_stateName htenant) htenant,
    _, statePattern_text (hasText_jobId hjob) hjob, _, stateInteger_number hmin, rfl⟩

theorem parseDeploymentRecord_toValue {deployment : PaasDeploymentRecord} {rt : Runtime}
    {intent : PaasSecurityIntent} {key : String} (h : DeploymentOk rt intent key deployment)
    (htenant : isStateName deployment.tenantId = true) (hjob : isJobId deployment.sourceJobId = true)
    (hgeneration : deployment.generation ≤ 2 ^ 53) (hupdated : validEpoch deployment.updatedAtEpochSeconds = true) :
    parseDeploymentRecord deployment.toValue path = .ok deployment := by
  obtain ⟨hvalue, hmin⟩ := numberValue_epoch hupdated
  have hpositive := h.generation
  have hgenerationValue := numberValue_counter (by omega) hgeneration
  unfold parseDeploymentRecord
  simp only [bind_ok]
  refine ⟨_, stateObject_required, ?_⟩
  simp only [Value.get_cons, String.reduceEq, if_true, if_false, hvalue, hgenerationValue]
  exact ⟨_, statePattern_text (hasText_stateName htenant) htenant, _, stateResource_text h.resource,
    _, statePattern_text (hasText_stateDigest h.active) h.active,
    _, stateStringArray_texts (fun s hs => ⟨hasText_stateDigest (h.previous s hs), h.previous s hs⟩) h.nodup,
    _, stateInteger_number hpositive, _, stateInteger_number hmin, _, statePattern_text (hasText_jobId hjob) hjob, rfl⟩

end

/-! ## Reading a state -/

section
variable {rt : Runtime} {intent : PaasSecurityIntent} {s s' : PaasControlState}

/-- The states have the same fields and list the same records: no program tells them apart. -/
structure SameState (s s' : PaasControlState) : Prop where
  apiVersion : s'.apiVersion = s.apiVersion
  revision : s'.revision = s.revision
  lastScheduled : s'.lastScheduledTenant = s.lastScheduledTenant
  jobs : s'.jobs.entries = s.jobs.entries
  tenantQueues : s'.tenantQueues.entries = s.tenantQueues.entries
  idempotency : s'.idempotency.entries = s.idempotency.entries
  redemptions : s'.redeemedCapabilities.entries = s.redeemedCapabilities.entries
  resourceLocks : s'.resourceLocks.entries = s.resourceLocks.entries
  deployments : s'.deployments.entries = s.deployments.entries

/-- The state with every record rebuilt from its entries. -/
def PaasControlState.relisted (s : PaasControlState) : PaasControlState :=
  { s with
    jobs := s.jobs.relisted
    tenantQueues := s.tenantQueues.relisted
    idempotency := s.idempotency.relisted
    redeemedCapabilities := s.redeemedCapabilities.relisted
    resourceLocks := s.resourceLocks.relisted
    deployments := s.deployments.relisted }

theorem sameState_relisted (s : PaasControlState) : SameState s s.relisted :=
  ⟨rfl, rfl, rfl, Record.entries_relisted, Record.entries_relisted, Record.entries_relisted,
    Record.entries_relisted, Record.entries_relisted, Record.entries_relisted⟩

/-- The check tells no two such states apart. -/
theorem SameState.check (h : SameState s s') : stateInvariantError rt s' intent = stateInvariantError rt s intent := by
  have hjobs := Record.get?_of_entries h.jobs
  have hlocks := Record.get?_of_entries h.resourceLocks
  have hactive : activeJobs s' = activeJobs s := by
    unfold activeJobs Record.values
    rw [h.jobs]
  have hqueue : queueError s' = queueError s := by
    unfold queueError
    rw [hjobs]
  have hjob : jobError rt s' = jobError rt s := by
    unfold jobError
    rw [hlocks]
  have hlock : lockError rt s' = lockError rt s := by
    unfold lockError
    rw [hjobs]
  have hquota : quotaError s' = quotaError s := by
    unfold quotaError
    rw [hactive]
  have hidempotency : idempotencyError rt s' = idempotencyError rt s := by
    unfold idempotencyError
    rw [hjobs]
  have hredemption : redemptionError rt s' = redemptionError rt s := by
    unfold redemptionError
    rw [hjobs]
  have hdeployment : deploymentError rt s' = deploymentError rt s := by
    unfold deploymentError
    rw [hjobs]
  unfold stateInvariantError
  simp only [Record.values, Record.keys, h.apiVersion, h.revision, h.lastScheduled, h.jobs, h.tenantQueues,
    h.idempotency, h.redemptions, h.resourceLocks, h.deployments, hactive, hqueue, hjob, hlock, hquota, hidempotency,
    hredemption, hdeployment]

/-- The id of a job that passes the check. -/
theorem RecordsOk.jobId (h : RecordsOk rt intent s) {id : String} {job : PaasControlJob}
    (hj : s.jobs.get? id = some job) : isJobId id = true := by
  have hfields := h.fields id job hj
  simp only [durableFields, Bool.and_eq_true] at hfields
  rw [h.key_eq hj]
  tauto

/-- **A readable state that passes the check is read back.** -/
theorem parse_toValue (h : Durable rt intent s) (hclock : ClockOk intent s) (hr : Readable s) :
    parsePaasControlState rt s.toValue intent = .ok s.relisted := by
  have hrecords := h.records
  have hrevisionValue := numberValue_counter hrecords.revision hr.revision
  have hjobs : ∀ id job, s.jobs.get? id = some job → ∀ path, parseStateJob job.toValue path = .ok job := by
    intro id job hj path
    obtain ⟨tenant, ht⟩ := find_some.2 (hrecords.tenant id job hj)
    obtain ⟨⟨hcreated, hdeadline⟩, -, -, hupdated, -⟩ := durableTimes_iff.1 ((hclock id job hj).durable tenant ht)
    exact parseStateJob_toValue (hrecords.fields id job hj) hcreated hupdated hdeadline (hr.jobs id job hj)
  have hqueues : ∀ tenantId queue, s.tenantQueues.get? tenantId = some queue → ∀ path,
      stateStringArray (textsValue queue) path true none = .ok queue := by
    intro tenantId queue hqueue path
    refine stateStringArray_texts ?_ (h.queues.nodup tenantId queue hqueue)
    intro id hid
    obtain ⟨job, hj, -⟩ := h.queues.member tenantId queue hqueue id hid
    exact ⟨hasText_jobId (hrecords.jobId hj), rfl⟩
  have hidempotency : ∀ key record, s.idempotency.get? key = some record → ∀ path,
      parseIdempotencyRecord record.toValue path = .ok record := by
    intro key record hget path
    obtain ⟨⟨job, hj, htenant⟩, -⟩ := hrecords.idempotency key record hget
    obtain ⟨hkey, hfingerprint⟩ := hr.idempotency key record hget
    exact parseIdempotencyRecord_toValue (htenant ▸ (hr.jobs _ job hj).tenantId) hkey hfingerprint (hrecords.jobId hj)
  have hredemptions : ∀ key redemption, s.redeemedCapabilities.get? key = some redemption → ∀ path,
      parseCapabilityRedemption redemption.toValue path = .ok redemption := by
    intro key redemption hget path
    obtain ⟨⟨job, hj, htenant⟩, -⟩ := hrecords.redemptions key redemption hget
    obtain ⟨hcapability, hredeemed⟩ := hr.redemptions key redemption hget
    exact parseCapabilityRedemption_toValue hcapability (htenant ▸ (hr.jobs _ job hj).tenantId) (hrecords.jobId hj)
      hredeemed
  have hlocks : ∀ key id, s.resourceLocks.get? key = some id → ∀ path, stateString (.string id) path = .ok id := by
    intro key id hget path
    obtain ⟨job, hj, -⟩ := h.locks.active key id hget
    exact stateString_text (hasText_jobId (hrecords.jobId hj))
  have hdeployments : ∀ key deployment, s.deployments.get? key = some deployment → ∀ path,
      parseDeploymentRecord deployment.toValue path = .ok deployment := by
    intro key deployment hget path
    obtain ⟨hok, job, hj, hsource⟩ := hrecords.deployments key deployment hget
    obtain ⟨hgeneration, hupdated⟩ := hr.deployments key deployment hget
    simp only [isSource, Bool.and_eq_true, beq_iff_eq] at hsource
    exact parseDeploymentRecord_toValue hok (hsource.1.1.2 ▸ (hr.jobs _ job hj).tenantId) (hrecords.jobId hj)
      hgeneration hupdated
  have hlast : nullable stateName (orNull s.lastScheduledTenant) "lastScheduledTenant" = .ok s.lastScheduledTenant := by
    cases hl : s.lastScheduledTenant with
    | none => rfl
    | some tenantId =>
      have hname := hr.lastScheduled tenantId hl
      show (stateName (.string tenantId) "lastScheduledTenant").map some = _
      rw [stateName, statePattern_text (hasText_stateName hname) hname]
      rfl
  have hversion : hasText s.apiVersion = true := by
    rw [hrecords.apiVersion]
    decide
  have hcheck : assertPaasControlState rt s.relisted intent = .ok () := by
    have hok := assert_ok.2 ⟨h, hclock⟩
    unfold assertPaasControlState at hok ⊢
    rwa [(sameState_relisted s).check]
  unfold parsePaasControlState
  simp only [bind_ok]
  refine ⟨_, stateObject_required, ?_⟩
  simp only [Value.get_cons, String.reduceEq, if_true, if_false, hrevisionValue]
  exact ⟨_, stateString_text hversion, (), throwUnless_ok.2 (beq_iff_eq.2 hrecords.apiVersion), _, stateInteger_number hrecords.revision, _, hlast,
    _, stateRecord_value hjobs, _, stateRecord_value hqueues, _, stateRecord_value hidempotency,
    _, stateRecord_value hredemptions, _, stateRecord_value hlocks, _, stateRecord_value hdeployments, (), hcheck, rfl⟩

end

end SecureSaas.Paas
