import SecureSaas.Scanner.Passing

/-!
# Exceptions that are not used

A scan remembers the ids of the exceptions it made use of, and reports each supplied exception whose
id is not among them. Exceptions are told apart by the resource and the issue; nothing keeps two of
them from having one id.

* `used_iff`: the ids a passing report lists are those of the exceptions that matched a token use.
* `needed_iff_matched`: where a scan passes, an exception is needed exactly if it matched.
* `exceptions_needed_iff`: passing scans use all exceptions **exactly if** a stale one never shares its
  id with one that matched.
* `stale_exception_passes`: a stale one that does so goes unnoticed.
-/

namespace SecureSaas.Scanner

open Js

variable {rt : Runtime} {parse : YamlParser} {args : ScanArgs} {report : WorkloadTokenScanReport}
  {exception : WorkloadTokenException}

/-- Some document uses a token in a way that is denied unless there is this exception. -/
def Matched (parse : YamlParser) (args : ScanArgs) (exception : WorkloadTokenException) : Prop :=
  ∃ document ∈ allDocuments parse args.sources, exception.key ∈ documentUses document.1

/-- The inputs without the exception. -/
def ScanArgs.without (args : ScanArgs) (exception : WorkloadTokenException) : ScanArgs :=
  { args with exceptions := args.exceptions.filter fun other => other.key ≠ exception.key }

/-- Without the exception the scan does not pass. -/
def Needed (rt : Runtime) (parse : YamlParser) (args : ScanArgs) (exception : WorkloadTokenException) : Prop :=
  ∃ report, scanRenderedWorkloadTokens rt parse (args.without exception) = .ok report ∧ report.pass = false

theorem matched_iff : Matched parse args exception ↔ exception.key ∈ usesOf (allDocuments parse args.sources) :=
  List.mem_flatMap.symm

/-- Whether a scan returns does not depend on the exceptions. -/
theorem scan_without (exception : WorkloadTokenException) (h : scanRenderedWorkloadTokens rt parse args = .ok report) :
    ∃ report', scanRenderedWorkloadTokens rt parse (args.without exception) = .ok report' := by
  unfold scanRenderedWorkloadTokens at h ⊢
  simp only [bind_ok, pure_ok] at h ⊢
  obtain ⟨nowMs, hnow, u, hsome, sources, hsources, -⟩ := h
  exact ⟨_, nowMs, hnow, u, hsome, sources, hsources, rfl⟩

/-- The ids that a passing report lists. -/
theorem used_iff (h : scanRenderedWorkloadTokens rt parse args = .ok report) (hclean : Clean parse args) {id : String} :
    id ∈ report.exceptionsUsed ↔ ∃ exception ∈ args.exceptions, Matched parse args exception ∧ exception.id = id := by
  obtain ⟨sources, hperm, -, hused⟩ := scan_ok h
  have hvalid := (validateExceptions_quiet args.exceptions (initialState (scanTime args))).2
    ⟨rfl, hclean.exceptions, hclean.exceptionKeys, fun _ _ => rfl⟩
  obtain ⟨-, hstart, hget⟩ := validateExceptions_state _ _ hvalid
  have heffect := sources_effect parse sources (validateExceptions args.exceptions (initialState (scanTime args)))
  have huses : (usesOf (allDocuments parse sources)).Perm (usesOf (allDocuments parse args.sources)) :=
    (allDocuments_perm parse hperm).flatMap_right _
  rw [hused, heffect.exceptionsUsed, hstart]
  constructor
  · rintro (hnil | ⟨use, huse, exception, hexception, rfl⟩)
    · exact absurd hnil List.not_mem_nil
    · rcases (hget use exception).1 hexception with hempty | ⟨hmem, rfl⟩
      · cases hempty
      · exact ⟨exception, hmem, matched_iff.2 (huses.mem_iff.1 huse), rfl⟩
  · rintro ⟨exception, hmem, hmatched, rfl⟩
    refine Or.inr ⟨exception.key, huses.mem_iff.2 (matched_iff.1 hmatched), exception, ?_, rfl⟩
    exact (hget _ _).2 (Or.inr ⟨hmem, rfl⟩)

/-- Without an exception that matched nothing the scan still passes; without one that matched its
token use is denied. -/
theorem clean_without_iff (hclean : Clean parse args) :
    Clean parse (args.without exception) ↔ ¬ Matched parse args exception := by
  constructor
  · intro hwithout hmatched
    obtain ⟨other, hother, hkey⟩ := hwithout.excepted _ (matched_iff.1 hmatched)
    exact absurd hkey (of_decide_eq_true (List.mem_filter.1 hother).2)
  · intro hstale
    -- the exceptions whose use is met are all still there
    have hkept : ∀ other ∈ args.exceptions, other.key ∈ usesOf (allDocuments parse args.sources) →
        other ∈ (args.without exception).exceptions := by
      intro other hother huse
      refine List.mem_filter.2 ⟨hother, decide_eq_true ?_⟩
      intro hkey
      exact hstale (matched_iff.2 (hkey ▸ huse))
    constructor
    case exceptions => exact fun other hother => hclean.exceptions other (List.mem_filter.1 hother).1
    case exceptionKeys => exact hclean.exceptionKeys.sublist (List.filter_sublist.map _)
    case parsed => exact hclean.parsed
    case quiet => exact hclean.quiet
    case resourceKeys => exact hclean.resourceKeys
    case excepted =>
      intro use huse
      obtain ⟨other, hother, rfl⟩ := hclean.excepted use huse
      exact ⟨other, hkept other hother huse, rfl⟩
    case used =>
      intro other hother
      obtain ⟨third, hthird, huse, hid⟩ := hclean.used other (List.mem_filter.1 hother).1
      exact ⟨third, hkept third hthird huse, huse, hid⟩

/-- **Where a scan passes, an exception is needed exactly if it matched.** -/
theorem needed_iff_matched (h : scanRenderedWorkloadTokens rt parse args = .ok report) (hclean : Clean parse args) :
    Needed rt parse args exception ↔ Matched parse args exception := by
  obtain ⟨report', h'⟩ := scan_without exception h
  have hpass := pass_iff h'
  rw [clean_without_iff hclean] at hpass
  constructor
  · rintro ⟨report'', h'', hfail⟩
    obtain rfl := Except.ok.inj (h'.symm.trans h'')
    by_contra hstale
    rw [hpass.2 hstale] at hfail
    cases hfail
  · intro hmatched
    refine ⟨report', h', ?_⟩
    rw [← Bool.not_eq_true, hpass]
    exact not_not.2 hmatched

/-- **Passing scans use all exceptions exactly if** one that matched nothing never has the id of one
that did. -/
theorem exceptions_needed_iff (h : scanRenderedWorkloadTokens rt parse args = .ok report) :
    (report.pass = true → (∀ exception ∈ args.exceptions, Matched parse args exception) ∧
      ∀ exception ∈ args.exceptions, exception.id ∈ report.exceptionsUsed → Needed rt parse args exception) ↔
    (Clean parse args → ∀ exception ∈ args.exceptions, ∀ other ∈ args.exceptions, other.id = exception.id →
      Matched parse args other → Matched parse args exception) := by
  rw [pass_iff h]
  constructor
  · intro hall hclean exception hmem other _ _ _
    exact (hall hclean).1 exception hmem
  · intro hshared hclean
    have hmatched : ∀ exception ∈ args.exceptions, Matched parse args exception := by
      intro exception hmem
      obtain ⟨other, hother, huse, hid⟩ := hclean.used exception hmem
      exact hshared hclean exception hmem other hother hid (matched_iff.2 huse)
    exact ⟨hmatched, fun exception hmem _ => (needed_iff_matched h hclean).2 (hmatched exception hmem)⟩

/-! ## A stale exception that passes -/

def builderYaml : String := "apiVersion: v1\nkind: ServiceAccount\nmetadata:\n  name: builder\n"

/-- A service account that mounts its token. -/
def builder : Value := .object [
  ("apiVersion", .string "v1"),
  ("kind", .string "ServiceAccount"),
  ("metadata", .object [("name", .string "builder")])]

def builderParser : YamlParser := fun yaml => if yaml = builderYaml then [⟨[], .ok builder⟩] else []

/-- The exception of a service account. -/
def accountException (id name : String) : WorkloadTokenException where
  id := id
  apiVersion := "v1"
  kind := "ServiceAccount"
  namespaceName := "default"
  name := name
  issue := "service-account-automount"
  reason := "needed until the build moves away"
  approvedBy := "security"
  expiresAt := "2027-01-01T00:00:00Z"

/-- The scan of the account with its exception, and one for an account that is gone. -/
def builderArgs (id : String) : ScanArgs where
  sources := [⟨"rendered/accounts.yaml", builderYaml⟩]
  scannedAt := "2026-07-16T12:00:00Z"
  exceptions := [accountException "builder-token" "builder", accountException id "retired"]

def builderRuntime : Runtime := Runtime.tabulated
  [(builderYaml, "5c3ccdc3fdff4ffcacbd51e26f3a98ce9aaeeb6989cedaff3536ffc90bbe7cee"),
   ("[\x7b\"path\":\"rendered/accounts.yaml\",\"sha256\":\"5c3ccdc3fdff4ffcacbd51e26f3a98ce9aaeeb6989cedaff3536ffc90bbe7cee\"\x7d]",
    "73f02f5710d3652d7f7b4231656cc6c2c0319088b7dcfa6f0e73b01aa65e4553")]
  (fun _ => none)
  (by repeat' first | exact hex_nil | refine hex_cons (by decide +kernel) (by decide +kernel) ?_)

theorem builder_scanned : ∀ id ∈ ["builder-token", "retired-token"], ∃ report,
    scanRenderedWorkloadTokens builderRuntime builderParser (builderArgs id) = .ok report ∧
      (report.pass = true ↔ id = "builder-token") := by
  have hok : ∀ id ∈ ["builder-token", "retired-token"],
      ((scanRenderedWorkloadTokens builderRuntime builderParser (builderArgs id)).map fun report => report.pass) =
        .ok (decide (id = "builder-token")) := by decide +kernel
  intro id hid
  have hrun := hok id hid
  cases hscan : scanRenderedWorkloadTokens builderRuntime builderParser (builderArgs id) with
  | error e =>
    rw [hscan] at hrun
    cases hrun
  | ok report =>
    rw [hscan] at hrun
    have hpass : report.pass = decide (id = "builder-token") := Except.ok.inj hrun
    exact ⟨report, rfl, by rw [hpass, decide_eq_true_iff]⟩

theorem builder_documents (id : String) : allDocuments builderParser (builderArgs id).sources =
    [(builder, ⟨"rendered/accounts.yaml", 0, "$"⟩)] := by
  have hparse : builderParser builderYaml = [⟨[], .ok builder⟩] := if_pos rfl
  have hdocuments : ∀ place, documents builder place = [(builder, place)] := fun place => rfl
  have hmissing : isMissing builder = false := rfl
  simp [allDocuments, builderArgs, sourceDocuments, hparse, yamlDocuments, hmissing, hdocuments]

/-- The exception for the account that is gone matches nothing. -/
theorem retired_stale (id : String) : ¬ Matched builderParser (builderArgs id) (accountException id "retired") := by
  rintro ⟨document, hdocument, huse⟩
  rw [builder_documents, List.mem_singleton] at hdocument
  subst hdocument
  -- the key does not depend on the id
  have hkey : (accountException "retired-token" "retired").key ∈ documentUses builder := huse
  exact absurd hkey (by decide +kernel)

/-- With an id of its own it is reported, so the scan does not pass. -/
theorem exceptions_needed_builder : ∃ report,
    scanRenderedWorkloadTokens builderRuntime builderParser (builderArgs "retired-token") = .ok report ∧
      ((report.pass = true → (∀ exception ∈ (builderArgs "retired-token").exceptions,
          Matched builderParser (builderArgs "retired-token") exception) ∧
        ∀ exception ∈ (builderArgs "retired-token").exceptions, exception.id ∈ report.exceptionsUsed →
          Needed builderRuntime builderParser (builderArgs "retired-token") exception) ↔
      (Clean builderParser (builderArgs "retired-token") → ∀ exception ∈ (builderArgs "retired-token").exceptions,
        ∀ other ∈ (builderArgs "retired-token").exceptions, other.id = exception.id →
          Matched builderParser (builderArgs "retired-token") other →
            Matched builderParser (builderArgs "retired-token") exception)) := by
  obtain ⟨report, hscan, -⟩ := builder_scanned "retired-token" (by decide)
  exact ⟨report, hscan, exceptions_needed_iff hscan⟩

/-- **A stale exception goes unnoticed**: with the id of one that matched it counts as used. -/
theorem stale_exception_passes : ¬ ∀ (rt : Runtime) (parse : YamlParser) (args : ScanArgs)
    (report : WorkloadTokenScanReport), scanRenderedWorkloadTokens rt parse args = .ok report → report.pass = true →
      ∀ exception ∈ args.exceptions, Matched parse args exception := by
  intro hclaim
  obtain ⟨report, hscan, hpass⟩ := builder_scanned "builder-token" (by decide)
  exact retired_stale _ (hclaim _ _ _ report hscan (hpass.2 rfl) _ (List.mem_cons_of_mem _ List.mem_cons_self))

end SecureSaas.Scanner
