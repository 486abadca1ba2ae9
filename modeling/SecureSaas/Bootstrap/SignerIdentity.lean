import SecureSaas.Go.Text
import SecureSaas.Js.Value

/-!
# The account of the signer (`validateDedicatedSignerIdentity`)

The launcher reads the lines of the passwd, shadow and group files. It passes over a passwd line that has not seven
fields and over a group line that has not four, and it compares the numbers of the others as texts.

* `tally_one`: what a loop over the lines that counts one entry has seen.
* `identity_exclusive_iff`: **when the account that was accepted is the signer's alone.**
* `identity_not_exclusive`: an account with the same number in another spelling is passed over.
-/

namespace SecureSaas.Bootstrap

open Js Go

def signerRuntimeAccount : Bytes := utf8 "deus-signer-runtime"

def lines (contents : Bytes) : List Bytes := split (byte '\n') contents

def fields (line : Bytes) : List Bytes := split (byte ':') line

/-- `fields[i]`, empty where the line is too short. -/
def field (i : ℕ) (line : Bytes) : Bytes := (fields line).getD i []

/-! ## The loops -/

/-- A loop over lines. A round fails, or it counts its line or does not. -/
def tally (round : Bytes → Except String Bool) : ℕ → List Bytes → Except String ℕ
  | count, [] => .ok count
  | count, line :: rest => do
    let counted ← round line
    tally round (if counted then count + 1 else count) rest

def accountRound (uid gid : ℤ) (line : Bytes) : Except String Bool :=
  if (fields line).length ≠ 7 ∨ (field 0 line ≠ signerRuntimeAccount ∧ field 2 line ≠ itoa uid) then .ok false
  else if field 0 line ≠ signerRuntimeAccount ∨ field 2 line ≠ itoa uid ∨ field 3 line ≠ itoa gid ∨
      field 5 line ≠ utf8 "/nonexistent" ∨
      (field 6 line ≠ utf8 "/usr/sbin/nologin" ∧ field 6 line ≠ utf8 "/sbin/nologin") then
    .error "signer UID must belong exclusively to the locked non-login deus-signer-runtime account"
  else .ok true

def shadowRound (line : Bytes) : Except String Bool :=
  if field 0 line ≠ signerRuntimeAccount then .ok false
  else if (fields line).length ≠ 9 ∨
      (¬ (utf8 "!").isPrefixOf (field 1 line) ∧ ¬ (utf8 "*").isPrefixOf (field 1 line)) then
    .error "signer shadow account is not password-locked"
  else .ok true

def groupRound (gid : ℤ) (line : Bytes) : Except String Bool :=
  if (fields line).length ≠ 4 then .ok false
  else if signerRuntimeAccount ∈ split (byte ',') (field 3 line) then
    .error "signer account has a forbidden supplementary group"
  else if field 2 line = itoa gid ∨ field 0 line = signerRuntimeAccount then
    if field 0 line ≠ signerRuntimeAccount ∨ field 2 line ≠ itoa gid ∨ field 3 line ≠ [] then
      .error "signer primary group is not exact and empty"
    else .ok true
  else .ok false

def validateDedicatedSignerIdentity (passwd shadow group : Bytes) (uid gid : ℤ) : Except String Unit := do
  let accounts ← tally (accountRound uid gid) 0 (lines passwd)
  throwUnless (accounts == 1) "signer UID/account mapping is not unique"
  let shadowEntries ← tally shadowRound 0 (lines shadow)
  throwUnless (shadowEntries == 1) "signer shadow account is not unique"
  let primaryGroups ← tally (groupRound gid) 0 (lines group)
  throwUnless (primaryGroups == 1) "signer primary group mapping is not unique"

/-! ## What a loop has seen -/

section
variable {round : Bytes → Except String Bool}

theorem tally_zero : ∀ {ls : List Bytes} {count : ℕ}, tally round count ls = .ok count →
    ∀ line ∈ ls, round line = .ok false := by
  -- a count never falls, so that no line was counted
  have hmono : ∀ (ls : List Bytes) (count total : ℕ), tally round count ls = .ok total → count ≤ total := by
    intro ls
    induction ls with
    | nil =>
      intro count total h
      exact (Except.ok.inj h).le
    | cons line rest ih =>
      intro count total h
      obtain ⟨counted, -, h⟩ := bind_ok.1 h
      have hle := ih _ _ h
      split at hle <;> omega
  intro ls
  induction ls with
  | nil => exact fun _ _ h => absurd h List.not_mem_nil
  | cons line rest ih =>
    intro count h
    obtain ⟨counted, hround, h⟩ := bind_ok.1 h
    cases counted with
    | true =>
      have hle := hmono _ _ _ h
      rw [if_pos rfl] at hle
      omega
    | false =>
      rw [if_neg Bool.false_ne_true] at h
      exact List.forall_mem_cons.2 ⟨hround, ih h⟩

/-- **A loop that counts one entry** passed over all other lines. -/
theorem tally_one {ls : List Bytes} (h : tally round 0 ls = .ok 1) : ∃ before entry after,
    ls = before ++ entry :: after ∧ round entry = .ok true ∧ ∀ line ∈ before ++ after, round line = .ok false := by
  induction ls with
  | nil => cases h
  | cons line rest ih =>
    obtain ⟨counted, hround, h⟩ := bind_ok.1 h
    cases counted with
    | true =>
      rw [if_pos rfl, zero_add] at h
      exact ⟨[], line, rest, rfl, hround, tally_zero h⟩
    | false =>
      rw [if_neg Bool.false_ne_true] at h
      obtain ⟨before, entry, after, rfl, hentry, hothers⟩ := ih h
      exact ⟨line :: before, entry, after, rfl, hentry, List.forall_mem_cons.2 ⟨hround, hothers⟩⟩

end

variable {passwd shadow group line : Bytes} {uid gid : ℤ}

theorem accountRound_true (h : accountRound uid gid line = .ok true) : (fields line).length = 7 ∧
    field 0 line = signerRuntimeAccount ∧ field 2 line = itoa uid ∧ field 3 line = itoa gid := by
  unfold accountRound at h
  split at h
  · cases Except.ok.inj h
  · rename_i hentry
    split at h
    · cases h
    · rename_i hexact
      simp only [not_or, not_not] at hentry hexact
      exact ⟨hentry.1, hexact.1, hexact.2.1, hexact.2.2.1⟩

theorem accountRound_false (h : accountRound uid gid line = .ok false) :
    (fields line).length = 7 → field 0 line ≠ signerRuntimeAccount ∧ field 2 line ≠ itoa uid := by
  unfold accountRound at h
  split at h
  · rename_i hother
    exact fun hlength => hother.resolve_left fun hne => hne hlength
  · split at h <;> cases h

theorem groupRound_true (h : groupRound gid line = .ok true) : (fields line).length = 4 ∧
    field 0 line = signerRuntimeAccount ∧ field 2 line = itoa gid ∧ field 3 line = [] := by
  unfold groupRound at h
  split at h
  · cases Except.ok.inj h
  · rename_i hlength
    split at h
    · cases h
    · split at h
      · split at h
        · cases h
        · rename_i hexact
          simp only [not_or, not_not] at hexact
          exact ⟨not_not.1 hlength, hexact⟩
      · cases Except.ok.inj h

theorem groupRound_false (h : groupRound gid line = .ok false) : (fields line).length = 4 →
    signerRuntimeAccount ∉ split (byte ',') (field 3 line) ∧ field 2 line ≠ itoa gid ∧
      field 0 line ≠ signerRuntimeAccount := by
  intro hlength
  unfold groupRound at h
  rw [if_neg (not_not.2 hlength)] at h
  split at h
  · cases h
  · rename_i hmember
    split at h
    · split at h <;> cases h
    · rename_i hother
      exact ⟨hmember, not_or.1 hother⟩

/-- What was seen of the accounts and the groups of an accepted signer. -/
theorem validateDedicatedSignerIdentity_ok
    (h : validateDedicatedSignerIdentity passwd shadow group uid gid = .ok ()) :
    tally (accountRound uid gid) 0 (lines passwd) = .ok 1 ∧ tally (groupRound gid) 0 (lines group) = .ok 1 := by
  obtain ⟨accounts, haccounts, hrest⟩ := bind_ok.1 h
  obtain ⟨⟨⟩, hone, hrest⟩ := bind_ok.1 hrest
  obtain ⟨shadowEntries, -, hrest⟩ := bind_ok.1 hrest
  obtain ⟨⟨⟩, -, hrest⟩ := bind_ok.1 hrest
  obtain ⟨groups, hgroups, hlast⟩ := bind_ok.1 hrest
  have haccount : accounts = 1 := beq_iff_eq.1 (throwUnless_ok.1 hone)
  have hgroup : groups = 1 := beq_iff_eq.1 (throwUnless_ok.1 hlast)
  exact ⟨haccount ▸ haccounts, hgroup ▸ hgroups⟩

/-! ## What the entries of a line say -/

/-- A number of a line, however it is spelled. -/
def number (i : ℕ) (line : Bytes) : Option ℤ := integer (field i line)

/-- The members that a group line lists. -/
def members (line : Bytes) : List Bytes := (split (byte ',') (field 3 line)).filter (· ≠ [])

/-- The signer's own group lists nobody, and no other group lists the signer. -/
def ListsNoSigner (line : Bytes) : Prop :=
  if field 0 line = signerRuntimeAccount then members line = [] else signerRuntimeAccount ∉ members line

/-- The numbers of the signer are those of its own two entries only. A line is read as far as it goes. -/
structure Exclusive (passwd group : Bytes) (uid gid : ℤ) : Prop where
  account : ∃ before signer after, lines passwd = before ++ signer :: after ∧
    field 0 signer = signerRuntimeAccount ∧ number 2 signer = some uid ∧ number 3 signer = some gid ∧
      ∀ line ∈ before ++ after, number 2 line ≠ some uid ∧ number 3 line ≠ some gid
  ownGroup : ∃ before own after, lines group = before ++ own :: after ∧
    field 0 own = signerRuntimeAccount ∧ number 2 own = some gid ∧ ∀ line ∈ before ++ after, number 2 line ≠ some gid
  listed : ∀ line ∈ lines group, ListsNoSigner line

/-- No line that the loops pass over has a number of the signer, or lists the signer. -/
structure NothingHidden (passwd group : Bytes) (uid gid : ℤ) : Prop where
  skipped : ∀ line ∈ lines passwd, (fields line).length ≠ 7 → number 2 line ≠ some uid ∧ number 3 line ≠ some gid
  spelled : ∀ line ∈ lines passwd, (fields line).length = 7 → number 2 line = some uid → field 2 line = itoa uid
  primary : ∀ line ∈ lines passwd, (fields line).length = 7 → field 0 line ≠ signerRuntimeAccount →
    number 3 line ≠ some gid
  groupSkipped : ∀ line ∈ lines group, (fields line).length ≠ 4 → number 2 line ≠ some gid ∧ ListsNoSigner line
  groupSpelled : ∀ line ∈ lines group, (fields line).length = 4 → number 2 line = some gid → field 2 line = itoa gid

theorem number_eq_some {i : ℕ} {n : ℤ} (h : field i line = itoa n) : number i line = some n := by
  rw [number, h, integer_itoa]

/-- An entry is the one in the middle or one of the others. -/
theorem mem_middle {before after : List Bytes} {entry : Bytes} :
    line ∈ before ++ entry :: after ↔ line = entry ∨ line ∈ before ++ after := by
  simp only [List.mem_append, List.mem_cons]
  tauto

/-- **The account that was accepted is the signer's alone exactly if nothing is hidden in a line that is passed over.** -/
theorem identity_exclusive_iff (passwd shadow group : Bytes) (uid gid : ℤ)
    (h : validateDedicatedSignerIdentity passwd shadow group uid gid = .ok ()) :
    Exclusive passwd group uid gid ↔ NothingHidden passwd group uid gid := by
  obtain ⟨haccounts, hgroups⟩ := validateDedicatedSignerIdentity_ok h
  obtain ⟨before, entry, after, hlines, hentry, hothers⟩ := tally_one haccounts
  obtain ⟨before', own, after', hlines', hown, hothers'⟩ := tally_one hgroups
  obtain ⟨hlength, hname, huid, hgid⟩ := accountRound_true hentry
  obtain ⟨hlength', hname', hgid', hmembers'⟩ := groupRound_true hown
  have hentryMem : entry ∈ lines passwd := hlines ▸ mem_middle.2 (Or.inl rfl)
  have hownMem : own ∈ lines group := hlines' ▸ mem_middle.2 (Or.inl rfl)
  constructor
  · rintro ⟨⟨_, signer, _, hsplit, hsigner, hsignerUid, -, hrest⟩, ⟨_, signerGroup, _, hsplit', -, -, hrest'⟩, hlists⟩
    -- the line that was counted is the one that the others differ from
    have hsame : entry = signer := by
      rcases mem_middle.1 (hsplit ▸ hentryMem) with heq | hmem
      · exact heq
      · exact absurd (number_eq_some huid) (hrest entry hmem).1
    have hsame' : own = signerGroup := by
      rcases mem_middle.1 (hsplit' ▸ hownMem) with heq | hmem
      · exact heq
      · exact absurd (number_eq_some hgid') (hrest' own hmem)
    refine ⟨fun line hline hskipped => ?_, fun line hline _ hnumber => ?_, fun line hline _ hother => ?_,
      fun line hline hskipped => ⟨?_, hlists line hline⟩, fun line hline _ hnumber => ?_⟩
    · rcases mem_middle.1 (hsplit ▸ hline) with rfl | hmem
      · exact absurd (hsame ▸ hlength) hskipped
      · exact hrest line hmem
    · rcases mem_middle.1 (hsplit ▸ hline) with rfl | hmem
      · exact hsame ▸ huid
      · exact absurd hnumber (hrest line hmem).1
    · rcases mem_middle.1 (hsplit ▸ hline) with rfl | hmem
      · exact absurd hsigner hother
      · exact (hrest line hmem).2
    · rcases mem_middle.1 (hsplit' ▸ hline) with rfl | hmem
      · exact absurd (hsame' ▸ hlength') hskipped
      · exact hrest' line hmem
    · rcases mem_middle.1 (hsplit' ▸ hline) with rfl | hmem
      · exact hsame' ▸ hgid'
      · exact absurd hnumber (hrest' line hmem)
  · intro hhidden
    refine ⟨⟨before, entry, after, hlines, hname, number_eq_some huid, number_eq_some hgid, fun line hline => ?_⟩,
      ⟨before', own, after', hlines', hname', number_eq_some hgid', fun line hline => ?_⟩, fun line hline => ?_⟩
    · have hmem : line ∈ lines passwd := hlines ▸ mem_middle.2 (Or.inr hline)
      by_cases hseven : (fields line).length = 7
      · obtain ⟨hother, htext⟩ := accountRound_false (hothers line hline) hseven
        exact ⟨fun hnumber => htext (hhidden.spelled line hmem hseven hnumber),
          hhidden.primary line hmem hseven hother⟩
      · exact hhidden.skipped line hmem hseven
    · have hmem : line ∈ lines group := hlines' ▸ mem_middle.2 (Or.inr hline)
      by_cases hfour : (fields line).length = 4
      · obtain ⟨-, htext, -⟩ := groupRound_false (hothers' line hline) hfour
        exact fun hnumber => htext (hhidden.groupSpelled line hmem hfour hnumber)
      · exact (hhidden.groupSkipped line hmem hfour).1
    · rcases mem_middle.1 (hlines' ▸ hline) with rfl | hmem
      · rw [ListsNoSigner, if_pos hname', members, hmembers']
        decide
      · by_cases hfour : (fields line).length = 4
        · obtain ⟨hmember, -, hother⟩ := groupRound_false (hothers' line hmem) hfour
          rw [ListsNoSigner, if_neg hother, members]
          exact fun hin => hmember (List.mem_of_mem_filter hin)
        · exact (hhidden.groupSkipped line hline hfour).2

/-! ## Another spelling -/

def signerEntry : String := "deus-signer-runtime:x:993:993::/nonexistent:/usr/sbin/nologin\n"

/-- The files of a host, with more lines in the passwd file. -/
def identityCheck (more : String) : Except String Unit :=
  validateDedicatedSignerIdentity (utf8 (signerEntry ++ more)) (utf8 "deus-signer-runtime:!:1:0:99999:7:::\n")
    (utf8 "deus-signer-runtime:x:993:\n") 993 993

def aliasEntry : String := "attacker:x:0993:100::/home/attacker:/bin/bash\n"

theorem identityCheck_ok : identityCheck "" = .ok () ∧ identityCheck aliasEntry = .ok () := by
  constructor <;> rfl

theorem identity_exclusive_sample :
    Exclusive (utf8 (signerEntry ++ "")) (utf8 "deus-signer-runtime:x:993:\n") 993 993 ↔
      NothingHidden (utf8 (signerEntry ++ "")) (utf8 "deus-signer-runtime:x:993:\n") 993 993 :=
  identity_exclusive_iff _ _ _ _ _ identityCheck_ok.1

/-- **An account with the same number in another spelling is passed over.** -/
theorem identity_not_exclusive : ¬ ∀ (passwd shadow group : Bytes) (uid gid : ℤ),
    validateDedicatedSignerIdentity passwd shadow group uid gid = .ok () → Exclusive passwd group uid gid := by
  intro hclaim
  obtain ⟨_, signer, _, hsplit, hsigner, -, -, hrest⟩ := (hclaim _ _ _ _ _ identityCheck_ok.2).account
  have halias : utf8 "attacker:x:0993:100::/home/attacker:/bin/bash" ∈ lines (utf8 (signerEntry ++ aliasEntry)) := by
    decide +kernel
  rcases mem_middle.1 (hsplit ▸ halias) with heq | hmem
  · rw [← heq] at hsigner
    exact absurd hsigner (by decide +kernel)
  · exact absurd (by decide +kernel) (hrest _ hmem).1

end SecureSaas.Bootstrap
