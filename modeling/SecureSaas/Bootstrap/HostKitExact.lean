import SecureSaas.Bootstrap.HostKit

/-!
# Exactness of the host kit

What was read of an accepted archive is the inventory, path by path. Its names may still be others: one `/` at the end
of a name goes in the normalisation whatever the type of the member is, and tar takes such a name for a directory.

* `memberNames_perm`: **every path of the inventory was read once.**
* `archive_exact_iff`: when an accepted archive is exact.
* `archive_not_exact`: **a file with a `/` at the end of its name is accepted.**
-/

namespace SecureSaas.Bootstrap

open Js Go

/-! ## Names -/

/-- The one spelling of an entry. -/
def HostKitEntry.spelling (entry : HostKitEntry) : Bytes :=
  if !entry.isDirectory then utf8 "./" ++ entry.path
  else if entry.path = dot then utf8 "./"
  else utf8 "./" ++ (entry.path ++ utf8 "/")

/-- The names in an inventory. -/
theorem inventory_names : ∀ entry ∈ hostKitInventory,
    entry.path ≠ [] ∧ (entry.path = dot → entry.isDirectory = true) ∧ entry.path.getLast? ≠ some slash ∧
      (entry.isDirectory = true → entry.spelling.getLast? = some slash ∧
        entry.spelling ∉ [utf8 ".//", utf8 "././"]) ∧
      (entry.isDirectory = false → entry.spelling.getLast? ≠ some slash) := by
  decide

/-- A header whose name ends in a `/` exactly if it is that of a directory. The root is `./`. -/
def CanonicallySpelled (header : TarHeader) : Prop :=
  if header.typeflag = typeDir then header.name.getLast? = some slash ∧ header.name ∉ [utf8 ".//", utf8 "././"]
  else header.name.getLast? ≠ some slash

variable {member : TarMember} {members : List TarMember} {entry : HostKitEntry} {sha256Hex : Bytes → Bytes}
  {archive : HostKitArchive} {value path : Bytes}

/-- What is normalised to a path. -/
theorem normalizeHostKitMember_ok (h : normalizeHostKitMember value = .ok path) :
    (path = dot ∧ value ∈ [utf8 "./", utf8 "./.", utf8 ".//", utf8 "././"]) ∨
      (path ≠ dot ∧ (value = utf8 "./" ++ path ∨ value = utf8 "./" ++ (path ++ utf8 "/"))) := by
  unfold normalizeHostKitMember at h
  split at h
  · cases h
  · rename_i hsafe
    simp only [Bool.or_eq_true, not_or, Bool.not_eq_true', Bool.not_eq_false] at hsafe
    obtain ⟨rest, rfl⟩ := List.isPrefixOf_iff_prefix.1 hsafe.1.1
    rw [trimPrefix_append] at h
    have hcut := trimSuffix_cases (utf8 "/") rest
    simp only at h
    split at h
    · -- nothing is left of the name of the root
      rename_i hempty
      rw [hempty] at hcut
      split at h
      · cases h
      · refine Or.inl ⟨(Except.ok.inj h).symm, ?_⟩
        rcases hcut with rfl | rfl <;> decide
    · split at h
      · cases h
      · have hpath := Except.ok.inj h
        rw [hpath] at hcut
        by_cases hdot : path = dot
        · refine Or.inl ⟨hdot, ?_⟩
          rw [hdot] at hcut
          rcases hcut with rfl | rfl <;> decide
        · exact Or.inr ⟨hdot, hcut.imp (congrArg _) (congrArg _)⟩

theorem Fits.typeflag_iff (h : Fits entry member) : member.header.typeflag = typeDir ↔ entry.isDirectory = true := by
  cases hdirectory : entry.isDirectory with
  | true => exact iff_of_true (h.directory hdirectory).1 rfl
  | false =>
    have htype := (h.file hdirectory).1
    refine iff_of_false (fun heq => ?_) Bool.false_ne_true
    rw [heq] at htype
    exact absurd htype (by decide)

theorem Fits.isFile_eq (h : Fits entry member) : isFile member = !entry.isDirectory := by
  rw [isFile, Bool.eq_iff_iff, bne_iff_ne, Bool.not_eq_true', ← Bool.not_eq_true]
  exact not_congr h.typeflag_iff

theorem memberName_eq (h : normalizeHostKitMember member.header.name = .ok path) : memberName member = path := by
  rw [memberName, h]
  rfl

/-- **A canonically spelled member has the spelling of its entry.** -/
theorem spelling_of_canonical (hentry : entry ∈ hostKitInventory)
    (hname : normalizeHostKitMember member.header.name = .ok entry.path) (hfits : Fits entry member)
    (h : CanonicallySpelled member.header) : member.header.name = entry.spelling := by
  obtain ⟨hne, hroot, hlast, -, -⟩ := inventory_names entry hentry
  have hprefix : (utf8 "./" ++ entry.path).getLast? ≠ some slash := by
    rw [List.getLast?_append_of_ne_nil _ hne]
    exact hlast
  unfold CanonicallySpelled at h
  unfold HostKitEntry.spelling
  cases hdirectory : entry.isDirectory with
  | true =>
    rw [if_pos (hfits.typeflag_iff.2 hdirectory)] at h
    rw [Bool.not_true, if_neg Bool.false_ne_true]
    rcases normalizeHostKitMember_ok hname with ⟨hdot, hvalue⟩ | ⟨hdot, hvalue | hvalue⟩
    · rw [if_pos hdot]
      simp only [List.mem_cons, List.not_mem_nil, or_false, not_or] at hvalue h
      rcases hvalue with hvalue | hvalue | hvalue | hvalue
      · exact hvalue
      · rw [hvalue] at h
        exact absurd h.1 (by decide)
      · exact absurd hvalue h.2.1
      · exact absurd hvalue h.2.2
    · rw [hvalue] at h
      exact absurd h.1 hprefix
    · rw [if_neg hdot]
      exact hvalue
  | false =>
    rw [if_neg fun heq => Bool.false_ne_true (hdirectory ▸ hfits.typeflag_iff.1 heq)] at h
    rw [Bool.not_false, if_pos rfl]
    rcases normalizeHostKitMember_ok hname with ⟨hdot, -⟩ | ⟨-, hvalue | hvalue⟩
    · exact absurd (hroot hdot) (by rw [hdirectory]; exact Bool.false_ne_true)
    · exact hvalue
    · have hnonempty : entry.path ++ utf8 "/" ≠ [] := fun hnil => absurd (List.append_eq_nil_iff.1 hnil).2 (by decide)
      rw [hvalue, List.getLast?_append_of_ne_nil _ hnonempty, List.getLast?_append_of_ne_nil _ (by decide)] at h
      exact absurd rfl h

/-! ## What was read -/

/-- What an accepted archive has passed. -/
theorem validateHostKitArchive_ok {tag revision architecture : Bytes}
    (h : validateHostKitArchive sha256Hex archive tag revision architecture = .ok ()) :
    ∃ state, readMembers { seen := [], contents := [], total := 0 } archive.members = .ok state ∧
      archive.padding.length ≤ hostKitTarPaddingMaximum ∧ (∀ b ∈ archive.padding, b = 0) ∧ archive.trailing = false ∧
        state.seen.length = hostKitInventory.length ∧ validateHostKitChecksums sha256Hex state.contents = .ok () := by
  obtain ⟨⟨⟩, -, hrest⟩ := bind_ok.1 h
  obtain ⟨state, hstate, hrest⟩ := bind_ok.1 hrest
  obtain ⟨⟨⟩, hlength, hrest⟩ := bind_ok.1 hrest
  obtain ⟨⟨⟩, hzero, hrest⟩ := bind_ok.1 hrest
  obtain ⟨⟨⟩, htrailing, hrest⟩ := bind_ok.1 hrest
  obtain ⟨⟨⟩, hseen, hrest⟩ := bind_ok.1 hrest
  obtain ⟨⟨⟩, -, hrest⟩ := bind_ok.1 hrest
  obtain ⟨⟨⟩, -, hrest⟩ := bind_ok.1 hrest
  obtain ⟨⟨⟩, -, hchecksums⟩ := bind_ok.1 hrest
  have hshort : archive.padding.length ≤ hostKitTarPaddingMaximum := by
    have := of_decide_eq_true (ensure_ok.1 hlength)
    rw [List.length_take] at this
    omega
  refine ⟨state, hstate, hshort, fun b hb => ?_, by simpa using ensure_ok.1 htrailing, ?_, hchecksums⟩
  · have hall := List.all_eq_true.1 (ensure_ok.1 hzero)
    rw [List.take_of_length_le (by omega)] at hall
    exact beq_iff_eq.1 (hall b hb)
  · exact (beq_iff_eq.1 (ensure_ok.1 hseen)).trans (by decide)

/-- **Every path of the inventory was read once.** -/
theorem memberNames_perm {tag revision architecture : Bytes}
    (h : validateHostKitArchive sha256Hex archive tag revision architecture = .ok ()) :
    (archive.members.map memberName).Perm (hostKitInventory.map (·.path)) := by
  obtain ⟨state, hstate, -, -, -, hlength, -⟩ := validateHostKitArchive_ok h
  obtain ⟨hmembers, hseen, hnodup, -⟩ := readMembers_ok hstate
  rw [List.nil_append] at hseen
  have hnames : (archive.members.map memberName).Nodup := hseen ▸ hnodup List.nodup_nil
  have hsub : (archive.members.map memberName).Subperm (hostKitInventory.map (·.path)) := by
    refine List.subperm_of_subset hnames fun name hname => ?_
    obtain ⟨member, hmember, rfl⟩ := List.mem_map.1 hname
    obtain ⟨entry, hentry, heq, -⟩ := hmembers member hmember
    rw [memberName_eq heq]
    exact List.mem_map_of_mem hentry
  refine hsub.perm_of_length_le ?_
  rw [← hseen, hlength, List.length_map]

/-- The files that were read are those of the inventory. -/
theorem readContents_perm {tag revision architecture : Bytes}
    (h : validateHostKitArchive sha256Hex archive tag revision architecture = .ok ()) :
    ((readContents archive.members).map Prod.fst).Perm (hostKitFileModes.map Prod.fst) := by
  obtain ⟨state, hstate, -⟩ := validateHostKitArchive_ok h
  obtain ⟨hmembers, -⟩ := readMembers_ok hstate
  -- a member is a file exactly if its path is that of a file
  have hfilter : (readContents archive.members).map Prod.fst =
      (archive.members.map memberName).filter (· ∈ hostKitFileModes.map Prod.fst) := by
    rw [readContents, List.map_map, List.filter_map]
    have hsame : ∀ member ∈ archive.members,
        isFile member = decide (memberName member ∈ hostKitFileModes.map Prod.fst) := by
      intro member hmember
      obtain ⟨entry, hentry, heq, hfits⟩ := hmembers member hmember
      have hkind := (by decide : ∀ entry ∈ hostKitInventory,
        entry.isDirectory = !decide (entry.path ∈ hostKitFileModes.map Prod.fst)) entry hentry
      rw [memberName_eq heq, hfits.isFile_eq, hkind, Bool.not_not]
    exact congrArg (List.map memberName) (List.filter_congr hsame)
  rw [hfilter]
  exact ((memberNames_perm h).filter _).trans (by decide)

/-! ## Exactness -/

/-- What extraction makes of a member. -/
inductive ExtractedNode
  | directory (mode : ℤ)
  | file (mode : ℤ) (content : Bytes)

/-- The components of a path under the directory that the archive is extracted to. -/
def extractedPath (name : Bytes) : List Bytes := (split slash name).filter fun part => part ≠ [] ∧ part ≠ dot

/-- Where tar puts a member, and as what. A name with a `/` at its end is that of a directory. -/
def TarMember.extracted (member : TarMember) : List Bytes × ExtractedNode :=
  (extractedPath member.header.name,
    if member.header.typeflag = typeDir ∨ member.header.name.getLast? = some slash then
      .directory member.header.mode
    else .file member.header.mode member.content)

/-- The node of an entry in the inventoried tree. -/
def HostKitEntry.node (entry : HostKitEntry) (content : Bytes) : List Bytes × ExtractedNode :=
  (extractedPath entry.path, if entry.isDirectory then .directory entry.mode else .file entry.mode content)

def checksumMember : Bytes := utf8 "./SHA256SUMS"

/-- The archive is the inventory, and extracting it yields the inventoried tree. -/
structure ExactArchive (sha256Hex : Bytes → Bytes) (archive : HostKitArchive) : Prop where
  names : (archive.members.map (·.header.name)).Perm (hostKitInventory.map HostKitEntry.spelling)
  members : ∀ member ∈ archive.members, ∃ entry ∈ hostKitInventory,
    member.header.name = entry.spelling ∧ Fits entry member ∧ member.extracted = entry.node member.content
  checksums : ∃ sums ∈ archive.members, sums.header.name = checksumMember ∧ (checksumLines sums.content).Perm
    ((archive.members.filter fun member => isFile member && member.header.name != checksumMember).map fun member =>
      checksumLine sha256Hex (member.header.name.drop 2, member.content))
  padding : archive.padding.length ≤ hostKitTarPaddingMaximum ∧ ∀ b ∈ archive.padding, b = 0
  trailing : archive.trailing = false

/-- The spelling of a path of the inventory. -/
def spellingOf (path : Bytes) : Bytes :=
  ((hostKitInventory.find? fun entry => entry.path = path).map HostKitEntry.spelling).getD []

section
variable {tag revision architecture : Bytes}
  (h : validateHostKitArchive sha256Hex archive tag revision architecture = .ok ())
  (hcanonical : ∀ member ∈ archive.members, CanonicallySpelled member.header)
include h hcanonical

/-- The entry of a member. -/
theorem member_spelled (hmember : member ∈ archive.members) : ∃ entry ∈ hostKitInventory,
    memberName member = entry.path ∧ Fits entry member ∧ member.header.name = entry.spelling := by
  obtain ⟨state, hstate, -⟩ := validateHostKitArchive_ok h
  obtain ⟨hmembers, -⟩ := readMembers_ok hstate
  obtain ⟨entry, hentry, heq, hfits⟩ := hmembers member hmember
  exact ⟨entry, hentry, memberName_eq heq, hfits, spelling_of_canonical hentry heq hfits (hcanonical member hmember)⟩

theorem spellings_perm :
    (archive.members.map (·.header.name)).Perm (hostKitInventory.map HostKitEntry.spelling) := by
  have hperm := (memberNames_perm h).map spellingOf
  have hinventory : (hostKitInventory.map (·.path)).map spellingOf = hostKitInventory.map HostKitEntry.spelling := by
    decide
  rw [hinventory, List.map_map] at hperm
  refine List.Perm.trans (List.Perm.of_eq (List.map_congr_left fun member hmember => ?_)) hperm
  obtain ⟨entry, hentry, hpath, -, hname⟩ := member_spelled h hcanonical hmember
  have hspelling := (by decide : ∀ entry ∈ hostKitInventory, spellingOf entry.path = entry.spelling) entry hentry
  rw [Function.comp_apply, hpath, hspelling, hname]

/-- The name of a file is its path after the first two bytes. -/
theorem fileName_eq (hmember : member ∈ archive.members) (hfile : isFile member = true) :
    member.header.name = utf8 "./" ++ memberName member := by
  obtain ⟨entry, hentry, hpath, hfits, hname⟩ := member_spelled h hcanonical hmember
  rw [hfits.isFile_eq] at hfile
  rw [hname, hpath, HostKitEntry.spelling, if_pos hfile]

/-- The files other than the checksum file, as they were read and in the archive. -/
theorem checkedFiles_eq :
    ((readContents archive.members).filter fun file => file.1 ≠ checksumFile).map (checksumLine sha256Hex) =
      (archive.members.filter fun member => isFile member && member.header.name != checksumMember).map fun member =>
        checksumLine sha256Hex (member.header.name.drop 2, member.content) := by
  rw [readContents, List.filter_map, List.map_map, List.filter_filter]
  have hsame : ∀ member ∈ archive.members,
      (((fun file : Bytes × Bytes => decide (file.1 ≠ checksumFile)) ∘ fun member =>
        (memberName member, member.content)) member && isFile member) =
        (isFile member && member.header.name != checksumMember) := by
    intro member hmember
    cases hfile : isFile member with
    | false => simp
    | true =>
      rw [fileName_eq h hcanonical hmember hfile, Bool.and_true, Bool.true_and, Bool.eq_iff_iff, bne_iff_ne,
        Function.comp_apply, decide_eq_true_iff]
      have hsums : checksumMember = utf8 "./" ++ checksumFile := by decide
      rw [hsums]
      exact not_congr (List.append_right_inj _).symm
  rw [List.filter_congr hsame]
  refine List.map_congr_left fun member hmember => ?_
  obtain ⟨hmem, hfilter⟩ := List.mem_filter.1 hmember
  have hfile := (Bool.and_eq_true_iff.1 hfilter).1
  rw [Function.comp_apply, fileName_eq h hcanonical hmem hfile]
  rfl

/-- **The checksum file lists every other file once, with its digest.** -/
theorem checksums_exact : ∃ sums ∈ archive.members, sums.header.name = checksumMember ∧
    (checksumLines sums.content).Perm
      ((archive.members.filter fun member => isFile member && member.header.name != checksumMember).map fun member =>
        checksumLine sha256Hex (member.header.name.drop 2, member.content)) := by
  obtain ⟨state, hstate, -, -, -, -, hchecksums⟩ := validateHostKitArchive_ok h
  obtain ⟨-, -, -, hcontents⟩ := readMembers_ok hstate
  rw [List.nil_append] at hcontents
  rw [hcontents] at hchecksums
  have hkeys := readContents_perm h
  have hlines := validateHostKitChecksums_ok hkeys hchecksums
  -- the checksum file is among the files that were read
  obtain ⟨file, hfile, hname⟩ := List.mem_map.1 (hkeys.mem_iff.2 (by decide : checksumFile ∈ hostKitFileModes.map Prod.fst))
  obtain ⟨value, hvalue⟩ := Option.isSome_iff_exists.1
    (List.lookup_isSome_iff.2 ⟨file, hfile, beq_iff_eq.2 hname.symm⟩)
  rw [hvalue, Option.getD_some] at hlines
  obtain ⟨before, after, hsplit, -⟩ := List.lookup_eq_some_iff.1 hvalue
  have hread : (checksumFile, value) ∈ readContents archive.members :=
    hsplit ▸ List.mem_append_right _ List.mem_cons_self
  obtain ⟨sums, hsums, heq⟩ := List.mem_map.1 hread
  obtain ⟨hsumsName, rfl⟩ := Prod.mk.inj heq
  obtain ⟨hmember, hsumsFile⟩ := List.mem_filter.1 hsums
  refine ⟨sums, hmember, ?_, hlines.trans (List.Perm.of_eq (checkedFiles_eq h hcanonical))⟩
  rw [fileName_eq h hcanonical hmember hsumsFile, hsumsName]
  decide

end

/-- A member with the spelling of its entry is extracted as the entry. -/
theorem extracted_eq (hentry : entry ∈ hostKitInventory) (hfits : Fits entry member)
    (hname : member.header.name = entry.spelling) : member.extracted = entry.node member.content := by
  have hpath := (by decide : ∀ entry ∈ hostKitInventory, extractedPath entry.spelling = extractedPath entry.path)
    entry hentry
  obtain ⟨-, -, -, -, hfile⟩ := inventory_names entry hentry
  rw [TarMember.extracted, HostKitEntry.node, hname, hpath, hfits.mode]
  cases hdirectory : entry.isDirectory with
  | true => rw [if_pos (Or.inl (hfits.typeflag_iff.2 hdirectory)), if_pos rfl]
  | false =>
    have hother : ¬ (member.header.typeflag = typeDir ∨ entry.spelling.getLast? = some slash) := by
      rintro (htype | hlast)
      · rw [hfits.typeflag_iff, hdirectory] at htype
        cases htype
      · exact hfile hdirectory hlast
    rw [if_neg hother, if_neg Bool.false_ne_true]

/-- **An accepted archive is exact exactly if its members are spelled canonically.** -/
theorem archive_exact_iff (sha256Hex : Bytes → Bytes) (archive : HostKitArchive) (tag revision architecture : Bytes)
    (h : validateHostKitArchive sha256Hex archive tag revision architecture = .ok ()) :
    ExactArchive sha256Hex archive ↔ ∀ member ∈ archive.members, CanonicallySpelled member.header := by
  constructor
  · intro hexact member hmember
    obtain ⟨entry, hentry, hname, hfits, -⟩ := hexact.members member hmember
    obtain ⟨-, -, -, hdirectory, hfile⟩ := inventory_names entry hentry
    rw [CanonicallySpelled, hname]
    split
    · rename_i htype
      exact hdirectory (hfits.typeflag_iff.1 htype)
    · rename_i htype
      exact hfile (Bool.eq_false_iff.2 fun heq => htype (hfits.typeflag_iff.2 heq))
  · intro hcanonical
    obtain ⟨_, -, hlength, hzero, htrailing, -⟩ := validateHostKitArchive_ok h
    refine ⟨spellings_perm h hcanonical, fun member hmember => ?_, checksums_exact h hcanonical, ⟨hlength, hzero⟩,
      htrailing⟩
    obtain ⟨entry, hentry, -, hfits, hname⟩ := member_spelled h hcanonical hmember
    exact ⟨entry, hentry, hname, hfits, extracted_eq hentry hfits hname⟩

/-! ## Another spelling of a file -/

def sampleRelease : Bytes :=
  releaseText (utf8 "v1.2.3") (utf8 "0123456789abcdef0123456789abcdef01234567") (utf8 "amd64")

/-- The digests of the sample files. -/
def sampleSha256Hex (content : Bytes) : Bytes :=
  if content = utf8 "x" then utf8 "2d711642b726b04401627ca9fbac32f5c8530fb1903cc4db02258717921a4881"
  else if content = sampleRelease then utf8 "f24422dff5d400f6e417484cc45664419cc4643d18675339dfbe9660bdf69dca"
  else []

def sampleFile (path : Bytes) : Bytes := if path = utf8 "RELEASE" then sampleRelease else utf8 "x"

def sampleChecksums : Bytes :=
  ((hostKitFileModes.map Prod.fst).filter (· ≠ checksumFile)).flatMap fun path =>
    checksumLine sampleSha256Hex (path, sampleFile path) ++ utf8 "\n"

/-- The member of an entry, under a name. -/
def sampleMember (entry : HostKitEntry) (name : Bytes) : TarMember :=
  let content := if entry.isDirectory then [] else if entry.path = checksumFile then sampleChecksums
    else sampleFile entry.path
  { header := {
      name
      typeflag := if entry.isDirectory then typeDir else typeReg
      linkname := []
      size := content.length
      mode := entry.mode
      uid := 0
      gid := 0
      modTime := 0
      accessTime := zeroTime
      changeTime := zeroTime
      devmajor := 0
      devminor := 0
      xattrs := []
      paxRecords := [] }
    content }

/-- An archive with a name for its release file. -/
def sampleArchive (releaseName : Bytes) : HostKitArchive where
  isRegular := true
  size := 4096
  members := hostKitInventory.map fun entry =>
    sampleMember entry (if entry.path = utf8 "RELEASE" then releaseName else entry.spelling)
  padding := []
  trailing := false

def checkSample (releaseName : Bytes) : Except Failure Unit :=
  validateHostKitArchive sampleSha256Hex (sampleArchive releaseName) (utf8 "v1.2.3")
    (utf8 "0123456789abcdef0123456789abcdef01234567") (utf8 "amd64")

theorem checkSample_ok : (checkSample (utf8 "./RELEASE")).isOk = true ∧ (checkSample (utf8 "./RELEASE/")).isOk = true := by
  decide +kernel

theorem archive_exact_sample : checkSample (utf8 "./RELEASE") = .ok () ∧
    (ExactArchive sampleSha256Hex (sampleArchive (utf8 "./RELEASE")) ↔
      ∀ member ∈ (sampleArchive (utf8 "./RELEASE")).members, CanonicallySpelled member.header) := by
  obtain ⟨⟨⟩, h⟩ := exists_of_isOk checkSample_ok.1
  exact ⟨h, archive_exact_iff _ _ _ _ _ h⟩

/-- **A file with a `/` at the end of its name is accepted.** -/
theorem archive_not_exact : ¬ ∀ (sha256Hex : Bytes → Bytes) (archive : HostKitArchive)
    (tag revision architecture : Bytes),
    validateHostKitArchive sha256Hex archive tag revision architecture = .ok () →
      ExactArchive sha256Hex archive := by
  intro hclaim
  obtain ⟨⟨⟩, h⟩ := exists_of_isOk checkSample_ok.2
  have hexact := hclaim _ _ _ _ _ h
  have hname : utf8 "./RELEASE/" ∈ (sampleArchive (utf8 "./RELEASE/")).members.map (·.header.name) := by
    decide +kernel
  exact absurd (hexact.names.mem_iff.1 hname) (by decide)

end SecureSaas.Bootstrap
