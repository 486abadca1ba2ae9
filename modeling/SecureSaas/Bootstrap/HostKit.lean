import SecureSaas.Go.Path
import SecureSaas.Js.Parse

/-!
# The archive of the host kit (`validateHostKitArchive`)

The members of the tar stream are compared with an inventory of files and directories. Member names are
normalised first: `./` at their start goes, and so does one `/` at their end.

* `readMember_ok`: what one accepted member is.
* `readMembers_ok`: **what all accepted members are.**
* `validateHostKitChecksums_ok`: the lines of an accepted checksum file.
-/

namespace SecureSaas.Bootstrap

open Js Go

/-! ## Inventory -/

def hostKitArchiveMaximumSize : ℕ := 100 * 1024 * 1024

def hostKitTarPaddingMaximum : ℕ := 20 * 512

def hostKitFileModes : List (Bytes × ℤ) := [
  (utf8 "RELEASE", 0o444),
  (utf8 "SHA256SUMS", 0o444),
  (utf8 "deus-aws-bootstrap", 0o555),
  (utf8 "management-seed-source-manifest.json", 0o444),
  (utf8 "scripts/bootstrap-signing-stage0.mjs", 0o444),
  (utf8 "scripts/credentialed-bootstrap-stage1.mjs", 0o444),
  (utf8 "scripts/install-bootstrap-runtime", 0o555),
  (utf8 "scripts/write-bootstrap-runtime-provenance.mjs", 0o444),
  (utf8 "security/bootstrap-host-toolchain.json", 0o444),
  (utf8 "security/bootstrap-qualification-trust.json", 0o444)]

def hostKitDirectoryModes : List (Bytes × ℤ) := [
  (utf8 ".", 0o755),
  (utf8 "scripts", 0o755),
  (utf8 "security", 0o755)]

def checksumFile : Bytes := utf8 "SHA256SUMS"

/-! ## Members -/

def typeReg : UInt8 := byte '0'

def typeRegA : UInt8 := 0

def typeDir : UInt8 := byte '5'

/-- A moment in nanoseconds after the Unix epoch. -/
abbrev Time := ℤ

/-- The zero value of a time, the first of January of the year 1. -/
def zeroTime : Time := -62135596800000000000

/-- What is read of a `tar.Header`. -/
structure TarHeader where
  name : Bytes
  typeflag : UInt8
  linkname : Bytes
  size : ℤ
  mode : ℤ
  uid : ℤ
  gid : ℤ
  modTime : Time
  accessTime : Time
  changeTime : Time
  devmajor : ℤ
  devminor : ℤ
  xattrs : List (Bytes × Bytes)
  paxRecords : List (Bytes × Bytes)

/-- A header and the content that is read after it. -/
structure TarMember where
  header : TarHeader
  content : Bytes

/-- What the archive file is, the members of its tar stream, what the stream has after its end marker, and whether
anything follows the stream. -/
structure HostKitArchive where
  isRegular : Bool
  size : ℤ
  members : List TarMember
  padding : Bytes
  trailing : Bool

def normalizeHostKitMember (value : Bytes) : Except Failure Bytes :=
  if !(utf8 "./").isPrefixOf value || value.contains (byte '\\') || value.contains 0 then
    .error { format := "unsafe archive member" }
  else
    let trimmed := trimSuffix (utf8 "/") (trimPrefix (utf8 "./") value)
    let cleaned := if trimmed = [] then dot else trimmed
    if cleaned ≠ dot && (!isLocal cleaned || clean cleaned ≠ cleaned) then
      .error { format := "unsafe archive member" }
    else .ok cleaned

/-- The fields that no member may use. -/
def safeMetadata (header : TarHeader) : Bool :=
  header.uid == 0 && header.gid == 0 && header.linkname == [] && header.devmajor == 0 && header.devminor == 0 &&
    header.paxRecords == [] && header.xattrs == [] && header.modTime == 0 && header.accessTime == zeroTime &&
    header.changeTime == zeroTime

/-- What the loop has read. -/
structure HostKitState where
  seen : List Bytes
  contents : List (Bytes × Bytes)
  total : ℤ

/-- One round of the loop over the members. -/
def readMember (state : HostKitState) (member : TarMember) : Except Failure HostKitState :=
  let header := member.header
  match normalizeHostKitMember header.name with
  | .error _ =>
    .error { format := "host-kit archive contains an unsafe or duplicate member %q", arguments := [header.name] }
  | .ok name => do
    ensure (!state.seen.contains name)
      { format := "host-kit archive contains an unsafe or duplicate member %q", arguments := [header.name] }
    ensure (safeMetadata header) { format := "host-kit member metadata is unsafe at %s", arguments := [name] }
    match hostKitDirectoryModes.lookup name with
    | some mode =>
      ensure (header.typeflag == typeDir && header.size == 0 && header.mode == mode)
        { format := "host-kit directory metadata differs at %s", arguments := [name] }
      return { state with seen := state.seen ++ [name] }
    | none =>
      ensure ((hostKitFileModes.lookup name).any fun mode =>
          (header.typeflag == typeReg || header.typeflag == typeRegA) && header.mode == mode &&
            decide (0 < header.size) && decide (header.size ≤ hostKitArchiveMaximumSize))
        { format := "host-kit archive contains an unexpected or unsafe file at %s", arguments := [name] }
      ensure (decide (state.total + header.size ≤ hostKitArchiveMaximumSize))
        { format := "host-kit expanded contents exceed the byte budget" }
      let value := member.content.take (hostKitArchiveMaximumSize + 1)
      ensure ((value.length : ℤ) == header.size)
        { format := "host-kit member changed or truncated at %s", arguments := [name] }
      return {
        seen := state.seen ++ [name]
        contents := state.contents ++ [(name, value)]
        total := state.total + header.size }

def readMembers : HostKitState → List TarMember → Except Failure HostKitState
  | state, [] => .ok state
  | state, member :: rest => do
    let state ← readMember state member
    readMembers state rest

/-! ## Checksums -/

/-- A string of lower-case hexadecimal digits. A byte from U+0080 on is no such digit, nor is the character it is
part of. -/
def lowerHex (value : Bytes) : Bool :=
  !value.isEmpty && value.all fun b => decide (48 ≤ b ∧ b ≤ 57) || decide (97 ≤ b ∧ b ≤ 102)

/-- One round of the loop over the lines, with the names of those before. -/
def checksumRound (sha256Hex : Bytes → Bytes) (contents : List (Bytes × Bytes)) (seen : List Bytes) (line : Bytes) :
    Except Failure (List Bytes) := do
  ensure (decide (67 ≤ line.length) && (line.drop 64).take 2 == utf8 "  " && lowerHex (line.take 64))
    { format := "host-kit checksum line is malformed" }
  let name := line.drop 66
  ensure ((contents.lookup name).isSome && name != checksumFile && !seen.contains name)
    { format := "host-kit checksum inventory contains an unexpected path" }
  ensure (sha256Hex ((contents.lookup name).getD []) == line.take 64)
    { format := "host-kit checksum differs at %s", arguments := [name] }
  return seen ++ [name]

def checksumLoop (sha256Hex : Bytes → Bytes) (contents : List (Bytes × Bytes)) :
    List Bytes → List Bytes → Except Failure (List Bytes)
  | seen, [] => .ok seen
  | seen, line :: rest => do
    let seen ← checksumRound sha256Hex contents seen line
    checksumLoop sha256Hex contents seen rest

def checksumLines (contents : Bytes) : List Bytes := split (byte '\n') (trimSuffix (utf8 "\n") contents)

def validateHostKitChecksums (sha256Hex : Bytes → Bytes) (contents : List (Bytes × Bytes)) :
    Except Failure Unit := do
  let names := (hostKitFileModes.map Prod.fst).filter (· ≠ checksumFile)
  let lines := checksumLines ((contents.lookup checksumFile).getD [])
  ensure (lines.length == names.length) { format := "host-kit checksum inventory is not exact" }
  let seen ← checksumLoop sha256Hex contents [] lines
  ensure (seen.length == names.length) { format := "host-kit checksum inventory is incomplete" }

/-! ## The archive -/

def releaseText (tag revision architecture : Bytes) : Bytes :=
  utf8 "releaseTag=" ++ tag ++ utf8 "\nsourceRevision=" ++ revision ++ utf8 "\narchitecture=" ++ architecture ++
    utf8 "\n"

def validateHostKitArchive (sha256Hex : Bytes → Bytes) (archive : HostKitArchive)
    (tag revision architecture : Bytes) : Except Failure Unit := do
  ensure (archive.isRegular && decide (0 < archive.size) && decide (archive.size ≤ hostKitArchiveMaximumSize))
    { format := "host-kit archive must be a bounded direct regular file" }
  let state ← readMembers { seen := [], contents := [], total := 0 } archive.members
  let padding := archive.padding.take (hostKitTarPaddingMaximum + 1)
  ensure (decide (padding.length ≤ hostKitTarPaddingMaximum)) { format := "host-kit tar padding exceeds one record" }
  ensure (padding.all (· == 0)) { format := "host-kit tar has non-zero content after its end marker" }
  ensure (!archive.trailing) { format := "host-kit archive has trailing compressed content" }
  ensure (state.seen.length == hostKitFileModes.length + hostKitDirectoryModes.length)
    { format := "host-kit archive member inventory is incomplete" }
  hostKitFileModes.forM fun file =>
    ensure (state.seen.contains file.1) { format := "host-kit archive lacks %s", arguments := [file.1] }
  hostKitDirectoryModes.forM fun directory =>
    ensure (state.seen.contains directory.1)
      { format := "host-kit archive lacks directory %s", arguments := [directory.1] }
  ensure ((state.contents.lookup (utf8 "RELEASE")).getD [] == releaseText tag revision architecture)
    { format := "host-kit RELEASE identity differs from the approved release" }
  validateHostKitChecksums sha256Hex state.contents

/-! ## What an accepted member is -/

/-- An entry of the inventory. -/
structure HostKitEntry where
  path : Bytes
  isDirectory : Bool
  mode : ℤ
deriving DecidableEq

def hostKitInventory : List HostKitEntry :=
  hostKitDirectoryModes.map (fun directory => ⟨directory.1, true, directory.2⟩) ++
    hostKitFileModes.map (fun file => ⟨file.1, false, file.2⟩)

/-- A member has the type, the mode, the owner and the time of its entry, and the content that its header announces. -/
structure Fits (entry : HostKitEntry) (member : TarMember) : Prop where
  directory : entry.isDirectory = true → member.header.typeflag = typeDir ∧ member.header.size = 0
  file : entry.isDirectory = false → (member.header.typeflag = typeReg ∨ member.header.typeflag = typeRegA) ∧
    0 < member.header.size ∧ member.header.size = member.content.length
  mode : member.header.mode = entry.mode
  metadata : safeMetadata member.header = true

variable {member : TarMember} {members : List TarMember} {state final : HostKitState} {name : Bytes}
  {sha256Hex : Bytes → Bytes}

def isFile (member : TarMember) : Bool := member.header.typeflag != typeDir

/-- The name of a member that was read. -/
def memberName (member : TarMember) : Bytes := ((normalizeHostKitMember member.header.name).toOption).getD []

/-- A member that was read is one of the inventory, under a name that is normalised to its path. -/
def Inventoried (member : TarMember) : Prop :=
  ∃ entry ∈ hostKitInventory, normalizeHostKitMember member.header.name = .ok entry.path ∧ Fits entry member

theorem directory_of_lookup {mode : ℤ} (h : hostKitDirectoryModes.lookup name = some mode) :
    (⟨name, true, mode⟩ : HostKitEntry) ∈ hostKitInventory := by
  obtain ⟨before, after, heq, -⟩ := List.lookup_eq_some_iff.1 h
  have hmem : (name, mode) ∈ hostKitDirectoryModes := heq ▸ List.mem_append_right _ List.mem_cons_self
  exact List.mem_append_left _ (List.mem_map.2 ⟨_, hmem, rfl⟩)

theorem file_of_lookup {mode : ℤ} (h : hostKitFileModes.lookup name = some mode) :
    (⟨name, false, mode⟩ : HostKitEntry) ∈ hostKitInventory := by
  obtain ⟨before, after, heq, -⟩ := List.lookup_eq_some_iff.1 h
  have hmem : (name, mode) ∈ hostKitFileModes := heq ▸ List.mem_append_right _ List.mem_cons_self
  exact List.mem_append_right _ (List.mem_map.2 ⟨_, hmem, rfl⟩)

/-- The files among the members that were read, under their names. -/
def readContents (members : List TarMember) : List (Bytes × Bytes) :=
  (members.filter isFile).map fun member => (memberName member, member.content)

/-- **One accepted member.** -/
theorem readMember_ok (h : readMember state member = .ok final) :
    Inventoried member ∧ memberName member ∉ state.seen ∧ final.seen = state.seen ++ [memberName member] ∧
      final.contents = state.contents ++ readContents [member] := by
  unfold readMember at h
  simp only at h
  split at h
  · cases h
  · rename_i name hname
    have hmember : memberName member = name := by
      rw [memberName, hname]
      rfl
    obtain ⟨⟨⟩, hseen, h⟩ := bind_ok.1 h
    obtain ⟨⟨⟩, hsafe, h⟩ := bind_ok.1 h
    have hseen : name ∉ state.seen := by simpa using ensure_ok.1 hseen
    have hsafe := ensure_ok.1 hsafe
    split at h
    · rename_i mode hmode
      obtain ⟨⟨⟩, hfits, h⟩ := bind_ok.1 h
      obtain rfl := pure_ok.1 h
      have hfits := ensure_ok.1 hfits
      simp only [Bool.and_eq_true, beq_iff_eq] at hfits
      obtain ⟨⟨htype, hsize⟩, hmodes⟩ := hfits
      refine ⟨⟨_, directory_of_lookup hmode, hname, fun _ => ⟨htype, hsize⟩, fun hne => ?_, hmodes, hsafe⟩,
        hmember ▸ hseen, by rw [hmember], ?_⟩
      · cases hne
      · -- a directory has no content
        simp [readContents, isFile, htype]
    · obtain ⟨⟨⟩, hfits, h⟩ := bind_ok.1 h
      obtain ⟨⟨⟩, -, h⟩ := bind_ok.1 h
      obtain ⟨⟨⟩, hlength, h⟩ := bind_ok.1 h
      obtain rfl := pure_ok.1 h
      obtain ⟨mode, hmode, hfits⟩ := (Option.any_eq_true _ _).1 (ensure_ok.1 hfits)
      simp only [Bool.and_eq_true, Bool.or_eq_true, beq_iff_eq, decide_eq_true_eq] at hfits
      obtain ⟨⟨⟨htype, hmodes⟩, hpositive⟩, hmaximum⟩ := hfits
      have hlength : (((member.content.take (hostKitArchiveMaximumSize + 1)).length : ℕ) : ℤ) = member.header.size :=
        beq_iff_eq.1 (ensure_ok.1 hlength)
      -- the content is within the limit, so that all of it was read
      have hshort : member.content.length < hostKitArchiveMaximumSize + 1 := by
        rw [List.length_take] at hlength
        omega
      have htake : member.content.take (hostKitArchiveMaximumSize + 1) = member.content :=
        List.take_of_length_le hshort.le
      have hfile : isFile member = true := by
        rcases htype with htype | htype <;> simp [isFile, htype, typeDir, typeReg, typeRegA, byte]
      refine ⟨⟨_, file_of_lookup hmode, hname, fun hne => ?_, fun _ => ⟨htype, hpositive, ?_⟩, hmodes, hsafe⟩,
        hmember ▸ hseen, by rw [hmember], ?_⟩
      · cases hne
      · rw [← hlength, htake]
      · simp only [readContents, List.filter_cons, hfile, if_true, List.filter_nil, List.map_cons, List.map_nil, hmember,
          htake]

/-- **All accepted members.** -/
theorem readMembers_ok : ∀ {state : HostKitState}, readMembers state members = .ok final →
    (∀ member ∈ members, Inventoried member) ∧ final.seen = state.seen ++ members.map memberName ∧
      (state.seen.Nodup → final.seen.Nodup) ∧ final.contents = state.contents ++ readContents members := by
  induction members with
  | nil =>
    intro state h
    obtain rfl := Except.ok.inj h
    simp [readContents]
  | cons member rest ih =>
    intro state h
    obtain ⟨next, hone, hrest⟩ := bind_ok.1 h
    obtain ⟨hmember, hfresh, hseen, hcontents⟩ := readMember_ok hone
    obtain ⟨hmembers, hseen', hnodup, hcontents'⟩ := ih hrest
    refine ⟨List.forall_mem_cons.2 ⟨hmember, hmembers⟩, ?_, fun hstart => hnodup ?_, ?_⟩
    · rw [hseen', hseen, List.append_assoc, List.map_cons, List.singleton_append]
    · rw [hseen]
      exact List.nodup_append.2 ⟨hstart, List.nodup_singleton _, by
        rintro a ha b hb rfl
        exact hfresh (List.mem_singleton.1 hb ▸ ha)⟩
    · rw [hcontents', hcontents, List.append_assoc]
      congr 1
      rw [readContents, readContents, readContents, ← List.map_append, ← List.filter_append, List.singleton_append]

/-! ## The checksum file -/

/-- The line of a file. -/
def checksumLine (sha256Hex : Bytes → Bytes) (file : Bytes × Bytes) : Bytes :=
  sha256Hex file.2 ++ utf8 "  " ++ file.1

/-- One accepted line names a file that was read, with its digest. -/
theorem checksumRound_ok {contents : List (Bytes × Bytes)} {seen seen' : List Bytes} {line : Bytes}
    (h : checksumRound sha256Hex contents seen line = .ok seen') : ∃ file ∈ contents, file.1 ≠ checksumFile ∧
      file.1 ∉ seen ∧ line = checksumLine sha256Hex file ∧ seen' = seen ++ [file.1] := by
  obtain ⟨⟨⟩, hshape, h⟩ := bind_ok.1 h
  obtain ⟨⟨⟩, hname, h⟩ := bind_ok.1 h
  obtain ⟨⟨⟩, hdigest, h⟩ := bind_ok.1 h
  obtain rfl := pure_ok.1 h
  have hshape := ensure_ok.1 hshape
  have hname := ensure_ok.1 hname
  simp only [Bool.and_eq_true, decide_eq_true_eq, beq_iff_eq] at hshape
  simp only [Bool.and_eq_true, bne_iff_ne, Bool.not_eq_true', List.contains_eq_mem, decide_eq_false_iff_not] at hname
  obtain ⟨⟨hlength, hspaces⟩, -⟩ := hshape
  obtain ⟨⟨hfound, hother⟩, hfresh⟩ := hname
  obtain ⟨value, hvalue⟩ := Option.isSome_iff_exists.1 hfound
  have hvalueDigest : sha256Hex value = line.take 64 := by
    have := beq_iff_eq.1 (ensure_ok.1 hdigest)
    rwa [hvalue, Option.getD_some] at this
  obtain ⟨before, after, rfl, -⟩ := List.lookup_eq_some_iff.1 hvalue
  refine ⟨(line.drop 66, value), List.mem_append_right _ List.mem_cons_self, hother, hfresh, ?_, rfl⟩
  -- the line is its digest, two blanks and its name
  calc line = line.take 64 ++ line.drop 64 := (List.take_append_drop 64 line).symm
    _ = line.take 64 ++ ((line.drop 64).take 2 ++ (line.drop 64).drop 2) := by rw [List.take_append_drop 2]
    _ = checksumLine sha256Hex (line.drop 66, value) := by
      rw [hspaces, List.drop_drop, checksumLine, hvalueDigest, List.append_assoc]

theorem checksumLoop_ok {contents : List (Bytes × Bytes)} {ls : List Bytes} : ∀ {seen seen' : List Bytes},
    checksumLoop sha256Hex contents seen ls = .ok seen' → ∃ files : List (Bytes × Bytes),
      (∀ file ∈ files, file ∈ contents ∧ file.1 ≠ checksumFile) ∧ ls = files.map (checksumLine sha256Hex) ∧
        seen' = seen ++ files.map Prod.fst ∧ (seen.Nodup → seen'.Nodup) := by
  induction ls with
  | nil =>
    intro seen seen' h
    obtain rfl := Except.ok.inj h
    exact ⟨[], fun _ h => absurd h List.not_mem_nil, rfl, by simp, id⟩
  | cons line rest ih =>
    intro seen seen' h
    obtain ⟨next, hone, hrest⟩ := bind_ok.1 h
    obtain ⟨file, hfile, hother, hfresh, rfl, rfl⟩ := checksumRound_ok hone
    obtain ⟨files, hfiles, rfl, rfl, hnodup⟩ := ih hrest
    refine ⟨file :: files, List.forall_mem_cons.2 ⟨⟨hfile, hother⟩, hfiles⟩, rfl, ?_, fun hstart => hnodup ?_⟩
    · rw [List.map_cons, List.append_assoc, List.singleton_append]
    · exact List.nodup_append.2 ⟨hstart, List.nodup_singleton _, by
        rintro a ha b hb rfl
        exact hfresh (List.mem_singleton.1 hb ▸ ha)⟩

/-- **The lines of an accepted checksum file** are those of all other files, each once. -/
theorem validateHostKitChecksums_ok {contents : List (Bytes × Bytes)}
    (hkeys : (contents.map Prod.fst).Perm (hostKitFileModes.map Prod.fst))
    (h : validateHostKitChecksums sha256Hex contents = .ok ()) :
    (checksumLines ((contents.lookup checksumFile).getD [])).Perm
      ((contents.filter fun file => file.1 ≠ checksumFile).map (checksumLine sha256Hex)) := by
  obtain ⟨⟨⟩, hlength, h⟩ := bind_ok.1 h
  obtain ⟨seen, hloop, h⟩ := bind_ok.1 h
  have hlength := beq_iff_eq.1 (ensure_ok.1 hlength)
  obtain ⟨files, hfiles, hlines, hseen, hnodup⟩ := checksumLoop_ok hloop
  rw [List.nil_append] at hseen
  have hnames : (files.map Prod.fst).Nodup := hseen ▸ hnodup List.nodup_nil
  -- the listed files are some of the others, and as many
  have hsub : files.Subperm (contents.filter fun file => file.1 ≠ checksumFile) := by
    refine List.subperm_of_subset hnames.of_map fun file hfile => ?_
    obtain ⟨hmem, hother⟩ := hfiles file hfile
    exact List.mem_filter.2 ⟨hmem, decide_eq_true hother⟩
  have hcount : (contents.filter fun file => file.1 ≠ checksumFile).length =
      ((hostKitFileModes.map Prod.fst).filter (· ≠ checksumFile)).length := by
    rw [← (hkeys.filter _).length_eq, List.filter_map, List.length_map]
    rfl
  have hperm : files.Perm (contents.filter fun file => file.1 ≠ checksumFile) := by
    refine hsub.perm_of_length_le ?_
    rw [hcount, ← hlength, hlines, List.length_map]
  rw [hlines]
  exact hperm.map _

end SecureSaas.Bootstrap
