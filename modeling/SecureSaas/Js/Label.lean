import SecureSaas.Js.Pattern
import Mathlib.Data.List.Chain
import Mathlib.Data.List.DropRight

/-!
# Labels made of free texts

The steps of `value.toLowerCase().replace(/[^a-z0-9-]/g, "-")` and of the replacements that follow
it. Of the characters outside of ASCII only the Kelvin sign and the capital I with a dot have
letters of ASCII in their lower case.

* `lowerDashed_chars`: only lower case letters, digits and dashes are left.
* `dashRuns_chars`: only the kept characters and dashes are left.
* `undashed_collapse`, `trimEndDashes_collapsed`: where the dashes of a label are.
-/

namespace SecureSaas.Js

/-- One character in lower case, a dash for every code unit outside `[a-z0-9-]`. -/
def labelChars (c : Char) : List Char :=
  if isLowerAlnum c || c == '-' then [c]
  else if isUpperLetter c then [c.toLower]
  else if c.toNat = 0x212a then ['k']
  else if c.toNat = 0x130 then ['i', '-']
  else if c.toNat < 65536 then ['-']
  else ['-', '-']

/-- `value.toLowerCase().replace(/[^a-z0-9-]/g, "-")`. -/
def lowerDashed (value : String) : List Char := value.toList.flatMap labelChars

/-- `[a-z0-9-]`. -/
def isLabelChar (c : Char) : Bool := isLowerAlnum c || c == '-'

/-- Every run of dashes becomes one dash; the flag says that the last character was a dash. -/
def collapseDashes : Bool → List Char → List Char
  | _, [] => []
  | dashed, c :: cs =>
    if c = '-' then if dashed then collapseDashes true cs else '-' :: collapseDashes true cs
    else c :: collapseDashes false cs

/-- The dashes at the end are dropped. -/
def trimEndDashes (cs : List Char) : List Char := cs.rdropWhile (· == '-')

/-- The dashes at both ends are dropped. -/
def trimDashes (cs : List Char) : List Char := trimEndDashes (cs.dropWhile (· == '-'))

/-- One dash at either end is dropped. -/
def trimDash (cs : List Char) : List Char :=
  let rest := if cs.head? = some '-' then cs.tail else cs
  if rest.getLast? = some '-' then rest.dropLast else rest

/-- One dash at the end is dropped. -/
def trimEndDash (cs : List Char) : List Char := if cs.getLast? = some '-' then cs.dropLast else cs

/-- `value.toLowerCase()` up to the characters outside of ASCII, which a class of ASCII takes
together. -/
def lowerCased (value : String) : List Char :=
  value.toList.flatMap fun c =>
    if isUpperLetter c then [c.toLower]
    else if c.toNat = 0x212a then ['k']
    else if c.toNat = 0x130 then ['i', '\u0307']
    else [c]

/-- Every run of characters outside a class becomes one dash; the flag says that the last character
was outside. -/
def dashRuns (kept : Char → Bool) : Bool → List Char → List Char
  | _, [] => []
  | outside, c :: cs =>
    if kept c then c :: dashRuns kept false cs
    else if outside then dashRuns kept true cs
    else '-' :: dashRuns kept true cs

/-! ## The characters of a label -/

theorem toLower_isLowerLetter {c : Char} (h : isUpperLetter c = true) : isLowerLetter c.toLower = true := by
  unfold isUpperLetter at h
  rw [Bool.and_eq_true, decide_eq_true_eq, decide_eq_true_eq] at h
  have hlow : c.toLower.val = c.val + 32 := by
    unfold Char.toLower
    rw [dif_pos ⟨h.1, h.2⟩]
    rfl
  have hA : 65 ≤ c.val.toNat := h.1
  have hZ : c.val.toNat ≤ 90 := h.2
  have hval : c.toLower.val.toNat = c.val.toNat + 32 := by
    rw [hlow, UInt32.toNat_add]
    change (c.val.toNat + 32) % 2 ^ 32 = c.val.toNat + 32
    omega
  unfold isLowerLetter
  rw [Bool.and_eq_true, decide_eq_true_eq, decide_eq_true_eq]
  refine ⟨?_, ?_⟩
  · show 97 ≤ c.toLower.val.toNat
    omega
  · show c.toLower.val.toNat ≤ 122
    omega

theorem toLower_isLabelChar {c : Char} (h : isUpperLetter c = true) : isLabelChar c.toLower = true := by
  unfold isLabelChar isLowerAlnum
  rw [toLower_isLowerLetter h]
  rfl

theorem labelChars_chars {c d : Char} (h : d ∈ labelChars c) : isLabelChar d = true := by
  unfold labelChars at h
  split_ifs at h with hkept hupper
  · rwa [List.mem_singleton.1 h]
  · rw [List.mem_singleton.1 h]
    exact toLower_isLabelChar hupper
  all_goals
    simp only [List.mem_cons, List.not_mem_nil, or_false, or_self] at h
    rcases h with rfl | rfl <;> decide

/-- Only lower case letters, digits and dashes are left. -/
theorem lowerDashed_chars {value : String} {c : Char} (h : c ∈ lowerDashed value) : isLabelChar c = true := by
  obtain ⟨d, -, hd⟩ := List.mem_flatMap.1 h
  exact labelChars_chars hd

theorem collapseDashes_sublist : ∀ (dashed : Bool) (cs : List Char), (collapseDashes dashed cs).Sublist cs := by
  intro dashed cs
  induction cs generalizing dashed with
  | nil => exact List.Sublist.refl _
  | cons c cs ih =>
    unfold collapseDashes
    split_ifs with hc hdashed
    · exact (ih true).cons c
    · rw [hc]
      exact (ih true).cons_cons '-'
    · exact (ih false).cons_cons c

theorem trimDash_sublist (cs : List Char) : (trimDash cs).Sublist cs := by
  have hrest : (if cs.head? = some '-' then cs.tail else cs).Sublist cs := by
    split_ifs
    · exact List.tail_sublist cs
    · exact List.Sublist.refl cs
  unfold trimDash
  dsimp only
  split_ifs at hrest ⊢ <;> first
    | exact (List.dropLast_sublist _).trans hrest
    | exact hrest

theorem trimEndDash_sublist (cs : List Char) : (trimEndDash cs).Sublist cs := by
  unfold trimEndDash
  split_ifs
  · exact List.dropLast_sublist cs
  · exact List.Sublist.refl cs

/-- Only the kept characters and dashes are left. -/
theorem dashRuns_chars {kept : Char → Bool} {c : Char} : ∀ {outside : Bool} {cs : List Char},
    c ∈ dashRuns kept outside cs → kept c = true ∨ c = '-' := by
  intro outside cs
  induction cs generalizing outside with
  | nil => exact fun h => absurd h List.not_mem_nil
  | cons d cs ih =>
    intro h
    unfold dashRuns at h
    split_ifs at h with hd houtside
    · rcases List.mem_cons.1 h with rfl | h
      · exact Or.inl hd
      · exact ih h
    · exact ih h
    · rcases List.mem_cons.1 h with rfl | h
      · exact Or.inr rfl
      · exact ih h

theorem trimDashes_sublist (cs : List Char) : (trimDashes cs).Sublist cs :=
  (List.rdropWhile_prefix _ _).sublist.trans (List.dropWhile_sublist _)

/-! ## Labels that start with a word -/

theorem lowerDashed_append (a b : String) : lowerDashed (a ++ b) = lowerDashed a ++ lowerDashed b := by
  unfold lowerDashed
  rw [String.toList_append, List.flatMap_append]

/-- The texts up to a character that is no dash collapse by themselves. -/
theorem collapseDashes_append {c : Char} (hc : c ≠ '-') : ∀ (dashed : Bool) (u v : List Char),
    collapseDashes dashed (u ++ c :: v) = collapseDashes dashed (u ++ [c]) ++ collapseDashes false v := by
  intro dashed u v
  induction u generalizing dashed with
  | nil => simp [collapseDashes, hc]
  | cons d u ih =>
    simp only [List.cons_append, collapseDashes]
    split_ifs <;> simp [ih]

theorem trimEndDashes_append {c : Char} (hc : c ≠ '-') (u v : List Char) :
    trimEndDashes (u ++ c :: v) = u ++ c :: trimEndDashes v := by
  induction v using List.reverseRecOn with
  | nil =>
    unfold trimEndDashes
    rw [List.rdropWhile_concat_neg _ _ _ (by simpa using hc)]
    rfl
  | append_singleton v d ih =>
    have hassoc : u ++ c :: (v ++ [d]) = (u ++ c :: v) ++ [d] := by simp
    unfold trimEndDashes at ih ⊢
    by_cases hd : d = '-'
    · rw [hassoc, List.rdropWhile_concat_pos _ _ _ (by simpa using hd), ih,
        List.rdropWhile_concat_pos _ _ _ (by simpa using hd)]
    · rw [hassoc, List.rdropWhile_concat_neg _ _ _ (by simpa using hd),
        List.rdropWhile_concat_neg _ _ _ (by simpa using hd)]
      simp

/-! ## Dashes of a label -/

/-- No dash at either end. -/
def Undashed (cs : List Char) : Prop := cs.head? ≠ some '-' ∧ cs.getLast? ≠ some '-'

theorem trimEndDashes_last (cs : List Char) : (trimEndDashes cs).getLast? ≠ some '-' := by
  intro hlast
  unfold trimEndDashes at hlast
  have hne : cs.rdropWhile (· == '-') ≠ [] := by
    intro hnil
    rw [hnil] at hlast
    cases hlast
  have hnot := List.rdropWhile_last_not (· == '-') cs hne
  rw [List.getLast?_eq_some_getLast hne] at hlast
  exact hnot (by rw [Option.some.inj hlast]; rfl)

theorem undashed_trimDashes (cs : List Char) : Undashed (trimDashes cs) := by
  refine ⟨fun hhead => ?_, trimEndDashes_last _⟩
  obtain ⟨tail, htail⟩ := List.rdropWhile_prefix (· == '-') (cs.dropWhile (· == '-'))
  have hdrop : (cs.dropWhile (· == '-')).head? = some '-' := by
    rw [← htail, List.head?_append]
    show (trimDashes cs).head?.or _ = _
    rw [hhead]
    rfl
  have hnot := List.head?_dropWhile_not (· == '-') cs
  rw [hdrop] at hnot
  exact absurd hnot (by decide)

theorem collapseDashes_concat {c : Char} (hc : c ≠ '-') (dashed : Bool) (cs : List Char) :
    collapseDashes dashed (cs ++ [c]) = collapseDashes dashed cs ++ [c] := by
  induction cs generalizing dashed with
  | nil => simp [collapseDashes, hc]
  | cons d cs ih =>
    simp only [List.cons_append, collapseDashes]
    split_ifs <;> simp [ih]

theorem undashed_collapse {cs : List Char} (h : Undashed cs) : Undashed (collapseDashes false cs) := by
  constructor
  · cases cs with
    | nil => exact h.1
    | cons c cs =>
      have hc : c ≠ '-' := fun heq => h.1 (by rw [heq, List.head?_cons])
      rw [collapseDashes, if_neg hc]
      exact h.1
  · rcases List.eq_nil_or_concat cs with rfl | ⟨init, c, rfl⟩
    · exact h.2
    · rw [List.concat_eq_append] at h ⊢
      have hc : c ≠ '-' := fun heq => h.2 (by rw [heq, List.getLast?_concat])
      rw [collapseDashes_concat hc, List.getLast?_concat]
      exact fun heq => hc (Option.some.inj heq)

/-- No two dashes follow each other. -/
def Collapsed (cs : List Char) : Prop := cs.IsChain fun c d => c = '-' → d ≠ '-'

theorem collapseDashes_collapsed : ∀ (dashed : Bool) (cs : List Char),
    Collapsed (collapseDashes dashed cs) ∧ (dashed = true → (collapseDashes dashed cs).head? ≠ some '-') := by
  intro dashed cs
  induction cs generalizing dashed with
  | nil => exact ⟨List.IsChain.nil, fun _ => by simp [collapseDashes]⟩
  | cons c cs ih =>
    unfold collapseDashes
    split_ifs with hc hdashed
    · exact ⟨(ih true).1, fun _ => (ih true).2 rfl⟩
    · refine ⟨List.isChain_cons.2 ⟨fun d hd _ heq => ?_, (ih true).1⟩, fun hd => absurd hd hdashed⟩
      exact (ih true).2 rfl (by rw [Option.mem_def.1 hd, heq])
    · refine ⟨List.isChain_cons.2 ⟨fun _ _ heq => absurd heq hc, (ih false).1⟩, fun _ heq => hc ?_⟩
      exact Option.some.inj heq

/-- The end of a collapsed text loses one dash at most. -/
theorem trimEndDashes_collapsed {cs : List Char} (h : Collapsed cs) : cs.length ≤ (trimEndDashes cs).length + 1 := by
  rcases List.eq_nil_or_concat cs with rfl | ⟨init, c, rfl⟩
  · simp
  · rw [List.concat_eq_append] at h ⊢
    unfold trimEndDashes
    by_cases hc : c = '-'
    · subst hc
      rw [List.rdropWhile_concat_pos _ _ _ (by rfl)]
      -- what is before the dash does not end in another one
      have hinit : init.rdropWhile (· == '-') = init := by
        rw [List.rdropWhile_eq_self_iff]
        intro hne hlast
        obtain ⟨first, d, rfl⟩ := (List.eq_nil_or_concat init).resolve_left hne
        simp only [List.concat_eq_append, List.getLast_append_singleton, beq_iff_eq] at h hlast
        unfold Collapsed at h
        rw [List.append_assoc, List.singleton_append, List.isChain_append_cons_cons] at h
        exact h.2.1 hlast rfl
      rw [hinit, List.length_append]
      rfl
    · rw [List.rdropWhile_concat_neg _ _ _ (by simpa using hc)]
      omega
end SecureSaas.Js
