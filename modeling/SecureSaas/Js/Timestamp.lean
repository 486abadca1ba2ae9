import SecureSaas.Js.Date

/-!
# Timestamps with or without milliseconds

Some parsers accept the text that `toISOString` writes and, for a whole second, the same
text without its milliseconds.

* `isUtcTimestamp_time`: an accepted text names one time of the years 0 to 9999.
* `isUtcTimestamp_isoString`: the text that `toISOString` writes is accepted.
* `isCanonical_iff_hasMillis`: **among the accepted texts, those that `toISOString` writes are
  the ones with milliseconds**.
-/

namespace SecureSaas.Js

/-- `canonical.replace(".000Z", "Z")`, on texts that have it at their end only. -/
def withoutMillis (s : String) : String :=
  if ".000Z".toList.isSuffixOf s.toList then String.ofList (s.toList.take (s.toList.length - 5) ++ ['Z']) else s

/-- The form `\d{4}-\d{2}-\d{2}T\d{2}:\d{2}:\d{2}(?:\.\d{3})?Z` of a time, and the text that
`toISOString` writes for it, or that text without `.000`. -/
def isUtcTimestamp (s : String) : Bool :=
  isTimestampText s && match dateParse s with
    | none => false
    | some t => s == isoString t || s == withoutMillis (isoString t)

/-- Whether the text has milliseconds. -/
def hasMillis (s : String) : Bool := s.toList.contains '.'

/-- The text of a time up to its milliseconds. -/
def secondsChars (t : ℤ) : List Char :=
  let day := t / msPerDay
  let ms := t % msPerDay
  let y := yearOfDay day
  let n := day - dayFromYear y
  let m := monthOfDay (isLeapYear y) n
  yearChars y ++ '-' :: padded 2 (m + 1) ++
    '-' :: padded 2 (n - daysBeforeMonth (isLeapYear y) m + 1).toNat ++
    'T' :: padded 2 (ms / 3600000).toNat ++ ':' :: padded 2 (ms / 60000 % 60).toNat ++
    ':' :: padded 2 (ms / 1000 % 60).toNat

theorem isoString_toList (t : ℤ) : (isoString t).toList =
    secondsChars t ++ '.' :: padded 3 (t % msPerDay % 1000).toNat ++ ['Z'] := by
  unfold isoString
  rw [String.toList_ofList]
  rfl

theorem padded_no_dot (n k : ℕ) : '.' ∉ padded n k := by
  intro h
  exact absurd (padded_decimal n k '.' h) (by decide)

theorem secondsChars_no_dot (t : ℤ) : '.' ∉ secondsChars t := by
  have hyear : '.' ∉ yearChars (yearOfDay (t / msPerDay)) := by
    unfold yearChars
    split
    · exact padded_no_dot _ _
    · rw [List.mem_cons, not_or]
      refine ⟨?_, padded_no_dot _ _⟩
      split <;> decide
  simp only [secondsChars, List.mem_append, List.mem_cons, hyear, padded_no_dot, or_false, not_false_iff,
    Char.reduceEq]

theorem hasMillis_isoString (t : ℤ) : hasMillis (isoString t) = true := by
  unfold hasMillis
  rw [isoString_toList]
  exact List.contains_iff_mem.2 (by simp)

theorem withoutMillis_of {s : String} {seconds millis : List Char} (hs : s.toList = seconds ++ '.' :: millis ++ ['Z'])
    (hm : millis.length = 3) : withoutMillis s = s ∨ withoutMillis s = String.ofList (seconds ++ ['Z']) := by
  unfold withoutMillis
  split
  · right
    have htake : s.toList.take (s.toList.length - 5) = seconds := by
      rw [hs, List.append_assoc]
      refine List.take_left' ?_
      simp only [List.length_append, List.length_cons, List.length_nil, hm]
      omega
    rw [htake]
  · exact Or.inl rfl

/-- Without `.000`, a text has no milliseconds or is left as it is. -/
theorem withoutMillis_isoString (t : ℤ) : withoutMillis (isoString t) = isoString t ∨
    withoutMillis (isoString t) = String.ofList (secondsChars t ++ ['Z']) :=
  withoutMillis_of (isoString_toList t) (padded_length 3 _)

/-- A sign in front is kept. -/
theorem withoutMillis_late {t : ℤ} (h : maxIsoTime < t) :
    ∃ cs, (withoutMillis (isoString t)).toList = '+' :: cs := by
  obtain ⟨cs, hcs⟩ := isoString_late h
  rcases withoutMillis_isoString t with heq | heq
  · exact ⟨cs, by rw [heq, hcs]⟩
  · rw [heq, String.toList_ofList]
    rw [isoString_toList, List.append_assoc] at hcs
    cases hsec : secondsChars t with
    | nil =>
      rw [hsec] at hcs
      exact absurd (List.cons.inj hcs).1 (by decide)
    | cons c rest =>
      rw [hsec, List.cons_append, List.cons.injEq] at hcs
      exact ⟨rest ++ ['Z'], by rw [List.cons_append, hcs.1]⟩

/-- **An accepted text names one time**, of the years 0 to 9999. -/
theorem isUtcTimestamp_time {s : String} (h : isUtcTimestamp s = true) :
    ∃ t, dateParse s = some t ∧ minIsoTime ≤ t ∧ t ≤ maxIsoTime ∧
      (s = isoString t ∨ s = String.ofList (secondsChars t ++ ['Z'])) := by
  unfold isUtcTimestamp at h
  obtain ⟨htext, hparse⟩ := Bool.and_eq_true_iff.1 h
  cases hd : dateParse s with
  | none =>
    rw [hd] at hparse
    exact absurd hparse Bool.false_ne_true
  | some t =>
    rw [hd] at hparse
    simp only [Bool.or_eq_true, beq_iff_eq] at hparse
    refine ⟨t, rfl, dateParse_ge hd, ?_, ?_⟩
    · -- a later year would be written with a sign
      by_contra hlt
      obtain ⟨c, ds, hhead, hc⟩ := isTimestampText_head htext
      obtain ⟨cs, hsign⟩ : ∃ cs, s.toList = '+' :: cs := by
        rcases hparse with rfl | hs
        · exact isoString_late (by omega)
        · rw [hs]
          exact withoutMillis_late (by omega)
      rw [hsign, List.cons.injEq] at hhead
      rw [← hhead.1] at hc
      revert hc
      decide
    · rcases hparse with hs | hs
      · exact Or.inl hs
      · rcases withoutMillis_isoString t with heq | heq
        · exact Or.inl (hs.trans heq)
        · exact Or.inr (hs.trans heq)

/-- **The text that `toISOString` writes is accepted.** -/
theorem isUtcTimestamp_isoString {t : ℤ} (h1 : minIsoTime ≤ t) (h2 : t ≤ maxIsoTime) :
    isUtcTimestamp (isoString t) = true := by
  unfold isUtcTimestamp
  rw [isTimestampText_isoString h1 h2, dateParse_isoString h1 h2]
  simp

/-- **Among the accepted texts, those that `toISOString` writes are the ones with
milliseconds.** -/
theorem isCanonical_iff_hasMillis {s : String} (h : isUtcTimestamp s = true) :
    isCanonicalTimestamp s = true ↔ hasMillis s = true := by
  obtain ⟨t, hparse, h1, h2, hs⟩ := isUtcTimestamp_time h
  have hcanonical : isCanonicalTimestamp s = true ↔ s = isoString t := by
    have hrange : -maxTime ≤ t ∧ t ≤ maxTime := by
      unfold maxTime
      unfold minIsoTime at h1
      unfold maxIsoTime at h2
      omega
    unfold isCanonicalTimestamp
    rw [hparse]
    simp only [Option.orElse_eq_orElse, Option.orElse_some, Bool.and_eq_true, decide_eq_true_eq, beq_iff_eq]
    exact ⟨fun h => h.2.symm, fun h => ⟨hrange, h.symm⟩⟩
  rw [hcanonical]
  constructor
  · rintro rfl
    exact hasMillis_isoString t
  · intro hm
    rcases hs with hs | hs
    · exact hs
    · -- the short text has no point at all
      rw [hs, hasMillis, String.toList_ofList, List.contains_iff_mem, List.mem_append] at hm
      rcases hm with hm | hm
      · exact absurd hm (secondsChars_no_dot t)
      · exact absurd hm (by decide)

end SecureSaas.Js
