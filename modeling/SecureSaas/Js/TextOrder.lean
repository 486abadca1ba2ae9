import SecureSaas.Js.Timestamp
import Mathlib.Data.List.Sort
import Mathlib.Data.List.Lex

/-!
# The order of texts

`texts.sort()` compares the texts by their UTF-16 code units. On the texts that `toISOString`
writes for the years 0 to 9999 this is the order of time: every field has a fixed width.

* `sortTexts_head_le`: the first text of a sorted list is the least.
* `isoString_le_iff`: **texts of times are in the order of the times**.
-/

namespace SecureSaas.Js

/-! ## Sorting -/

/-- The UTF-16 code units of a text. -/
def codeUnits (s : String) : List ℕ := s.toList.flatMap fun c =>
  if c.toNat < 65536 then [c.toNat]
  else [55296 + (c.toNat - 65536) / 1024, 56320 + (c.toNat - 65536) % 1024]

/-- `texts.sort()`. -/
def sortTexts (texts : List String) : List String := texts.insertionSort fun a b => codeUnits a ≤ codeUnits b

theorem sortTexts_perm (texts : List String) : (sortTexts texts).Perm texts := List.perm_insertionSort _ _

theorem mem_sortTexts {texts : List String} {s : String} : s ∈ sortTexts texts ↔ s ∈ texts :=
  (sortTexts_perm texts).mem_iff

theorem sortTexts_pairwise (texts : List String) :
    (sortTexts texts).Pairwise fun a b => codeUnits a ≤ codeUnits b := by
  have : Std.Total fun a b : String => codeUnits a ≤ codeUnits b := ⟨fun a b => le_total _ _⟩
  have : IsTrans String fun a b => codeUnits a ≤ codeUnits b := ⟨fun a b c => le_trans⟩
  exact List.pairwise_insertionSort _ _

/-- **The first text of a sorted list is the least.** -/
theorem sortTexts_head_le {texts rest : List String} {first : String} (h : sortTexts texts = first :: rest) :
    first ∈ texts ∧ ∀ s ∈ texts, codeUnits first ≤ codeUnits s := by
  have hsorted := sortTexts_pairwise texts
  rw [h, List.pairwise_cons] at hsorted
  refine ⟨mem_sortTexts.1 (h ▸ List.mem_cons_self), fun s hs => ?_⟩
  rcases List.mem_cons.1 (h ▸ mem_sortTexts.2 hs) with rfl | hrest
  · exact le_refl _
  · exact hsorted.1 s hrest

/-! ## Fields of a fixed width -/

/-- Numbers written with the widths of a shape, each with a character after it. -/
def written : List (ℕ × Char) → List ℕ → List Char
  | (n, c) :: shape, k :: fields => padded n k ++ c :: written shape fields
  | _, _ => []

theorem append_lt_append {u v s t : List ℕ} (hlen : u.length = v.length) (h : u < v) : u ++ s < v ++ t := by
  induction u generalizing v with
  | nil => cases v with
    | nil => exact absurd h (List.not_lt_nil _)
    | cons => cases hlen
  | cons a u ih =>
    cases v with
    | nil => cases hlen
    | cons b v =>
      rw [List.cons_append, List.cons_append, List.cons_lt_cons_iff]
      rcases List.cons_lt_cons_iff.1 h with hab | ⟨rfl, huv⟩
      · exact Or.inl hab
      · exact Or.inr ⟨rfl, ih (by simpa using hlen) huv⟩

theorem digitChar_toNat : ∀ k < 10, (Nat.digitChar k).toNat = k + 48 := by decide

/-- Of two numbers that fit, the smaller one is written first. -/
theorem padded_lt : ∀ {n a b : ℕ}, a < b → b < 10 ^ n →
    (padded n a).map Char.toNat < (padded n b).map Char.toNat
  | 0, a, b, hab, hb => by rw [pow_zero] at hb; omega
  | n + 1, a, b, hab, hb => by
    simp only [padded, List.map_append, List.map_cons, List.map_nil]
    have hlen : ((padded n (a / 10)).map Char.toNat).length = ((padded n (b / 10)).map Char.toNat).length := by
      rw [List.length_map, List.length_map, padded_length, padded_length]
    have hfit : b / 10 < 10 ^ n := by rw [pow_succ] at hb; omega
    rcases Nat.lt_or_ge (a / 10) (b / 10) with hlt | hge
    · exact append_lt_append hlen (padded_lt hlt hfit)
    · -- the same but for the last digit
      have heq : a / 10 = b / 10 := by omega
      rw [heq]
      apply List.append_left_lt
      rw [List.cons_lt_cons_iff, digitChar_toNat _ (by omega), digitChar_toNat _ (by omega)]
      exact Or.inl (by omega)

theorem written_lt : ∀ {shape : List (ℕ × Char)} {fields fields' : List ℕ}, fields.length = shape.length →
    List.Forall₂ (fun p k => k < 10 ^ p.1) shape fields' → fields < fields' →
      (written shape fields).map Char.toNat < (written shape fields').map Char.toNat
  | [], fields, _, _, .nil, h => absurd h (List.not_lt_nil _)
  | (n, c) :: shape, [], _, hlen, _, _ => by cases hlen
  | (n, c) :: shape, k :: fields, k' :: fields', hlen, .cons hfit hrest, h => by
    simp only [written, List.map_append, List.map_cons]
    have hwidth : ((padded n k).map Char.toNat).length = ((padded n k').map Char.toNat).length := by
      rw [List.length_map, List.length_map, padded_length, padded_length]
    rcases List.cons_lt_cons_iff.1 h with hlt | ⟨rfl, hlt⟩
    · exact append_lt_append hwidth (padded_lt hlt hfit)
    · apply List.append_left_lt
      rw [List.cons_lt_cons_iff]
      exact Or.inr ⟨rfl, written_lt (by simpa using hlen) hrest hlt⟩

/-! ## Texts of times -/

/-- Year, month, day, hour, minute, second and millisecond of a time. -/
def timeFields (t : ℤ) : List ℕ :=
  let day := t / msPerDay
  let ms := t % msPerDay
  let y := yearOfDay day
  let n := day - dayFromYear y
  let m := monthOfDay (isLeapYear y) n
  [y.toNat, m + 1, (n - daysBeforeMonth (isLeapYear y) m + 1).toNat, (ms / 3600000).toNat, (ms / 60000 % 60).toNat,
    (ms / 1000 % 60).toNat, (ms % 1000).toNat]

/-- `YYYY-MM-DDTHH:MM:SS.mmmZ`. -/
def timeShape : List (ℕ × Char) := [(4, '-'), (2, '-'), (2, 'T'), (2, ':'), (2, ':'), (2, '.'), (3, 'Z')]

theorem isoString_written {t : ℤ} (h1 : minIsoTime ≤ t) (h2 : t ≤ maxIsoTime) :
    (isoString t).toList = written timeShape (timeFields t) := by
  have hyear : 0 ≤ yearOfDay (t / msPerDay) ∧ yearOfDay (t / msPerDay) ≤ 9999 := by
    apply yearOfDay_range <;> unfold msPerDay <;> unfold minIsoTime at h1 <;> unfold maxIsoTime at h2 <;> omega
  unfold isoString
  simp only [String.toList_ofList, yearChars, hyear, and_self, if_true, written, timeShape, timeFields,
    List.append_assoc, List.cons_append]

theorem monthOfDay_mono {leap : Bool} {n n' : ℕ} (h : n ≤ n') :
    monthOfDay leap (n : ℕ) ≤ monthOfDay leap (n' : ℕ) := by
  -- every month that has begun on the earlier day has begun on the later one
  have hmonths : ∀ m, decide (daysBeforeMonth leap m ≤ (n : ℤ)) = true →
      decide (daysBeforeMonth leap m ≤ (n' : ℤ)) = true := by
    intro m hm
    have hbefore := of_decide_eq_true hm
    exact decide_eq_true (by omega)
  have hlength := (List.monotone_filter_right (List.range 12) hmonths).length_le
  unfold monthOfDay
  omega

theorem yearOfDay_mono {day day' : ℤ} (h : day ≤ day') : yearOfDay day ≤ yearOfDay day' := by
  by_contra hlt
  have hmono := dayFromYear_mono (show yearOfDay day' + 1 ≤ yearOfDay day by omega)
  have hlow := (yearOfDay_spec day).1
  have hhigh := (yearOfDay_spec day').2
  omega

/-- The day of a year, as a number, and its month. -/
theorem dayOfYear_spec (day : ℤ) : ∃ n : ℕ, day - dayFromYear (yearOfDay day) = n ∧ n < 366 ∧
    monthOfDay (isLeapYear (yearOfDay day)) n < 12 ∧
    daysBeforeMonth (isLeapYear (yearOfDay day)) (monthOfDay (isLeapYear (yearOfDay day)) n) ≤ n ∧
    (n : ℤ) < daysBeforeMonth (isLeapYear (yearOfDay day)) (monthOfDay (isLeapYear (yearOfDay day)) n) + 31 := by
  obtain ⟨hlow, hhigh⟩ := yearOfDay_spec day
  have hlen := dayFromYear_succ (yearOfDay day)
  have hleap : (isLeapYear (yearOfDay day)).toNat ≤ 1 := Bool.toNat_le _
  obtain ⟨n, hn⟩ := Int.eq_ofNat_of_zero_le (show 0 ≤ day - dayFromYear (yearOfDay day) by omega)
  have hbound : n < 365 + (isLeapYear (yearOfDay day)).toNat := by omega
  exact ⟨n, hn, by omega, monthOfDay_spec _ n hbound⟩

theorem timeFields_fit {t : ℤ} (h1 : minIsoTime ≤ t) (h2 : t ≤ maxIsoTime) :
    List.Forall₂ (fun p k => k < 10 ^ p.1) timeShape (timeFields t) := by
  have hyear : 0 ≤ yearOfDay (t / msPerDay) ∧ yearOfDay (t / msPerDay) ≤ 9999 := by
    apply yearOfDay_range <;> unfold msPerDay <;> unfold minIsoTime at h1 <;> unfold maxIsoTime at h2 <;> omega
  obtain ⟨n, hn, hn366, hmonth, hbefore, hafter⟩ := dayOfYear_spec (t / msPerDay)
  have hms : 0 ≤ t % msPerDay ∧ t % msPerDay < 86400000 := by unfold msPerDay; omega
  unfold timeFields timeShape
  simp only [List.forall₂_cons, List.forall₂_nil_right_iff, and_true, hn]
  refine ⟨?_, ?_, ?_, ?_, ?_, ?_, ?_⟩ <;> omega

theorem clockFields_lt {ms ms' : ℤ} (h0 : 0 ≤ ms) (h : ms < ms') :
    [(ms / 3600000).toNat, (ms / 60000 % 60).toNat, (ms / 1000 % 60).toNat, (ms % 1000).toNat] <
      [(ms' / 3600000).toNat, (ms' / 60000 % 60).toNat, (ms' / 1000 % 60).toNat, (ms' % 1000).toNat] := by
  have hhour : ms / 3600000 ≤ ms' / 3600000 := by omega
  rcases lt_or_eq_of_le hhour with hlt | hhour
  · exact List.cons_lt_cons_iff.2 (Or.inl (by omega))
  rw [hhour]
  refine List.cons_lt_cons_iff.2 (Or.inr ⟨rfl, ?_⟩)
  have hminute : ms / 60000 % 60 ≤ ms' / 60000 % 60 := by omega
  rcases lt_or_eq_of_le hminute with hlt | hminute
  · exact List.cons_lt_cons_iff.2 (Or.inl (by omega))
  rw [hminute]
  refine List.cons_lt_cons_iff.2 (Or.inr ⟨rfl, ?_⟩)
  have hsecond : ms / 1000 % 60 ≤ ms' / 1000 % 60 := by omega
  rcases lt_or_eq_of_le hsecond with hlt | hsecond
  · exact List.cons_lt_cons_iff.2 (Or.inl (by omega))
  rw [hsecond]
  exact List.cons_lt_cons_iff.2 (Or.inr ⟨rfl, List.cons_lt_cons_iff.2 (Or.inl (by omega))⟩)

/-- A later time has later fields. -/
theorem timeFields_lt {s t : ℤ} (h1 : minIsoTime ≤ s) (h2 : t ≤ maxIsoTime) (h : s < t) : timeFields s < timeFields t := by
  have hdays : s / msPerDay ≤ t / msPerDay := by unfold msPerDay; omega
  have hyears := yearOfDay_mono hdays
  have hyear : 0 ≤ yearOfDay (s / msPerDay) := by
    refine (yearOfDay_range ?_ ?_).1 <;> unfold msPerDay <;> unfold minIsoTime at h1 <;> unfold maxIsoTime at h2 <;> omega
  unfold timeFields
  rcases lt_or_eq_of_le hyears with hlt | heq
  · exact List.cons_lt_cons_iff.2 (Or.inl (by omega))
  obtain ⟨n, hn, -, -, hbefore, -⟩ := dayOfYear_spec (s / msPerDay)
  obtain ⟨n', hn', -, -, -, -⟩ := dayOfYear_spec (t / msPerDay)
  simp only [heq] at hn hbefore ⊢
  rw [hn, hn']
  refine List.cons_lt_cons_iff.2 (Or.inr ⟨rfl, ?_⟩)
  have hmonths : monthOfDay (isLeapYear (yearOfDay (t / msPerDay))) (n : ℕ) ≤
      monthOfDay (isLeapYear (yearOfDay (t / msPerDay))) (n' : ℕ) := monthOfDay_mono (by omega)
  rcases lt_or_eq_of_le hmonths with hlt | hmonth
  · exact List.cons_lt_cons_iff.2 (Or.inl (by omega))
  rw [hmonth] at hbefore ⊢
  refine List.cons_lt_cons_iff.2 (Or.inr ⟨rfl, ?_⟩)
  rcases lt_or_eq_of_le hdays with hday | hday
  · exact List.cons_lt_cons_iff.2 (Or.inl (by omega))
  -- the times are of one day
  have hms : s % msPerDay < t % msPerDay := by unfold msPerDay at hday ⊢; omega
  have hms0 : 0 ≤ s % msPerDay := by unfold msPerDay; omega
  rw [show n = n' by omega]
  exact List.cons_lt_cons_iff.2 (Or.inr ⟨rfl, clockFields_lt hms0 hms⟩)

theorem codeUnits_of_ascii {s : String} (h : ∀ c ∈ s.toList, c.toNat < 65536) :
    codeUnits s = s.toList.map Char.toNat := by
  unfold codeUnits
  revert h
  induction s.toList with
  | nil => exact fun _ => rfl
  | cons c cs ih =>
    intro h
    rw [List.forall_mem_cons] at h
    rw [List.flatMap_cons, ih h.2, if_pos h.1, List.map_cons, List.singleton_append]

theorem written_ascii : ∀ {shape : List (ℕ × Char)} {fields : List ℕ}, (∀ p ∈ shape, p.2.toNat < 65536) →
    ∀ c ∈ written shape fields, c.toNat < 65536
  | [], _, _, c, hc => by simp [written] at hc
  | (n, sep) :: shape, [], _, c, hc => by simp [written] at hc
  | (n, sep) :: shape, k :: fields, h, c, hc => by
    rw [List.forall_mem_cons] at h
    rw [written, List.mem_append, List.mem_cons] at hc
    rcases hc with hc | rfl | hc
    · have hdecimal := padded_decimal n k c hc
      rw [isDecimal, Bool.and_eq_true, decide_eq_true_eq, decide_eq_true_eq] at hdecimal
      have hle : c.toNat ≤ '9'.toNat := hdecimal.2
      have h9 : '9'.toNat = 57 := rfl
      omega
    · exact h.1
    · exact written_ascii h.2 c hc

theorem isoString_lt {s t : ℤ} (h1 : minIsoTime ≤ s) (h2 : t ≤ maxIsoTime) (h : s < t) :
    codeUnits (isoString s) < codeUnits (isoString t) := by
  have hshape : ∀ p ∈ timeShape, p.2.toNat < 65536 := by decide
  have hs := isoString_written h1 (by omega)
  have ht := isoString_written (show minIsoTime ≤ t by omega) h2
  rw [codeUnits_of_ascii (hs ▸ written_ascii hshape), codeUnits_of_ascii (ht ▸ written_ascii hshape), hs, ht]
  exact written_lt rfl (timeFields_fit (by omega) h2) (timeFields_lt h1 h2 h)

/-- **The texts of times of the years 0 to 9999 are in the order of the times.** -/
theorem isoString_le_iff {s t : ℤ} (hs : minIsoTime ≤ s ∧ s ≤ maxIsoTime) (ht : minIsoTime ≤ t ∧ t ≤ maxIsoTime) :
    codeUnits (isoString s) ≤ codeUnits (isoString t) ↔ s ≤ t := by
  constructor
  · intro hle
    by_contra hlt
    exact not_lt_of_ge hle (isoString_lt ht.1 hs.2 (by omega))
  · intro hle
    rcases lt_or_eq_of_le hle with hlt | rfl
    · exact le_of_lt (isoString_lt hs.1 ht.2 hlt)
    · exact le_refl _

end SecureSaas.Js
