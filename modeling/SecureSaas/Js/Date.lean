import SecureSaas.Js.Pattern
import Mathlib.Tactic.Common

/-!
# UTC date-time texts

`Date.parse` and `Date.prototype.toISOString` on the texts `YYYY-MM-DDTHH:MM:SS(.mmm)Z`,
with the calendar of the language definition (`DayFromYear`, `MakeDay`, `MakeTime`). A time
is a number of milliseconds since the epoch.

* `yearOfDay_spec`: the year of a day is the last one that starts on or before it.
* `dateParse_isoString`: **a time of the years 0 to 9999 is read back from its text.**
* `isTimestampText_isoString`: that text has the form above.
-/

namespace SecureSaas.Js

/-! ## The calendar -/

def msPerDay : ℤ := 86400000

/-- The day number of the first day of a year. -/
def dayFromYear (y : ℤ) : ℤ :=
  365 * (y - 1970) + (y - 1969) / 4 - (y - 1901) / 100 + (y - 1601) / 400

def isLeapYear (y : ℤ) : Bool := y % 4 = 0 && (y % 100 ≠ 0 || y % 400 = 0)

/-- The days of a year before its month `m`, counted from 0. -/
def daysBeforeMonth (leap : Bool) (m : ℕ) : ℤ :=
  (#[0, 31, 59, 90, 120, 151, 181, 212, 243, 273, 304, 334].getD m 0 : ℤ) +
    if leap && 2 ≤ m then 1 else 0

/-- `MakeDay`, with the month counted from 0. A day past the end of its month falls into the
next one. -/
def makeDay (y : ℤ) (m : ℕ) (d : ℕ) : ℤ := dayFromYear y + daysBeforeMonth (isLeapYear y) m + d - 1

/-- `MakeTime`. -/
def makeTime (hour minute second ms : ℕ) : ℤ := hour * 3600000 + minute * 60000 + second * 1000 + ms

/-- The year a day is in. The first guess is off by at most one. -/
def yearOfDay (d : ℤ) : ℤ :=
  let y := 1970 + 400 * d / 146097
  if dayFromYear (y + 1) ≤ d then y + 1 else if dayFromYear y ≤ d then y else y - 1

/-- The month, counted from 0, of the `n`-th day of a year. -/
def monthOfDay (leap : Bool) (n : ℤ) : ℕ :=
  ((List.range 12).filter fun m => daysBeforeMonth leap m ≤ n).length - 1

theorem yearOfDay_spec (d : ℤ) :
    dayFromYear (yearOfDay d) ≤ d ∧ d < dayFromYear (yearOfDay d + 1) := by
  unfold yearOfDay
  simp only
  set y : ℤ := 1970 + 400 * d / 146097 with hy
  have hlow : dayFromYear (y - 1) ≤ d := by unfold dayFromYear; omega
  have hhigh : d < dayFromYear (y + 1 + 1) := by unfold dayFromYear; omega
  split
  · exact ⟨by assumption, hhigh⟩
  split
  · exact ⟨by assumption, by omega⟩
  · exact ⟨hlow, by rw [Int.sub_add_cancel]; omega⟩

theorem dayFromYear_mono {y z : ℤ} (h : y ≤ z) : dayFromYear y ≤ dayFromYear z := by
  unfold dayFromYear; omega

theorem dayFromYear_succ (y : ℤ) :
    dayFromYear (y + 1) = dayFromYear y + (365 + (isLeapYear y).toNat : ℕ) := by
  cases h : isLeapYear y <;> simp only [isLeapYear, Bool.and_eq_true, Bool.and_eq_false_iff,
    decide_eq_true_eq, decide_eq_false_iff_not, Bool.or_eq_true, Bool.or_eq_false_iff, ne_eq, not_not] at h <;>
    simp only [dayFromYear, Bool.toNat_true, Bool.toNat_false] <;> omega

/-- The month of a day of a year starts on or before it, at most 30 days earlier. -/
theorem monthOfDay_spec : ∀ leap : Bool, ∀ n < 365 + leap.toNat, monthOfDay leap (n : ℕ) < 12 ∧
    daysBeforeMonth leap (monthOfDay leap (n : ℕ)) ≤ (n : ℕ) ∧
    (n : ℕ) < daysBeforeMonth leap (monthOfDay leap (n : ℕ)) + 31 := by
  decide +kernel

/-! ## Texts -/

/-- The last `n` decimal digits of `k`. -/
def padded : ℕ → ℕ → List Char
  | 0, _ => []
  | n + 1, k => padded n (k / 10) ++ [Nat.digitChar (k % 10)]

/-- The number written with decimal digits only. -/
def readDecimal (cs : List Char) : Option ℕ :=
  if cs.all isDecimal then some (cs.foldl (fun acc c => acc * 10 + (c.toNat - 48)) 0) else none

/-- A year as `toISOString` writes it: four digits, or a sign and six. -/
def yearChars (y : ℤ) : List Char :=
  if 0 ≤ y ∧ y ≤ 9999 then padded 4 y.toNat
  else (if y < 0 then '-' else '+') :: padded 6 y.natAbs

/-- `new Date(t).toISOString()`. -/
def isoString (t : ℤ) : String :=
  let day := t / msPerDay
  let ms := t % msPerDay
  let y := yearOfDay day
  let n := day - dayFromYear y
  let m := monthOfDay (isLeapYear y) n
  String.ofList (yearChars y ++ '-' :: padded 2 (m + 1) ++
    '-' :: padded 2 (n - daysBeforeMonth (isLeapYear y) m + 1).toNat ++
    'T' :: padded 2 (ms / 3600000).toNat ++ ':' :: padded 2 (ms / 60000 % 60).toNat ++
    ':' :: padded 2 (ms / 1000 % 60).toNat ++ '.' :: padded 3 (ms % 1000).toNat ++ ['Z'])

/-- The latest time value of a `Date`. -/
def maxTime : ℤ := 8640000000000000

/-- `new Date(t).toISOString()`, which throws on an invalid date. -/
def toISOString : Option ℤ → Except String String
  | none => .error "Invalid time value"
  | some t => if -maxTime ≤ t ∧ t ≤ maxTime then .ok (isoString t) else .error "Invalid time value"

/-- The time of a day and a time of day, when each field is in its range. -/
def timeOf (y m d hour minute second ms : ℕ) : Option ℤ :=
  if 1 ≤ m ∧ m ≤ 12 ∧ 1 ≤ d ∧ d ≤ 31 ∧ minute < 60 ∧ second < 60 ∧
      (hour < 24 ∨ hour = 24 ∧ minute = 0 ∧ second = 0 ∧ ms = 0) then
    some (makeDay y (m - 1) d * msPerDay + makeTime hour minute second ms)
  else none

/-- `Date.parse` on the texts `YYYY-MM-DDTHH:MM:SS(.mmm)Z`; `none` is `NaN`. -/
def dateParse (s : String) : Option ℤ :=
  match s.toList with
  | [y1, y2, y3, y4, '-', m1, m2, '-', d1, d2, 'T', h1, h2, ':', n1, n2, ':', s1, s2, 'Z'] => do
    timeOf (← readDecimal [y1, y2, y3, y4]) (← readDecimal [m1, m2]) (← readDecimal [d1, d2])
      (← readDecimal [h1, h2]) (← readDecimal [n1, n2]) (← readDecimal [s1, s2]) 0
  | [y1, y2, y3, y4, '-', m1, m2, '-', d1, d2, 'T', h1, h2, ':', n1, n2, ':', s1, s2, '.', f1, f2, f3, 'Z'] => do
    timeOf (← readDecimal [y1, y2, y3, y4]) (← readDecimal [m1, m2]) (← readDecimal [d1, d2])
      (← readDecimal [h1, h2]) (← readDecimal [n1, n2]) (← readDecimal [s1, s2])
      (← readDecimal [f1, f2, f3])
  | _ => none

/-- The time that a text with a year of a sign and six digits names. -/
def expandedTime (s : String) : Option ℤ :=
  match s.toList with
  | [sign, y1, y2, y3, y4, y5, y6, '-', m1, m2, '-', d1, d2, 'T', h1, h2, ':', n1, n2, ':', s1, s2,
      '.', f1, f2, f3, 'Z'] => do
    let y ← readDecimal [y1, y2, y3, y4, y5, y6]
    let time := makeTime (← readDecimal [h1, h2]) (← readDecimal [n1, n2]) (← readDecimal [s1, s2])
      (← readDecimal [f1, f2, f3])
    some (makeDay (if sign = '-' then -y else y) ((← readDecimal [m1, m2]) - 1) (← readDecimal [d1, d2]) *
      msPerDay + time)
  | _ => none

/-- `new Date(text).toISOString() === text`: only the texts that `toISOString` writes are. -/
def isCanonicalTimestamp (s : String) : Bool :=
  match dateParse s <|> expandedTime s with
  | some t => decide (-maxTime ≤ t ∧ t ≤ maxTime) && isoString t == s
  | none => false

/-- `/^\d{4}-\d{2}-\d{2}T\d{2}:\d{2}:\d{2}(?:\.\d{3})?Z$/`. -/
def isTimestampText (s : String) : Bool :=
  open Pattern in
  fullMatch (seq (exactly isDecimal 4) <| seq (lit "-") <| seq (exactly isDecimal 2) <| seq (lit "-") <|
    seq (exactly isDecimal 2) <| seq (lit "T") <| seq (exactly isDecimal 2) <| seq (lit ":") <|
    seq (exactly isDecimal 2) <| seq (lit ":") <| seq (exactly isDecimal 2) <|
    seq (opt (seq (lit ".") (exactly isDecimal 3))) (lit "Z")) s

example : isoString 1784030400000 = "2026-07-14T12:00:00.000Z" := by decide
example : isCanonicalTimestamp "+012026-07-14T12:00:00.000Z" = true := by decide +kernel

theorem padded_length : ∀ n k, (padded n k).length = n := by
  intro n
  induction n with
  | zero => intro k; rfl
  | succ n ih => intro k; simp [padded, ih]

theorem digitChar_spec : ∀ k < 10, isDecimal (Nat.digitChar k) = true ∧ (Nat.digitChar k).toNat - 48 = k := by
  decide

theorem padded_decimal : ∀ n k, ∀ c ∈ padded n k, isDecimal c = true := by
  intro n
  induction n with
  | zero => intro k c hc; simp [padded] at hc
  | succ n ih =>
    intro k c hc
    rcases List.mem_append.1 hc with hc | hc
    · exact ih _ c hc
    · rw [List.mem_singleton.1 hc]; exact (digitChar_spec _ (Nat.mod_lt _ (by decide))).1

/-- The digits of a number that fits are read back. -/
theorem readDecimal_padded {n k : ℕ} (h : k < 10 ^ n) : readDecimal (padded n k) = some k := by
  have hall : (padded n k).all isDecimal = true := List.all_eq_true.2 (padded_decimal n k)
  unfold readDecimal
  rw [if_pos hall]
  congr 1
  clear hall
  induction n generalizing k with
  | zero => simp only [padded, List.foldl_nil]; omega
  | succ n ih =>
    rw [padded, List.foldl_append, ih (by rw [Nat.pow_succ] at h; omega)]
    simp only [List.foldl_cons, List.foldl_nil, (digitChar_spec _ (Nat.mod_lt k (by decide))).2]
    omega

/-- The calendar fields of a day make that day up. -/
theorem calendar_spec {day y : ℤ} {m d : ℕ} (hy : yearOfDay day = y)
    (hm : monthOfDay (isLeapYear y) (day - dayFromYear y) = m)
    (hd : (day - dayFromYear y - daysBeforeMonth (isLeapYear y) m + 1).toNat = d) :
    m < 12 ∧ 1 ≤ d ∧ d ≤ 31 ∧ makeDay y m d = day := by
  obtain ⟨h1, h2⟩ := yearOfDay_spec day
  rw [dayFromYear_succ] at h2
  rw [hy] at h1 h2
  have hn : ((day - dayFromYear y).toNat : ℤ) = day - dayFromYear y := Int.toNat_of_nonneg (by omega)
  have h := monthOfDay_spec (isLeapYear y) (day - dayFromYear y).toNat (by omega)
  rw [hn, hm] at h
  obtain ⟨hm12, hlo, hhi⟩ := h
  refine ⟨hm12, by omega, by omega, ?_⟩
  unfold makeDay
  omega

/-- The last time of the year 9999. -/
def maxIsoTime : ℤ := 253402300799999

/-- The first time of the year 0. -/
def minIsoTime : ℤ := -62167219200000

theorem yearOfDay_range {day : ℤ} (h1 : -719528 ≤ day) (h2 : day ≤ 2932896) :
    0 ≤ yearOfDay day ∧ yearOfDay day ≤ 9999 := by
  obtain ⟨hlo, hhi⟩ := yearOfDay_spec day
  constructor
  · by_contra h
    have := dayFromYear_mono (show yearOfDay day + 1 ≤ 0 by omega)
    have h0 : dayFromYear 0 = -719528 := by decide
    omega
  · by_contra h
    have := dayFromYear_mono (show 10000 ≤ yearOfDay day by omega)
    have h0 : dayFromYear 10000 = 2932897 := by decide
    omega

/-- Four digits of a number below 10000, spelled out. -/
theorem padded_four (k : ℕ) : padded 4 k = [Nat.digitChar (k / 10 / 10 / 10 % 10),
    Nat.digitChar (k / 10 / 10 % 10), Nat.digitChar (k / 10 % 10), Nat.digitChar (k % 10)] := rfl

theorem padded_three (k : ℕ) : padded 3 k = [Nat.digitChar (k / 10 / 10 % 10),
    Nat.digitChar (k / 10 % 10), Nat.digitChar (k % 10)] := rfl

theorem padded_two (k : ℕ) : padded 2 k = [Nat.digitChar (k / 10 % 10), Nat.digitChar (k % 10)] := rfl

/-- **A time of the years 0 to 9999 is read back from its text.** -/
theorem dateParse_isoString {t : ℤ} (h1 : minIsoTime ≤ t) (h2 : t ≤ maxIsoTime) :
    dateParse (isoString t) = some t := by
  have hday1 : -719528 ≤ t / msPerDay := by unfold msPerDay; unfold minIsoTime at h1; omega
  have hday2 : t / msPerDay ≤ 2932896 := by unfold msPerDay; unfold maxIsoTime at h2; omega
  obtain ⟨hy1, hy2⟩ := yearOfDay_range hday1 hday2
  have hms : 0 ≤ t % msPerDay ∧ t % msPerDay < 86400000 := by unfold msPerDay; omega
  set y := yearOfDay (t / msPerDay) with hy
  set m := monthOfDay (isLeapYear y) (t / msPerDay - dayFromYear y) with hmdef
  set d := (t / msPerDay - dayFromYear y - daysBeforeMonth (isLeapYear y) m + 1).toNat with hd
  set ms := t % msPerDay with hmsdef
  obtain ⟨hm, hd1, hd2, hmk⟩ := calendar_spec hy.symm hmdef.symm hd.symm
  have key : dateParse (isoString t) = timeOf y.toNat (m + 1) d (ms / 3600000).toNat
      (ms / 60000 % 60).toNat (ms / 1000 % 60).toNat (ms % 1000).toNat := by
    have ry := readDecimal_padded (n := 4) (k := y.toNat) (by omega)
    have rm := readDecimal_padded (n := 2) (k := m + 1) (by omega)
    have rd := readDecimal_padded (n := 2) (k := d) (by omega)
    have rh := readDecimal_padded (n := 2) (k := (ms / 3600000).toNat) (by omega)
    have rn := readDecimal_padded (n := 2) (k := (ms / 60000 % 60).toNat) (by omega)
    have rs := readDecimal_padded (n := 2) (k := (ms / 1000 % 60).toNat) (by omega)
    have rf := readDecimal_padded (n := 3) (k := (ms % 1000).toNat) (by omega)
    rw [padded_four] at ry
    rw [padded_two] at rm rd rh rn rs
    rw [padded_three] at rf
    unfold dateParse isoString yearChars
    simp only [← hy, ← hmdef, ← hd, ← hmsdef]
    rw [if_pos ⟨hy1, hy2⟩]
    simp only [String.toList_ofList, padded_four, padded_two, padded_three, List.cons_append,
      List.nil_append]
    simp only [ry, rm, rd, rh, rn, rs, rf, Option.bind_eq_bind, Option.bind_some]
  rw [key]
  unfold timeOf
  rw [if_pos ⟨by omega, by omega, hd1, hd2, by omega, by omega, Or.inl (by omega)⟩,
    Nat.add_sub_cancel, Int.toNat_of_nonneg hy1, hmk]
  refine congrArg some ?_
  unfold makeTime
  have := Int.mul_ediv_add_emod t msPerDay
  rw [Int.mul_comm] at this
  omega

/-- **The text of a time of the years 0 to 9999 has the form of a timestamp.** -/
theorem isTimestampText_isoString {t : ℤ} (h1 : minIsoTime ≤ t) (h2 : t ≤ maxIsoTime) :
    isTimestampText (isoString t) = true := by
  have hday1 : -719528 ≤ t / msPerDay := by unfold msPerDay; unfold minIsoTime at h1; omega
  have hday2 : t / msPerDay ≤ 2932896 := by unfold msPerDay; unfold maxIsoTime at h2; omega
  have hdigits : ∀ n k (rest : List Char), rest ∈ Pattern.exactly isDecimal n (padded n k ++ rest) :=
    fun n k rest => Pattern.mem_exactly.2 ⟨padded n k, padded_length n k, padded_decimal n k, rfl⟩
  have hlit : ∀ (c : Char) (s : String) (rest : List Char), s.toList = [c] →
      rest ∈ Pattern.lit s (c :: rest) := fun c s rest h => Pattern.mem_lit.2 (by rw [h]; rfl)
  unfold isTimestampText isoString yearChars
  simp only
  rw [if_pos (yearOfDay_range hday1 hday2), Pattern.fullMatch_iff, String.toList_ofList]
  simp only [List.append_assoc, List.cons_append]
  -- one separator and one run of digits after the other
  refine Pattern.mem_seq.2 ⟨_, hdigits 4 _ _, Pattern.mem_seq.2 ⟨_, hlit '-' _ _ (by decide), ?_⟩⟩
  refine Pattern.mem_seq.2 ⟨_, hdigits 2 _ _, Pattern.mem_seq.2 ⟨_, hlit '-' _ _ (by decide), ?_⟩⟩
  refine Pattern.mem_seq.2 ⟨_, hdigits 2 _ _, Pattern.mem_seq.2 ⟨_, hlit 'T' _ _ (by decide), ?_⟩⟩
  refine Pattern.mem_seq.2 ⟨_, hdigits 2 _ _, Pattern.mem_seq.2 ⟨_, hlit ':' _ _ (by decide), ?_⟩⟩
  refine Pattern.mem_seq.2 ⟨_, hdigits 2 _ _, Pattern.mem_seq.2 ⟨_, hlit ':' _ _ (by decide), ?_⟩⟩
  refine Pattern.mem_seq.2 ⟨_, hdigits 2 _ _, Pattern.mem_seq.2 ⟨['Z'], ?_, ?_⟩⟩
  · refine Pattern.mem_opt.2 (Or.inl (Pattern.mem_seq.2 ⟨_, hlit '.' _ _ (by decide), ?_⟩))
    exact hdigits 3 _ _
  · exact hlit 'Z' _ _ (by decide)

theorem timeOf_ge {y m d hour minute second ms : ℕ} {t : ℤ}
    (h : timeOf y m d hour minute second ms = some t) : minIsoTime ≤ t := by
  unfold timeOf at h
  split at h
  · rename_i hr
    have hmonth : ∀ leap : Bool, ∀ k < 12, 0 ≤ daysBeforeMonth leap k := by decide
    have h0 : dayFromYear 0 = -719528 := by decide
    have hy := dayFromYear_mono (show (0 : ℤ) ≤ y by omega)
    have hm := hmonth (isLeapYear y) (m - 1) (by omega)
    have ht := Option.some.inj h
    have hd : -719528 ≤ makeDay y (m - 1) d := by unfold makeDay; omega
    unfold msPerDay makeTime at ht
    unfold minIsoTime
    omega
  · simp at h

/-- A time read from a text is not before the year 0. -/
theorem dateParse_ge {s : String} {t : ℤ} (h : dateParse s = some t) : minIsoTime ≤ t := by
  unfold dateParse at h
  split at h
  · simp only [Option.bind_eq_bind, Option.bind_eq_some_iff] at h
    obtain ⟨_, -, _, -, _, -, _, -, _, -, _, -, h⟩ := h
    exact timeOf_ge h
  · simp only [Option.bind_eq_bind, Option.bind_eq_some_iff] at h
    obtain ⟨_, -, _, -, _, -, _, -, _, -, _, -, _, -, h⟩ := h
    exact timeOf_ge h
  · simp at h

/-- A year after 9999 is written with a sign. -/
theorem isoString_late {t : ℤ} (h : maxIsoTime < t) : ∃ cs, (isoString t).toList = '+' :: cs := by
  have hday : 2932897 ≤ t / msPerDay := by unfold msPerDay; unfold maxIsoTime at h; omega
  have hy : 9999 < yearOfDay (t / msPerDay) := by
    by_contra hle
    have hmono := dayFromYear_mono (show yearOfDay (t / msPerDay) + 1 ≤ 10000 by omega)
    have h0 : dayFromYear 10000 = 2932897 := by decide
    have := (yearOfDay_spec (t / msPerDay)).2
    omega
  have hyear : yearChars (yearOfDay (t / msPerDay)) =
      '+' :: padded 6 (yearOfDay (t / msPerDay)).natAbs := by
    unfold yearChars
    rw [if_neg (by omega), if_neg (by omega)]
  unfold isoString
  simp only [hyear, String.toList_ofList, List.cons_append]
  exact ⟨_, rfl⟩

theorem isTimestampText_head {s : String} (h : isTimestampText s = true) :
    ∃ c cs, s.toList = c :: cs ∧ isDecimal c = true := by
  obtain ⟨m, hm, -⟩ := Pattern.mem_seq.1 (Pattern.fullMatch_iff.1 h)
  obtain ⟨w, hlen, hw, hcat⟩ := Pattern.mem_exactly.1 hm
  cases w with
  | nil => simp at hlen
  | cons c w => exact ⟨c, w ++ m, hcat, hw c List.mem_cons_self⟩

/-- A timestamp text names no time after the year 9999, as later years have a sign. -/
theorem isoString_le {t : ℤ} (h : isTimestampText (isoString t) = true) : t ≤ maxIsoTime := by
  by_contra hlt
  obtain ⟨cs, hsign⟩ := isoString_late (show maxIsoTime < t by omega)
  obtain ⟨c, ds, hhead, hc⟩ := isTimestampText_head h
  rw [hsign, List.cons.injEq] at hhead
  rw [← hhead.1] at hc
  revert hc
  decide

end SecureSaas.Js
