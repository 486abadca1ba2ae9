import SecureSaas.Js.JsonParse
import SecureSaas.Js.Runtime

/-!
# Documents with free strings (`scripts/finalize-bootstrap-candidate.mjs`)

A string of JavaScript is a list of code units, and a surrogate in it may stand alone. The two texts that
the finalization writes of a document are its canonical text, which is hashed, and the indented one, which
goes to the file. Keys are well-formed texts and numbers are integers: the schema of a candidate has no
other ones. A text in UTF-8 is given by its characters.

* `unitsText_codePoints`: decoding the code points of a string replaces the lone surrogates only.
* `readString_quoteUnits`: so does reading the literal of a string.
-/

namespace SecureSaas.Bootstrap

open Js

/-! ## Strings -/

def isHighSurrogate (u : UInt16) : Bool := 0xd800 ≤ u.toNat && u.toNat ≤ 0xdbff

def isLowSurrogate (u : UInt16) : Bool := 0xdc00 ≤ u.toNat && u.toNat ≤ 0xdfff

/-- The code points of a string; a lone surrogate is one by itself. -/
def codePoints : List UInt16 → List ℕ
  | [] => []
  | [u] => [u.toNat]
  | h :: l :: rest =>
    if isHighSurrogate h && isLowSurrogate l then
      (0x10000 + (h.toNat - 0xd800) * 0x400 + (l.toNat - 0xdc00)) :: codePoints rest
    else h.toNat :: codePoints (l :: rest)

def isSurrogate (p : ℕ) : Bool := 0xd800 ≤ p && p ≤ 0xdfff

/-- The characters that `JSON.stringify` writes for a code point. -/
def quotePoint (p : ℕ) : List Char :=
  if isSurrogate p then
    ['\\', 'u', 'd', Nat.digitChar (p / 256 % 16), Nat.digitChar (p / 16 % 16), Nat.digitChar (p % 16)]
  else escapeChar (Char.ofNat p)

/-- `JSON.stringify` of a string. -/
def quoteUnits (s : List UInt16) : List Char := '"' :: ((codePoints s).flatMap quotePoint ++ ['"'])

/-- The string as a text, with U+FFFD for every lone surrogate. -/
def wellFormed (s : List UInt16) : String := String.ofList ((codePoints s).map unitChar)

/-- The string of a text. -/
def units (text : String) : List UInt16 :=
  text.toList.flatMap fun c =>
    if c.toNat < 0x10000 then [UInt16.ofNat c.toNat]
    else [UInt16.ofNat (0xd800 + (c.toNat - 0x10000) / 0x400), UInt16.ofNat (0xdc00 + (c.toNat - 0x10000) % 0x400)]

/-! ## Documents -/

inductive Document
  | null
  | bool (b : Bool)
  | number (n : ℤ)
  | string (s : List UInt16)
  | array (items : List Document)
  | object (members : List (String × Document))

namespace Document

mutual
/-- `canonicalJson(value)`. -/
def canonicalChars (rt : Runtime) : Document → List Char
  | .null => ['n', 'u', 'l', 'l']
  | .bool true => ['t', 'r', 'u', 'e']
  | .bool false => ['f', 'a', 'l', 's', 'e']
  | .number n => intChars n
  | .string s => quoteUnits s
  | .array items => '[' :: (commaJoin (canonicalItems rt items) ++ [']'])
  | .object members =>
    '{' :: (commaJoin ((rt.sortByKey Prod.fst (ownOrder (canonicalEntries rt members))).map entryChars) ++ ['}'])
def canonicalItems (rt : Runtime) : List Document → List (List Char)
  | [] => []
  | v :: rest => v.canonicalChars rt :: canonicalItems rt rest
def canonicalEntries (rt : Runtime) : List (String × Document) → List (String × List Char)
  | [] => []
  | (k, v) :: rest => (k, v.canonicalChars rt) :: canonicalEntries rt rest
end

/-- A line break and two blanks for each level. -/
def indent (depth : ℕ) : List Char := '\n' :: List.replicate (2 * depth) ' '

/-- `"key": text` on a line of its own. -/
def prettyEntry (depth : ℕ) (p : String × List Char) : List Char :=
  indent depth ++ (quoteChars p.1 ++ ':' :: ' ' :: p.2)

mutual
/-- `JSON.stringify(value, null, 2)` at some depth. -/
def prettyChars : ℕ → Document → List Char
  | _, .null => ['n', 'u', 'l', 'l']
  | _, .bool true => ['t', 'r', 'u', 'e']
  | _, .bool false => ['f', 'a', 'l', 's', 'e']
  | _, .number n => intChars n
  | _, .string s => quoteUnits s
  | depth, .array items =>
    if items.isEmpty then ['[', ']'] else '[' :: (commaJoin (prettyItems (depth + 1) items) ++ (indent depth ++ [']']))
  | depth, .object members =>
    if members.isEmpty then ['{', '}']
    else '{' :: (commaJoin ((ownOrder (prettyEntries (depth + 1) members)).map (prettyEntry (depth + 1))) ++
      (indent depth ++ ['}']))
/-- The items of an array, each on a line of its own. -/
def prettyItems : ℕ → List Document → List (List Char)
  | _, [] => []
  | depth, v :: rest => (indent depth ++ prettyChars depth v) :: prettyItems depth rest
def prettyEntries : ℕ → List (String × Document) → List (String × List Char)
  | _, [] => []
  | depth, (k, v) :: rest => (k, prettyChars depth v) :: prettyEntries depth rest
end

end Document

/-! ## Plain documents -/

/-- Different keys of letters and digits, in the same order with and without regard to case. -/
structure PlainKeys (keys : List String) : Prop where
  nodup : keys.Nodup
  alnum : ∀ k ∈ keys, ∀ c ∈ k.toList, isAlnum c = true
  ordered : ∀ k ∈ keys, ∀ l ∈ keys, lowerLE k l = true ↔ k ≤ l

namespace Document

mutual
/-- The keys of every object are plain and the numbers are nonnegative safe integers. -/
def Plain : Document → Prop
  | .number n => 0 ≤ n ∧ n ≤ maxSafeInteger
  | .array items => PlainItems items
  | .object members => PlainKeys (members.map Prod.fst) ∧ PlainEntries members
  | _ => True
def PlainItems : List Document → Prop
  | [] => True
  | v :: rest => Plain v ∧ PlainItems rest
def PlainEntries : List (String × Document) → Prop
  | [] => True
  | (_, v) :: rest => Plain v ∧ PlainEntries rest
end

mutual
/-- The strings of a document that are not keys. -/
def strings : Document → List (List UInt16)
  | .string s => [s]
  | .array items => stringsItems items
  | .object members => stringsEntries members
  | _ => []
def stringsItems : List Document → List (List UInt16)
  | [] => []
  | v :: rest => strings v ++ stringsItems rest
def stringsEntries : List (String × Document) → List (List UInt16)
  | [] => []
  | (_, v) :: rest => strings v ++ stringsEntries rest
end

end Document

/-! ## Code points -/

/-- A low surrogate that opens the code points of a string opens the string. -/
theorem codePoints_low {l : UInt16} {rest : List UInt16} {p : ℕ} {ps : List ℕ}
    (h : codePoints (l :: rest) = p :: ps) (hp : 0xdc00 ≤ p ∧ p ≤ 0xdfff) : isLowSurrogate l = true := by
  have hfirst : p = l.toNat ∨ 0x10000 ≤ p := by
    cases rest with
    | nil =>
      rw [codePoints] at h
      exact Or.inl (List.cons.inj h).1.symm
    | cons m rest =>
      rw [codePoints] at h
      split at h
      · right
        have := (List.cons.inj h).1
        omega
      · exact Or.inl (List.cons.inj h).1.symm
  rcases hfirst with rfl | hbig
  · simp [isLowSurrogate, hp]
  · omega

/-- **Decoding the code points of a string replaces the lone surrogates only.** -/
theorem unitsText_codePoints : ∀ s : List UInt16, unitsText (codePoints s) = (codePoints s).map unitChar := by
  have hcons : ∀ (p : ℕ) (ps : List ℕ), unitsText ps = ps.map unitChar →
      (∀ q qs, ps = q :: qs → ¬ ((0xd800 ≤ p ∧ p ≤ 0xdbff) ∧ 0xdc00 ≤ q ∧ q ≤ 0xdfff)) →
        unitsText (p :: ps) = (p :: ps).map unitChar := by
    intro p ps hps hpair
    cases ps with
    | nil => rfl
    | cons q qs =>
      rw [unitsText, if_neg (hpair q qs rfl), hps]
      rfl
  intro s
  induction s using codePoints.induct with
  | case1 => rfl
  | case2 u => rfl
  | case3 h l rest hpair ih =>
    rw [codePoints, if_pos hpair]
    refine hcons _ _ ih fun q qs _ hbad => ?_
    omega
  | case4 h l rest hpair ih =>
    rw [codePoints, if_neg hpair]
    refine hcons _ _ ih fun q qs hq hbad => hpair ?_
    rw [codePoints_low hq hbad.2, Bool.and_true]
    simp [isHighSurrogate, hbad.1]

theorem codePoints_lt : ∀ (s : List UInt16), ∀ p ∈ codePoints s, p < 0x110000 := by
  have hunit : ∀ u : UInt16, u.toNat < 0x10000 := fun u => u.toNat_lt
  intro s
  induction s using codePoints.induct with
  | case1 => exact fun p hp => absurd hp List.not_mem_nil
  | case2 u =>
    intro p hp
    rw [codePoints, List.mem_singleton] at hp
    have := hunit u
    omega
  | case3 h l rest hpair ih =>
    intro p hp
    rw [codePoints, if_pos hpair] at hp
    rcases List.mem_cons.1 hp with heq | hp
    · simp only [isHighSurrogate, isLowSurrogate, Bool.and_eq_true, decide_eq_true_eq] at hpair
      omega
    · exact ih p hp
  | case4 h l rest hpair ih =>
    intro p hp
    rw [codePoints, if_neg hpair] at hp
    rcases List.mem_cons.1 hp with rfl | hp
    · have := hunit h
      omega
    · exact ih p hp

/-- A code point that is no surrogate is a character. -/
theorem toNat_ofNat_point {p : ℕ} (hp : p < 0x110000) (hs : isSurrogate p = false) : (Char.ofNat p).toNat = p := by
  have hvalid : p.isValidChar := by
    unfold isSurrogate at hs
    rw [Bool.and_eq_false_iff, decide_eq_false_iff_not, decide_eq_false_iff_not] at hs
    unfold Nat.isValidChar
    omega
  rw [Char.ofNat, dif_pos hvalid]
  rfl

/-- A written code point is read back as itself. -/
theorem readUnits_quotePoint {p : ℕ} (hp : p < 0x110000) (rest : List Char) :
    readUnits (quotePoint p ++ rest) = (readUnits rest).map fun read => (p :: read.1, read.2) := by
  unfold quotePoint
  split
  · rename_i hs
    unfold isSurrogate at hs
    rw [Bool.and_eq_true, decide_eq_true_eq, decide_eq_true_eq] at hs
    have hd : hexDigit 'd' = some 13 := by decide
    have hunit : hexUnit 'd' (Nat.digitChar (p / 256 % 16)) (Nat.digitChar (p / 16 % 16))
        (Nat.digitChar (p % 16)) = some p := by
      unfold hexUnit
      rw [hd, hexDigit_digitChar _ (by omega), hexDigit_digitChar _ (by omega), hexDigit_digitChar _ (by omega)]
      simp only [Option.bind_eq_bind, Option.bind_some, Option.some.injEq]
      omega
    simp only [List.cons_append, List.nil_append, readUnits, hunit]
    cases readUnits rest <;> rfl
  · rename_i hs
    rw [readUnits_escapeChar, toNat_ofNat_point hp (by simpa using hs)]

theorem readUnits_quoteUnits {ps : List ℕ} (hps : ∀ p ∈ ps, p < 0x110000) (rest : List Char) :
    readUnits (ps.flatMap quotePoint ++ '"' :: rest) = some (ps, rest) := by
  induction ps with
  | nil => simp [readUnits]
  | cons p ps ih =>
    obtain ⟨hp, hrest⟩ := List.forall_mem_cons.1 hps
    rw [List.flatMap_cons, List.append_assoc, readUnits_quotePoint hp, ih hrest]
    rfl

/-- **Reading the literal of a string replaces its lone surrogates.** -/
theorem readString_quoteUnits (s : List UInt16) (rest : List Char) :
    readString ((codePoints s).flatMap quotePoint ++ '"' :: rest) = some (wellFormed s, rest) := by
  unfold readString wellFormed
  rw [readUnits_quoteUnits (codePoints_lt s), Option.map_some, unitsText_codePoints]

end SecureSaas.Bootstrap
