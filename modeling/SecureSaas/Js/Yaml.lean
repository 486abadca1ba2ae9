import SecureSaas.Js.Equivalent
import SecureSaas.Js.JsonParse
import Mathlib.Data.List.DropRight
import Mathlib.Tactic.IntervalCases

/-!
# Lines of YAML

A renderer writes a document as lines in block style, with the values as JSON strings and the keys as they are. A decoder
reads of a line the indentation, the mark of an item, a key, and a value that is a JSON string or plain.

* `readString_ne_self`: a text that starts with a quote is not read as itself.
* `entry_safe_iff`: **a line with a key is read as it is meant exactly if the key is plain.**
* `item_safe_iff`: the same for an item without quotes.
-/

namespace SecureSaas.Js.Yaml

/-! ## Reading a line -/

/-- A scalar as it is written: a JSON string by its value, or a plain text. -/
inductive Scalar where
  | quoted (value : String)
  | plain (text : String)
deriving DecidableEq

/-- What a line says: how far it is indented, whether it starts an item, and its key and its value. -/
structure Reading (α : Type) where
  indent : ℕ
  item : Bool
  key : Option α
  value : Option α
deriving DecidableEq

def isBreak (c : Char) : Bool := c == '\n' || c == '\r'

def isBlank (c : Char) : Bool := c == ' ' || c == '\t'

def isColon (c : Char) : Bool := c == ':'

def isHash (c : Char) : Bool := c == '#'

/-- The characters of one line that need no escape. -/
def isPrintable (c : Char) : Bool :=
  c == '\t' || (0x20 ≤ c.toNat && c.toNat ≤ 0x7e) || c.toNat == 0x85 ||
    (0xa0 ≤ c.toNat && c.toNat ≤ 0xfffd && c.toNat != 0xfeff) || 0x10000 ≤ c.toNat

def indicators : List Char := ",[]\x7b\x7d#&*!|>'\"%@`".toList

/-- What follows is blank, or the line ends. -/
def startsBlank (cs : List Char) : Bool := cs.head?.all isBlank

/-- A plain scalar can start here. -/
def startsPlain : List Char → Bool
  | [] => false
  | c :: cs => if "-?:".toList.contains c then !startsBlank cs else !indicators.contains c && !isBlank c

/-- Two neighbours of these kinds. -/
def hasPair (p q : Char → Bool) : List Char → Bool
  | [] => false
  | [_] => false
  | a :: b :: cs => (p a && q b) || hasPair p q (b :: cs)

/-- The text before the colon that ends a key, and the text after it. -/
def splitKey : List Char → Option (List Char × List Char)
  | [] => none
  | c :: cs =>
    if isColon c && startsBlank cs then some ([], cs) else (splitKey cs).map fun parts => (c :: parts.1, parts.2)

/-- The characters of a plain scalar, without the blanks after it. A `#` after a blank starts a comment. -/
def readPlain (cs : List Char) : Option Scalar :=
  let text := cs.rdropWhile isBlank
  if text.all isPrintable && !hasPair isBlank isHash text then some (.plain (String.ofList text)) else none

/-- The value after a key. An empty mapping and the header of a block are plain here. -/
def readValue (cs : List Char) : Option (Option Scalar) :=
  match cs.dropWhile isBlank with
  | [] => some none
  | '"' :: rest =>
    match readString rest with
    | some (value, []) => some (some (.quoted value))
    | _ => none
  | rest =>
    if rest = "\x7b\x7d".toList ∨ rest = "|-".toList then some (some (.plain (String.ofList rest)))
    else if !startsPlain rest || (splitKey rest).isSome then none
    else (readPlain rest).map some

/-- A key and its value. A key of more than 1024 characters is none. -/
def readEntry (parts : List Char × List Char) : Option (Option Scalar × Option Scalar) :=
  if 1024 < parts.1.length then none
  else (readPlain parts.1).bind fun key => (readValue parts.2).map fun value => (some key, value)

/-- What stands on a line after its indentation and the mark of an item. -/
def readContent (cs : List Char) : Option (Option Scalar × Option Scalar) :=
  match cs with
  | '"' :: rest =>
    match readString rest with
    | some (value, []) => some (none, some (.quoted value))
    | some (key, ':' :: rest) =>
      if startsBlank rest then (readValue rest).map fun value => (some (.quoted key), value) else none
    | _ => none
  | cs =>
    if !startsPlain cs then none
    else
      match splitKey cs with
      | some parts => readEntry parts
      | none => (readPlain cs).map fun value => (none, some value)

/-- The mark of an item, and the text after it. -/
def splitItem : List Char → Bool × List Char
  | '-' :: ' ' :: cs => (true, cs.dropWhile (· == ' '))
  | cs => (false, cs)

def readLine (cs : List Char) : Option (Reading Scalar) :=
  let marked := splitItem (cs.dropWhile (· == ' '))
  (readContent marked.2).map fun content => ⟨(cs.takeWhile (· == ' ')).length, marked.1, content.1, content.2⟩

example : readLine "  - name: \"a: b\"".toList = some ⟨2, true, some (.plain "name"), some (.quoted "a: b")⟩ ∧
    readLine "    a: b: \"c\"".toList = none ∧
    readLine "podSelector: \x7b\x7d".toList = some ⟨0, false, some (.plain "podSelector"), some (.plain "\x7b\x7d")⟩ := by
  decide

/-! ## Values -/

/-- A scalar as the decoder has it: a string, or a number, a truth value and the like. -/
inductive Decoded where
  | string (value : String)
  | other (text : String)
deriving DecidableEq

section
variable (isString : String → Bool)

/-- The decoder decides which plain texts are strings. -/
def Scalar.decoded : Scalar → Decoded
  | .quoted value => .string value
  | .plain text => if isString text then .string text else .other text

def Reading.decoded (reading : Reading Scalar) : Reading Decoded where
  indent := reading.indent
  item := reading.item
  key := reading.key.map (Scalar.decoded isString)
  value := reading.value.map (Scalar.decoded isString)

def readDecoded (cs : List Char) : Option (Reading Decoded) := (readLine cs).map (Reading.decoded isString)

end

/-! ## Writing a line -/

/-- A line of a template. -/
inductive Line where
  /-- A key as it is, and a quoted value. -/
  | entry (indent : ℕ) (item : Bool) (key value : String)
  | number (indent : ℕ) (key : String) (n : ℤ)
  | quotedItem (indent : ℕ) (value : String)
  /-- An item as it is. -/
  | plainItem (indent : ℕ) (text : String)
  | fixed (text : String)

def spaces (n : ℕ) : List Char := List.replicate n ' '

def mark (item : Bool) : List Char := if item then ['-', ' '] else []

def Line.text : Line → List Char
  | .entry indent item key value => spaces indent ++ (mark item ++ (key.toList ++ ':' :: ' ' :: quoteChars value))
  | .number indent key n => spaces indent ++ (key.toList ++ ':' :: ' ' :: intChars n)
  | .quotedItem indent value => spaces indent ++ (mark true ++ quoteChars value)
  | .plainItem indent text => spaces indent ++ (mark true ++ text.toList)
  | .fixed text => text.toList

section
variable (isString : String → Bool)

/-- What the line is meant to say. The keys, the values and the items of a template are strings. -/
def Line.reading : Line → Reading Decoded
  | .entry indent item key value => ⟨indent, item, some (.string key), some (.string value)⟩
  | .number indent key n =>
    ⟨indent, false, some (.string key), some ((Scalar.plain (String.ofList (intChars n))).decoded isString)⟩
  | .quotedItem indent value => ⟨indent, true, none, some (.string value)⟩
  | .plainItem indent text => ⟨indent, true, none, some (.string text)⟩
  | .fixed text => (readDecoded isString text.toList).getD ⟨0, false, none, none⟩

/-- The line is one line, and it is read as it is meant. -/
def Line.Safe (line : Line) : Prop :=
  readDecoded isString line.text = some (line.reading isString) ∧ ∀ c ∈ line.text, isBreak c = false

end

/-- The text is a plain scalar as far as its characters go. -/
def isPlainText (cs : List Char) : Bool :=
  cs.all isPrintable && !hasPair isBlank isHash cs && cs.rdropWhile isBlank == cs

/-- A text that is a plain key. -/
def isPlainKey (key : String) : Bool :=
  startsPlain (key.toList ++ [':']) && !hasPair isColon isBlank key.toList && isPlainText key.toList &&
    key.toList.length ≤ 1024

/-- A text that is a plain item. -/
def isPlainItem (text : String) : Bool :=
  startsPlain text.toList && (splitKey text.toList).isNone && isPlainText text.toList

/-! ## Characters -/

theorem isPrintable_not_break {c : Char} (h : isPrintable c = true) : isBreak c = false := by
  refine Bool.eq_false_of_not_eq_true fun hbreak => ?_
  simp only [isBreak, Bool.or_eq_true, beq_iff_eq] at hbreak
  rcases hbreak with rfl | rfl
  · exact absurd h (by decide)
  · exact absurd h (by decide)

theorem not_break_of_all {cs : List Char} (h : cs.all (!isBreak ·) = true) : ∀ c ∈ cs, isBreak c = false := by
  simpa using h

theorem escapeChar_not_break (c : Char) : ∀ d ∈ escapeChar c, isBreak d = false := by
  have hdigit : ∀ n < 16, isBreak (Nat.digitChar n) = false := by decide
  unfold escapeChar
  split_ifs with h1 h2 h3 h4 h5 h6 h7 h8
  · exact not_break_of_all (by decide)
  · exact not_break_of_all (by decide)
  · exact not_break_of_all (by decide)
  · exact not_break_of_all (by decide)
  · exact not_break_of_all (by decide)
  · exact not_break_of_all (by decide)
  · exact not_break_of_all (by decide)
  · intro d hd
    simp only [List.mem_cons, List.not_mem_nil, or_false] at hd
    rcases hd with rfl | rfl | rfl | rfl | rfl | rfl
    · decide
    · decide
    · decide
    · decide
    · exact hdigit _ (by omega)
    · exact hdigit _ (by omega)
  · intro d hd
    obtain rfl := List.mem_singleton.1 hd
    refine Bool.eq_false_of_not_eq_true fun hbreak => ?_
    simp only [isBreak, Bool.or_eq_true, beq_iff_eq] at hbreak
    rcases hbreak with rfl | rfl
    · exact h5 rfl
    · exact h6 rfl

theorem quoteChars_not_break (s : String) : ∀ c ∈ quoteChars s, isBreak c = false := by
  intro c hc
  unfold quoteChars at hc
  rcases List.mem_cons.1 hc with rfl | hc
  · decide
  · rcases List.mem_append.1 hc with hc | hc
    · obtain ⟨d, -, hd⟩ := List.mem_flatMap.1 hc
      exact escapeChar_not_break d c hd
    · obtain rfl := List.mem_singleton.1 hc
      decide

/-- The characters of an integer are digits, and a minus. -/
theorem intChars_kinds (n : ℤ) : ∀ c ∈ intChars n, isPrintable c = true ∧ isBlank c = false ∧ isColon c = false ∧
    isHash c = false := by
  intro c hc
  rcases intChars_whole n c hc with hdigit | rfl
  · have hrange : 48 ≤ c.toNat ∧ c.toNat ≤ 57 := by
      simp only [Char.isDigit, Bool.and_eq_true, decide_eq_true_eq] at hdigit
      exact ⟨UInt32.le_iff_toNat_le.1 hdigit.1, UInt32.le_iff_toNat_le.1 hdigit.2⟩
    have hne : ∀ d : Char, (d.toNat < 48 ∨ 57 < d.toNat) → (c == d) = false := by
      intro d hd
      rw [beq_eq_false_iff_ne]
      rintro rfl
      omega
    refine ⟨?_, ?_, hne ':' (by decide), hne '#' (by decide)⟩
    · have hlow : 0x20 ≤ c.toNat ∧ c.toNat ≤ 0x7e := by omega
      simp [isPrintable, hlow]
    · unfold isBlank
      rw [hne ' ' (by decide), hne '\t' (by decide), Bool.or_false]
  · decide

/-! ## Keys -/

theorem hasPair_of_none {p q : Char → Bool} : ∀ {cs : List Char}, (∀ c ∈ cs, p c = false) → hasPair p q cs = false
  | [], _ => rfl
  | [_], _ => rfl
  | a :: b :: cs, h => by
    rw [hasPair, h a List.mem_cons_self, Bool.false_and, Bool.false_or]
    exact hasPair_of_none fun c hc => h c (List.mem_cons_of_mem _ hc)

theorem splitKey_none : ∀ {cs : List Char}, (∀ c ∈ cs, isColon c = false) → splitKey cs = none
  | [], _ => rfl
  | c :: cs, h => by
    rw [splitKey, h c List.mem_cons_self, Bool.false_and, if_neg Bool.false_ne_true,
      splitKey_none fun d hd => h d (List.mem_cons_of_mem _ hd), Option.map_none]

/-- A key without a colon before a blank ends at the colon after it. -/
theorem splitKey_key : ∀ {key rest : List Char}, hasPair isColon isBlank key = false →
    splitKey (key ++ ':' :: ' ' :: rest) = some (key, ' ' :: rest)
  | [], _, _ => rfl
  | [c], rest, _ => by
    have hcolon : (isColon c && startsBlank (':' :: ' ' :: rest)) = false := Bool.and_false _
    rw [List.singleton_append, splitKey, hcolon, if_neg Bool.false_ne_true]
    rfl
  | c :: d :: key, rest, h => by
    rw [hasPair, Bool.or_eq_false_iff] at h
    have hcolon : (isColon c && startsBlank (d :: (key ++ ':' :: ' ' :: rest))) = false := h.1
    rw [List.cons_append, splitKey, List.cons_append, hcolon, if_neg Bool.false_ne_true, ← List.cons_append,
      splitKey_key h.2, Option.map_some]

/-- A colon before a blank ends the key before it. -/
theorem splitKey_shorter : ∀ {key rest : List Char}, hasPair isColon isBlank key = true →
    ∃ parts, splitKey (key ++ rest) = some parts ∧ parts.1.length < key.length
  | a :: b :: key, rest, h => by
    rw [List.cons_append, splitKey, List.cons_append]
    by_cases hhere : (isColon a && startsBlank (b :: (key ++ rest))) = true
    · rw [if_pos hhere]
      exact ⟨_, rfl, Nat.zero_lt_succ _⟩
    · rw [if_neg hhere]
      have hfalse : (isColon a && isBlank b) = false := Bool.eq_false_of_not_eq_true hhere
      rw [hasPair, hfalse, Bool.false_or] at h
      obtain ⟨parts, hparts, hlength⟩ := @splitKey_shorter (b :: key) rest h
      rw [← List.cons_append, hparts]
      exact ⟨_, rfl, Nat.succ_lt_succ hlength⟩

/-- What can start is decided by two characters. -/
theorem startsPlain_colon {key rest : List Char} (hkey : key ≠ []) :
    startsPlain (key ++ ':' :: rest) = startsPlain (key ++ [':']) := by
  match key with
  | [] => exact absurd rfl hkey
  | [_] => rfl
  | _ :: _ :: _ => rfl

theorem startsPlain_head {c : Char} {cs : List Char} (h : startsPlain (c :: cs) = true) : c ≠ ' ' ∧ c ≠ '"' := by
  constructor
  · rintro rfl
    have hspace : startsPlain (' ' :: cs) = false := rfl
    exact absurd (hspace.symm.trans h) Bool.false_ne_true
  · rintro rfl
    have hquote : startsPlain ('"' :: cs) = false := rfl
    exact absurd (hquote.symm.trans h) Bool.false_ne_true

/-- Nothing that is plain starts with the mark of an item. -/
theorem splitItem_plain {cs : List Char} (h : startsPlain cs = true) : splitItem cs = (false, cs) := by
  unfold splitItem
  split
  · rename_i cs
    have hmark : startsPlain ('-' :: ' ' :: cs) = false := rfl
    exact absurd (hmark.symm.trans h) Bool.false_ne_true
  · rfl

theorem splitItem_false {cs : List Char} (h : (splitItem cs).1 = false) : (splitItem cs).2 = cs := by
  unfold splitItem at h ⊢
  split at h
  · cases h
  · rfl

theorem splitItem_mark {cs : List Char} (h : cs.head? ≠ some ' ') : splitItem (mark true ++ cs) = (true, cs) := by
  change (true, cs.dropWhile (· == ' ')) = (true, cs)
  cases cs with
  | nil => rfl
  | cons c cs =>
    rw [List.dropWhile_cons_of_neg]
    simpa using h

/-! ## Plain scalars -/

theorem readPlain_text {cs : List Char} (h : isPlainText cs = true) : readPlain cs = some (.plain (String.ofList cs)) := by
  simp only [isPlainText, Bool.and_eq_true, beq_iff_eq] at h
  unfold readPlain
  simp only
  rw [h.2, if_pos (by rw [h.1.1, h.1.2]; rfl)]

/-- A plain scalar that is read as the text it was written from. -/
theorem readPlain_eq {cs : List Char} {text : String} (h : readPlain cs = some (.plain text)) :
    text.toList = cs.rdropWhile isBlank ∧ (text.toList = cs → isPlainText cs = true) := by
  unfold readPlain at h
  simp only at h
  split at h
  · rename_i htext
    have htext' : String.ofList (cs.rdropWhile isBlank) = text := Scalar.plain.inj (Option.some.inj h)
    have heq : text.toList = cs.rdropWhile isBlank := by rw [← htext', String.toList_ofList]
    refine ⟨heq, fun hcs => ?_⟩
    rw [← heq, hcs] at htext
    unfold isPlainText
    rw [htext, Bool.true_and, beq_iff_eq, ← heq, hcs]
  · cases h

theorem readPlain_plain {cs : List Char} {value : Scalar} (h : readPlain cs = some value) : ∃ text, value = .plain text := by
  unfold readPlain at h
  simp only at h
  split at h
  · exact ⟨_, (Option.some.inj h).symm⟩
  · cases h

/-- The value of an entry is read as the string that was quoted. -/
theorem readValue_quote (value : String) : readValue (' ' :: quoteChars value) = some (some (.quoted value)) := by
  have hdrop : (' ' :: quoteChars value).dropWhile isBlank
      = '"' :: (value.toList.flatMap escapeChar ++ '"' :: []) := by
    rw [List.dropWhile_cons_of_pos (by decide)]
    exact List.dropWhile_cons_of_neg (by decide)
  unfold readValue
  rw [hdrop]
  simp only [readString_quoteChars]

theorem startsPlain_integer (n : ℤ) : startsPlain (intChars n) = true := by
  have hkinds := intChars_kinds n
  have hdigits : ∀ m : ℕ, 48 ≤ m → m ≤ 57 → ∀ cs, startsPlain (Char.ofNat m :: cs) = true := by
    intro m hlow hhigh cs
    interval_cases m <;> rfl
  have hrange : ∀ c ∈ Nat.toDigits 10 n.natAbs, 48 ≤ c.toNat ∧ c.toNat ≤ 57 := by
    intro c hc
    have hdigit := Nat.isDigit_of_mem_toDigits (by decide) (by decide) hc
    simp only [Char.isDigit, Bool.and_eq_true, decide_eq_true_eq] at hdigit
    exact ⟨UInt32.le_iff_toNat_le.1 hdigit.1, UInt32.le_iff_toNat_le.1 hdigit.2⟩
  have hne : Nat.toDigits 10 n.natAbs ≠ [] := Nat.toDigits_ne_nil
  obtain ⟨c, cs, hcs⟩ := List.exists_cons_of_ne_nil hne
  unfold intChars at hkinds ⊢
  by_cases hn : n < 0
  · rw [if_pos hn, hcs] at hkinds ⊢
    have hblank := (hkinds c (List.mem_cons_of_mem _ List.mem_cons_self)).2.1
    change (!isBlank c) = true
    rw [hblank]
    rfl
  · rw [if_neg hn, hcs]
    have hc := hrange c (hcs ▸ List.mem_cons_self)
    rw [← Char.ofNat_toNat c]
    exact hdigits _ hc.1 hc.2 cs

theorem readValue_integer (n : ℤ) :
    readValue (' ' :: intChars n) = some (some (.plain (String.ofList (intChars n)))) := by
  have hkinds := intChars_kinds n
  have hstart := startsPlain_integer n
  have hplain : isPlainText (intChars n) = true := by
    unfold isPlainText
    rw [List.all_eq_true.2 fun c hc => (hkinds c hc).1, hasPair_of_none fun c hc => (hkinds c hc).2.1,
      List.rdropWhile_eq_self_iff.2 fun hne => by rw [(hkinds _ (List.getLast_mem hne)).2.1]; decide]
    simp
  have hbraces : ¬(intChars n = "\x7b\x7d".toList ∨ intChars n = "|-".toList) := by
    rintro (h | h)
    · rw [h] at hstart
      exact absurd hstart (by decide)
    · rw [h] at hstart
      exact absurd hstart (by decide)
  have hdrop : (' ' :: intChars n).dropWhile isBlank = intChars n := by
    rw [List.dropWhile_cons_of_pos (by decide)]
    exact List.dropWhile_eq_self_iff.2 fun hl => by
      rw [(hkinds _ (List.getElem_mem hl)).2.1]
      decide
  unfold readValue
  rw [hdrop]
  split
  · rename_i hnil
    exact absurd hnil (intChars_spec n).1
  · rename_i hquote
    rw [hquote] at hstart
    exact absurd rfl (startsPlain_head hstart).2
  · rw [if_neg hbraces, hstart, splitKey_none fun c hc => (hkinds c hc).2.2.1, readPlain_text hplain]
    rfl

/-! ## Quoted keys -/

/-- What a literal goes on with after its first character: it ends, or the character stands for itself, or it escapes one
character or four digits. -/
theorem readUnits_cons {c : Char} {rest tail : List Char} {units : List ℕ} (h : readUnits (c :: rest) = some (units, tail)) :
    (c = '"' ∧ units = [] ∧ tail = rest) ∨
    (c ≠ '"' ∧ c ≠ '\\' ∧ ∃ more, readUnits rest = some (more, tail) ∧ units = c.toNat :: more) ∨
    (c = '\\' ∧ ∃ unit more, units = unit :: more ∧
      ((∃ d rest', rest = d :: rest' ∧ simpleEscape d = some unit ∧ readUnits rest' = some (more, tail)) ∨
        ∃ a b d e rest', rest = 'u' :: a :: b :: d :: e :: rest' ∧ hexUnit a b d e = some unit ∧
          readUnits rest' = some (more, tail))) := by
  rw [readUnits.eq_def] at h
  split at h
  · cases ‹_ = ([] : List Char)›
  · rename_i heq
    obtain ⟨rfl, rfl⟩ := List.cons.inj heq
    simp only [Option.bind_eq_bind, Option.bind_eq_some_iff] at h
    obtain ⟨unit, hunit, read, hread, h⟩ := h
    obtain ⟨rfl, rfl⟩ := Prod.mk.inj (Option.some.inj h)
    exact Or.inr (Or.inr ⟨rfl, unit, read.1, rfl, Or.inr ⟨_, _, _, _, _, rfl, hunit, hread⟩⟩)
  · rename_i heq
    obtain ⟨rfl, rfl⟩ := List.cons.inj heq
    simp only [Option.bind_eq_bind, Option.bind_eq_some_iff] at h
    obtain ⟨unit, hunit, read, hread, h⟩ := h
    obtain ⟨rfl, rfl⟩ := Prod.mk.inj (Option.some.inj h)
    exact Or.inr (Or.inr ⟨rfl, unit, read.1, rfl, Or.inl ⟨_, _, rfl, hunit, hread⟩⟩)
  · rename_i heq
    obtain ⟨rfl, rfl⟩ := List.cons.inj heq
    split_ifs at h with hquote hbad
    · obtain ⟨rfl, rfl⟩ := Prod.mk.inj (Option.some.inj h)
      exact Or.inl ⟨hquote, rfl, rfl⟩
    · simp only [Option.bind_eq_bind, Option.bind_eq_some_iff] at h
      obtain ⟨read, hread, h⟩ := h
      obtain ⟨rfl, rfl⟩ := Prod.mk.inj (Option.some.inj h)
      exact Or.inr (Or.inl ⟨hquote, fun hslash => hbad (Or.inl hslash), read.1, hread, rfl⟩)

/-- A quote or a backslash takes two characters of a literal at least. -/
def isEscapedUnit (u : ℕ) : Bool := u == 34 || u == 92

theorem countP_unit (u : ℕ) : [u].countP isEscapedUnit ≤ 1 := List.countP_le_length

/-- What a literal takes up, by induction on its characters. -/
theorem readUnits_length (n : ℕ) : ∀ {cs tail : List Char} {units : List ℕ}, cs.length ≤ n →
    readUnits cs = some (units, tail) →
      units.length + units.countP isEscapedUnit + 1 + tail.length ≤ cs.length := by
  induction n with
  | zero =>
    intro cs tail units hn h
    obtain rfl := List.eq_nil_of_length_eq_zero (Nat.le_zero.1 hn)
    cases h
  | succ n ih =>
    intro cs tail units hn h
    cases cs with
    | nil => cases h
    | cons c rest =>
      rw [List.length_cons] at hn ⊢
      rcases readUnits_cons h with ⟨-, rfl, rfl⟩ | ⟨hquote, hslash, more, hmore, rfl⟩ |
        ⟨-, unit, more, rfl, ⟨d, rest', rfl, -, hmore⟩ | ⟨a, b, d, e, rest', rfl, -, hmore⟩⟩
      · rw [List.length_nil, List.countP_nil]
        omega
      · -- a character that stands for itself is no quote and no backslash
        have hunit : isEscapedUnit c.toNat = false := by
          refine Bool.eq_false_of_not_eq_true fun hescaped => ?_
          simp only [isEscapedUnit, Bool.or_eq_true, beq_iff_eq] at hescaped
          rcases hescaped with h34 | h92
          · exact hquote (Char.toNat_inj.1 h34)
          · exact hslash (Char.toNat_inj.1 h92)
        have hrest := ih (by omega) hmore
        rw [List.length_cons, List.countP_cons_of_neg (by rw [hunit]; exact Bool.false_ne_true)]
        omega
      · rw [List.length_cons] at hn ⊢
        have hrest := ih (by omega) hmore
        have hunit := countP_unit unit
        rw [List.length_cons, ← List.singleton_append, List.countP_append]
        omega
      · simp only [List.length_cons] at hn ⊢
        have hrest := ih (by omega) hmore
        have hunit := countP_unit unit
        rw [← List.singleton_append, List.countP_append]
        omega

/-- A literal ends at a quote after a space at the latest: a space is no escape and no hexadecimal digit. -/
theorem readUnits_stops (n : ℕ) : ∀ {cs after tail : List Char} {units : List ℕ}, cs.length ≤ n →
    readUnits (cs ++ ' ' :: '"' :: after) = some (units, tail) → after.length ≤ tail.length := by
  have hhex : ∀ a b d : Char, hexUnit ' ' a b d = none ∧ hexUnit a ' ' b d = none ∧ hexUnit a b ' ' d = none ∧
      hexUnit a b d ' ' = none := by
    intro a b d
    have hspace : hexDigit ' ' = none := by decide
    unfold hexUnit
    rw [hspace]
    refine ⟨rfl, ?_, ?_, ?_⟩
    · cases hexDigit a <;> rfl
    · cases hexDigit a <;> cases hexDigit b <;> rfl
    · cases hexDigit a <;> cases hexDigit b <;> cases hexDigit d <;> rfl
  have hend : ∀ {after tail : List Char} {units : List ℕ}, readUnits (' ' :: '"' :: after) = some (units, tail) →
      after.length ≤ tail.length := by
    intro after tail units h
    rcases readUnits_cons h with ⟨hspace, -⟩ | ⟨-, -, more, hmore, -⟩ | ⟨hspace, -⟩
    · exact absurd hspace (by decide)
    · rcases readUnits_cons hmore with ⟨-, -, rfl⟩ | ⟨hquote, -⟩ | ⟨hslash, -⟩
      · exact le_rfl
      · exact absurd rfl hquote
      · exact absurd hslash (by decide)
    · exact absurd hspace (by decide)
  induction n with
  | zero =>
    intro cs after tail units hn h
    obtain rfl := List.eq_nil_of_length_eq_zero (Nat.le_zero.1 hn)
    exact hend h
  | succ n ih =>
    intro cs after tail units hn h
    cases cs with
    | nil => exact hend h
    | cons c rest =>
      rw [List.length_cons] at hn
      rw [List.cons_append] at h
      rcases readUnits_cons h with ⟨-, -, rfl⟩ | ⟨-, -, more, hmore, -⟩ |
        ⟨-, unit, more, -, ⟨d, rest', heq, hunit, hmore⟩ | ⟨a, b, d, e, rest', heq, hunit, hmore⟩⟩
      · rw [List.length_append, List.length_cons, List.length_cons]
        omega
      · exact ih (by omega) hmore
      · match rest, heq with
        | [], heq =>
          obtain ⟨rfl, -⟩ := List.cons.inj heq
          cases hunit
        | _ :: rest, heq =>
          obtain ⟨rfl, rfl⟩ := List.cons.inj heq
          rw [List.length_cons] at hn
          exact ih (by omega) hmore
      · match rest, heq with
        | [], heq =>
          obtain ⟨hu, -⟩ := List.cons.inj heq
          exact absurd hu (by decide)
        | [_], heq =>
          obtain ⟨-, heq⟩ := List.cons.inj heq
          obtain ⟨rfl, -⟩ := List.cons.inj heq
          rw [(hhex b d e).1] at hunit
          cases hunit
        | [_, _], heq =>
          obtain ⟨-, heq⟩ := List.cons.inj heq
          obtain ⟨-, heq⟩ := List.cons.inj heq
          obtain ⟨rfl, -⟩ := List.cons.inj heq
          rw [(hhex a d e).2.1] at hunit
          cases hunit
        | [_, _, _], heq =>
          obtain ⟨-, heq⟩ := List.cons.inj heq
          obtain ⟨-, heq⟩ := List.cons.inj heq
          obtain ⟨-, heq⟩ := List.cons.inj heq
          obtain ⟨rfl, -⟩ := List.cons.inj heq
          rw [(hhex a b e).2.2.1] at hunit
          cases hunit
        | [_, _, _, _], heq =>
          obtain ⟨-, heq⟩ := List.cons.inj heq
          obtain ⟨-, heq⟩ := List.cons.inj heq
          obtain ⟨-, heq⟩ := List.cons.inj heq
          obtain ⟨-, heq⟩ := List.cons.inj heq
          obtain ⟨rfl, -⟩ := List.cons.inj heq
          rw [(hhex a b d).2.2.2] at hunit
          cases hunit
        | _ :: _ :: _ :: _ :: _ :: rest, heq =>
          simp only [List.cons_append, List.cons.injEq] at heq
          obtain ⟨-, -, -, -, -, rfl⟩ := heq
          simp only [List.length_cons] at hn
          exact ih (by omega) hmore

/-- A character of a text that is ASCII is a unit of its own. -/
theorem unitsText_head {units : List ℕ} {c : Char} {cs : List Char} (hc : 0 < c.toNat ∧ c.toNat < 128)
    (h : unitsText units = c :: cs) : ∃ more, units = c.toNat :: more ∧ unitsText more = cs := by
  have hofNat : ∀ u, Char.ofNat u = c → u = c.toNat := by
    intro u hu
    by_cases hvalid : u.isValidChar
    · rw [← hu, Char.ofNat, dif_pos hvalid]
      rfl
    · rw [← hu, Char.ofNat, dif_neg hvalid] at hc
      exact absurd hc.1 (by decide)
  have hunit : ∀ u, unitChar u = c → u = c.toNat := by
    intro u hu
    unfold unitChar at hu
    split_ifs at hu with hsurrogate
    · rw [← hu] at hc
      exact absurd hc (by decide)
    · exact hofNat u hu
  match units, h with
  | [], h => cases h
  | [u], h =>
    obtain ⟨hu, rfl⟩ := List.cons.inj h
    exact ⟨[], by rw [hunit u hu], rfl⟩
  | u :: l :: more, h =>
    rw [unitsText] at h
    split_ifs at h with hpair
    · obtain ⟨hu, -⟩ := List.cons.inj h
      have hlarge := hofNat _ hu
      omega
    · obtain ⟨hu, rfl⟩ := List.cons.inj h
      exact ⟨l :: more, by rw [hunit u hu], rfl⟩

theorem unitsText_length : ∀ units : List ℕ, (unitsText units).length ≤ units.length
  | [] => le_rfl
  | [_] => le_rfl
  | u :: l :: more => by
    rw [unitsText]
    split_ifs
    · have hmore := unitsText_length more
      simp only [List.length_cons]
      omega
    · have hmore := unitsText_length (l :: more)
      rw [List.length_cons, List.length_cons]
      omega

/-- **A text that starts with a quote is not read as itself before a colon.** The literal would have to take up the text
and the quote after the colon; its first two characters are escaped, so it is too short. -/
theorem readString_ne_self {key after tail : List Char} {text : String}
    (h : readString (key ++ ':' :: ' ' :: '"' :: after) = some (text, tail)) : text.toList ≠ '"' :: key := by
  intro hself
  obtain ⟨⟨units, rest⟩, hread, hpair⟩ := Option.map_eq_some_iff.1 h
  obtain ⟨htext, rfl⟩ := Prod.mk.inj hpair
  have hunits : unitsText units = '"' :: key := by rw [← hself, ← htext, String.toList_ofList]
  -- the first character is a quote, which is escaped
  obtain ⟨more, rfl, hmore⟩ := unitsText_head (by decide) hunits
  have hsplit : key ++ ':' :: ' ' :: '"' :: after = (key ++ [':']) ++ ' ' :: '"' :: after := by
    rw [List.append_assoc]
    rfl
  have hstops := readUnits_stops (key ++ [':']).length le_rfl (hsplit ▸ hread)
  have hlength := readUnits_length _ le_rfl hread
  have htexts := unitsText_length more
  have hkey : key.length ≤ more.length := by rw [← hmore]; exact htexts
  cases key with
  | nil =>
    rcases readUnits_cons hread with ⟨hquote, -⟩ | ⟨-, -, more', -, hunit⟩ | ⟨hslash, -⟩
    · exact absurd hquote (by decide)
    · exact absurd (List.cons.inj hunit).1 (by decide)
    · exact absurd hslash (by decide)
  | cons c key =>
    rw [List.cons_append] at hread
    have hc : c = '\\' := by
      rcases readUnits_cons hread with ⟨-, hnil, -⟩ | ⟨hquote, -, more', -, hunit⟩ | ⟨hslash, -⟩
      · cases hnil
      · exact absurd (Char.toNat_inj.1 (List.cons.inj hunit).1).symm hquote
      · exact hslash
    -- the second character is the backslash of the first, which is escaped as well
    subst hc
    obtain ⟨last, rfl, -⟩ := unitsText_head (by decide) hmore
    have hcount : 2 ≤ (34 :: 92 :: last).countP isEscapedUnit := by
      rw [List.countP_cons_of_pos (by decide), List.countP_cons_of_pos (by decide)]
      omega
    change (34 :: 92 :: last).length + (34 :: 92 :: last).countP isEscapedUnit + 1 + rest.length ≤ _ at hlength
    simp only [List.length_append, List.length_cons] at hlength hkey hstops
    omega

/-! ## Lines that are read as they are meant -/

theorem head_startsPlain {cs : List Char} (h : startsPlain cs = true) : cs.head? ≠ some ' ' := by
  cases cs with
  | nil => cases h
  | cons c cs => exact fun hc => (startsPlain_head h).1 (Option.some.inj hc)

/-- The indentation ends at the first character that is no space. -/
theorem readLine_spaces {n : ℕ} {cs : List Char} (h : cs.head? ≠ some ' ') :
    readLine (spaces n ++ cs) =
      (readContent (splitItem cs).2).map fun content => ⟨n, (splitItem cs).1, content.1, content.2⟩ := by
  have hspaces : ∀ c ∈ spaces n, (c == ' ') = true := fun c hc => beq_iff_eq.2 (List.eq_of_mem_replicate hc)
  have htake : cs.takeWhile (· == ' ') = [] ∧ cs.dropWhile (· == ' ') = cs := by
    cases cs with
    | nil => exact ⟨rfl, rfl⟩
    | cons c cs =>
      have hc : (c == ' ') = false := beq_eq_false_iff_ne.2 fun hc => h (congrArg some hc)
      exact ⟨List.takeWhile_cons_of_neg (by rw [hc]; exact Bool.false_ne_true),
        List.dropWhile_cons_of_neg (by rw [hc]; exact Bool.false_ne_true)⟩
  unfold readLine
  rw [List.dropWhile_append_of_pos hspaces, List.takeWhile_append_of_pos hspaces, htake.1, htake.2, List.append_nil]
  unfold spaces
  rw [List.length_replicate]

/-- One more space is one more step of indentation. -/
theorem readLine_indent {n : ℕ} {cs : List Char} {reading : Reading Scalar}
    (h : readLine (spaces n ++ ' ' :: cs) = some reading) : reading.indent ≠ n := by
  obtain ⟨content, -, hreading⟩ := Option.map_eq_some_iff.1 h
  have hspaces : ∀ c ∈ spaces n, (c == ' ') = true := fun c hc => beq_iff_eq.2 (List.eq_of_mem_replicate hc)
  have hlength : (spaces n).length = n := List.length_replicate
  rw [← hreading]
  change ((spaces n ++ ' ' :: cs).takeWhile (· == ' ')).length ≠ n
  rw [List.takeWhile_append_of_pos hspaces, List.takeWhile_cons_of_pos (by decide), List.length_append, List.length_cons,
    hlength]
  omega

theorem readContent_plain {cs : List Char} (h : startsPlain cs = true) : readContent cs =
    match splitKey cs with
    | some parts => readEntry parts
    | none => (readPlain cs).map fun value => (none, some value) := by
  unfold readContent
  split
  · exact absurd rfl (startsPlain_head h).2
  · rw [h]
    rfl

/-- The key and the value of an entry. -/
theorem readContent_entry {key : String} {rest : List Char} {value : Option Scalar} (h : isPlainKey key = true)
    (hvalue : readValue (' ' :: rest) = some value) :
    startsPlain (key.toList ++ ':' :: ' ' :: rest) = true ∧
      readContent (key.toList ++ ':' :: ' ' :: rest) = some (some (.plain key), value) := by
  simp only [isPlainKey, Bool.and_eq_true, Bool.not_eq_true', decide_eq_true_eq] at h
  obtain ⟨⟨⟨hstart, hpair⟩, htext⟩, hlength⟩ := h
  have hne : key.toList ≠ [] := by
    intro hnil
    rw [hnil] at hstart
    exact absurd hstart (by decide)
  have hplain : startsPlain (key.toList ++ ':' :: ' ' :: rest) = true := by rw [startsPlain_colon hne, hstart]
  refine ⟨hplain, ?_⟩
  rw [readContent_plain hplain, splitKey_key hpair]
  simp only [readEntry]
  rw [if_neg (by omega), readPlain_text htext, Option.bind_some, hvalue, Option.map_some, String.ofList_toList]

theorem readDecoded_spaces {isString : String → Bool} {n : ℕ} {cs : List Char} {item : Bool} {key value : Option Scalar}
    (h : cs.head? ≠ some ' ') (hitem : splitItem cs = (item, (splitItem cs).2))
    (hcontent : readContent (splitItem cs).2 = some (key, value)) :
    readDecoded isString (spaces n ++ cs) =
      some ⟨n, item, key.map (Scalar.decoded isString), value.map (Scalar.decoded isString)⟩ := by
  have hfst : (splitItem cs).1 = item := congrArg Prod.fst hitem
  unfold readDecoded
  rw [readLine_spaces h, hcontent, hfst]
  rfl

theorem spaces_not_break (n : ℕ) : ∀ c ∈ spaces n, isBreak c = false := by
  intro c hc
  rw [List.eq_of_mem_replicate hc]
  decide

theorem mark_not_break (item : Bool) : ∀ c ∈ mark item, isBreak c = false := by
  cases item <;> exact not_break_of_all (by decide)

theorem isPlainText_not_break {cs : List Char} (h : isPlainText cs = true) : ∀ c ∈ cs, isBreak c = false := by
  simp only [isPlainText, Bool.and_eq_true] at h
  exact fun c hc => isPrintable_not_break (List.all_eq_true.1 h.1.1 c hc)

theorem isPlainKey_text {key : String} (h : isPlainKey key = true) : isPlainText key.toList = true := by
  simp only [isPlainKey, Bool.and_eq_true] at h
  exact h.1.2

section
variable {isString : String → Bool} {indent : ℕ} {item : Bool} {key value : String}

/-- A line with a plain key is read as it is meant. -/
theorem entry_decoded {rest : List Char} {scalar : Scalar} (hkey : isPlainKey key = true) (hstring : isString key = true)
    (hvalue : readValue (' ' :: rest) = some (some scalar)) :
    readDecoded isString (spaces indent ++ (mark item ++ (key.toList ++ ':' :: ' ' :: rest))) =
      some ⟨indent, item, some (.string key), some (scalar.decoded isString)⟩ := by
  obtain ⟨hstart, hcontent⟩ := readContent_entry hkey hvalue
  have hdecoded : Scalar.decoded isString (.plain key) = .string key := if_pos hstring
  cases item with
  | false =>
    have hmark := splitItem_plain hstart
    change readDecoded isString (spaces indent ++ (key.toList ++ ':' :: ' ' :: rest)) = _
    rw [readDecoded_spaces (head_startsPlain hstart) (by rw [hmark]) (by rw [hmark]; exact hcontent), ← hdecoded]
    rfl
  | true =>
    have hmark := splitItem_mark (head_startsPlain hstart)
    have hhead : (mark true ++ (key.toList ++ ':' :: ' ' :: rest)).head? ≠ some ' ' := fun h => by cases h
    rw [readDecoded_spaces hhead (by rw [hmark]) (by rw [hmark]; exact hcontent), ← hdecoded]
    rfl

theorem entry_safe (hkey : isPlainKey key = true) (hstring : isString key = true) :
    (Line.entry indent item key value).Safe isString := by
  refine ⟨entry_decoded hkey hstring (readValue_quote value), fun c hc => ?_⟩
  simp only [Line.text, List.mem_append, List.mem_cons] at hc
  rcases hc with hc | hc | hc | rfl | rfl | hc
  · exact spaces_not_break _ c hc
  · exact mark_not_break _ c hc
  · exact isPlainText_not_break (isPlainKey_text hkey) c hc
  · decide
  · decide
  · exact quoteChars_not_break _ c hc

theorem number_safe {n : ℤ} (hkey : isPlainKey key = true) (hstring : isString key = true) :
    (Line.number indent key n).Safe isString := by
  refine ⟨@entry_decoded isString indent false key (intChars n) _ hkey hstring (readValue_integer n), fun c hc => ?_⟩
  simp only [Line.text, List.mem_append, List.mem_cons] at hc
  rcases hc with hc | hc | rfl | rfl | hc
  · exact spaces_not_break _ c hc
  · exact isPlainText_not_break (isPlainKey_text hkey) c hc
  · decide
  · decide
  · exact isPrintable_not_break (intChars_kinds n c hc).1

theorem quotedItem_safe : (Line.quotedItem indent value).Safe isString := by
  have hmark : splitItem (mark true ++ quoteChars value) = (true, quoteChars value) :=
    splitItem_mark fun h => by cases h
  have hcontent : readContent (quoteChars value) = some (none, some (.quoted value)) := by
    change readContent ('"' :: (value.toList.flatMap escapeChar ++ '"' :: [])) = _
    unfold readContent
    simp only [readString_quoteChars]
  refine ⟨?_, fun c hc => ?_⟩
  · have hhead : (mark true ++ quoteChars value).head? ≠ some ' ' := fun h => by cases h
    unfold Line.text
    rw [readDecoded_spaces hhead (by rw [hmark]) (by rw [hmark]; exact hcontent)]
    rfl
  · simp only [Line.text, List.mem_append] at hc
    rcases hc with hc | hc | hc
    · exact spaces_not_break _ c hc
    · exact mark_not_break _ c hc
    · exact quoteChars_not_break _ c hc

theorem decoded_string {scalar : Scalar} {text : String} (h : scalar.decoded isString = .string text) :
    scalar = .quoted text ∨ scalar = .plain text ∧ isString text = true := by
  cases scalar with
  | quoted other => exact Or.inl (congrArg _ (Decoded.string.inj h))
  | plain other =>
    simp only [Scalar.decoded] at h
    split_ifs at h with hstring
    obtain rfl := Decoded.string.inj h
    exact Or.inr ⟨rfl, hstring⟩

/-- A key that is read from an entry is plain. -/
theorem readContent_key {rest : List Char} {content : Option Scalar × Option Scalar}
    (h : readContent (key.toList ++ ':' :: ' ' :: '"' :: rest) = some content) {scalar : Scalar}
    (hscalar : content.1 = some scalar) (hdecoded : scalar.decoded isString = .string key) :
    isPlainKey key = true ∧ isString key = true := by
  unfold readContent at h
  split at h
  · -- a literal that ends before a colon
    rename_i literal heq
    cases hkey : key.toList with
    | nil =>
      rw [hkey] at heq
      exact absurd (List.cons.inj heq).1 (by decide)
    | cons c more =>
      rw [hkey, List.cons_append] at heq
      obtain ⟨rfl, rfl⟩ := List.cons.inj heq
      split at h
      · rw [← Option.some.inj h] at hscalar
        cases hscalar
      · rename_i text after hread
        split at h
        · obtain ⟨value', -, hcontent⟩ := Option.map_eq_some_iff.1 h
          rw [← hcontent] at hscalar
          obtain rfl := Option.some.inj hscalar
          rcases decoded_string hdecoded with hquoted | ⟨hplain, -⟩
          · rw [Scalar.quoted.inj hquoted] at hread
            exact absurd hkey (readString_ne_self hread)
          · cases hplain
        · cases h
      · cases h
  · split at h
    · cases h
    · rename_i hstart
      rw [Bool.not_eq_true', Bool.not_eq_false] at hstart
      split at h
      · rename_i parts hparts
        unfold readEntry at h
        split at h
        · cases h
        · rename_i hlength
          obtain ⟨found, hfound, h⟩ := Option.bind_eq_some_iff.1 h
          obtain ⟨value', -, hcontent⟩ := Option.map_eq_some_iff.1 h
          rw [← hcontent] at hscalar
          obtain rfl := Option.some.inj hscalar
          obtain ⟨text, rfl⟩ := readPlain_plain hfound
          rcases decoded_string hdecoded with hquoted | ⟨hplain, hstring⟩
          · cases hquoted
          · obtain rfl := Scalar.plain.inj hplain
            obtain ⟨htrim, htext⟩ := readPlain_eq hfound
            -- a colon before a blank would cut the key short
            have hpair : hasPair isColon isBlank text.toList = false := by
              refine Bool.eq_false_of_not_eq_true fun hpair => ?_
              obtain ⟨parts', hparts', hshort⟩ := @splitKey_shorter text.toList (':' :: ' ' :: '"' :: rest) hpair
              obtain rfl := Option.some.inj (hparts.symm.trans hparts')
              have hdrop := (@List.rdropWhile_prefix _ isBlank parts.1).length_le
              rw [← htrim] at hdrop
              omega
            obtain rfl : (text.toList, ' ' :: '"' :: rest) = parts :=
              Option.some.inj ((splitKey_key hpair).symm.trans hparts)
            have hne : text.toList ≠ [] := by
              intro hnil
              rw [hnil] at hstart
              exact absurd hstart (by simp [startsPlain, startsBlank, isBlank])
            have hshort : text.toList.length ≤ 1024 := Nat.le_of_not_lt hlength
            refine ⟨?_, hstring⟩
            unfold isPlainKey
            rw [← startsPlain_colon hne, hstart, hpair, htext rfl, decide_eq_true hshort]
            rfl
      · obtain ⟨value', -, hcontent⟩ := Option.map_eq_some_iff.1 h
        rw [← hcontent] at hscalar
        cases hscalar

/-- **A line with a key is read as it is meant exactly if the key is plain** and the decoder has it for a string. -/
theorem entry_safe_iff : (Line.entry indent false key value).Safe isString ↔
    isPlainKey key = true ∧ isString key = true := by
  refine ⟨fun h => ?_, fun h => entry_safe h.1 h.2⟩
  obtain ⟨reading, hread, hdecoded⟩ := Option.map_eq_some_iff.1 h.1
  have hindent : reading.indent = indent := congrArg Reading.indent hdecoded
  have hitem : reading.item = false := congrArg Reading.item hdecoded
  have hkey : reading.key.map (Scalar.decoded isString) = some (.string key) := congrArg Reading.key hdecoded
  change readLine (spaces indent ++ (key.toList ++ ':' :: ' ' :: quoteChars value)) = some reading at hread
  have hhead : (key.toList ++ ':' :: ' ' :: quoteChars value).head? ≠ some ' ' := by
    intro hhead
    obtain ⟨cs, hcs⟩ : ∃ cs, key.toList ++ ':' :: ' ' :: quoteChars value = ' ' :: cs := by
      cases hlist : key.toList ++ ':' :: ' ' :: quoteChars value with
      | nil => rw [hlist] at hhead; cases hhead
      | cons c cs =>
        rw [hlist] at hhead
        exact ⟨cs, congrArg (· :: cs) (Option.some.inj hhead)⟩
    rw [hcs] at hread
    exact readLine_indent hread hindent
  rw [readLine_spaces hhead] at hread
  obtain ⟨content, hcontent, rfl⟩ := Option.map_eq_some_iff.1 hread
  rw [splitItem_false hitem] at hcontent
  obtain ⟨scalar, hscalar, hstring⟩ := Option.map_eq_some_iff.1 hkey
  exact readContent_key hcontent hscalar hstring

/-- **An item is read as it is meant exactly if it is plain** and the decoder has it for a string. -/
theorem item_safe_iff (hdot : value.toList.head? = some '.') : (Line.plainItem indent value).Safe isString ↔
    isPlainItem value = true ∧ isString value = true := by
  have hspace : value.toList.head? ≠ some ' ' := by
    rw [hdot]
    decide
  have hmark := splitItem_mark hspace
  have hhead : (mark true ++ value.toList).head? ≠ some ' ' := fun h => by cases h
  have hstart : startsPlain value.toList = true := by
    obtain ⟨cs, hcs⟩ : ∃ cs, value.toList = '.' :: cs := by
      cases hlist : value.toList with
      | nil => rw [hlist] at hdot; cases hdot
      | cons c cs =>
        rw [hlist] at hdot
        exact ⟨cs, congrArg (· :: cs) (Option.some.inj hdot)⟩
    rw [hcs]
    rfl
  constructor
  · intro h
    obtain ⟨reading, hread, hdecoded⟩ := Option.map_eq_some_iff.1 h.1
    have hkey : reading.key.map (Scalar.decoded isString) = none := congrArg Reading.key hdecoded
    have hvalue : reading.value.map (Scalar.decoded isString) = some (.string value) := congrArg Reading.value hdecoded
    change readLine (spaces indent ++ (mark true ++ value.toList)) = some reading at hread
    rw [readLine_spaces hhead, hmark] at hread
    obtain ⟨content, hcontent, rfl⟩ := Option.map_eq_some_iff.1 hread
    rw [readContent_plain hstart] at hcontent
    split at hcontent
    · -- an item with a key
      unfold readEntry at hcontent
      split at hcontent
      · cases hcontent
      · obtain ⟨found, -, hcontent⟩ := Option.bind_eq_some_iff.1 hcontent
        obtain ⟨value', -, hcontent⟩ := Option.map_eq_some_iff.1 hcontent
        rw [← hcontent] at hkey
        cases hkey
    · rename_i hsplit
      obtain ⟨found, hfound, hcontent⟩ := Option.map_eq_some_iff.1 hcontent
      obtain ⟨text, rfl⟩ := readPlain_plain hfound
      rw [← hcontent] at hvalue
      rcases decoded_string (Option.some.inj hvalue) with hquoted | ⟨hplain, hstring⟩
      · cases hquoted
      · obtain rfl := Scalar.plain.inj hplain
        refine ⟨?_, hstring⟩
        obtain ⟨htrim, -⟩ := readPlain_eq hfound
        have htext : isPlainText text.toList = true := (readPlain_eq hfound).2 rfl
        unfold isPlainItem
        rw [hstart, hsplit, htext]
        rfl
  · rintro ⟨hplain, hstring⟩
    simp only [isPlainItem, Bool.and_eq_true, Option.isNone_iff_eq_none] at hplain
    obtain ⟨⟨-, hsplit⟩, htext⟩ := hplain
    have hcontent : readContent value.toList = some (none, some (.plain value)) := by
      rw [readContent_plain hstart, hsplit]
      simp only
      rw [readPlain_text htext, Option.map_some, String.ofList_toList]
    have hdecoded : Scalar.decoded isString (.plain value) = .string value := if_pos hstring
    refine ⟨?_, fun c hc => ?_⟩
    · unfold Line.text
      rw [readDecoded_spaces hhead (by rw [hmark]) (by rw [hmark]; exact hcontent)]
      change _ = some (⟨indent, true, none, some (.string value)⟩ : Reading Decoded)
      rw [← hdecoded]
      rfl
    · simp only [Line.text, List.mem_append] at hc
      rcases hc with hc | hc | hc
      · exact spaces_not_break _ c hc
      · exact mark_not_break _ c hc
      · exact isPlainText_not_break htext c hc

theorem fixed_safe {text : String} (hread : (readLine text.toList).isSome = true)
    (hbreak : text.toList.all (!isBreak ·) = true) : (Line.fixed text).Safe isString := by
  obtain ⟨reading, hreading⟩ := Option.isSome_iff_exists.1 hread
  have hdecoded : readDecoded isString text.toList = some (reading.decoded isString) := by
    unfold readDecoded
    rw [hreading, Option.map_some]
  refine ⟨?_, fun c hc => ?_⟩
  · change readDecoded isString text.toList = some ((readDecoded isString text.toList).getD _)
    rw [hdecoded, Option.getD_some]
  · have hc' := List.all_eq_true.1 hbreak c hc
    rwa [Bool.not_eq_true'] at hc'

end

end SecureSaas.Js.Yaml
