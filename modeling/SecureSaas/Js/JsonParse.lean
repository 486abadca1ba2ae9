import SecureSaas.Js.Json
import SecureSaas.Js.Pattern
import SecureSaas.Js.Record

/-!
# `JSON.parse`

A reader of JSON texts, and what it makes of the texts that the serialisers write.

* `readUnits_quoteChars`, `readNumber_intChars`: scalar texts are read back.
* `text_readable`: the text of a plain value is read back to the value, up to the order of the
  properties of its objects.
* `jsonParse_text`: the same for `JSON.parse`.
-/

namespace SecureSaas.Js

/-! ## Scalars -/

/-- The white space of JSON. -/
def isJsonSpace (c : Char) : Bool := c == ' ' || c == '\t' || c == '\n' || c == '\r'

def skipSpace (cs : List Char) : List Char := cs.dropWhile isJsonSpace

def hexDigit (c : Char) : Option ℕ :=
  if isDecimal c then some (c.toNat - 48)
  else if 'a' ≤ c && c ≤ 'f' then some (c.toNat - 87)
  else if 'A' ≤ c && c ≤ 'F' then some (c.toNat - 55)
  else none

/-- The code unit of four hexadecimal digits. -/
def hexUnit (a b c d : Char) : Option ℕ := do
  some (((← hexDigit a) * 16 + (← hexDigit b)) * 256 + (← hexDigit c) * 16 + (← hexDigit d))

/-- The code unit of a one-character escape. -/
def simpleEscape (c : Char) : Option ℕ :=
  if c = '"' then some 34 else if c = '\\' then some 92 else if c = '/' then some 47
  else if c = 'b' then some 8 else if c = 'f' then some 12 else if c = 'n' then some 10
  else if c = 'r' then some 13 else if c = 't' then some 9 else none

/-- A string literal after its opening quote: its code units, with a character that is not
escaped as one unit, and the input after its closing quote. -/
def readUnits : List Char → Option (List ℕ × List Char)
  | [] => none
  | '\\' :: 'u' :: a :: b :: c :: d :: rest => do
    let unit ← hexUnit a b c d
    let read ← readUnits rest
    some (unit :: read.1, read.2)
  | '\\' :: c :: rest => do
    let unit ← simpleEscape c
    let read ← readUnits rest
    some (unit :: read.1, read.2)
  | c :: rest =>
    if c = '"' then some ([], rest)
    else if c = '\\' ∨ c.toNat < 32 then none
    else do
      let read ← readUnits rest
      some (c.toNat :: read.1, read.2)

/-- The character of a code unit; a lone surrogate, which no character is, reads as U+FFFD. -/
def unitChar (u : ℕ) : Char := if 0xd800 ≤ u ∧ u ≤ 0xdfff then Char.ofNat 0xfffd else Char.ofNat u

/-- Code units as characters: a high and a low surrogate are one character. -/
def unitsText : List ℕ → List Char
  | [] => []
  | [u] => [unitChar u]
  | h :: l :: rest =>
    if (0xd800 ≤ h ∧ h ≤ 0xdbff) ∧ 0xdc00 ≤ l ∧ l ≤ 0xdfff then
      Char.ofNat (0x10000 + (h - 0xd800) * 0x400 + (l - 0xdc00)) :: unitsText rest
    else unitChar h :: unitsText (l :: rest)

def readString (cs : List Char) : Option (String × List Char) :=
  (readUnits cs).map fun read => (String.ofList (unitsText read.1), read.2)

/-- `0|[1-9][0-9]*`. -/
def integerPart : Pattern :=
  open Pattern in alt (lit "0") (seq (cls fun c => '1' ≤ c && c ≤ '9') (many isDecimal))

/-- `(\.[0-9]+)?`. -/
def fractionPart : Pattern := open Pattern in opt (seq (lit ".") (many1 isDecimal))

/-- `([eE][+-]?[0-9]+)?`. -/
def exponentPart : Pattern :=
  open Pattern in opt (seq (cls fun c => c == 'e' || c == 'E')
    (seq (opt (cls fun c => c == '+' || c == '-')) (many1 isDecimal)))

/-- The token is a number of the JSON grammar. -/
def isNumberToken (token : List Char) : Bool :=
  open Pattern in
  fullMatch (seq (opt (lit "-")) (seq integerPart (seq fractionPart exponentPart))) (String.ofList token)

def integerValue (token : List Char) : ℤ :=
  match token with
  | '-' :: digits => -(Nat.ofDigitChars 10 digits 0 : ℤ)
  | digits => Nat.ofDigitChars 10 digits 0

def isTokenChar (c : Char) : Bool := isNumberChar c || c == 'E'

/-- The number of a token: a safe integer is exact, `round` is what the language makes of any
other token. -/
def tokenNumber (round : List Char → Number) (token : List Char) : Number :=
  if token.all (fun c => isDecimal c || c == '-') = true ∧ -maxSafeInteger ≤ integerValue token ∧
      integerValue token ≤ maxSafeInteger then .int (integerValue token)
  else round token

def readNumber (round : List Char → Number) (cs : List Char) : Option (Number × List Char) :=
  let token := cs.takeWhile isTokenChar
  if isNumberToken token then some (tokenNumber round token, cs.dropWhile isTokenChar) else none

/-! ## Values -/

variable (round : List Char → Number)

/-- The input after an expected word. -/
def expectWord (word : String) (cs : List Char) : Option (List Char) :=
  if word.toList.isPrefixOf cs then some (cs.drop word.toList.length) else none

mutual
/-- A value and the input after it; the fuel bounds the nesting and the number of items. -/
def parseValue : ℕ → List Char → Option (Value × List Char)
  | 0, _ => none
  | fuel + 1, cs =>
    match skipSpace cs with
    | [] => none
    | c :: rest =>
      if c = '"' then (readString rest).map fun read => (.string read.1, read.2)
      else if c = '[' then
        match skipSpace rest with
        | ']' :: rest => some (.array [], rest)
        | rest => (parseItems fuel rest).map fun read => (.array read.1, read.2)
      else if c = '{' then
        match skipSpace rest with
        | '}' :: rest => some (.object [], rest)
        | rest => (parseMembers fuel rest).map fun read => (.object (Record.fromEntries read.1).properties, read.2)
      else if c = 'n' then (expectWord "ull" rest).map fun rest => (.null, rest)
      else if c = 't' then (expectWord "rue" rest).map fun rest => (.bool true, rest)
      else if c = 'f' then (expectWord "alse" rest).map fun rest => (.bool false, rest)
      else (readNumber round (c :: rest)).map fun read => (.number read.1, read.2)
/-- The items of an array up to its closing bracket. -/
def parseItems : ℕ → List Char → Option (List Value × List Char)
  | 0, _ => none
  | fuel + 1, cs => do
    let read ← parseValue fuel cs
    match skipSpace read.2 with
    | ']' :: rest => some ([read.1], rest)
    | ',' :: rest => do
      let items ← parseItems fuel rest
      some (read.1 :: items.1, items.2)
    | _ => none
/-- The members of an object up to its closing bracket, in the order of the text. -/
def parseMembers : ℕ → List Char → Option (List (String × Value) × List Char)
  | 0, _ => none
  | fuel + 1, cs =>
    match skipSpace cs with
    | '"' :: rest => do
      let key ← readString rest
      match skipSpace key.2 with
      | ':' :: rest => do
        let read ← parseValue fuel rest
        match skipSpace read.2 with
        | '}' :: rest => some ([(key.1, read.1)], rest)
        | ',' :: rest => do
          let members ← parseMembers fuel rest
          some ((key.1, read.1) :: members.1, members.2)
        | _ => none
      | _ => none
    | _ => none
end

/-- `JSON.parse(text)`, `none` where it throws. A text that is JSON needs no more fuel than its
length. -/
def jsonParse (text : String) : Option Value :=
  match parseValue round text.toList.length text.toList with
  | some (v, rest) => if skipSpace rest = [] then some v else none
  | none => none

/-! ## Scalar texts are read back -/

theorem readUnits_plain {c : Char} {rest : List Char} (hq : c ≠ '"') (hb : c ≠ '\\') (hc : 32 ≤ c.toNat) :
    readUnits (c :: rest) = (readUnits rest).map fun read => (c.toNat :: read.1, read.2) := by
  rw [readUnits.eq_def]
  split
  · simp_all
  · simp_all
  · simp_all
  · rename_i heq
    obtain ⟨rfl, rfl⟩ := List.cons.inj heq
    rw [if_neg hq, if_neg (by rintro (h | h); exacts [hb h, by omega])]
    cases readUnits rest <;> rfl

theorem hexDigit_digitChar : ∀ n < 16, hexDigit (Nat.digitChar n) = some n := by decide

/-- An escaped character is read back as its code unit. -/
theorem readUnits_escapeChar (c : Char) (rest : List Char) :
    readUnits (escapeChar c ++ rest) = (readUnits rest).map fun read => (c.toNat :: read.1, read.2) := by
  have hsimple : ∀ (d : Char) (u : ℕ), d ≠ 'u' → simpleEscape d = some u → u = c.toNat →
      readUnits ('\\' :: d :: rest) = (readUnits rest).map fun read => (c.toNat :: read.1, read.2) := by
    intro d u hd hu huc
    rw [readUnits.eq_def]
    split
    · simp_all
    · simp_all
    · rename_i heq
      obtain ⟨-, heq⟩ := List.cons.inj heq
      obtain ⟨rfl, rfl⟩ := List.cons.inj heq
      rw [hu, huc]
      cases readUnits rest <;> rfl
    · rename_i hne heq
      obtain ⟨rfl, rfl⟩ := List.cons.inj heq
      exact absurd rfl (hne _ _ rfl)
  unfold escapeChar
  split_ifs with h1 h2 h3 h4 h5 h6 h7 h8
  · exact hsimple '"' 34 (by decide) (by decide) (by rw [h1]; rfl)
  · exact hsimple '\\' 92 (by decide) (by decide) (by rw [h2]; rfl)
  · exact hsimple 'b' 8 (by decide) (by decide) h3.symm
  · exact hsimple 'f' 12 (by decide) (by decide) h4.symm
  · exact hsimple 'n' 10 (by decide) (by decide) (by rw [h5]; rfl)
  · exact hsimple 'r' 13 (by decide) (by decide) (by rw [h6]; rfl)
  · exact hsimple 't' 9 (by decide) (by decide) (by rw [h7]; rfl)
  · -- a control character, written in hexadecimal
    have h0 : hexDigit '0' = some 0 := by decide
    have hunit : hexUnit '0' '0' (Nat.digitChar (c.toNat / 16)) (Nat.digitChar (c.toNat % 16)) = some c.toNat := by
      unfold hexUnit
      rw [h0, hexDigit_digitChar _ (by omega), hexDigit_digitChar _ (by omega)]
      simp only [Option.bind_eq_bind, Option.bind_some, Option.some.injEq]
      omega
    simp only [List.cons_append, List.nil_append, readUnits, hunit]
    cases readUnits rest <;> rfl
  · exact readUnits_plain h1 h2 (by omega)

theorem readUnits_quoteChars (cs : List Char) (rest : List Char) :
    readUnits (cs.flatMap escapeChar ++ '"' :: rest) = some (cs.map Char.toNat, rest) := by
  induction cs with
  | nil => simp [readUnits]
  | cons c cs ih =>
    rw [List.flatMap_cons, List.append_assoc, readUnits_escapeChar, ih]
    rfl

/-- No character is a surrogate. -/
theorem toNat_not_surrogate (c : Char) : ¬ (0xd800 ≤ c.toNat ∧ c.toNat ≤ 0xdfff) := by
  have := c.valid
  unfold UInt32.isValidChar Nat.isValidChar at this
  change ¬ (0xd800 ≤ c.val.toNat ∧ c.val.toNat ≤ 0xdfff)
  omega

theorem unitsText_toNat (cs : List Char) : unitsText (cs.map Char.toNat) = cs := by
  have hunit : ∀ c : Char, unitChar c.toNat = c := by
    intro c
    unfold unitChar
    rw [if_neg (toNat_not_surrogate c), Char.ofNat_toNat]
  induction cs with
  | nil => rfl
  | cons c cs ih =>
    cases cs with
    | nil => simp only [List.map_cons, List.map_nil, unitsText, hunit]
    | cons d cs =>
      have hc := toNat_not_surrogate c
      simp only [List.map_cons, unitsText] at ih ⊢
      rw [if_neg (by omega), hunit, ih]

theorem readString_quoteChars (s : String) (rest : List Char) :
    readString (s.toList.flatMap escapeChar ++ '"' :: rest) = some (s, rest) := by
  unfold readString
  rw [readUnits_quoteChars, Option.map_some, unitsText_toNat, String.ofList_toList]

theorem isDecimal_isDigit {c : Char} : isDecimal c = c.isDigit := by
  unfold isDecimal Char.isDigit
  rfl

/-- The digits of a positive number start with a digit that is not zero. -/
theorem toDigits_head : ∀ n : ℕ, 0 < n → ∃ c cs, Nat.toDigits 10 n = c :: cs ∧
    ('1' ≤ c && c ≤ '9') = true ∧ ∀ d ∈ cs, isDecimal d = true := by
  intro n
  induction n using Nat.strong_induction_on with
  | _ n ih =>
    intro hpos
    have hchar : ∀ m < 10, 0 < m → ('1' ≤ Nat.digitChar m && Nat.digitChar m ≤ '9') = true := by decide
    rw [Nat.toDigits_eq_if (by decide)]
    split_ifs with hn
    · exact ⟨_, [], rfl, hchar n hn hpos, by simp⟩
    · obtain ⟨c, cs, hc, hhead, htail⟩ := ih (n / 10) (by omega) (by omega)
      refine ⟨c, cs ++ [Nat.digitChar (n % 10)], by rw [hc]; rfl, hhead, ?_⟩
      intro d hd
      rcases List.mem_append.1 hd with hd | hd
      · exact htail d hd
      · rw [List.mem_singleton.1 hd, isDecimal_isDigit]
        exact (by decide : ∀ m < 10, (Nat.digitChar m).isDigit = true) _ (Nat.mod_lt _ (by decide))

/-- The texts of integers are JSON numbers. -/
theorem isNumberToken_intChars (n : ℤ) : isNumberToken (intChars n) = true := by
  have hdigits : ∀ m : ℕ, [] ∈ Pattern.seq integerPart (Pattern.seq fractionPart exponentPart)
      (Nat.toDigits 10 m) := by
    intro m
    refine Pattern.mem_seq.2 ⟨[], Pattern.mem_alt.2 ?_,
      Pattern.mem_seq.2 ⟨[], Pattern.mem_opt.2 (Or.inr rfl), Pattern.mem_opt.2 (Or.inr rfl)⟩⟩
    rcases Nat.eq_zero_or_pos m with rfl | hm
    · exact Or.inl (Pattern.mem_lit.2 (by decide))
    · obtain ⟨c, cs, hc, hhead, htail⟩ := toDigits_head m hm
      refine Or.inr (Pattern.mem_seq.2 ⟨cs, Pattern.mem_cls.2 ⟨c, hhead, hc⟩, Pattern.mem_many.2 ⟨cs, htail, ?_⟩⟩)
      rw [List.append_nil]
  unfold isNumberToken
  rw [Pattern.fullMatch_iff, String.toList_ofList]
  unfold intChars
  split
  · exact Pattern.mem_seq.2 ⟨_, Pattern.mem_opt.2 (Or.inl (Pattern.mem_lit.2 rfl)), hdigits _⟩
  · exact Pattern.mem_seq.2 ⟨_, Pattern.mem_opt.2 (Or.inr rfl), hdigits _⟩

theorem integerValue_intChars (n : ℤ) : integerValue (intChars n) = n := by
  have hdigits : ∀ m : ℕ, Nat.ofDigitChars 10 (Nat.toDigits 10 m) 0 = m := fun m =>
    Nat.ofDigitChars_toDigits (by decide) (by decide)
  unfold intChars
  split
  · rename_i hn
    simp only [integerValue, hdigits]
    omega
  · rename_i hn
    have hdash : ∀ l, Nat.toDigits 10 n.natAbs ≠ '-' :: l := fun l hl => by
      have := Nat.isDigit_of_mem_toDigits (c := '-') (by decide) (by decide) (hl ▸ List.mem_cons_self)
      revert this; decide
    unfold integerValue
    split
    · rename_i hl
      exact absurd hl (hdash _)
    · rw [hdigits]
      omega

/-- The input ends, or goes on with a separator. -/
def Separated : List Char → Prop
  | [] => True
  | c :: _ => c = ',' ∨ c = ']' ∨ c = '}'

/-- **A safe integer is read back.** -/
theorem readNumber_intChars {n : ℤ} (hn : -maxSafeInteger ≤ n ∧ n ≤ maxSafeInteger) {rest : List Char}
    (hrest : Separated rest) : readNumber round (intChars n ++ rest) = some (.int n, rest) := by
  have htoken : ∀ c ∈ intChars n, isTokenChar c = true := by
    intro c hc
    unfold isTokenChar
    rw [(intChars_spec n).2 c hc, Bool.true_or]
  have hstop : rest.takeWhile isTokenChar = [] ∧ rest.dropWhile isTokenChar = rest := by
    cases rest with
    | nil => exact ⟨rfl, rfl⟩
    | cons c rest =>
      have hc : isTokenChar c = false := by
        rcases hrest with rfl | rfl | rfl <;> decide
      exact ⟨List.takeWhile_cons_of_neg (by simp [hc]), List.dropWhile_cons_of_neg (by simp [hc])⟩
  have hall : (intChars n).all (fun c => isDecimal c || c == '-') = true := by
    rw [List.all_eq_true]
    have hd : ∀ c ∈ Nat.toDigits 10 n.natAbs, (isDecimal c || c == '-') = true := fun c hc => by
      simp [isDecimal_isDigit, Nat.isDigit_of_mem_toDigits (by decide) (by decide) hc]
    unfold intChars
    split
    · exact List.forall_mem_cons.2 ⟨by decide, hd⟩
    · exact hd
  unfold readNumber
  rw [List.takeWhile_append_of_pos htoken, List.dropWhile_append_of_pos htoken, hstop.1, hstop.2, List.append_nil]
  simp only [isNumberToken_intChars, if_true, tokenNumber, hall, integerValue_intChars, true_and]
  rw [if_pos hn]

/-! ## Values are read back -/

mutual
/-- A value that its JSON text determines: no `undefined`, safe integers only, and objects as the
language has them, with one property for a key. -/
def Plain : Value → Prop
  | .undefined => False
  | .number (.int n) => -maxSafeInteger ≤ n ∧ n ≤ maxSafeInteger
  | .number _ => False
  | .array items => PlainItems items
  | .object properties => (properties.map Prod.fst).Nodup ∧ PlainEntries properties
  | _ => True
def PlainItems : List Value → Prop
  | [] => True
  | v :: rest => Plain v ∧ PlainItems rest
def PlainEntries : List (String × Value) → Prop
  | [] => True
  | (_, v) :: rest => Plain v ∧ PlainEntries rest
end

/-- Two values that differ in the order of the properties of their objects only. -/
inductive Same : Value → Value → Prop
  | null : Same .null .null
  | bool (b : Bool) : Same (.bool b) (.bool b)
  | number (n : Number) : Same (.number n) (.number n)
  | string (s : String) : Same (.string s) (.string s)
  | array {items others : List Value} : items.length = others.length →
      (∀ (i : ℕ) (v w : Value), items[i]? = some v → others[i]? = some w → Same v w) →
      Same (.array items) (.array others)
  | object {properties others : List (String × Value)} :
      (others.map Prod.fst).Perm (properties.map Prod.fst) →
      (∀ (k : String) (v w : Value), (k, v) ∈ properties → (k, w) ∈ others → Same v w) →
      Same (.object properties) (.object others)

/-- What a text is read as. -/
def readBack (t : List Char) : Value := ((parseValue round t.length t).map Prod.fst).getD .undefined

/-- A text is read up to its end, whatever separator follows it. -/
def Readable (t : List Char) : Prop :=
  ∀ fuel rest, t.length ≤ fuel → Separated rest → parseValue round fuel (t ++ rest) = some (readBack round t, rest)

variable {round}

theorem readable_of {t : List Char} {v : Value} (h : ∀ fuel rest, t.length ≤ fuel → Separated rest →
    parseValue round fuel (t ++ rest) = some (v, rest)) : Readable round t ∧ readBack round t = v := by
  have hread : readBack round t = v := by
    have := h t.length [] le_rfl trivial
    rw [List.append_nil] at this
    simp only [readBack, this, Option.map_some, Option.getD_some]
  exact ⟨fun fuel rest hf hr => hread ▸ h fuel rest hf hr, hread⟩

theorem skipSpace_cons {c : Char} {cs : List Char} (h : isJsonSpace c = false) :
    skipSpace (c :: cs) = c :: cs := List.dropWhile_cons_of_neg (by simp [h])

/-- The characters that number texts start with start nothing else. -/
theorem numberChar_ne {c : Char} (h : isNumberChar c = true) : isJsonSpace c = false ∧ c ≠ '"' ∧ c ≠ '[' ∧
    c ≠ '{' ∧ c ≠ 'n' ∧ c ≠ 't' ∧ c ≠ 'f' := by
  refine ⟨?_, ?_, ?_, ?_, ?_, ?_, ?_⟩
  · unfold isJsonSpace
    rw [Bool.eq_false_iff]
    intro hs
    simp only [Bool.or_eq_true, beq_iff_eq] at hs
    rcases hs with ((rfl | rfl) | rfl) | rfl <;> revert h <;> decide
  all_goals (rintro rfl; revert h; decide)

theorem number_readable {n : ℤ} (hn : -maxSafeInteger ≤ n ∧ n ≤ maxSafeInteger) :
    Readable round (intChars n) ∧ readBack round (intChars n) = .number (.int n) := by
  refine readable_of fun fuel rest hf hr => ?_
  obtain ⟨c, cs, hcs⟩ := List.exists_cons_of_ne_nil (intChars_spec n).1
  have hc : isNumberChar c = true := (intChars_spec n).2 c (hcs ▸ List.mem_cons_self)
  obtain ⟨hs, h1, h2, h3, h4, h5, h6⟩ := numberChar_ne hc
  have hread := readNumber_intChars round hn hr
  rw [hcs, List.length_cons] at hf
  rw [hcs] at hread ⊢
  obtain ⟨fuel, rfl⟩ : ∃ k, fuel = k + 1 := ⟨fuel - 1, by omega⟩
  rw [List.cons_append] at hread ⊢
  simp only [parseValue, skipSpace_cons hs, h1, h2, h3, h4, h5, h6, if_false, hread, Option.map_some]

theorem string_readable (s : String) :
    Readable round (quoteChars s) ∧ readBack round (quoteChars s) = .string s := by
  refine readable_of fun fuel rest hf _ => ?_
  unfold quoteChars at hf ⊢
  obtain ⟨fuel, rfl⟩ : ∃ k, fuel = k + 1 := ⟨fuel - 1, by simp only [List.length_append, List.length_cons] at hf; omega⟩
  have hspace : isJsonSpace '"' = false := by decide
  simp only [List.cons_append, List.append_assoc, List.nil_append, parseValue, skipSpace_cons hspace, if_true,
    readString_quoteChars, Option.map_some]

theorem word_readable {c : Char} {word : String} {v : Value}
    (h : ∀ fuel rest, parseValue round (fuel + 1) (c :: word.toList ++ rest) = some (v, rest)) :
    Readable round (c :: word.toList) ∧ readBack round (c :: word.toList) = v := by
  refine readable_of fun fuel rest hf _ => ?_
  obtain ⟨fuel, rfl⟩ : ∃ k, fuel = k + 1 := ⟨fuel - 1, by rw [List.length_cons] at hf; omega⟩
  exact h fuel rest

/-- The text of an item starts with a character of its own. -/
def Opens (t : List Char) : Prop := ∃ c cs, t = c :: cs ∧ isJsonSpace c = false ∧ c ≠ ']'

theorem commaJoin_cons_length (t : List Char) (texts : List (List Char)) :
    (commaJoin (t :: texts)).length = t.length + (if texts = [] then 0 else 1 + (commaJoin texts).length) := by
  cases texts with
  | nil => simp [commaJoin]
  | cons u texts =>
    simp only [commaJoin, List.length_append, List.length_cons, reduceCtorEq, if_false]
    omega

/-- **Joined items are read one after the other.** -/
theorem items_readable : ∀ {texts : List (List Char)}, texts ≠ [] → (∀ t ∈ texts, Readable round t) →
    ∀ (fuel : ℕ) (rest : List Char), (commaJoin texts).length + 1 ≤ fuel →
      parseItems round fuel (commaJoin texts ++ ']' :: rest) = some (texts.map (readBack round), rest) := by
  have hclose : isJsonSpace ']' = false := by decide
  have hcomma : isJsonSpace ',' = false := by decide
  intro texts
  induction texts with
  | nil => exact fun h => absurd rfl h
  | cons t texts ih =>
    intro _ hall fuel rest hfuel
    rw [List.forall_mem_cons] at hall
    obtain ⟨fuel, rfl⟩ : ∃ k, fuel = k + 1 := ⟨fuel - 1, by omega⟩
    have hlen := commaJoin_cons_length t texts
    cases texts with
    | nil =>
      have hread := hall.1 fuel (']' :: rest) (by simp only [commaJoin] at hfuel; omega) (Or.inr (Or.inl rfl))
      simp only [commaJoin, parseItems, hread, Option.bind_eq_bind, Option.bind_some, skipSpace_cons hclose,
        List.map_cons, List.map_nil]
    | cons u texts =>
      simp only [reduceCtorEq, if_false] at hlen
      have hread := hall.1 fuel (',' :: (commaJoin (u :: texts) ++ ']' :: rest)) (by omega) (Or.inl rfl)
      have hrest := ih (by simp) hall.2 fuel rest (by omega)
      rw [show commaJoin (t :: u :: texts) ++ ']' :: rest =
        t ++ ',' :: (commaJoin (u :: texts) ++ ']' :: rest) by simp [commaJoin]]
      simp only [parseItems, hread, Option.bind_eq_bind, Option.bind_some, skipSpace_cons hcomma, hrest,
        List.map_cons]

theorem array_readable {texts : List (List Char)} (hall : ∀ t ∈ texts, Readable round t)
    (hopens : ∀ t ∈ texts, Opens t) :
    Readable round ('[' :: (commaJoin texts ++ [']'])) ∧
      readBack round ('[' :: (commaJoin texts ++ [']'])) = .array (texts.map (readBack round)) := by
  have hopen : isJsonSpace '[' = false := by decide
  have hclose : isJsonSpace ']' = false := by decide
  refine readable_of fun fuel rest hf _ => ?_
  simp only [List.length_cons, List.length_append, List.length_nil] at hf
  obtain ⟨fuel, rfl⟩ : ∃ k, fuel = k + 1 := ⟨fuel - 1, by omega⟩
  rw [List.cons_append, List.append_assoc, List.singleton_append]
  simp only [parseValue, skipSpace_cons hopen, Char.reduceEq, if_false, if_true]
  cases texts with
  | nil => simp only [commaJoin, List.nil_append, skipSpace_cons hclose, List.map_nil]
  | cons t texts =>
    have hread := items_readable (by simp) hall fuel rest (by omega)
    -- the first item does not start like the end of the array
    obtain ⟨c, cs, hcs, hspace, hc⟩ : Opens (commaJoin (t :: texts) ++ ']' :: rest) := by
      obtain ⟨c, cs, rfl, hspace, hc⟩ := hopens t List.mem_cons_self
      cases texts with
      | nil => exact ⟨c, _, rfl, hspace, hc⟩
      | cons u texts => exact ⟨c, _, rfl, hspace, hc⟩
    rw [hcs] at hread ⊢
    rw [skipSpace_cons hspace]
    split
    · rename_i heq
      exact absurd (List.cons.inj heq).1 hc
    · rw [hread, Option.map_some]

/-- **Joined members are read one after the other.** -/
theorem members_readable : ∀ {entries : List (String × List Char)}, entries ≠ [] →
    (∀ p ∈ entries, Readable round p.2) → ∀ (fuel : ℕ) (rest : List Char),
      (commaJoin (entries.map entryChars)).length + 1 ≤ fuel →
      parseMembers round fuel (commaJoin (entries.map entryChars) ++ '}' :: rest) =
        some (entries.map fun p => (p.1, readBack round p.2), rest) := by
  have hquote : isJsonSpace '"' = false := by decide
  have hcolon : isJsonSpace ':' = false := by decide
  have hclose : isJsonSpace '}' = false := by decide
  have hcomma : isJsonSpace ',' = false := by decide
  intro entries
  induction entries with
  | nil => exact fun h => absurd rfl h
  | cons p entries ih =>
    intro _ hall fuel rest hfuel
    rw [List.forall_mem_cons] at hall
    obtain ⟨fuel, rfl⟩ : ∃ k, fuel = k + 1 := ⟨fuel - 1, by omega⟩
    have hlen := commaJoin_cons_length (entryChars p) (entries.map entryChars)
    have hentry : (entryChars p).length = (quoteChars p.1).length + 1 + p.2.length := by
      unfold entryChars
      simp only [List.length_append, List.length_cons]
      omega
    -- the member at the head of the input, whatever follows
    have hhead : ∀ tail, Separated tail → parseMembers round (fuel + 1) (entryChars p ++ tail) =
        match skipSpace tail with
        | '}' :: rest => some ([(p.1, readBack round p.2)], rest)
        | ',' :: rest => (parseMembers round fuel rest).bind fun members =>
            some ((p.1, readBack round p.2) :: members.1, members.2)
        | _ => none := by
      intro tail htail
      have hread := hall.1 fuel tail (by rw [List.map_cons] at hfuel; omega) htail
      simp only [entryChars, quoteChars, List.append_assoc, List.cons_append, List.nil_append, parseMembers,
        skipSpace_cons hquote, readString_quoteChars, Option.bind_eq_bind, Option.bind_some,
        skipSpace_cons hcolon, hread]
    cases entries with
    | nil =>
      simp only [List.map_cons, List.map_nil, commaJoin, hhead ('}' :: rest) (Or.inr (Or.inr rfl)),
        skipSpace_cons hclose]
    | cons q entries =>
      simp only [List.map_cons, reduceCtorEq, if_false] at hlen hfuel
      have hrest := ih (by simp) hall.2 fuel rest (by rw [List.map_cons]; omega)
      rw [List.map_cons] at hrest
      rw [show commaJoin (List.map entryChars (p :: q :: entries)) ++ '}' :: rest =
        entryChars p ++ ',' :: (commaJoin (entryChars q :: entries.map entryChars) ++ '}' :: rest) by simp [commaJoin]]
      simp only [hhead (',' :: _) (Or.inl rfl), skipSpace_cons hcomma, hrest, Option.bind_some, List.map_cons]

theorem object_readable {entries : List (String × List Char)} (hall : ∀ p ∈ entries, Readable round p.2)
    (hkeys : (entries.map Prod.fst).Nodup) :
    Readable round ('{' :: (commaJoin (entries.map entryChars) ++ ['}'])) ∧
      readBack round ('{' :: (commaJoin (entries.map entryChars) ++ ['}'])) =
        .object (entries.map fun p => (p.1, readBack round p.2)) := by
  have hopen : isJsonSpace '{' = false := by decide
  have hclose : isJsonSpace '}' = false := by decide
  have hquote : isJsonSpace '"' = false := by decide
  refine readable_of fun fuel rest hf _ => ?_
  simp only [List.length_cons, List.length_append, List.length_nil] at hf
  obtain ⟨fuel, rfl⟩ : ∃ k, fuel = k + 1 := ⟨fuel - 1, by omega⟩
  rw [List.cons_append, List.append_assoc, List.singleton_append]
  simp only [parseValue, skipSpace_cons hopen, Char.reduceEq, if_false, if_true]
  cases entries with
  | nil => simp only [List.map_nil, commaJoin, List.nil_append, skipSpace_cons hclose]
  | cons p entries =>
    have hread := members_readable (by simp) hall fuel rest (by omega)
    obtain ⟨cs, hcs⟩ : ∃ cs, commaJoin ((p :: entries).map entryChars) ++ '}' :: rest = '"' :: cs := by
      cases entries with
      | nil => exact ⟨_, rfl⟩
      | cons q entries => exact ⟨_, rfl⟩
    have hproperties := @Record.fromEntries_properties _ ((p :: entries).map fun p => (p.1, readBack round p.2))
      (by rw [List.map_map]; exact hkeys)
    rw [hcs] at hread ⊢
    rw [skipSpace_cons hquote]
    split
    · rename_i heq
      exact absurd (List.cons.inj heq).1 (by decide)
    · rw [hread, Option.map_some, hproperties]

/-- A plain value is JSON, and the text of an object has all its properties. -/
theorem entryTexts_plain (st : TextStyle) : ∀ {ps : List (String × Value)}, PlainEntries ps →
    entryTexts st ps = ps.map fun p => (p.1, textWith st p.2) := by
  intro ps
  induction ps with
  | nil => exact fun _ => rfl
  | cons p rest ih =>
    obtain ⟨k, v⟩ := p
    intro h
    have hv : v ≠ .undefined := by
      rintro rfl
      exact h.1
    rw [entryTexts.eq_3 _ _ _ _ hv, ih h.2, List.map_cons]

theorem itemTexts_map (st : TextStyle) (items : List Value) :
    itemTexts st items = items.map (textWith st) := by
  induction items with
  | nil => rfl
  | cons v rest ih => rw [itemTexts, ih, List.map_cons]

theorem plain_opens (st : TextStyle) {v : Value} (h : Plain v) : Opens (textWith st v) := by
  cases v with
  | undefined => exact absurd h (by simp [Plain])
  | null => exact ⟨'n', _, rfl, by decide, by decide⟩
  | bool b => cases b <;> exact ⟨_, _, rfl, by decide, by decide⟩
  | number n =>
    cases n with
    | int n =>
      obtain ⟨c, cs, hcs⟩ := List.exists_cons_of_ne_nil (intChars_spec n).1
      have hc : isNumberChar c = true := (intChars_spec n).2 c (hcs ▸ List.mem_cons_self)
      refine ⟨c, cs, hcs, (numberChar_ne hc).1, ?_⟩
      rintro rfl
      exact absurd hc (by decide)
    | _ => exact absurd h (by simp [Plain])
  | string s => exact ⟨'"', _, rfl, by decide, by decide⟩
  | array items => exact ⟨'[', _, by rw [textWith], by decide, by decide⟩
  | object ps => exact ⟨'{', _, by rw [textWith], by decide, by decide⟩

theorem plainItems_iff : ∀ {items : List Value}, PlainItems items ↔ ∀ v ∈ items, Plain v := by
  intro items
  induction items with
  | nil => simp [PlainItems]
  | cons v rest ih => rw [PlainItems, ih, List.forall_mem_cons]

theorem plainEntries_iff : ∀ {ps : List (String × Value)}, PlainEntries ps ↔ ∀ p ∈ ps, Plain p.2 := by
  intro ps
  induction ps with
  | nil => simp [PlainEntries]
  | cons p rest ih =>
    obtain ⟨k, v⟩ := p
    rw [PlainEntries, ih, List.forall_mem_cons]

/-- A value is read back from its text, up to the order of properties. -/
def ReadBack (round : List Char → Number) (st : TextStyle) (v : Value) : Prop :=
  Readable round (textWith st v) ∧ Same v (readBack round (textWith st v))

theorem array_readBack (st : TextStyle) {items : List Value} (hplain : ∀ v ∈ items, Plain v)
    (hall : ∀ v ∈ items, ReadBack round st v) : ReadBack round st (.array items) := by
  have hread : ∀ t ∈ itemTexts st items, Readable round t := by
    intro t ht
    rw [itemTexts_map] at ht
    obtain ⟨v, hv, rfl⟩ := List.mem_map.1 ht
    exact (hall v hv).1
  have hopens : ∀ t ∈ itemTexts st items, Opens t := by
    intro t ht
    rw [itemTexts_map] at ht
    obtain ⟨v, hv, rfl⟩ := List.mem_map.1 ht
    exact plain_opens st (hplain v hv)
  obtain ⟨hr, hb⟩ := array_readable hread hopens
  unfold ReadBack
  rw [textWith]
  refine ⟨hr, ?_⟩
  rw [hb, itemTexts_map, List.map_map]
  refine .array (by rw [List.length_map]) fun i v w hv hw => ?_
  rw [List.getElem?_map, hv] at hw
  obtain rfl := Option.some.inj hw
  exact (hall v (List.mem_of_getElem? hv)).2

theorem object_readBack (st : TextStyle) {ps : List (String × Value)} (hkeys : (ps.map Prod.fst).Nodup)
    (hplain : PlainEntries ps) (hall : ∀ p ∈ ps, ReadBack round st p.2) : ReadBack round st (.object ps) := by
  -- the members of the text are those of the object, in another order
  have hperm : (st.order (entryTexts st ps)).Perm (ps.map fun p => (p.1, textWith st p.2)) := by
    rw [← entryTexts_plain st hplain]
    exact st.order_perm _
  have hmem : ∀ {k : String} {t : List Char}, (k, t) ∈ st.order (entryTexts st ps) →
      ∃ v, (k, v) ∈ ps ∧ t = textWith st v := by
    intro k t ht
    obtain ⟨p, hp, heq⟩ := List.mem_map.1 (hperm.mem_iff.1 ht)
    obtain ⟨rfl, rfl⟩ := Prod.mk.inj heq
    exact ⟨p.2, hp, rfl⟩
  have hsame : ((st.order (entryTexts st ps)).map Prod.fst).Perm (ps.map Prod.fst) := by
    have hmap := hperm.map Prod.fst
    rw [List.map_map] at hmap
    exact hmap
  obtain ⟨hr, hb⟩ := @object_readable round (st.order (entryTexts st ps)) (fun p hp => by
    obtain ⟨v, hv, ht⟩ := @hmem p.1 p.2 hp
    rw [ht]
    exact (hall _ hv).1) (hsame.nodup_iff.2 hkeys)
  unfold ReadBack
  rw [textWith]
  refine ⟨hr, ?_⟩
  rw [hb]
  refine .object (by rw [List.map_map]; exact hsame) fun k v w hv hw => ?_
  obtain ⟨p, hp, heq⟩ := List.mem_map.1 hw
  obtain ⟨rfl, rfl⟩ := Prod.mk.inj heq
  obtain ⟨u, hu, ht⟩ := @hmem p.1 p.2 hp
  -- the key has one value
  have hpair : (p.1, u) = (p.1, v) := List.inj_on_of_nodup_map hkeys hu hv rfl
  rw [ht, (Prod.mk.inj hpair).2]
  exact (hall _ hv).2

mutual
/-- **The text of a plain value is read back.** -/
theorem text_readable (st : TextStyle) : ∀ v : Value, Plain v → ReadBack round st v
  | .undefined, h => absurd h (by simp [Plain])
  | .null, _ => by
    have h := @word_readable round 'n' "ull" .null fun fuel rest => by
      simp [parseValue, skipSpace, isJsonSpace, expectWord]
    exact ⟨h.1, by rw [show readBack round (textWith st .null) = .null from h.2]; exact .null⟩
  | .bool true, _ => by
    have h := @word_readable round 't' "rue" (.bool true) fun fuel rest => by
      simp [parseValue, skipSpace, isJsonSpace, expectWord]
    exact ⟨h.1, by rw [show readBack round (textWith st (.bool true)) = .bool true from h.2]; exact .bool true⟩
  | .bool false, _ => by
    have h := @word_readable round 'f' "alse" (.bool false) fun fuel rest => by
      simp [parseValue, skipSpace, isJsonSpace, expectWord]
    exact ⟨h.1, by rw [show readBack round (textWith st (.bool false)) = .bool false from h.2]; exact .bool false⟩
  | .number (.int n), h => by
    obtain ⟨hr, hb⟩ := @number_readable round n h
    exact ⟨hr, by rw [show readBack round (textWith st (.number (.int n))) = .number (.int n) from hb]; exact .number _⟩
  | .number (.fraction _ _), h => absurd h (by simp [Plain])
  | .number .nan, h => absurd h (by simp [Plain])
  | .number (.infinity _), h => absurd h (by simp [Plain])
  | .string s, _ => by
    obtain ⟨hr, hb⟩ := @string_readable round s
    exact ⟨hr, by rw [show readBack round (textWith st (.string s)) = .string s from hb]; exact .string s⟩
  | .array items, h => by
    rw [Plain] at h
    exact array_readBack st (plainItems_iff.1 h) (items_readBack st items h)
  | .object ps, h => by
    rw [Plain] at h
    exact object_readBack st h.1 h.2 (entries_readBack st ps h.2)
theorem items_readBack (st : TextStyle) : ∀ items : List Value, PlainItems items →
    ∀ v ∈ items, ReadBack round st v
  | [], _ => fun _ h => absurd h List.not_mem_nil
  | v :: rest, h => List.forall_mem_cons.2 ⟨text_readable st v h.1, items_readBack st rest h.2⟩
theorem entries_readBack (st : TextStyle) : ∀ ps : List (String × Value), PlainEntries ps →
    ∀ p ∈ ps, ReadBack round st p.2
  | [], _ => fun _ h => absurd h List.not_mem_nil
  | (_, v) :: rest, h => List.forall_mem_cons.2 ⟨text_readable st v h.1, entries_readBack st rest h.2⟩
end

/-- **`JSON.parse` gives the value of its text back**, up to the order of properties. -/
theorem jsonParse_text (st : TextStyle) {v : Value} (h : Plain v) :
    ∃ w, jsonParse round (String.ofList (textWith st v)) = some w ∧ Same v w := by
  obtain ⟨hr, hs⟩ := @text_readable round st v h
  refine ⟨_, ?_, hs⟩
  have hread := hr (textWith st v).length [] le_rfl trivial
  rw [List.append_nil] at hread
  unfold jsonParse
  rw [String.toList_ofList, hread]
  rfl

/-! ## Values with the same contents -/

theorem Same.string_eq {s : String} {w : Value} (h : Same (.string s) w) : w = .string s := by
  cases h
  rfl

theorem Same.number_eq {n : Number} {w : Value} (h : Same (.number n) w) : w = .number n := by
  cases h
  rfl

/-- An object with the same contents has the same contents at every key. -/
theorem Same.object_get {ps : List (String × Value)} {w : Value} (h : Same (.object ps) w)
    (hkeys : (ps.map Prod.fst).Nodup) : ∃ qs, w = .object qs ∧ (qs.map Prod.fst).Perm (ps.map Prod.fst) ∧
      ∀ (k : String) (v : Value), (k, v) ∈ ps → Same v (Value.get qs k) := by
  cases h with
  | @object _ qs hperm hsame =>
    refine ⟨qs, rfl, hperm, fun k v hv => ?_⟩
    have hk : k ∈ qs.map Prod.fst := hperm.mem_iff.2 (List.mem_map.2 ⟨_, hv, rfl⟩)
    obtain ⟨p, hp, rfl⟩ := List.mem_map.1 hk
    rw [Value.get_of_mem (hperm.nodup_iff.2 hkeys) hp]
    exact hsame p.1 v p.2 hv hp

end SecureSaas.Js
