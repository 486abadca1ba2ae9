import SecureSaas.Js.Value
import Mathlib.Tactic.Common

/-!
# JSON texts

`textWith` renders a value as JSON, with the order of an object's properties and the
text of `undefined` left open: `JSON.stringify` and the key-sorting serialisers are
instances of it.

* `quoteChars_inj`, `intChars_inj`: scalar texts determine their value.
* `text_delimits`: the texts of JSON values are self-delimiting, so a text followed by a
  separator is read back in one way only.
* `object_text_inj`: two objects with the same text list the same keys with the same
  texts, in the same order.
-/

namespace SecureSaas.Js

/-! ## Scalars -/

/-- One character inside a JSON string literal. -/
def escapeChar (c : Char) : List Char :=
  if c = '"' then ['\\', '"']
  else if c = '\\' then ['\\', '\\']
  else if c.toNat = 8 then ['\\', 'b']
  else if c.toNat = 12 then ['\\', 'f']
  else if c = '\n' then ['\\', 'n']
  else if c = '\r' then ['\\', 'r']
  else if c = '\t' then ['\\', 't']
  else if c.toNat < 32 then
    ['\\', 'u', '0', '0', Nat.digitChar (c.toNat / 16), Nat.digitChar (c.toNat % 16)]
  else [c]

/-- A JSON string literal. -/
def quoteChars (s : String) : List Char := '"' :: s.toList.flatMap escapeChar ++ ['"']

/-- `Number.prototype.toString` of an integer. -/
def intChars (n : ℤ) : List Char :=
  if n < 0 then '-' :: Nat.toDigits 10 n.natAbs else Nat.toDigits 10 n.natAbs

/-- `JSON.stringify` of a number: what is not finite becomes `null`. -/
def numberChars : Number → List Char
  | .int n => intChars n
  | .fraction t _ => t.toList
  | .nan | .infinity _ => ['n', 'u', 'l', 'l']

/-! ## Values -/

/-- What a serialiser decides: the order of the rendered properties of an object, and the
text of `undefined` inside an array. -/
structure TextStyle where
  order : List (String × List Char) → List (String × List Char)
  order_perm : ∀ entries, (order entries).Perm entries
  hole : List Char

/-- `texts.join(",")`. -/
def commaJoin : List (List Char) → List Char
  | [] => []
  | [t] => t
  | t :: u :: rest => t ++ ',' :: commaJoin (u :: rest)

/-- `"key":text`. -/
def entryChars (p : String × List Char) : List Char := quoteChars p.1 ++ ':' :: p.2

mutual
/-- The JSON text of a value. -/
def textWith (st : TextStyle) : Value → List Char
  | .undefined => st.hole
  | .null => ['n', 'u', 'l', 'l']
  | .bool true => ['t', 'r', 'u', 'e']
  | .bool false => ['f', 'a', 'l', 's', 'e']
  | .number n => numberChars n
  | .string s => quoteChars s
  | .array items => '[' :: (commaJoin (itemTexts st items) ++ [']'])
  | .object properties =>
    '{' :: (commaJoin ((st.order (entryTexts st properties)).map entryChars) ++ ['}'])
/-- The texts of the items of an array. -/
def itemTexts (st : TextStyle) : List Value → List (List Char)
  | [] => []
  | v :: rest => textWith st v :: itemTexts st rest
/-- The keys of an object with the texts of their values; a property that holds
`undefined` is left out. -/
def entryTexts (st : TextStyle) : List (String × Value) → List (String × List Char)
  | [] => []
  | (_, .undefined) :: rest => entryTexts st rest
  | (k, v) :: rest => (k, textWith st v) :: entryTexts st rest
end

/-- `JSON.stringify`. -/
def jsonStringify (v : Value) : String :=
  String.ofList (textWith ⟨ownOrder, ownOrder_perm, ['n', 'u', 'l', 'l']⟩ v)

mutual
/-- The value is JSON: no `undefined` outside an object's properties, no number that is not
finite. -/
def isJson : Value → Bool
  | .undefined => false
  | .number n => n.isFinite
  | .array items => isJsonItems items
  | .object properties => isJsonEntries properties
  | _ => true
def isJsonItems : List Value → Bool
  | [] => true
  | v :: rest => isJson v && isJsonItems rest
def isJsonEntries : List (String × Value) → Bool
  | [] => true
  | (_, .undefined) :: rest => isJsonEntries rest
  | (_, v) :: rest => isJson v && isJsonEntries rest
end

/-! ## Scalar texts are read back in one way -/

/-- The number of a hexadecimal digit. -/
def hexValue (c : Char) : ℕ := if c.toNat < 58 then c.toNat - 48 else c.toNat - 87

theorem hexValue_digitChar : ∀ n < 16, hexValue (Nat.digitChar n) = n := by decide

/-- Reads one character of a string literal back. -/
def readChar : List Char → Option (Char × List Char)
  | '\\' :: 'u' :: '0' :: '0' :: a :: b :: r => some (Char.ofNat (16 * hexValue a + hexValue b), r)
  | '\\' :: 'b' :: r => some (Char.ofNat 8, r)
  | '\\' :: 'f' :: r => some (Char.ofNat 12, r)
  | '\\' :: 'n' :: r => some ('\n', r)
  | '\\' :: 'r' :: r => some ('\r', r)
  | '\\' :: 't' :: r => some ('\t', r)
  | '\\' :: c :: r => some (c, r)
  | c :: r => some (c, r)
  | [] => none

theorem readChar_escapeChar (c : Char) (r : List Char) : readChar (escapeChar c ++ r) = some (c, r) := by
  unfold escapeChar
  split_ifs with h1 h2 h3 h4 h5 h6 h7 h8
  · subst h1; rfl
  · subst h2; rfl
  · have : c = Char.ofNat 8 := by rw [← h3, Char.ofNat_toNat]
    subst this; rfl
  · have : c = Char.ofNat 12 := by rw [← h4, Char.ofNat_toNat]
    subst this; rfl
  · subst h5; rfl
  · subst h6; rfl
  · subst h7; rfl
  · -- a control character, written in hexadecimal
    simp only [List.cons_append, List.nil_append, readChar]
    rw [hexValue_digitChar _ (by omega), hexValue_digitChar _ (by omega), Nat.div_add_mod,
      Char.ofNat_toNat]
  · simp [readChar, h2]

theorem escapeChar_plain {c : Char} (hq : c ≠ '"') (hb : c ≠ '\\') (hc : 32 ≤ c.toNat) : escapeChar c = [c] := by
  have hcontrol : ∀ d : Char, d.toNat < 32 → c ≠ d := by
    rintro d hd rfl
    omega
  unfold escapeChar
  rw [if_neg hq, if_neg hb, if_neg (by omega), if_neg (by omega), if_neg (hcontrol _ (by decide)),
    if_neg (hcontrol _ (by decide)), if_neg (hcontrol _ (by decide)), if_neg (by omega)]

theorem escapeChar_cases (c : Char) :
    (∃ d e, escapeChar c = '\\' :: d :: e) ∨ (c ≠ '"' ∧ escapeChar c = [c]) := by
  unfold escapeChar
  split_ifs <;> first | exact Or.inl ⟨_, _, rfl⟩ | exact Or.inr ⟨by assumption, rfl⟩

/-- Escapes are a prefix code. -/
theorem escapeChar_inj {c d : Char} {r r' : List Char}
    (h : escapeChar c ++ r = escapeChar d ++ r') : c = d ∧ r = r' := by
  have hc := readChar_escapeChar c r
  rw [h, readChar_escapeChar] at hc
  simpa [eq_comm] using hc

/-- The closing quote is not the start of an escape. -/
theorem escapeChar_ne_quote {c : Char} {r r' : List Char} : escapeChar c ++ r ≠ '"' :: r' := by
  intro h
  rcases escapeChar_cases c with ⟨d, e, hc⟩ | ⟨hc, he⟩
  · rw [hc] at h; simp at h
  · rw [he] at h; simp only [List.cons_append, List.cons.injEq] at h; exact hc h.1

theorem escape_inj : ∀ (l m : List Char) {r r' : List Char},
    l.flatMap escapeChar ++ '"' :: r = m.flatMap escapeChar ++ '"' :: r' → l = m ∧ r = r' := by
  intro l
  induction l with
  | nil =>
    intro m r r' h
    cases m with
    | nil => simpa using h
    | cons d m =>
      rw [List.flatMap_cons, List.append_assoc] at h
      exact absurd h.symm escapeChar_ne_quote
  | cons c l ih =>
    intro m r r' h
    cases m with
    | nil =>
      rw [List.flatMap_cons, List.append_assoc] at h
      exact absurd h escapeChar_ne_quote
    | cons d m =>
      rw [List.flatMap_cons, List.flatMap_cons, List.append_assoc, List.append_assoc] at h
      obtain ⟨rfl, h'⟩ := escapeChar_inj h
      obtain ⟨rfl, hr⟩ := ih m h'
      exact ⟨rfl, hr⟩

/-- **String literals are self-delimiting.** -/
theorem quoteChars_inj {s t : String} {l r : List Char}
    (h : quoteChars s ++ l = quoteChars t ++ r) : s = t ∧ l = r := by
  unfold quoteChars at h
  simp only [List.cons_append, List.append_assoc, List.cons.injEq, true_and, List.nil_append] at h
  obtain ⟨hs, hr⟩ := escape_inj _ _ h
  exact ⟨String.toList_inj.1 hs, hr⟩

/-! ## Numbers -/

/-- The characters of number texts. -/
def isNumberChar (c : Char) : Bool := c.isDigit || c == '-' || c == '+' || c == '.' || c == 'e'

theorem intChars_spec (n : ℤ) : intChars n ≠ [] ∧ ∀ c ∈ intChars n, isNumberChar c = true := by
  have hd : ∀ c ∈ Nat.toDigits 10 n.natAbs, isNumberChar c = true := fun c hc => by
    simp [isNumberChar, Nat.isDigit_of_mem_toDigits (by decide) (by decide) hc]
  unfold intChars
  split
  · exact ⟨by simp, List.forall_mem_cons.2 ⟨by decide, hd⟩⟩
  · exact ⟨Nat.toDigits_ne_nil, hd⟩

theorem numberChars_spec {n : Number} (h : n.isFinite = true) :
    numberChars n ≠ [] ∧ ∀ c ∈ numberChars n, isNumberChar c = true := by
  cases n with
  | int n => exact intChars_spec n
  | fraction t wf =>
    unfold isFractionText at wf
    rw [Bool.and_eq_true, List.all_eq_true, List.any_eq_true] at wf
    obtain ⟨hall, c, hc, -⟩ := wf
    exact ⟨List.ne_nil_of_mem hc, hall⟩
  | nan => simp [Number.isFinite] at h
  | infinity _ => simp [Number.isFinite] at h

theorem toDigits_inj : ∀ m n : ℕ, Nat.toDigits 10 m = Nat.toDigits 10 n → m = n := by
  intro m
  induction m using Nat.strong_induction_on with
  | _ m ih =>
    intro n h
    have hchar : ∀ a < 10, ∀ b < 10, Nat.digitChar a = Nat.digitChar b → a = b := by decide
    rw [Nat.toDigits_eq_if (by decide), Nat.toDigits_eq_if (n := n) (by decide)] at h
    split_ifs at h with hm hn hn
    · exact hchar m hm n hn (by simpa using h)
    · have := congrArg List.length h
      simp [Nat.toDigits_ne_nil] at this
    · have := congrArg List.length h
      simp [Nat.toDigits_ne_nil] at this
    · obtain ⟨h1, h2⟩ := List.append_inj' h rfl
      have e1 := ih (m / 10) (by omega) (n / 10) h1
      have e2 := hchar _ (Nat.mod_lt _ (by decide)) _ (Nat.mod_lt _ (by decide)) (by simpa using h2)
      omega

theorem intChars_inj {m n : ℤ} (h : intChars m = intChars n) : m = n := by
  have hdash : ∀ k : ℕ, ∀ l, Nat.toDigits 10 k ≠ '-' :: l := fun k l hk => by
    have := Nat.isDigit_of_mem_toDigits (c := '-') (by decide) (by decide) (hk ▸ List.mem_cons_self)
    revert this; decide
  unfold intChars at h
  split_ifs at h with hm hn hn
  · have := toDigits_inj _ _ (List.cons.inj h).2; omega
  · exact absurd h.symm (hdash _ _)
  · exact absurd h (hdash _ _)
  · have := toDigits_inj _ _ h; omega

/-! ## Self-delimiting texts -/

/-- The input does not go on with a character of a number. -/
def Stops : List Char → Prop
  | [] => True
  | c :: _ => isNumberChar c = false

theorem number_span : ∀ (w w' : List Char) {r r' : List Char}, (∀ c ∈ w, isNumberChar c = true) →
    (∀ c ∈ w', isNumberChar c = true) → Stops r → Stops r' → w ++ r = w' ++ r' → w = w' ∧ r = r' := by
  intro w
  induction w with
  | nil =>
    intro w' r r' _ hw' hr _ h
    cases w' with
    | nil => exact ⟨rfl, h⟩
    | cons d w' =>
      rw [List.nil_append] at h
      rw [h] at hr
      have hd := hw' d List.mem_cons_self
      simp [Stops, hd] at hr
  | cons c w ih =>
    intro w' r r' hw hw' hr hr' h
    cases w' with
    | nil =>
      rw [List.nil_append] at h
      rw [← h] at hr'
      have hc := hw c List.mem_cons_self
      simp [Stops, hc] at hr'
    | cons d w' =>
      obtain ⟨rfl, h'⟩ := List.cons_eq_cons.1 h
      obtain ⟨rfl, hr⟩ := ih w' (fun x hx => hw x (List.mem_cons_of_mem _ hx))
        (fun x hx => hw' x (List.mem_cons_of_mem _ hx)) hr hr' h'
      exact ⟨rfl, hr⟩

/-- The kind of JSON value that a character starts. -/
def kindOfChar (c : Char) : ℕ :=
  if c = 'n' then 0 else if c = 't' then 1 else if c = 'f' then 2 else if c = '"' then 3
  else if c = '[' then 4 else if c = '{' then 5 else if isNumberChar c then 6 else 7

/-- The kind of a JSON value. -/
def kindOf : Value → ℕ
  | .undefined | .null => 0
  | .bool true => 1
  | .bool false => 2
  | .string _ => 3
  | .array _ => 4
  | .object _ => 5
  | .number _ => 6

theorem kindOfChar_number {c : Char} (h : isNumberChar c = true) : kindOfChar c = 6 := by
  unfold kindOfChar
  rw [if_neg (by rintro rfl; revert h; decide), if_neg (by rintro rfl; revert h; decide),
    if_neg (by rintro rfl; revert h; decide), if_neg (by rintro rfl; revert h; decide),
    if_neg (by rintro rfl; revert h; decide), if_neg (by rintro rfl; revert h; decide), if_pos h]

theorem kindOf_lt (v : Value) : kindOf v < 7 := by
  unfold kindOf; split <;> decide

/-- The first character of a JSON text tells the kind of its value. -/
theorem text_head (st : TextStyle) {v : Value} (h : isJson v = true) :
    ∃ c cs, textWith st v = c :: cs ∧ kindOfChar c = kindOf v := by
  cases v with
  | undefined => simp [isJson] at h
  | null => exact ⟨_, _, rfl, rfl⟩
  | bool b => cases b <;> exact ⟨_, _, rfl, rfl⟩
  | number n =>
    obtain ⟨hne, hall⟩ := numberChars_spec (n := n) (by simpa [isJson] using h)
    obtain ⟨c, cs, hcs⟩ := List.exists_cons_of_ne_nil hne
    exact ⟨c, cs, hcs, kindOfChar_number (hall c (hcs ▸ List.mem_cons_self))⟩
  | string s => exact ⟨_, _, rfl, rfl⟩
  | array items => exact ⟨_, _, by rw [textWith], rfl⟩
  | object ps => exact ⟨_, _, by rw [textWith], rfl⟩

theorem text_head_ne (st : TextStyle) {v : Value} (h : isJson v = true) {close : Char}
    (hclose : kindOfChar close = 7) : ∃ c cs, textWith st v = c :: cs ∧ c ≠ close := by
  obtain ⟨c, cs, he, hk⟩ := text_head st h
  refine ⟨c, cs, he, ?_⟩
  rintro rfl
  have := kindOf_lt v
  omega

/-- Reading a joined list back. `P` and `Q` hold of the items on the two sides; an item
is read back whenever a comma or the closing bracket follows it. -/
theorem join_inj (close : Char) (hclose : close ≠ ',') {P Q : List Char → Prop}
    (hPQ : ∀ t u x y r r', P t → Q u → (x = ',' ∨ x = close) → (y = ',' ∨ y = close) →
      t ++ x :: r = u ++ y :: r' → t = u ∧ x = y ∧ r = r')
    (hP : ∀ t, P t → ∃ c cs, t = c :: cs ∧ c ≠ close)
    (hQ : ∀ t, Q t → ∃ c cs, t = c :: cs ∧ c ≠ close) :
    ∀ (L M : List (List Char)) {r r' : List Char}, (∀ t ∈ L, P t) → (∀ u ∈ M, Q u) →
      commaJoin L ++ close :: r = commaJoin M ++ close :: r' → L = M ∧ r = r' := by
  have hfirst : ∀ (t : List Char) (L : List (List Char)) (r : List Char), ∃ x s, (x = ',' ∨ x = close) ∧
      commaJoin (t :: L) ++ close :: r = t ++ x :: s ∧ (x = close → L = [] ∧ s = r) ∧
      (x = ',' → L ≠ [] ∧ s = commaJoin L ++ close :: r) := by
    intro t L r
    cases L with
    | nil => exact ⟨close, r, Or.inr rfl, rfl, fun _ => ⟨rfl, rfl⟩, fun h => absurd h hclose⟩
    | cons u L =>
      exact ⟨',', commaJoin (u :: L) ++ close :: r, Or.inl rfl, by simp [commaJoin],
        fun h => absurd h.symm hclose, fun _ => ⟨by simp, rfl⟩⟩
  intro L
  induction L with
  | nil =>
    intro M r r' _ hM h
    cases M with
    | nil => simpa [commaJoin] using h
    | cons u M =>
      obtain ⟨c, cs, rfl, hc⟩ := hQ u (hM u List.mem_cons_self)
      obtain ⟨y, s, -, he, -, -⟩ := hfirst (c :: cs) M r'
      rw [he] at h
      simp only [commaJoin, List.nil_append, List.cons_append, List.cons.injEq] at h
      exact absurd h.1.symm hc
  | cons t L ih =>
    intro M r r' hL hM h
    obtain ⟨x, s, hx, he, hx1, hx2⟩ := hfirst t L r
    cases M with
    | nil =>
      obtain ⟨c, cs, rfl, hc⟩ := hP t (hL t List.mem_cons_self)
      rw [he] at h
      simp only [commaJoin, List.nil_append, List.cons_append, List.cons.injEq] at h
      exact absurd h.1 hc
    | cons u M =>
      obtain ⟨y, s', hy, he', hy1, hy2⟩ := hfirst u M r'
      rw [he, he'] at h
      obtain ⟨rfl, rfl, rfl⟩ := hPQ t u x y s s' (hL t List.mem_cons_self) (hM u List.mem_cons_self) hx hy h
      rcases hx with hx | hx
      · obtain ⟨-, hs⟩ := hx2 hx
        obtain ⟨-, hs'⟩ := hy2 hx
        obtain ⟨rfl, hr⟩ := ih M (fun a ha => hL a (List.mem_cons_of_mem _ ha))
          (fun a ha => hM a (List.mem_cons_of_mem _ ha)) (hs.symm.trans hs')
        exact ⟨rfl, hr⟩
      · obtain ⟨rfl, hs⟩ := hx1 hx
        obtain ⟨rfl, hs'⟩ := hy1 hx
        exact ⟨rfl, hs.symm.trans hs'⟩

/-- A text is read back in one way against the texts of JSON values. -/
def Delimits (st : TextStyle) (t : List Char) : Prop :=
  ∀ w r r', isJson w = true → Stops r → Stops r' → t ++ r = textWith st w ++ r' →
    t = textWith st w ∧ r = r'

theorem entryChars_inj {p q : String × List Char} (h : entryChars p = entryChars q) : p = q := by
  unfold entryChars at h
  obtain ⟨h1, h2⟩ := quoteChars_inj h
  exact Prod.ext h1 (List.cons.inj h2).2

theorem mem_itemTexts (st : TextStyle) : ∀ {items : List Value}, isJsonItems items = true →
    ∀ t ∈ itemTexts st items, ∃ w, isJson w = true ∧ t = textWith st w := by
  intro items
  induction items with
  | nil => intro _ t ht; simp [itemTexts] at ht
  | cons v rest ih =>
    intro h t ht
    simp only [isJsonItems, Bool.and_eq_true] at h
    rcases List.mem_cons.1 ht with rfl | ht
    · exact ⟨v, h.1, rfl⟩
    · exact ih h.2 t ht

theorem mem_entryTexts (st : TextStyle) : ∀ {ps : List (String × Value)}, isJsonEntries ps = true →
    ∀ p ∈ entryTexts st ps, ∃ w, (p.1, w) ∈ ps ∧ isJson w = true ∧ p.2 = textWith st w := by
  intro ps
  induction ps with
  | nil => intro _ p hp; simp [entryTexts] at hp
  | cons e rest ih =>
    obtain ⟨k, v⟩ := e
    intro h p hp
    -- a property that holds `undefined` has no text
    have step : isJsonEntries rest = true → p ∈ entryTexts st rest →
        ∃ w, (p.1, w) ∈ (k, v) :: rest ∧ isJson w = true ∧ p.2 = textWith st w := by
      intro hr hp
      obtain ⟨w, hw, h1, h2⟩ := ih hr p hp
      exact ⟨w, List.mem_cons_of_mem _ hw, h1, h2⟩
    cases v with
    | undefined => exact step h hp
    | _ =>
      simp only [isJsonEntries, Bool.and_eq_true] at h
      rcases List.mem_cons.1 hp with rfl | hp
      · exact ⟨_, List.mem_cons_self, h.1, rfl⟩
      · exact step h.2 hp

theorem stops_of_separator {x : Char} {r : List Char} (h : x = ',' ∨ x = ']' ∨ x = '}') :
    Stops (x :: r) := by
  rcases h with rfl | rfl | rfl <;> simp [Stops, isNumberChar]

/-- Two texts that open the same way come from values of one kind. -/
theorem kindOf_eq (st : TextStyle) {v w : Value} (hv : isJson v = true) (hw : isJson w = true)
    {r r' : List Char} (h : textWith st v ++ r = textWith st w ++ r') : kindOf v = kindOf w := by
  obtain ⟨c, cs, hc, hk⟩ := text_head st hv
  obtain ⟨d, ds, hd, hk'⟩ := text_head st hw
  rw [hc, hd, List.cons_append, List.cons_append] at h
  obtain ⟨rfl, -⟩ := List.cons_eq_cons.1 h
  exact hk.symm.trans hk'

/-- The joined texts of two item lists, one of which delimits, are read back in one way. -/
theorem items_inj (st : TextStyle) {items others : List Value} (ho : isJsonItems others = true)
    (hi : isJsonItems items = true) (hdel : ∀ t ∈ itemTexts st items, Delimits st t) {r r' : List Char}
    (h : commaJoin (itemTexts st items) ++ ']' :: r = commaJoin (itemTexts st others) ++ ']' :: r') :
    itemTexts st items = itemTexts st others ∧ r = r' := by
  refine join_inj ']' (by decide)
    (P := fun t => Delimits st t ∧ ∃ w, isJson w = true ∧ t = textWith st w)
    (Q := fun t => ∃ w, isJson w = true ∧ t = textWith st w) ?_ ?_ ?_ _ _
    (fun t ht => ⟨hdel t ht, mem_itemTexts st hi t ht⟩) (mem_itemTexts st ho) h
  · rintro t u x y s s' ⟨ht, -⟩ ⟨w, hw, rfl⟩ hx hy he
    obtain ⟨rfl, hr⟩ := ht w _ _ hw (stops_of_separator (by tauto)) (stops_of_separator (by tauto)) he
    exact ⟨rfl, (List.cons.inj hr).1, (List.cons.inj hr).2⟩
  · rintro t ⟨-, w, hw, rfl⟩; exact text_head_ne st hw (by decide)
  · rintro t ⟨w, hw, rfl⟩; exact text_head_ne st hw (by decide)

/-- The same for the rendered properties of two objects. -/
theorem entries_inj (st : TextStyle) {L M : List (String × List Char)}
    (hL : ∀ p ∈ L, Delimits st p.2) (hM : ∀ p ∈ M, ∃ w, isJson w = true ∧ p.2 = textWith st w)
    {r r' : List Char}
    (h : commaJoin (L.map entryChars) ++ '}' :: r = commaJoin (M.map entryChars) ++ '}' :: r') :
    L = M ∧ r = r' := by
  have hne : ∀ p : String × List Char, ∃ c cs, entryChars p = c :: cs ∧ c ≠ '}' := fun p =>
    ⟨'"', _, rfl, by decide⟩
  have key := join_inj '}' (by decide)
    (P := fun t => ∃ p : String × List Char, t = entryChars p ∧ Delimits st p.2)
    (Q := fun t => ∃ p : String × List Char, t = entryChars p ∧ ∃ w, isJson w = true ∧ p.2 = textWith st w)
    ?_ (by rintro t ⟨p, rfl, -⟩; exact hne p) (by rintro t ⟨p, rfl, -⟩; exact hne p)
    (L.map entryChars) (M.map entryChars) ?_ ?_ h
  · exact ⟨List.map_injective_iff.2 (fun _ _ => entryChars_inj) key.1, key.2⟩
  · rintro t u x y s s' ⟨p, rfl, hp⟩ ⟨q, rfl, w, hw, hq⟩ hx hy he
    unfold entryChars at he
    rw [List.append_assoc, List.append_assoc] at he
    obtain ⟨hk, he⟩ := quoteChars_inj he
    simp only [List.cons_append, List.cons.injEq, true_and] at he
    rw [hq] at he
    obtain ⟨ht, hr⟩ := hp w _ _ hw (stops_of_separator (by tauto)) (stops_of_separator (by tauto)) he
    exact ⟨congrArg entryChars (Prod.ext hk (ht.trans hq.symm)), (List.cons.inj hr).1, (List.cons.inj hr).2⟩
  · intro t ht
    obtain ⟨p, hp, rfl⟩ := List.mem_map.1 ht
    exact ⟨p, rfl, hL p hp⟩
  · intro t ht
    obtain ⟨p, hp, rfl⟩ := List.mem_map.1 ht
    exact ⟨p, rfl, hM p hp⟩

mutual
/-- **JSON texts are self-delimiting.** -/
theorem text_delimits (st : TextStyle) : ∀ v : Value, isJson v = true → Delimits st (textWith st v)
  | .undefined, hv => by simp [isJson] at hv
  | .null, hv => by
    intro w r r' hw _ _ h
    have hk := kindOf_eq st hv hw h
    cases w with
    | bool b => cases b <;> simp [kindOf] at hk
    | null => exact ⟨rfl, List.append_cancel_left h⟩
    | undefined => simp [isJson] at hw
    | _ => simp [kindOf] at hk
  | .bool b, hv => by
    intro w r r' hw _ _ h
    have hk := kindOf_eq st hv hw h
    cases w with
    | bool b' =>
      cases b <;> cases b' <;> first | exact ⟨rfl, List.append_cancel_left h⟩ | simp [kindOf] at hk
    | _ => cases b <;> simp [kindOf] at hk
  | .number n, hv => by
    intro w r r' hw hr hr' h
    have hk := kindOf_eq st hv hw h
    cases w with
    | number m =>
      exact number_span _ _ (numberChars_spec (by simpa [isJson] using hv)).2
        (numberChars_spec (by simpa [isJson] using hw)).2 hr hr' h
    | bool b => cases b <;> simp [kindOf] at hk
    | _ => simp [kindOf] at hk
  | .string s, hv => by
    intro w r r' hw _ _ h
    have hk := kindOf_eq st hv hw h
    cases w with
    | string t =>
      obtain ⟨rfl, hr⟩ := quoteChars_inj h
      exact ⟨rfl, hr⟩
    | bool b => cases b <;> simp [kindOf] at hk
    | _ => simp [kindOf] at hk
  | .array items, hv => by
    intro w r r' hw _ _ h
    have hk := kindOf_eq st hv hw h
    cases w with
    | array others =>
      simp only [textWith, List.cons_append, List.append_assoc, List.nil_append, List.cons.injEq,
        true_and] at h
      simp only [isJson] at hv hw
      obtain ⟨he, hr⟩ := items_inj st hw hv (items_delimit st items hv) h
      exact ⟨by rw [textWith, textWith, he], hr⟩
    | bool b => cases b <;> simp [kindOf] at hk
    | _ => simp [kindOf] at hk
  | .object ps, hv => by
    intro w r r' hw _ _ h
    have hk := kindOf_eq st hv hw h
    cases w with
    | object qs =>
      simp only [textWith, List.cons_append, List.append_assoc, List.nil_append, List.cons.injEq,
        true_and] at h
      simp only [isJson] at hv hw
      obtain ⟨he, hr⟩ := entries_inj st
        (fun p hp => entries_delimit st ps hv p ((st.order_perm _).mem_iff.1 hp))
        (fun p hp => by
          obtain ⟨w, -, h⟩ := mem_entryTexts st hw p ((st.order_perm _).mem_iff.1 hp)
          exact ⟨w, h⟩) h
      exact ⟨by rw [textWith, textWith, he], hr⟩
    | bool b => cases b <;> simp [kindOf] at hk
    | _ => simp [kindOf] at hk
theorem items_delimit (st : TextStyle) : ∀ items : List Value, isJsonItems items = true →
    ∀ t ∈ itemTexts st items, Delimits st t
  | [], _ => by simp [itemTexts]
  | v :: rest, h => by
    simp only [isJsonItems, Bool.and_eq_true] at h
    rw [itemTexts]
    exact List.forall_mem_cons.2 ⟨text_delimits st v h.1, items_delimit st rest h.2⟩
theorem entries_delimit (st : TextStyle) : ∀ ps : List (String × Value), isJsonEntries ps = true →
    ∀ p ∈ entryTexts st ps, Delimits st p.2
  | [], _ => by simp [entryTexts]
  | (k, v) :: rest, h => by
    by_cases hv : v = .undefined
    · subst hv
      rw [entryTexts]
      exact entries_delimit st rest h
    · rw [isJsonEntries.eq_3 _ _ _ hv, Bool.and_eq_true] at h
      rw [entryTexts.eq_3 _ _ _ _ hv]
      exact List.forall_mem_cons.2 ⟨text_delimits st v h.1, entries_delimit st rest h.2⟩
end

/-- **Objects with one text have the same keys with the same texts.** -/
theorem object_text_inj (st : TextStyle) {ps qs : List (String × Value)}
    (hp : isJson (.object ps) = true) (hq : isJson (.object qs) = true)
    (h : textWith st (.object ps) = textWith st (.object qs)) :
    (entryTexts st ps).Perm (entryTexts st qs) := by
  simp only [textWith, List.cons.injEq, true_and] at h
  simp only [isJson] at hp hq
  have he := (entries_inj st
    (fun p hm => entries_delimit st ps hp p ((st.order_perm _).mem_iff.1 hm))
    (fun p hm => by
      obtain ⟨w, -, hw⟩ := mem_entryTexts st hq p ((st.order_perm _).mem_iff.1 hm)
      exact ⟨w, hw⟩) h).1
  exact (st.order_perm _).symm.trans (he ▸ st.order_perm _)

theorem items_text_inj (st : TextStyle) {items others : List Value} (hi : isJsonItems items = true)
    (ho : isJsonItems others = true) (h : textWith st (.array items) = textWith st (.array others)) :
    itemTexts st items = itemTexts st others := by
  rw [textWith, textWith] at h
  exact (items_inj st ho hi (items_delimit st items hi) (List.cons.inj h).2).1

theorem isJsonItems_strings (parts : List String) : isJsonItems (parts.map .string) = true := by
  induction parts with
  | nil => rfl
  | cons s rest ih => simpa [isJsonItems, isJson] using ih

theorem quoteChars_injective : Function.Injective quoteChars := by
  intro s t hst
  exact (quoteChars_inj (l := []) (r := []) (by rw [hst])).1

theorem jsonStringify_string_inj : Function.Injective fun s : String => jsonStringify (.string s) := by
  intro s t h
  have hq : quoteChars s = quoteChars t := String.ofList_injective h
  exact quoteChars_injective hq

/-- Arrays of strings with one text are equal, in every style. -/
theorem strings_textWith_inj (st : TextStyle) {parts others : List String}
    (h : textWith st (.array (parts.map .string)) = textWith st (.array (others.map .string))) :
    parts = others := by
  have htexts : ∀ parts : List String, itemTexts st (parts.map .string) = parts.map quoteChars := by
    intro parts
    induction parts with
    | nil => rfl
    | cons s rest ih => rw [List.map_cons, itemTexts, ih, List.map_cons, textWith]
  have hitems := items_text_inj st (isJsonItems_strings parts) (isJsonItems_strings others) h
  rw [htexts, htexts] at hitems
  exact List.map_injective_iff.2 quoteChars_injective hitems

/-- **Arrays of strings with one text are equal.** -/
theorem strings_text_inj {parts others : List String}
    (h : jsonStringify (.array (parts.map .string)) = jsonStringify (.array (others.map .string))) :
    parts = others := strings_textWith_inj _ (String.ofList_injective h)

/-- The text of a property that does not hold `undefined` is among the texts of its object. -/
theorem entryText_mem (st : TextStyle) {k : String} {v : Value} (hv : v ≠ .undefined) :
    ∀ {ps : List (String × Value)}, (k, v) ∈ ps → (k, textWith st v) ∈ entryTexts st ps := by
  intro ps
  induction ps with
  | nil => exact fun h => absurd h List.not_mem_nil
  | cons e rest ih =>
    obtain ⟨k', w⟩ := e
    intro h
    rcases List.mem_cons.1 h with heq | hrest
    · obtain ⟨rfl, rfl⟩ := Prod.mk.inj heq
      rw [entryTexts.eq_3 _ _ _ _ hv]
      exact List.mem_cons_self
    · by_cases hw : w = .undefined
      · rw [hw, entryTexts]
        exact ih hrest
      · rw [entryTexts.eq_3 _ _ _ _ hw]
        exact List.mem_cons_of_mem _ (ih hrest)

/-- **Objects with one text have the same text at every property.** -/
theorem object_member_text (st : TextStyle) {ps qs : List (String × Value)}
    (hp : isJson (.object ps) = true) (hq : isJson (.object qs) = true)
    (h : textWith st (.object ps) = textWith st (.object qs)) (hkeys : (qs.map Prod.fst).Nodup)
    {k : String} {v w : Value} (hv : (k, v) ∈ ps) (hw : (k, w) ∈ qs) (hdefined : v ≠ .undefined) :
    textWith st v = textWith st w := by
  have hperm := object_text_inj st hp hq h
  have htext := hperm.mem_iff.1 (entryText_mem st hdefined hv)
  rw [isJson] at hq
  obtain ⟨u, hu, -, heq⟩ := mem_entryTexts st hq _ htext
  have hpair : (k, u) = (k, w) := List.inj_on_of_nodup_map hkeys hu hw rfl
  rw [← (Prod.mk.inj hpair).2]
  exact heq

/-- Objects with one text agree on every integer property. -/
theorem object_int_inj (st : TextStyle) {ps qs : List (String × Value)}
    (hp : isJson (.object ps) = true) (hq : isJson (.object qs) = true)
    (h : textWith st (.object ps) = textWith st (.object qs)) (hkeys : (qs.map Prod.fst).Nodup)
    {k : String} {m n : ℤ} (hm : (k, .number (.int m)) ∈ ps) (hn : (k, .number (.int n)) ∈ qs) : m = n := by
  have htext := object_member_text st hp hq h hkeys hm hn (by simp)
  rw [textWith, textWith] at htext
  exact intChars_inj htext

end SecureSaas.Js
