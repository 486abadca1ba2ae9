import SecureSaas.Js.Json

/-!
# The size of a JSON text

Limits on documents count the code units of their JSON text. The bound here is read off the bytes of the strings of a
value, without the text and without the order of its keys.

* `textSize_le`: the text of a value is no longer than `textBound`.
* `itemsBound_perm`: the bound of a list of values does not depend on their order.
-/

namespace SecureSaas.Js

/-- The code units of a text. -/
def unitCount (text : List Char) : ℕ := (text.map fun c => if c.toNat < 65536 then 1 else 2).sum

@[simp] theorem unitCount_nil : unitCount [] = 0 := rfl

theorem unitCount_cons {c : Char} {text : List Char} :
    unitCount (c :: text) = (if c.toNat < 65536 then 1 else 2) + unitCount text := rfl

@[simp] theorem unitCount_append {l r : List Char} : unitCount (l ++ r) = unitCount l + unitCount r := by
  simp [unitCount]

theorem unitCount_le (text : List Char) : unitCount text ≤ 2 * text.length := by
  induction text with
  | nil => exact Nat.zero_le _
  | cons c text ih =>
    rw [unitCount_cons, List.length_cons]
    split <;> omega

/-! ## Strings -/

/-- What a byte of a string can become: control characters, quotes and backslashes are escaped. -/
def byteBound (b : UInt8) : ℕ := if b < 35 || b == 92 then 12 else 1

theorem one_le_byteBound (b : UInt8) : 1 ≤ byteBound b := by
  unfold byteBound
  split <;> omega

theorem length_le_byteBound (bytes : List UInt8) : bytes.length ≤ (bytes.map byteBound).sum := by
  induction bytes with
  | nil => exact Nat.zero_le _
  | cons b bytes ih =>
    have hone := one_le_byteBound b
    rw [List.length_cons, List.map_cons, List.sum_cons]
    omega

theorem length_escapeChar_le (c : Char) : (escapeChar c).length ≤ 6 := by
  unfold escapeChar
  split_ifs <;> simp

theorem escapeChar_bound (c : Char) : unitCount (escapeChar c) ≤ ((String.utf8EncodeChar c).map byteBound).sum := by
  by_cases hescaped : c.toNat < 35 ∨ c.toNat = 92
  · -- an escaped character is one byte, and its escape has at most six characters
    have hsize : c.utf8Size = 1 := by
      rw [Char.utf8Size_eq_one_iff, UInt32.le_iff_toNat_le]
      change c.toNat ≤ 127
      omega
    have hbound : byteBound c.val.toUInt8 = 12 := by
      have hval : c.val.toUInt8.toNat = c.toNat := by
        rw [UInt32.toNat_toUInt8]
        exact Nat.mod_eq_of_lt (show c.toNat < 256 by omega)
      have hcond : (decide (c.val.toUInt8 < 35) || c.val.toUInt8 == 92) = true := by
        simp only [Bool.or_eq_true, decide_eq_true_eq, beq_iff_eq, UInt8.lt_iff_toNat_lt, ← UInt8.toNat_inj, hval]
        exact hescaped
      rw [byteBound, if_pos hcond]
    rw [String.utf8EncodeChar_eq_singleton hsize, List.map_singleton, List.sum_singleton, hbound]
    have hlength := length_escapeChar_le c
    have hcount := unitCount_le (escapeChar c)
    omega
  · have hplain : escapeChar c = [c] := by
      have hne : ∀ d : Char, d.toNat < 35 ∨ d.toNat = 92 → c ≠ d := fun d hd heq => hescaped (heq ▸ hd)
      unfold escapeChar
      rw [if_neg (hne _ (by decide)), if_neg (hne _ (by decide)), if_neg (by omega), if_neg (by omega),
        if_neg (hne _ (by decide)), if_neg (hne _ (by decide)), if_neg (hne _ (by decide)), if_neg (by omega)]
    have hlength := length_le_byteBound (String.utf8EncodeChar c)
    rw [String.length_utf8EncodeChar] at hlength
    have hpos := c.utf8Size_pos
    rw [hplain, unitCount_cons, unitCount_nil]
    split
    · omega
    · have hfour : c.utf8Size ≠ 1 := by
        rw [Ne, Char.utf8Size_eq_one_iff, UInt32.le_iff_toNat_le]
        change ¬ c.toNat ≤ 127
        omega
      omega

/-- The size of a string literal, from the bytes of the string. -/
def quoteBound (s : String) : ℕ := (s.toByteArray.data.toList.map byteBound).sum + 2

theorem unitCount_quote (s : String) : unitCount (quoteChars s) ≤ quoteBound s := by
  have hbytes : s.toByteArray.data.toList = s.toList.flatMap String.utf8EncodeChar := by
    rw [← String.utf8Encode_toList, List.utf8Encode, List.data_toByteArray]
  have hescaped : ∀ l : List Char,
      unitCount (l.flatMap escapeChar) ≤ ((l.flatMap String.utf8EncodeChar).map byteBound).sum := by
    intro l
    induction l with
    | nil => exact Nat.zero_le _
    | cons c l ih =>
      have hc := escapeChar_bound c
      simp only [List.flatMap_cons, unitCount_append, List.map_append, List.sum_append]
      omega
  have h := hescaped s.toList
  have hquote : unitCount ['"'] = 1 := rfl
  rw [quoteBound, hbytes, quoteChars, unitCount_append, unitCount_cons, if_pos (by decide), hquote]
  omega

/-! ## Values -/

theorem unitCount_commaJoin (texts : List (List Char)) :
    unitCount (commaJoin texts) ≤ (texts.map fun text => 1 + unitCount text).sum := by
  induction texts with
  | nil => exact Nat.zero_le _
  | cons text rest ih =>
    cases rest with
    | nil => simp [commaJoin]
    | cons next rest =>
      rw [commaJoin, unitCount_append, unitCount_cons, if_pos (by decide), List.map_cons, List.sum_cons]
      omega

mutual
/-- The size of the text of a value, without the order of its keys. -/
def textBound (st : TextStyle) : Value → ℕ
  | .undefined => 2 * st.hole.length
  | .null | .bool true => 4
  | .bool false => 5
  | .number n => 2 * (numberChars n).length
  | .string s => quoteBound s
  | .array items => 2 + itemsBound st items
  | .object properties => 2 + entriesBound st properties
def itemsBound (st : TextStyle) : List Value → ℕ
  | [] => 0
  | v :: rest => 1 + textBound st v + itemsBound st rest
def entriesBound (st : TextStyle) : List (String × Value) → ℕ
  | [] => 0
  | (_, .undefined) :: rest => entriesBound st rest
  | (k, v) :: rest => 2 + quoteBound k + textBound st v + entriesBound st rest
end

theorem itemsBound_eq (st : TextStyle) (items : List Value) :
    itemsBound st items = (items.map fun v => 1 + textBound st v).sum := by
  induction items with
  | nil => rfl
  | cons v rest ih => rw [itemsBound, ih, List.map_cons, List.sum_cons]

theorem itemsBound_perm {st : TextStyle} {items items' : List Value} (h : items.Perm items') :
    itemsBound st items = itemsBound st items' := by
  rw [itemsBound_eq, itemsBound_eq]
  exact (h.map _).sum_nat

/-- The size of a property: its key, a colon and the text of its value. -/
theorem unitCount_entry (k : String) (text : List Char) :
    unitCount (entryChars (k, text)) ≤ 1 + quoteBound k + unitCount text := by
  have hquote := unitCount_quote k
  simp only [entryChars, unitCount_append, unitCount_cons]
  rw [if_pos (by decide)]
  omega

mutual
/-- **The size of a text is bounded** by the bytes of the strings of its value. -/
theorem textSize_le (st : TextStyle) : ∀ v : Value, unitCount (textWith st v) ≤ textBound st v
  | .undefined => unitCount_le st.hole
  | .null => show unitCount ['n', 'u', 'l', 'l'] ≤ 4 by decide
  | .bool true => show unitCount ['t', 'r', 'u', 'e'] ≤ 4 by decide
  | .bool false => show unitCount ['f', 'a', 'l', 's', 'e'] ≤ 5 by decide
  | .number n => unitCount_le (numberChars n)
  | .string s => unitCount_quote s
  | .array items => by
    have hitems := itemsSize_le st items
    have hjoin := unitCount_commaJoin (itemTexts st items)
    have hclose : unitCount [']'] = 1 := rfl
    rw [textWith, textBound, unitCount_cons, unitCount_append, if_pos (by decide), hclose]
    omega
  | .object properties => by
    have hentries := entriesSize_le st properties
    have hjoin := unitCount_commaJoin ((st.order (entryTexts st properties)).map entryChars)
    have hperm := ((st.order_perm (entryTexts st properties)).map fun p => 1 + unitCount (entryChars p)).sum_nat
    have hclose : unitCount ['}'] = 1 := rfl
    rw [List.map_map, Function.comp_def] at hjoin
    rw [textWith, textBound, unitCount_cons, unitCount_append, if_pos (by decide), hclose]
    omega
theorem itemsSize_le (st : TextStyle) :
    ∀ items : List Value, ((itemTexts st items).map fun text => 1 + unitCount text).sum ≤ itemsBound st items
  | [] => Nat.zero_le _
  | v :: rest => by
    have hv := textSize_le st v
    have hrest := itemsSize_le st rest
    rw [itemTexts, itemsBound, List.map_cons, List.sum_cons]
    omega
theorem entriesSize_le (st : TextStyle) : ∀ entries : List (String × Value),
    ((entryTexts st entries).map fun p => 1 + unitCount (entryChars p)).sum ≤ entriesBound st entries
  | [] => Nat.zero_le _
  | (k, v) :: rest => by
    have hv := textSize_le st v
    have hrest := entriesSize_le st rest
    have hentry := unitCount_entry k (textWith st v)
    cases v with
    | undefined =>
      rw [entryTexts, entriesBound]
      exact hrest
    | _ =>
      rw [entryTexts, entriesBound, List.map_cons, List.sum_cons] <;> first | omega | simp
end

end SecureSaas.Js
