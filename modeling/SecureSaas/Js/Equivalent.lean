import SecureSaas.Js.Runtime

/-!
# Values that differ in the order of keys

Two values are the same to a serialiser that sorts the keys of objects if arrays agree item by item and objects agree
key by key, where a property that holds `undefined` counts as absent.

* `mem_entryTexts_iff`: the texts of an object's properties, key by key.
* `Equivalent.of_text`: values with one text are equivalent, whatever the order of the properties is.
* `text_eq_iff`: **sorted texts are equal for equivalent values and for no others.**
-/

namespace SecureSaas.Js

/-! ## Values with one property for a key -/

mutual
/-- Every object in the value has one property for a key, as objects of the language do. -/
def UniqueKeys : Value → Prop
  | .array items => UniqueKeysItems items
  | .object properties => (properties.map Prod.fst).Nodup ∧ UniqueKeysEntries properties
  | _ => True
def UniqueKeysItems : List Value → Prop
  | [] => True
  | v :: rest => UniqueKeys v ∧ UniqueKeysItems rest
def UniqueKeysEntries : List (String × Value) → Prop
  | [] => True
  | (_, v) :: rest => UniqueKeys v ∧ UniqueKeysEntries rest
end

theorem uniqueKeysItems_iff : ∀ {items : List Value}, UniqueKeysItems items ↔ ∀ v ∈ items, UniqueKeys v := by
  intro items
  induction items with
  | nil => simp [UniqueKeysItems]
  | cons v rest ih => rw [UniqueKeysItems, List.forall_mem_cons, ih]

theorem uniqueKeysEntries_iff : ∀ {ps : List (String × Value)}, UniqueKeysEntries ps ↔ ∀ p ∈ ps, UniqueKeys p.2 := by
  intro ps
  induction ps with
  | nil => simp [UniqueKeysEntries]
  | cons p rest ih => rw [UniqueKeysEntries, List.forall_mem_cons, ih]

theorem isJsonItems_iff : ∀ {items : List Value}, isJsonItems items = true ↔ ∀ v ∈ items, isJson v = true := by
  intro items
  induction items with
  | nil => simp [isJsonItems]
  | cons v rest ih => rw [isJsonItems, Bool.and_eq_true, List.forall_mem_cons, ih]

theorem isJsonEntries_iff : ∀ {ps : List (String × Value)}, isJsonEntries ps = true ↔
    ∀ p ∈ ps, p.2 ≠ .undefined → isJson p.2 = true := by
  intro ps
  induction ps with
  | nil => simp [isJsonEntries]
  | cons p rest ih =>
    obtain ⟨k, v⟩ := p
    rw [List.forall_mem_cons]
    by_cases hv : v = .undefined
    · subst hv
      simp [isJsonEntries, ih]
    · rw [isJsonEntries.eq_3 _ _ _ hv, Bool.and_eq_true, ih]
      simp [hv]

/-! ## Equivalence -/

/-- The values agree up to the order of keys and up to properties that hold `undefined`. -/
inductive Equivalent : Value → Value → Prop
  | null : Equivalent .null .null
  | bool (b : Bool) : Equivalent (.bool b) (.bool b)
  | number (n : Number) : Equivalent (.number n) (.number n)
  | string (s : String) : Equivalent (.string s) (.string s)
  | array {items others : List Value} : items.length = others.length →
      (∀ (i : ℕ) (v w : Value), items[i]? = some v → others[i]? = some w → Equivalent v w) →
      Equivalent (.array items) (.array others)
  | object {properties others : List (String × Value)} :
      (∀ k, Value.get properties k = .undefined ↔ Value.get others k = .undefined) →
      (∀ k, Value.get properties k ≠ .undefined → Equivalent (Value.get properties k) (Value.get others k)) →
      Equivalent (.object properties) (.object others)

/-! ## Texts of properties -/

variable (st : TextStyle) {ps qs : List (String × Value)}

/-- A property that is there is the one that its key gives. -/
theorem mem_of_get {k : String} (h : Value.get ps k ≠ .undefined) : (k, Value.get ps k) ∈ ps := by
  induction ps with
  | nil => exact absurd rfl h
  | cons p rest ih =>
    obtain ⟨k', v⟩ := p
    rw [Value.get_cons] at h ⊢
    by_cases hk : k = k'
    · rw [if_pos hk, hk]
      exact List.mem_cons_self
    · rw [if_neg hk] at h ⊢
      exact List.mem_cons_of_mem _ (ih h)

/-- **The texts of an object's properties**: one for each key that gives something other than `undefined`. -/
theorem mem_entryTexts_iff (hkeys : (ps.map Prod.fst).Nodup) {k : String} {t : List Char} :
    (k, t) ∈ entryTexts st ps ↔ Value.get ps k ≠ .undefined ∧ t = textWith st (Value.get ps k) := by
  have hsource : ∀ {ps : List (String × Value)}, (k, t) ∈ entryTexts st ps →
      ∃ v, v ≠ .undefined ∧ (k, v) ∈ ps ∧ t = textWith st v := by
    intro ps
    induction ps with
    | nil => exact fun h => absurd h List.not_mem_nil
    | cons p rest ih =>
      obtain ⟨k', w⟩ := p
      intro h
      by_cases hw : w = .undefined
      · rw [hw, entryTexts] at h
        obtain ⟨v, hv, hmem, ht⟩ := ih h
        exact ⟨v, hv, List.mem_cons_of_mem _ hmem, ht⟩
      · rw [entryTexts.eq_3 _ _ _ _ hw] at h
        rcases List.mem_cons.1 h with heq | hrest
        · obtain ⟨rfl, rfl⟩ := Prod.mk.inj heq
          exact ⟨w, hw, List.mem_cons_self, rfl⟩
        · obtain ⟨v, hv, hmem, ht⟩ := ih hrest
          exact ⟨v, hv, List.mem_cons_of_mem _ hmem, ht⟩
  constructor
  · intro h
    obtain ⟨v, hv, hmem, ht⟩ := hsource h
    rw [Value.get_of_mem hkeys hmem]
    exact ⟨hv, ht⟩
  · rintro ⟨hdefined, rfl⟩
    exact entryText_mem st hdefined (mem_of_get hdefined)

theorem entryTexts_nodup (hkeys : (ps.map Prod.fst).Nodup) : ((entryTexts st ps).map Prod.fst).Nodup := by
  refine hkeys.sublist ?_
  clear hkeys
  induction ps with
  | nil => exact List.Sublist.slnil
  | cons p rest ih =>
    obtain ⟨k, v⟩ := p
    by_cases hv : v = .undefined
    · rw [hv, entryTexts]
      exact ih.cons _
    · rw [entryTexts.eq_3 _ _ _ _ hv]
      exact ih.cons_cons _

theorem itemTexts_get : ∀ {items : List Value} {i : ℕ}, (itemTexts st items)[i]? = (items[i]?).map (textWith st) := by
  intro items
  induction items with
  | nil => simp [itemTexts]
  | cons v rest ih =>
    intro i
    rw [itemTexts]
    cases i with
    | zero => rfl
    | succ i => simpa using ih

theorem itemTexts_length (items : List Value) : (itemTexts st items).length = items.length := by
  induction items with
  | nil => rfl
  | cons v rest ih => rw [itemTexts, List.length_cons, List.length_cons, ih]

/-! ## One text, one value -/

/-- A decimal point or an exponent is in no text of an integer. -/
theorem intChars_whole (n : ℤ) : ∀ c ∈ intChars n, c.isDigit = true ∨ c = '-' := by
  have hdigits : ∀ c ∈ Nat.toDigits 10 n.natAbs, c.isDigit = true := fun c hc =>
    Nat.isDigit_of_mem_toDigits (by decide) (by decide) hc
  intro c hc
  unfold intChars at hc
  by_cases hn : n < 0
  · rw [if_pos hn] at hc
    rcases List.mem_cons.1 hc with rfl | hc
    · exact Or.inr rfl
    · exact Or.inl (hdigits c hc)
  · rw [if_neg hn] at hc
    exact Or.inl (hdigits c hc)

/-- The text of an integer is none of a fraction. -/
theorem intChars_ne_fraction {n : ℤ} {text : String} (wf : isFractionText text = true) : intChars n ≠ text.toList := by
  intro h
  rw [isFractionText, Bool.and_eq_true, List.any_eq_true] at wf
  obtain ⟨-, c, hc, hpoint⟩ := wf
  rw [← h] at hc
  have hcases : c = '.' ∨ c = 'e' := by simpa using hpoint
  rcases intChars_whole n c hc with hdigit | rfl
  · rcases hcases with rfl | rfl <;> exact absurd hdigit (by decide)
  · rcases hcases with h | h <;> exact absurd h (by decide)

/-- **The text of a finite number determines it.** -/
theorem numberChars_inj {m n : Number} (hm : m.isFinite = true) (hn : n.isFinite = true)
    (h : numberChars m = numberChars n) : m = n := by
  cases m with
  | int m =>
    cases n with
    | int n => rw [intChars_inj h]
    | fraction text wf => exact absurd h (intChars_ne_fraction wf)
    | _ => simp [Number.isFinite] at hn
  | fraction text wf =>
    cases n with
    | int n => exact absurd h.symm (intChars_ne_fraction wf)
    | fraction other wf' =>
      obtain rfl : text = other := String.toList_injective h
      rfl
    | _ => simp [Number.isFinite] at hn
  | _ => simp [Number.isFinite] at hm

theorem isJson_defined {v : Value} (h : isJson v = true) : v ≠ .undefined := by
  rintro rfl
  simp [isJson] at h

theorem get_isJson (hp : isJsonEntries ps = true) {k : String} (h : Value.get ps k ≠ .undefined) :
    isJson (Value.get ps k) = true :=
  isJsonEntries_iff.1 hp _ (mem_of_get h) h

theorem get_uniqueKeys (hp : UniqueKeysEntries ps) {k : String} (h : Value.get ps k ≠ .undefined) :
    UniqueKeys (Value.get ps k) :=
  uniqueKeysEntries_iff.1 hp _ (mem_of_get h)

/-- What is equal or not is told by the kinds of the values. -/
theorem kindOf_text {v w : Value} (hv : isJson v = true) (hw : isJson w = true) (h : textWith st v = textWith st w) :
    kindOf v = kindOf w :=
  kindOf_eq st hv hw (congrArg (· ++ []) h)

/-- **Values with one text are equivalent.** By recursion over the first value. -/
theorem Equivalent.of_text : ∀ (v w : Value), isJson v = true → isJson w = true → UniqueKeys v → UniqueKeys w →
    textWith st v = textWith st w → Equivalent v w
  | .undefined, w, hv, _, _, _, _ => absurd rfl (isJson_defined hv)
  | .null, w, hv, hw, _, _, h => by
    have hk := kindOf_text st hv hw h
    cases w with
    | null => exact .null
    | bool b => cases b <;> simp [kindOf] at hk
    | undefined => exact absurd rfl (isJson_defined hw)
    | _ => simp [kindOf] at hk
  | .bool b, w, hv, hw, _, _, h => by
    have hk := kindOf_text st hv hw h
    cases w with
    | bool b' => cases b <;> cases b' <;> first | exact .bool _ | simp [kindOf] at hk
    | undefined => exact absurd rfl (isJson_defined hw)
    | _ => cases b <;> simp [kindOf] at hk
  | .number n, w, hv, hw, _, _, h => by
    have hk := kindOf_text st hv hw h
    cases w with
    | number m =>
      rw [textWith, textWith] at h
      rw [numberChars_inj (by simpa [isJson] using hv) (by simpa [isJson] using hw) h]
      exact .number m
    | bool b => cases b <;> simp [kindOf] at hk
    | undefined => exact absurd rfl (isJson_defined hw)
    | _ => simp [kindOf] at hk
  | .string s, w, hv, hw, _, _, h => by
    have hk := kindOf_text st hv hw h
    cases w with
    | string t =>
      rw [textWith, textWith] at h
      rw [quoteChars_injective h]
      exact .string t
    | bool b => cases b <;> simp [kindOf] at hk
    | undefined => exact absurd rfl (isJson_defined hw)
    | _ => simp [kindOf] at hk
  | .array items, w, hv, hw, hkv, hkw, h => by
    have hk := kindOf_text st hv hw h
    cases w with
    | array others =>
      simp only [isJson] at hv hw
      simp only [UniqueKeys] at hkv hkw
      have htexts := items_text_inj st hv hw h
      have hlength : items.length = others.length := by
        have := congrArg List.length htexts
        rwa [itemTexts_length, itemTexts_length] at this
      refine .array hlength fun i a b ha hb => ?_
      have htext : textWith st a = textWith st b := by
        have hi := congrArg (fun texts : List (List Char) => texts[i]?) htexts
        simp only [itemTexts_get, ha, hb, Option.map_some, Option.some.injEq] at hi
        exact hi
      have hmem : a ∈ items := List.mem_of_getElem? ha
      have hmem' : b ∈ others := List.mem_of_getElem? hb
      exact Equivalent.of_text a b (isJsonItems_iff.1 hv a hmem) (isJsonItems_iff.1 hw b hmem')
        (uniqueKeysItems_iff.1 hkv a hmem) (uniqueKeysItems_iff.1 hkw b hmem') htext
    | bool b => cases b <;> simp [kindOf] at hk
    | undefined => exact absurd rfl (isJson_defined hw)
    | _ => simp [kindOf] at hk
  | .object ps, w, hv, hw, hkv, hkw, h => by
    have hk := kindOf_text st hv hw h
    cases w with
    | object qs =>
      have hperm := object_text_inj st hv hw h
      simp only [isJson] at hv hw
      simp only [UniqueKeys] at hkv hkw
      -- a key that gives something gives the same text in both
      have hforth : ∀ k, Value.get ps k ≠ .undefined →
          Value.get qs k ≠ .undefined ∧ textWith st (Value.get ps k) = textWith st (Value.get qs k) := fun k hdefined =>
        (mem_entryTexts_iff st hkw.1).1 (hperm.mem_iff.1 ((mem_entryTexts_iff st hkv.1).2 ⟨hdefined, rfl⟩))
      have hback : ∀ k, Value.get qs k ≠ .undefined → Value.get ps k ≠ .undefined := fun k hdefined =>
        ((mem_entryTexts_iff st hkv.1).1 (hperm.mem_iff.2 ((mem_entryTexts_iff st hkw.1).2 ⟨hdefined, rfl⟩))).1
      refine .object (fun k => not_iff_not.1 ⟨fun hp => (hforth k hp).1, hback k⟩) fun k hdefined => ?_
      obtain ⟨hdefined', htext⟩ := hforth k hdefined
      have hsmaller : sizeOf (Value.get ps k) < sizeOf ps := by
        have hmem := List.sizeOf_lt_of_mem (mem_of_get hdefined)
        simp only [Prod.mk.sizeOf_spec] at hmem
        omega
      exact Equivalent.of_text (Value.get ps k) (Value.get qs k) (get_isJson hv hdefined) (get_isJson hw hdefined')
        (get_uniqueKeys hkv.2 hdefined) (get_uniqueKeys hkw.2 hdefined') htext
    | bool b => cases b <;> simp [kindOf] at hk
    | undefined => exact absurd rfl (isJson_defined hw)
    | _ => simp [kindOf] at hk
  termination_by v => sizeOf v
  decreasing_by
  · have := List.sizeOf_lt_of_mem hmem
    simp only [Value.array.sizeOf_spec]
    omega
  · simp only [Value.object.sizeOf_spec]
    omega

/-! ## Sorted texts -/

/-- The order of the rendered properties depends on them alone, and not on the order in which they were. -/
def TextStyle.Sorts : Prop :=
  ∀ entries others : List (String × List Char), entries.Perm others → (entries.map Prod.fst).Nodup →
    st.order entries = st.order others

variable {st}

/-- **Equivalent values have one text**, if the properties are sorted. -/
theorem Equivalent.text_eq (hst : st.Sorts) {v w : Value} (h : Equivalent v w) :
    UniqueKeys v → UniqueKeys w → textWith st v = textWith st w := by
  induction h with
  | null => exact fun _ _ => rfl
  | bool b => exact fun _ _ => rfl
  | number n => exact fun _ _ => rfl
  | string s => exact fun _ _ => rfl
  | @array items others hlength hitems ih =>
    intro hv hw
    simp only [UniqueKeys] at hv hw
    have htexts : itemTexts st items = itemTexts st others := by
      refine List.ext_getElem? fun i => ?_
      rw [itemTexts_get, itemTexts_get]
      cases ha : items[i]? with
      | none =>
        have hb : others[i]? = none := by
          rw [List.getElem?_eq_none_iff] at ha ⊢
          omega
        rw [hb]
      | some a =>
        obtain ⟨hi, -⟩ := List.getElem?_eq_some_iff.1 ha
        have hb : others[i]? = some (others[i]) := List.getElem?_eq_getElem (by omega)
        rw [hb, Option.map_some, Option.map_some, ih i a _ ha hb
          (uniqueKeysItems_iff.1 hv a (List.mem_of_getElem? ha)) (uniqueKeysItems_iff.1 hw _ (List.mem_of_getElem? hb))]
    rw [textWith, textWith, htexts]
  | @object ps qs hsame hentries ih =>
    intro hv hw
    simp only [UniqueKeys] at hv hw
    have hperm : (entryTexts st ps).Perm (entryTexts st qs) := by
      refine (List.perm_ext_iff_of_nodup (entryTexts_nodup st hv.1).of_map (entryTexts_nodup st hw.1).of_map).2 ?_
      rintro ⟨k, t⟩
      rw [mem_entryTexts_iff st hv.1, mem_entryTexts_iff st hw.1, ne_eq, ne_eq, hsame k]
      refine and_congr_right fun hdefined => ?_
      have hdefined' : Value.get ps k ≠ .undefined := fun heq => hdefined ((hsame k).1 heq)
      rw [ih k hdefined' (get_uniqueKeys hv.2 hdefined') (get_uniqueKeys hw.2 hdefined)]
    rw [textWith, textWith, hst _ _ hperm (entryTexts_nodup st hv.1)]

/-- **Sorted texts are equal for equivalent values and for no others.** -/
theorem text_eq_iff (hst : st.Sorts) {v w : Value} (hv : isJson v = true) (hw : isJson w = true)
    (hkv : UniqueKeys v) (hkw : UniqueKeys w) : textWith st v = textWith st w ↔ Equivalent v w :=
  ⟨Equivalent.of_text st v w hv hw hkv hkw, fun h => h.text_eq hst hkv hkw⟩

/-- `localeCompare` tells different texts apart. -/
def Runtime.Distinguishes (rt : Runtime) : Prop :=
  ∀ a b, rt.localeLE a b = true → rt.localeLE b a = true → a = b

/-- Sorting by such a collation forgets the order in which the properties were. -/
theorem Runtime.Distinguishes.sorts {rt : Runtime} (hrt : rt.Distinguishes) : rt.sortedStyle.Sorts := by
  intro entries others hperm hkeys
  have htotal : Std.Total fun p q : String × List Char => rt.localeLE p.1 q.1 = true :=
    ⟨fun p q => rt.localeLE_total p.1 q.1⟩
  have htrans : IsTrans (String × List Char) fun p q => rt.localeLE p.1 q.1 = true :=
    ⟨fun p q r => rt.localeLE_trans p.1 q.1 r.1⟩
  have hleft := rt.sortedStyle.order_perm entries
  have hright := (rt.sortedStyle.order_perm others).trans hperm.symm
  refine List.Perm.eq_of_pairwise (fun p q hp hq hpq hqp => ?_) (List.pairwise_insertionSort _ _)
    (List.pairwise_insertionSort _ _) (hleft.trans hright.symm)
  exact List.inj_on_of_nodup_map hkeys (hleft.mem_iff.1 hp) (hright.mem_iff.1 hq) (hrt p.1 q.1 hpq hqp)

end SecureSaas.Js
