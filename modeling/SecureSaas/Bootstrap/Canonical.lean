import SecureSaas.Bootstrap.Launcher
import Mathlib.Algebra.Order.BigOperators.Group.List
import Mathlib.Data.String.Basic

/-!
# Two canonical texts of one document

The finalization hashes a document as JavaScript sees it, the launcher what it has decoded from the file.
Both texts have the same skeleton and differ in their string literals: the launcher escapes U+2028 and
U+2029, and it has read a lone surrogate as U+FFFD.

* `canonicalChars_skeleton`, `canonicalJSON_skeleton`: both texts are instances of one skeleton.
* `count_skeleton`: a character outside of ASCII is in a text as often as in its string literals.
* `texts_agree_iff`: **the texts agree exactly if no string has one of these code points.**
-/

namespace SecureSaas.Bootstrap

open Js

/-! ## The skeleton -/

namespace Document

mutual
/-- The canonical text with its string literals left open. -/
def skeleton (quote : List UInt16 → List Char) : Document → List Char
  | .null => ['n', 'u', 'l', 'l']
  | .bool true => ['t', 'r', 'u', 'e']
  | .bool false => ['f', 'a', 'l', 's', 'e']
  | .number n => intChars n
  | .string s => quote s
  | .array items => '[' :: (commaJoin (skeletonItems quote items) ++ [']'])
  | .object members =>
    '{' :: (commaJoin (((skeletonEntries quote members).insertionSort fun p q => p.1 ≤ q.1).map entryChars) ++ ['}'])
def skeletonItems (quote : List UInt16 → List Char) : List Document → List (List Char)
  | [] => []
  | v :: rest => skeleton quote v :: skeletonItems quote rest
def skeletonEntries (quote : List UInt16 → List Char) : List (String × Document) → List (String × List Char)
  | [] => []
  | (k, v) :: rest => (k, skeleton quote v) :: skeletonEntries quote rest
end

theorem skeletonEntries_keys (quote : List UInt16 → List Char) (members : List (String × Document)) :
    (skeletonEntries quote members).map Prod.fst = members.map Prod.fst := by
  induction members with
  | nil => rfl
  | cons p rest ih => rw [skeletonEntries, List.map_cons, ih, List.map_cons]

end Document

/-! ## The order of keys -/

/-- `localeCompare` of texts of letters and digits: the letters decide without regard to their case if they
are not the same. -/
def Collates (rt : Runtime) : Prop :=
  ∀ a b : String, (∀ c ∈ a.toList, isAlnum c = true) → (∀ c ∈ b.toList, isAlnum c = true) →
    a.toList.map Char.toLower ≠ b.toList.map Char.toLower → rt.localeLE a b = lowerLE a b

variable {rt : Runtime}

theorem PlainKeys.localeLE_iff {keys : List String} (h : PlainKeys keys) (hrt : Collates rt) {k l : String}
    (hk : k ∈ keys) (hl : l ∈ keys) : rt.localeLE k l = true ↔ k ≤ l := by
  by_cases hsame : k.toList.map Char.toLower = l.toList.map Char.toLower
  · have hboth : k ≤ l ∧ l ≤ k := by
      rw [← h.ordered k hk l hl, ← h.ordered l hl k hk]
      simp [lowerLE, hsame]
    obtain rfl := le_antisymm hboth.1 hboth.2
    simpa using (rt.localeLE_total k k).elim id id
  · rw [hrt k l (h.alnum k hk) (h.alnum l hl) hsame, h.ordered k hk l hl]

/-- **Plain keys are sorted in one way**, by the collation and byte by byte. -/
theorem PlainKeys.sortByKey_eq {α : Type} {entries : List (String × α)} (h : PlainKeys (entries.map Prod.fst))
    (hrt : Collates rt) :
    rt.sortByKey Prod.fst (ownOrder entries) = entries.insertionSort fun p q => p.1 ≤ q.1 := by
  have htotal : Std.Total fun p q : String × α => rt.localeLE p.1 q.1 = true := ⟨fun p q => rt.localeLE_total p.1 q.1⟩
  have htrans : IsTrans (String × α) fun p q => rt.localeLE p.1 q.1 = true :=
    ⟨fun p q r => rt.localeLE_trans p.1 q.1 r.1⟩
  have htotal' : Std.Total fun p q : String × α => p.1 ≤ q.1 := ⟨fun p q => le_total p.1 q.1⟩
  have htrans' : IsTrans (String × α) fun p q => p.1 ≤ q.1 := ⟨fun _ _ _ => le_trans⟩
  have hleft : (rt.sortByKey Prod.fst (ownOrder entries)).Perm entries :=
    (rt.sortByKey_perm _ _).trans (ownOrder_perm entries)
  have hright := List.perm_insertionSort (fun p q : String × α => p.1 ≤ q.1) entries
  have hkeys : ∀ p ∈ entries, p.1 ∈ entries.map Prod.fst := fun p hp => List.mem_map.2 ⟨p, hp, rfl⟩
  have hsorted : (rt.sortByKey Prod.fst (ownOrder entries)).Pairwise fun p q => p.1 ≤ q.1 :=
    (List.pairwise_insertionSort _ _).imp_of_mem fun hp hq hle =>
      (h.localeLE_iff hrt (hkeys _ (hleft.mem_iff.1 hp)) (hkeys _ (hleft.mem_iff.1 hq))).1 hle
  refine List.Perm.eq_of_pairwise (fun p q hp hq hpq hqp => ?_) hsorted (List.pairwise_insertionSort _ _)
    (hleft.trans hright.symm)
  exact List.inj_on_of_nodup_map h.nodup (hleft.mem_iff.1 hp) (hright.mem_iff.1 hq) (le_antisymm hpq hqp)

/-! ## The text of the finalization -/

namespace Document

mutual
/-- **The text that is hashed has the skeleton.** -/
theorem canonicalChars_skeleton (hrt : Collates rt) : ∀ v : Document, Plain v →
    canonicalChars rt v = skeleton quoteUnits v
  | .null, _ => rfl
  | .bool true, _ => rfl
  | .bool false, _ => rfl
  | .number _, _ => rfl
  | .string _, _ => rfl
  | .array items, h => by rw [canonicalChars, skeleton, canonicalItems_skeleton hrt items h]
  | .object members, h => by
    have hkeys : PlainKeys ((skeletonEntries quoteUnits members).map Prod.fst) := by
      rw [skeletonEntries_keys]
      exact h.1
    rw [canonicalChars, skeleton, canonicalEntries_skeleton hrt members h.2, hkeys.sortByKey_eq hrt]
theorem canonicalItems_skeleton (hrt : Collates rt) : ∀ items : List Document, PlainItems items →
    canonicalItems rt items = skeletonItems quoteUnits items
  | [], _ => rfl
  | v :: rest, h => by
    rw [canonicalItems, skeletonItems, canonicalChars_skeleton hrt v h.1, canonicalItems_skeleton hrt rest h.2]
theorem canonicalEntries_skeleton (hrt : Collates rt) : ∀ members : List (String × Document), PlainEntries members →
    canonicalEntries rt members = skeletonEntries quoteUnits members
  | [], _ => rfl
  | (k, v) :: rest, h => by
    rw [canonicalEntries, skeletonEntries, canonicalChars_skeleton hrt v h.1, canonicalEntries_skeleton hrt rest h.2]
end

end Document

/-! ## The text of the launcher -/

/-- The literal that the launcher writes for a string of the document. -/
def quoteDecoded (s : List UInt16) : List Char := GoValue.encodeString (wellFormed s)

/-- Entries with different keys are sorted in one way. -/
theorem insertionSort_perm {α : Type} {entries others : List (String × α)} (hkeys : (entries.map Prod.fst).Nodup)
    (hperm : others.Perm entries) :
    (others.insertionSort fun p q => p.1 ≤ q.1) = entries.insertionSort fun p q => p.1 ≤ q.1 := by
  have htotal : Std.Total fun p q : String × α => p.1 ≤ q.1 := ⟨fun p q => le_total p.1 q.1⟩
  have htrans : IsTrans (String × α) fun p q => p.1 ≤ q.1 := ⟨fun _ _ _ => le_trans⟩
  have hleft := (List.perm_insertionSort (fun p q : String × α => p.1 ≤ q.1) others).trans hperm
  have hright := List.perm_insertionSort (fun p q : String × α => p.1 ≤ q.1) entries
  refine List.Perm.eq_of_pairwise (fun p q hp hq hpq hqp => ?_) (List.pairwise_insertionSort _ _)
    (List.pairwise_insertionSort _ _) (hleft.trans hright.symm)
  exact List.inj_on_of_nodup_map hkeys (hleft.mem_iff.1 hp) (hright.mem_iff.1 hq) (le_antisymm hpq hqp)

/-- The literal of a key of letters and digits. -/
theorem encodeString_key {k : String} (h : ∀ c ∈ k.toList, isAlnum c = true) : GoValue.encodeString k = quoteChars k := by
  have hchars : k.toList.flatMap GoValue.escapeRune = k.toList.flatMap escapeChar := by
    refine List.flatMap_congr fun c hc => ?_
    have := isAlnum_toNat (h c hc)
    rw [GoValue.escapeRune, if_neg (by omega), if_neg (by omega)]
  rw [GoValue.encodeString, quoteChars, hchars]
  rfl

namespace Document

theorem canonicalNumber_intChars {n : ℤ} (h : 0 ≤ n ∧ n ≤ maxSafeInteger) :
    GoValue.canonicalNumber (intChars n) = .ok (intChars n) := by
  have hchars : intChars n = Nat.toDigits 10 n.natAbs := by
    unfold intChars
    rw [if_neg (by omega)]
  have hdecimal : (intChars n).all isDecimal = true := by
    rw [hchars, List.all_eq_true]
    intro c hc
    rw [isDecimal_isDigit]
    exact Nat.isDigit_of_mem_toDigits (by decide) (by decide) hc
  have hvalue : ((Nat.ofDigitChars 10 (intChars n) 0 : ℕ) : ℤ) = n := by
    rw [hchars, Nat.ofDigitChars_toDigits (by decide) (by decide)]
    omega
  have hminimal : ((intChars n).isEmpty || (decide (1 < (intChars n).length) && (intChars n).head? == some '0')) = false := by
    rw [hchars]
    rcases Nat.eq_zero_or_pos n.natAbs with hzero | hpos
    · rw [hzero]
      decide
    · obtain ⟨c, cs, hcs, hhead, -⟩ := toDigits_head n.natAbs hpos
      rw [hcs]
      have hne : c ≠ '0' := by
        rintro rfl
        exact absurd hhead (by decide)
      simp [hne]
  unfold GoValue.canonicalNumber
  simp only [hminimal, hdecimal, hvalue, decide_eq_true h.2, throwUnless, Bool.not_false, if_true]
  rfl

theorem canonicalEntries_decoded {members : List (String × Document)}
    (h : ∀ p ∈ members, GoValue.canonicalJSON (decoded p.2) = .ok (skeleton quoteDecoded p.2)) :
    GoValue.canonicalEntries (members.map fun p => (p.1, decoded p.2)) =
      .ok (members.map fun p => (p.1, skeleton quoteDecoded p.2)) := by
  induction members with
  | nil => rfl
  | cons p rest ih =>
    obtain ⟨hp, hrest⟩ := List.forall_mem_cons.1 h
    rw [List.map_cons, GoValue.canonicalEntries, hp, ih hrest]
    rfl

theorem canonicalItems_decoded {items : List Document}
    (h : ∀ v ∈ items, GoValue.canonicalJSON (decoded v) = .ok (skeleton quoteDecoded v)) :
    GoValue.canonicalItems (decodedItems items) = .ok (skeletonItems quoteDecoded items) := by
  induction items with
  | nil => rfl
  | cons v rest ih =>
    obtain ⟨hv, hrest⟩ := List.forall_mem_cons.1 h
    rw [decodedItems, GoValue.canonicalItems, hv, ih hrest]
    rfl

theorem skeletonEntries_map (quote : List UInt16 → List Char) (members : List (String × Document)) :
    skeletonEntries quote members = members.map fun p => (p.1, skeleton quote p.2) := by
  induction members with
  | nil => rfl
  | cons p rest ih => rw [skeletonEntries, ih, List.map_cons]

/-- **The members of an object have the text of the object, in whatever order they were decoded.** -/
theorem canonicalJSON_object {members listed : List (String × Document)} (hkeys : PlainKeys (members.map Prod.fst))
    (hperm : listed.Perm members)
    (h : ∀ p ∈ members, GoValue.canonicalJSON (decoded p.2) = .ok (skeleton quoteDecoded p.2)) :
    GoValue.canonicalJSON (.object (listed.map fun p => (p.1, decoded p.2))) =
      .ok (skeleton quoteDecoded (.object members)) := by
  have hlisted := canonicalEntries_decoded fun p hp => h p (hperm.mem_iff.1 hp)
  have hsorted := @insertionSort_perm _ (members.map fun p => (p.1, skeleton quoteDecoded p.2))
    (listed.map fun p => (p.1, skeleton quoteDecoded p.2)) (by rw [List.map_map]; exact hkeys.nodup) (hperm.map _)
  have hentries : ∀ p ∈ (members.map fun p => (p.1, skeleton quoteDecoded p.2)).insertionSort fun p q => p.1 ≤ q.1,
      GoValue.encodeEntry p = entryChars p := by
    intro p hp
    rw [List.mem_insertionSort] at hp
    obtain ⟨q, hq, rfl⟩ := List.mem_map.1 hp
    rw [GoValue.encodeEntry, entryChars, encodeString_key (hkeys.alnum q.1 (List.mem_map.2 ⟨q, hq, rfl⟩))]
  rw [GoValue.canonicalJSON, hlisted, skeleton, skeletonEntries_map]
  simp only [Except.map, hsorted]
  rw [List.map_congr_left hentries]

mutual
/-- **The text of what is decoded has the skeleton.** -/
theorem canonicalJSON_skeleton : ∀ v : Document, Plain v →
    GoValue.canonicalJSON (decoded v) = .ok (skeleton quoteDecoded v)
  | .null, _ => rfl
  | .bool true, _ => rfl
  | .bool false, _ => rfl
  | .number _, h => canonicalNumber_intChars h
  | .string _, _ => rfl
  | .array items, h => by
    rw [decoded, GoValue.canonicalJSON, canonicalItems_decoded (canonicalJSON_items items h), skeleton]
    rfl
  | .object members, h => by
    rw [decoded, decodedEntries_map, ownOrder_map]
    exact canonicalJSON_object h.1 (ownOrder_perm members) (canonicalJSON_entries members h.2)
theorem canonicalJSON_items : ∀ items : List Document, PlainItems items →
    ∀ v ∈ items, GoValue.canonicalJSON (decoded v) = .ok (skeleton quoteDecoded v)
  | [], _ => fun _ h => absurd h List.not_mem_nil
  | v :: rest, h => List.forall_mem_cons.2 ⟨canonicalJSON_skeleton v h.1, canonicalJSON_items rest h.2⟩
theorem canonicalJSON_entries : ∀ members : List (String × Document), PlainEntries members →
    ∀ p ∈ members, GoValue.canonicalJSON (decoded p.2) = .ok (skeleton quoteDecoded p.2)
  | [], _ => fun _ h => absurd h List.not_mem_nil
  | (_, v) :: rest, h => List.forall_mem_cons.2 ⟨canonicalJSON_skeleton v h.1, canonicalJSON_entries rest h.2⟩
end

end Document

/-! ## Characters in a text -/

/-- Characters outside of ASCII are in string literals only. -/
def Foreign (x : Char) : Prop := 128 ≤ x.toNat

theorem Foreign.ne {x c : Char} (h : Foreign x) (hc : c.toNat < 128) : c ≠ x := by
  rintro rfl
  unfold Foreign at h
  omega

theorem ascii_of_all {cs : List Char} (h : (cs.all fun c => decide (c.toNat < 128)) = true) {c : Char} (hc : c ∈ cs) :
    c.toNat < 128 := forall_of_all h c hc

theorem count_ascii {x : Char} (hx : Foreign x) {cs : List Char} (h : ∀ c ∈ cs, c.toNat < 128) : cs.count x = 0 :=
  List.count_eq_zero.2 fun hmem => hx.ne (h x hmem) rfl

theorem count_commaJoin {x : Char} (hx : Foreign x) (texts : List (List Char)) :
    (commaJoin texts).count x = (texts.map (List.count x)).sum := by
  have hcomma : ',' ≠ x := hx.ne (by decide)
  induction texts with
  | nil => rfl
  | cons t texts ih =>
    cases texts with
    | nil => simp [commaJoin]
    | cons u texts =>
      rw [commaJoin, List.count_append, List.count_cons_of_ne hcomma, ih]
      rfl

theorem intChars_ascii (n : ℤ) : ∀ c ∈ intChars n, c.toNat < 128 := by
  intro c hc
  have hnumber := (intChars_spec n).2 c hc
  simp only [isNumberChar, Bool.or_eq_true, beq_iff_eq] at hnumber
  rcases hnumber with (((h | rfl) | rfl) | rfl) | rfl
  · have := isDecimal_toNat (isDecimal_isDigit.trans h)
    omega
  all_goals decide

theorem escapeChar_alnum {c : Char} (h : isAlnum c = true) : escapeChar c = [c] := by
  have hn := isAlnum_toNat h
  refine escapeChar_plain ?_ ?_ (by omega)
  · rintro rfl
    exact absurd h (by decide)
  · rintro rfl
    exact absurd h (by decide)

/-- The literal of a key has no foreign character. -/
theorem count_quoteChars {x : Char} (hx : Foreign x) {k : String} (h : ∀ c ∈ k.toList, isAlnum c = true) :
    (quoteChars k).count x = 0 := by
  refine count_ascii hx fun c hc => ?_
  unfold quoteChars at hc
  rcases List.mem_append.1 hc with hc | hc
  · rcases List.mem_cons.1 hc with rfl | hc
    · decide
    · obtain ⟨d, hd, hc⟩ := List.mem_flatMap.1 hc
      rw [escapeChar_alnum (h d hd), List.mem_singleton] at hc
      have := isAlnum_toNat (h d hd)
      rw [hc]
      omega
  · rw [List.mem_singleton.1 hc]
    decide

namespace Document

variable {x : Char} {quote : List UInt16 → List Char}

theorem count_object (hx : Foreign x) {members : List (String × Document)} (hkeys : PlainKeys (members.map Prod.fst)) :
    (skeleton quote (.object members)).count x = (members.map fun p => (skeleton quote p.2).count x).sum := by
  have hopen : '{' ≠ x := hx.ne (by decide)
  have hclose : ['}'].count x = 0 := count_ascii hx (forall_of_all (by decide))
  have hcolon : ':' ≠ x := hx.ne (by decide)
  rw [skeleton, List.count_cons_of_ne hopen, List.count_append, hclose, Nat.add_zero, count_commaJoin hx,
    List.map_map, ((List.perm_insertionSort _ _).map _).sum_eq, skeletonEntries_map, List.map_map]
  refine congrArg List.sum (List.map_congr_left fun p hp => ?_)
  show (entryChars (p.1, skeleton quote p.2)).count x = _
  rw [entryChars, List.count_append, List.count_cons_of_ne hcolon,
    count_quoteChars hx (hkeys.alnum p.1 (List.mem_map.2 ⟨p, hp, rfl⟩)), Nat.zero_add]

mutual
/-- **A foreign character is in a text as often as in its string literals.** -/
theorem count_skeleton (hx : Foreign x) : ∀ v : Document, Plain v →
    (skeleton quote v).count x = ((strings v).map fun s => (quote s).count x).sum
  | .null, _ => count_ascii hx (show ∀ c ∈ ['n', 'u', 'l', 'l'], c.toNat < 128 from forall_of_all (by decide))
  | .bool true, _ => count_ascii hx (show ∀ c ∈ ['t', 'r', 'u', 'e'], c.toNat < 128 from forall_of_all (by decide))
  | .bool false, _ => count_ascii hx (show ∀ c ∈ ['f', 'a', 'l', 's', 'e'], c.toNat < 128 from forall_of_all (by decide))
  | .number n, _ => count_ascii hx (intChars_ascii n)
  | .string s, _ => by simp [skeleton, strings]
  | .array items, h => by
    have hopen : '[' ≠ x := hx.ne (by decide)
    have hclose : [']'].count x = 0 := count_ascii hx (forall_of_all (by decide))
    rw [skeleton, List.count_cons_of_ne hopen, List.count_append, hclose, Nat.add_zero, count_commaJoin hx, strings]
    exact count_items hx items h
  | .object members, h => by
    rw [count_object hx h.1, strings]
    exact count_entries hx members h.2
theorem count_items (hx : Foreign x) : ∀ items : List Document, PlainItems items →
    ((skeletonItems quote items).map (List.count x)).sum =
      ((stringsItems items).map fun s => (quote s).count x).sum
  | [], _ => rfl
  | v :: rest, h => by
    rw [skeletonItems, stringsItems, List.map_cons, List.sum_cons, List.map_append, List.sum_append,
      count_skeleton hx v h.1, count_items hx rest h.2]
theorem count_entries (hx : Foreign x) : ∀ members : List (String × Document), PlainEntries members →
    (members.map fun p => (skeleton quote p.2).count x).sum =
      ((stringsEntries members).map fun s => (quote s).count x).sum
  | [], _ => rfl
  | (_, v) :: rest, h => by
    rw [stringsEntries, List.map_cons, List.sum_cons, List.map_append, List.sum_append, count_skeleton hx v h.1,
      count_entries hx rest h.2]
end

mutual
/-- Literals that agree on the strings of a document give it one text. -/
theorem skeleton_congr {other : List UInt16 → List Char} : ∀ v : Document, (∀ s ∈ strings v, quote s = other s) →
    skeleton quote v = skeleton other v
  | .null, _ => rfl
  | .bool true, _ => rfl
  | .bool false, _ => rfl
  | .number _, _ => rfl
  | .string s, h => h s (List.mem_singleton_self s)
  | .array items, h => by rw [skeleton, skeleton, skeletonItems_congr items h]
  | .object members, h => by rw [skeleton, skeleton, skeletonEntries_congr members h]
theorem skeletonItems_congr {other : List UInt16 → List Char} : ∀ items : List Document,
    (∀ s ∈ stringsItems items, quote s = other s) → skeletonItems quote items = skeletonItems other items
  | [], _ => rfl
  | v :: rest, h => by
    rw [stringsItems, List.forall_mem_append] at h
    rw [skeletonItems, skeletonItems, skeleton_congr v h.1, skeletonItems_congr rest h.2]
theorem skeletonEntries_congr {other : List UInt16 → List Char} : ∀ members : List (String × Document),
    (∀ s ∈ stringsEntries members, quote s = other s) → skeletonEntries quote members = skeletonEntries other members
  | [], _ => rfl
  | (_, v) :: rest, h => by
    rw [stringsEntries, List.forall_mem_append] at h
    rw [skeletonEntries, skeletonEntries, skeleton_congr v h.1, skeletonEntries_congr rest h.2]
end

end Document

/-! ## Literals -/

/-- The two literals of a code point agree: it is no surrogate, U+2028 or U+2029. -/
def CleanPoint (p : ℕ) : Prop := isSurrogate p = false ∧ p ≠ 0x2028 ∧ p ≠ 0x2029

/-- No lone surrogate, line separator or paragraph separator is in the string. -/
def Clean (s : List UInt16) : Prop := ∀ p ∈ codePoints s, CleanPoint p

theorem unitChar_point {p : ℕ} (h : isSurrogate p = false) : unitChar p = Char.ofNat p := by
  unfold isSurrogate at h
  unfold unitChar
  rw [if_neg]
  rintro ⟨h1, h2⟩
  simp [h1, h2] at h

theorem quote_cleanPoint {p : ℕ} (hp : p < 0x110000) (h : CleanPoint p) :
    quotePoint p = GoValue.escapeRune (unitChar p) := by
  obtain ⟨hs, hline, hparagraph⟩ := h
  rw [quotePoint, hs, unitChar_point hs, GoValue.escapeRune, toNat_ofNat_point hp hs, if_neg hline, if_neg hparagraph]
  rfl

theorem quoteDecoded_points (s : List UInt16) :
    quoteDecoded s = '"' :: ((codePoints s).flatMap (fun p => GoValue.escapeRune (unitChar p)) ++ ['"']) := by
  rw [quoteDecoded, GoValue.encodeString, wellFormed, String.toList_ofList, List.flatMap_map]

theorem quoteUnits_clean {s : List UInt16} (h : Clean s) : quoteUnits s = quoteDecoded s := by
  rw [quoteDecoded_points, quoteUnits]
  rw [List.flatMap_congr fun p hp => quote_cleanPoint (codePoints_lt s p hp) (h p hp)]

/-- The characters that are written for a character are of ASCII, or the character itself. -/
theorem mem_escapeChar {c d : Char} (h : d ∈ escapeChar c) : d.toNat < 128 ∨ d = c := by
  by_cases hplain : c ≠ '"' ∧ c ≠ '\\' ∧ 32 ≤ c.toNat
  · rw [escapeChar_plain hplain.1 hplain.2.1 hplain.2.2, List.mem_singleton] at h
    exact Or.inr h
  · left
    have hhex : ∀ n < 16, (Nat.digitChar n).toNat < 128 := by decide
    unfold escapeChar at h
    split_ifs at h with h1 h2 h3 h4 h5 h6 h7 h8
    · exact ascii_of_all (by decide) h
    · exact ascii_of_all (by decide) h
    · exact ascii_of_all (by decide) h
    · exact ascii_of_all (by decide) h
    · exact ascii_of_all (by decide) h
    · exact ascii_of_all (by decide) h
    · exact ascii_of_all (by decide) h
    · simp only [List.mem_cons, List.not_mem_nil, or_false] at h
      rcases h with rfl | rfl | rfl | rfl | rfl | rfl
      · decide
      · decide
      · decide
      · decide
      · exact hhex _ (by omega)
      · exact hhex _ (by omega)
    · exact absurd ⟨h1, h2, by omega⟩ hplain

theorem mem_quotePoint {p : ℕ} {d : Char} (h : d ∈ quotePoint p) :
    d.toNat < 128 ∨ (isSurrogate p = false ∧ d = Char.ofNat p) := by
  unfold quotePoint at h
  split at h
  · have hhex : ∀ n < 16, (Nat.digitChar n).toNat < 128 := by decide
    left
    simp only [List.mem_cons, List.not_mem_nil, or_false] at h
    rcases h with rfl | rfl | rfl | rfl | rfl | rfl
    · decide
    · decide
    · decide
    · exact hhex _ (by omega)
    · exact hhex _ (by omega)
    · exact hhex _ (by omega)
  · rename_i hs
    rcases mem_escapeChar h with h | rfl
    · exact Or.inl h
    · exact Or.inr ⟨by simpa using hs, rfl⟩

/-- The launcher writes no line or paragraph separator. -/
theorem mem_escapeRune {c d : Char} (h : d ∈ GoValue.escapeRune c) : d.toNat ≠ 0x2028 ∧ d.toNat ≠ 0x2029 := by
  unfold GoValue.escapeRune at h
  split_ifs at h with h1 h2
  · have hascii := ascii_of_all (by decide) h
    omega
  · have hascii := ascii_of_all (by decide) h
    omega
  · rcases mem_escapeChar h with h | rfl
    · omega
    · exact ⟨h1, h2⟩

theorem escapeChar_foreign {c : Char} (h : Foreign c) : escapeChar c = [c] := by
  unfold Foreign at h
  refine escapeChar_plain ?_ ?_ (by omega)
  · rintro rfl
    exact absurd h (by decide)
  · rintro rfl
    exact absurd h (by decide)

/-- The character that a lone surrogate is read as. -/
def replacementChar : Char := Char.ofNat 0xfffd

theorem replacementChar_foreign : Foreign replacementChar := by
  unfold Foreign
  decide

/-- U+FFFD is written for a code point by the launcher at least as often as by the finalization, and more
often for a surrogate. -/
theorem count_point {p : ℕ} (hp : p < 0x110000) :
    (quotePoint p).count replacementChar ≤ (GoValue.escapeRune (unitChar p)).count replacementChar ∧
      (isSurrogate p = true →
        (quotePoint p).count replacementChar < (GoValue.escapeRune (unitChar p)).count replacementChar) := by
  by_cases hs : isSurrogate p = true
  · have hnone : (quotePoint p).count replacementChar = 0 := by
      refine List.count_eq_zero.2 fun hmem => ?_
      rcases mem_quotePoint hmem with h | ⟨h, -⟩
      · exact absurd h (by decide)
      · rw [hs] at h
        cases h
    have hunit : unitChar p = replacementChar := by
      unfold isSurrogate at hs
      rw [Bool.and_eq_true, decide_eq_true_eq, decide_eq_true_eq] at hs
      exact if_pos hs
    have hone : (GoValue.escapeRune (unitChar p)).count replacementChar = 1 := by
      rw [hunit]
      decide
    omega
  · have hs' : isSurrogate p = false := by simpa using hs
    refine ⟨?_, fun h => absurd h hs⟩
    by_cases hclean : CleanPoint p
    · rw [quote_cleanPoint hp hclean]
    · -- a separator, which is not U+FFFD
      have hseparator : p = 0x2028 ∨ p = 0x2029 := by
        by_contra hne
        exact hclean ⟨hs', by omega, by omega⟩
      have hnone : (quotePoint p).count replacementChar = 0 := by
        rcases hseparator with rfl | rfl <;> decide
      omega

theorem count_literals {x : Char} (hx : Foreign x) (s : List UInt16) :
    (quoteUnits s).count x = ((codePoints s).map fun p => (quotePoint p).count x).sum ∧
      (quoteDecoded s).count x = ((codePoints s).map fun p => (GoValue.escapeRune (unitChar p)).count x).sum := by
  have hquote : '"' ≠ x := hx.ne (by decide)
  rw [quoteDecoded_points, quoteUnits]
  simp only [List.count_cons_of_ne hquote, List.count_append, List.count_nil, Nat.add_zero, List.count_flatMap]
  exact ⟨rfl, rfl⟩

/-- **The launcher's literal has more of U+FFFD exactly if a surrogate stands alone.** -/
theorem count_replacement (s : List UInt16) :
    (quoteUnits s).count replacementChar ≤ (quoteDecoded s).count replacementChar ∧
      ((∃ p ∈ codePoints s, isSurrogate p = true) →
        (quoteUnits s).count replacementChar < (quoteDecoded s).count replacementChar) := by
  obtain ⟨hunits, hdecoded⟩ := count_literals replacementChar_foreign s
  rw [hunits, hdecoded]
  have hle : ∀ p ∈ codePoints s, (quotePoint p).count replacementChar ≤
      (GoValue.escapeRune (unitChar p)).count replacementChar := fun p hp => (count_point (codePoints_lt s p hp)).1
  refine ⟨List.sum_le_sum hle, ?_⟩
  rintro ⟨p, hp, hs⟩
  exact List.sum_lt_sum _ _ hle ⟨p, hp, (count_point (codePoints_lt s p hp)).2 hs⟩

/-! ## When the texts agree -/

namespace Document

variable {v : Document}

/-- A character that the launcher does not write is in none of the strings. -/
theorem not_mem_of_agree (hv : Plain v) (h : skeleton quoteUnits v = skeleton quoteDecoded v) {x : Char}
    (hx : Foreign x) (hnone : ∀ s, x ∉ quoteDecoded s) : ∀ s ∈ strings v, x ∉ quoteUnits s := by
  intro s hs hmem
  have hcount := congrArg (List.count x) h
  rw [count_skeleton hx v hv, count_skeleton hx v hv] at hcount
  have hzero : ((strings v).map fun s => (quoteDecoded s).count x).sum = 0 := by
    refine List.sum_eq_zero fun n hn => ?_
    obtain ⟨t, -, rfl⟩ := List.mem_map.1 hn
    exact List.count_eq_zero.2 (hnone t)
  have hle := List.single_le_sum (fun _ _ => Nat.zero_le _) _ (List.mem_map.2 ⟨s, hs, rfl⟩ :
    (quoteUnits s).count x ∈ (strings v).map fun s => (quoteUnits s).count x)
  have hpos := List.count_pos_iff.2 hmem
  omega

theorem no_separator {x : Char} (hx : x.toNat = 0x2028 ∨ x.toNat = 0x2029) (s : List UInt16) : x ∉ quoteDecoded s := by
  rw [quoteDecoded_points]
  intro hmem
  have hascii : ∀ c ∈ ['"'], c.toNat ≠ 0x2028 ∧ c.toNat ≠ 0x2029 := forall_of_all (by decide)
  have hseparator : ¬ (x.toNat ≠ 0x2028 ∧ x.toNat ≠ 0x2029) := by omega
  rcases List.mem_cons.1 hmem with heq | hmem
  · exact hseparator (hascii x (List.mem_singleton.2 heq))
  rcases List.mem_append.1 hmem with hmem | hmem
  · obtain ⟨p, -, hp⟩ := List.mem_flatMap.1 hmem
    exact hseparator (mem_escapeRune hp)
  · exact hseparator (hascii x hmem)

theorem mem_quoteUnits {p : ℕ} {s : List UInt16} (hp : p ∈ codePoints s) (hs : isSurrogate p = false)
    (hforeign : 128 ≤ p) : Char.ofNat p ∈ quoteUnits s := by
  have hnat := toNat_ofNat_point (codePoints_lt s p hp) hs
  have hchar : quotePoint p = [Char.ofNat p] := by
    rw [quotePoint, hs]
    exact escapeChar_foreign (by unfold Foreign; omega)
  refine List.mem_cons_of_mem _ (List.mem_append_left _ (List.mem_flatMap.2 ⟨p, hp, ?_⟩))
  rw [hchar]
  exact List.mem_singleton_self _

/-- **The texts agree exactly if no string has a lone surrogate or a separator.** -/
theorem texts_agree_iff (hv : Plain v) :
    skeleton quoteUnits v = skeleton quoteDecoded v ↔ ∀ s ∈ strings v, Clean s := by
  constructor
  · intro h s hs p hp
    have hline := not_mem_of_agree hv h (show 128 ≤ (Char.ofNat 0x2028).toNat by decide)
      (no_separator (Or.inl (by decide))) s hs
    have hparagraph := not_mem_of_agree hv h (show 128 ≤ (Char.ofNat 0x2029).toNat by decide)
      (no_separator (Or.inr (by decide))) s hs
    -- the launcher writes U+FFFD for every surrogate, on top of those that are there
    have hsurrogate : isSurrogate p = false := by
      by_contra hbad
      have hcount := congrArg (List.count replacementChar) h
      rw [count_skeleton replacementChar_foreign v hv, count_skeleton replacementChar_foreign v hv] at hcount
      have hlt := List.sum_lt_sum (fun s => (quoteUnits s).count replacementChar)
        (fun s => (quoteDecoded s).count replacementChar) (fun s (_ : s ∈ strings v) => (count_replacement s).1)
        ⟨s, hs, (count_replacement s).2 ⟨p, hp, by simpa using hbad⟩⟩
      omega
    refine ⟨hsurrogate, ?_, ?_⟩
    · rintro rfl
      exact hline (mem_quoteUnits hp hsurrogate (by omega))
    · rintro rfl
      exact hparagraph (mem_quoteUnits hp hsurrogate (by omega))
  · intro h
    exact skeleton_congr v fun s hs => quoteUnits_clean (h s hs)

end Document

end SecureSaas.Bootstrap
