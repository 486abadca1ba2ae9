import SecureSaas.Js.Value

/-!
# Regular expressions by their remainders

A pattern maps an input to the inputs that are left after each way of matching at its
start. The combinators follow the syntax of a regular expression one by one, so that
a definition can be read against the expression it stands for.

* `mem_seq`, `mem_cls`, `mem_lit`, `mem_many`, `mem_upTo`: what each combinator leaves.
* `fullMatch_iff`: an anchored test.
* `Avoids.fullMatch`: a text that is matched has none of the characters that the pattern avoids.
-/

namespace SecureSaas.Js

/-- The inputs left after each match at the start of the input. -/
abbrev Pattern := List Char → List (List Char)

namespace Pattern

/-- A character class. -/
def cls (p : Char → Bool) : Pattern
  | [] => []
  | c :: cs => if p c then [cs] else []

/-- A literal text. -/
def lit (s : String) : Pattern := fun cs =>
  if s.toList.isPrefixOf cs then [cs.drop s.toList.length] else []

/-- Juxtaposition. -/
def seq (a b : Pattern) : Pattern := fun cs => (a cs).flatMap b

/-- `a|b`. -/
def alt (a b : Pattern) : Pattern := fun cs => a cs ++ b cs

/-- `t|u|…` for literal texts. -/
def anyOf (texts : List String) : Pattern := fun cs => texts.flatMap fun t => lit t cs

/-- `a?`. -/
def opt (a : Pattern) : Pattern := fun cs => a cs ++ [cs]

/-- `[p]*`. -/
def many (p : Char → Bool) : Pattern
  | [] => [[]]
  | c :: cs => if p c then many p cs ++ [c :: cs] else [c :: cs]

/-- `[p]+`. -/
def many1 (p : Char → Bool) : Pattern := seq (cls p) (many p)

/-- `[p]{0,n}`. -/
def upTo (p : Char → Bool) : ℕ → Pattern
  | 0, cs => [cs]
  | _ + 1, [] => [[]]
  | n + 1, c :: cs => if p c then upTo p n cs ++ [c :: cs] else [c :: cs]

/-- `[p]{n}`. -/
def exactly (p : Char → Bool) : ℕ → Pattern
  | 0, cs => [cs]
  | n + 1, cs => seq (cls p) (exactly p n) cs

/-- `(?:a){0,n}`. -/
def times (a : Pattern) : ℕ → Pattern
  | 0, cs => [cs]
  | n + 1, cs => (a cs).flatMap (times a n) ++ [cs]

/-- `(?:a)*` for an `a` that takes a character at least. -/
def group (a : Pattern) : Pattern := fun cs => times a cs.length cs

/-- A literal text under the `i` flag: ASCII letters match in either case. -/
def litI (s : String) : Pattern := fun cs =>
  if (s.toList.map Char.toLower).isPrefixOf (cs.map Char.toLower) then
    [cs.drop s.toList.length] else []

/-- `/^…$/.test(s)`. -/
def fullMatch (a : Pattern) (s : String) : Bool := (a s.toList).any List.isEmpty

/-- `/…/` finds a match from some position on. -/
def searchFrom (a : Pattern) : List Char → Bool
  | [] => !(a []).isEmpty
  | c :: cs => !(a (c :: cs)).isEmpty || searchFrom a cs

/-- `/…/.test(s)` without anchors. -/
def search (a : Pattern) (s : String) : Bool := searchFrom a s.toList

/-! ## What the combinators leave -/

variable {a b : Pattern} {p : Char → Bool} {cs r : List Char}

theorem mem_cls : r ∈ cls p cs ↔ ∃ c, p c = true ∧ cs = c :: r := by
  cases cs with
  | nil => simp [cls]
  | cons d ds =>
    simp only [cls]
    split
    · rename_i hd
      constructor
      · intro h; rw [List.mem_singleton] at h; subst h; exact ⟨d, hd, rfl⟩
      · rintro ⟨c, -, h⟩; cases h; exact List.mem_singleton.2 rfl
    · rename_i hd
      constructor
      · intro h; simp at h
      · rintro ⟨c, hc, h⟩; cases h; exact absurd hc hd

theorem mem_lit {s : String} : r ∈ lit s cs ↔ cs = s.toList ++ r := by
  unfold lit
  split
  · rename_i h
    obtain ⟨t, rfl⟩ := List.isPrefixOf_iff_prefix.1 h
    rw [List.drop_left, List.mem_singleton, List.append_cancel_left_eq]
    exact eq_comm
  · rename_i h
    constructor
    · intro hr; simp at hr
    · rintro rfl; exact absurd (List.isPrefixOf_iff_prefix.2 (List.prefix_append _ _)) h

theorem mem_seq : r ∈ seq a b cs ↔ ∃ m ∈ a cs, r ∈ b m := by
  unfold seq; exact List.mem_flatMap

theorem mem_alt : r ∈ alt a b cs ↔ r ∈ a cs ∨ r ∈ b cs := by
  unfold alt; exact List.mem_append

theorem mem_anyOf {texts : List String} : r ∈ anyOf texts cs ↔ ∃ t ∈ texts, cs = t.toList ++ r := by
  simp [anyOf, mem_lit]

theorem mem_opt : r ∈ opt a cs ↔ r ∈ a cs ∨ r = cs := by
  unfold opt; rw [List.mem_append, List.mem_singleton]

theorem mem_many : r ∈ many p cs ↔ ∃ w, (∀ c ∈ w, p c = true) ∧ cs = w ++ r := by
  induction cs with
  | nil =>
    constructor
    · intro h; simp only [many, List.mem_singleton] at h; subst h; exact ⟨[], by simp, rfl⟩
    · rintro ⟨w, -, h⟩
      obtain ⟨-, rfl⟩ := List.append_eq_nil_iff.1 h.symm
      simp [many]
  | cons d ds ih =>
    unfold many
    constructor
    · intro h
      split at h
      · rename_i hd
        rcases List.mem_append.1 h with h | h
        · obtain ⟨w, hw, rfl⟩ := ih.1 h
          exact ⟨d :: w, List.forall_mem_cons.2 ⟨hd, hw⟩, rfl⟩
        · exact ⟨[], by simp, (List.mem_singleton.1 h).symm⟩
      · exact ⟨[], by simp, (List.mem_singleton.1 h).symm⟩
    · rintro ⟨w, hw, h⟩
      cases w with
      | nil =>
        have hr : r = d :: ds := h.symm
        split <;> simp [hr]
      | cons e w =>
        obtain ⟨rfl, rfl⟩ := List.cons_eq_cons.1 h
        rw [if_pos (hw d List.mem_cons_self)]
        exact List.mem_append_left _ (ih.2 ⟨w, fun c hc => hw c (List.mem_cons_of_mem _ hc), rfl⟩)

theorem mem_many1 :
    r ∈ many1 p cs ↔ ∃ w, w ≠ [] ∧ (∀ c ∈ w, p c = true) ∧ cs = w ++ r := by
  unfold many1
  rw [mem_seq]
  constructor
  · rintro ⟨m, hm, hr⟩
    obtain ⟨c, hc, rfl⟩ := mem_cls.1 hm
    obtain ⟨w, hw, rfl⟩ := mem_many.1 hr
    exact ⟨c :: w, by simp, List.forall_mem_cons.2 ⟨hc, hw⟩, rfl⟩
  · rintro ⟨w, hne, hw, rfl⟩
    cases w with
    | nil => exact absurd rfl hne
    | cons c w =>
      exact ⟨w ++ r, mem_cls.2 ⟨c, hw c List.mem_cons_self, rfl⟩,
        mem_many.2 ⟨w, fun d hd => hw d (List.mem_cons_of_mem _ hd), rfl⟩⟩

theorem mem_upTo {n : ℕ} :
    r ∈ upTo p n cs ↔ ∃ w, w.length ≤ n ∧ (∀ c ∈ w, p c = true) ∧ cs = w ++ r := by
  induction n generalizing cs with
  | zero =>
    simp only [upTo, List.mem_singleton, Nat.le_zero, List.length_eq_zero_iff]
    constructor
    · rintro rfl; exact ⟨[], rfl, by simp, rfl⟩
    · rintro ⟨w, rfl, -, rfl⟩; rfl
  | succ n ih =>
    cases cs with
    | nil =>
      constructor
      · intro h; simp only [upTo, List.mem_singleton] at h; subst h
        exact ⟨[], by simp, by simp, rfl⟩
      · rintro ⟨w, -, -, h⟩
        obtain ⟨-, rfl⟩ := List.append_eq_nil_iff.1 h.symm
        simp [upTo]
    | cons d ds =>
      unfold upTo
      constructor
      · intro h
        split at h
        · rename_i hd
          rcases List.mem_append.1 h with h | h
          · obtain ⟨w, hl, hw, rfl⟩ := ih.1 h
            exact ⟨d :: w, by simpa using hl, List.forall_mem_cons.2 ⟨hd, hw⟩, rfl⟩
          · exact ⟨[], by simp, by simp, (List.mem_singleton.1 h).symm⟩
        · exact ⟨[], by simp, by simp, (List.mem_singleton.1 h).symm⟩
      · rintro ⟨w, hl, hw, h⟩
        cases w with
        | nil =>
          have hr : r = d :: ds := h.symm
          split <;> simp [hr]
        | cons e w =>
          obtain ⟨rfl, rfl⟩ := List.cons_eq_cons.1 h
          rw [if_pos (hw d List.mem_cons_self)]
          exact List.mem_append_left _ (ih.2 ⟨w, by simpa using hl,
            fun c hc => hw c (List.mem_cons_of_mem _ hc), rfl⟩)

theorem mem_exactly {n : ℕ} :
    r ∈ exactly p n cs ↔ ∃ w, w.length = n ∧ (∀ c ∈ w, p c = true) ∧ cs = w ++ r := by
  induction n generalizing cs with
  | zero =>
    simp only [exactly, List.mem_singleton, List.length_eq_zero_iff]
    constructor
    · rintro rfl; exact ⟨[], rfl, by simp, rfl⟩
    · rintro ⟨w, rfl, -, rfl⟩; rfl
  | succ n ih =>
    simp only [exactly, mem_seq]
    constructor
    · rintro ⟨m, hm, hr⟩
      obtain ⟨c, hc, rfl⟩ := mem_cls.1 hm
      obtain ⟨w, hl, hw, rfl⟩ := ih.1 hr
      exact ⟨c :: w, by simp [hl], List.forall_mem_cons.2 ⟨hc, hw⟩, rfl⟩
    · rintro ⟨w, hl, hw, rfl⟩
      cases w with
      | nil => simp at hl
      | cons c w =>
        exact ⟨w ++ r, mem_cls.2 ⟨c, hw c List.mem_cons_self, rfl⟩,
          ih.2 ⟨w, by simpa using hl, fun d hd => hw d (List.mem_cons_of_mem _ hd), rfl⟩⟩

/-! ## Longer inputs -/

/-- A match of the input is a match of every longer one. -/
def Extends (a : Pattern) : Prop := ∀ ⦃cs r : List Char⦄ (t : List Char), r ∈ a cs → r ++ t ∈ a (cs ++ t)

theorem Extends.cls : Extends (cls p) := by
  intro cs r t h
  obtain ⟨c, hc, rfl⟩ := mem_cls.1 h
  exact mem_cls.2 ⟨c, hc, rfl⟩

theorem Extends.lit {s : String} : Extends (lit s) := by
  intro cs r t h
  rw [mem_lit] at h ⊢
  rw [h, List.append_assoc]

theorem Extends.many : Extends (many p) := by
  intro cs r t h
  obtain ⟨w, hw, rfl⟩ := mem_many.1 h
  exact mem_many.2 ⟨w, hw, List.append_assoc w r t⟩

theorem Extends.seq (ha : Extends a) (hb : Extends b) : Extends (seq a b) := by
  intro cs r t h
  obtain ⟨m, hm, hr⟩ := mem_seq.1 h
  exact mem_seq.2 ⟨m ++ t, ha t hm, hb t hr⟩

theorem Extends.alt (ha : Extends a) (hb : Extends b) : Extends (alt a b) := by
  intro cs r t h
  rcases mem_alt.1 h with h | h
  · exact mem_alt.2 (Or.inl (ha t h))
  · exact mem_alt.2 (Or.inr (hb t h))

theorem times_mono {n m : ℕ} (hnm : n ≤ m) : r ∈ times a n cs → r ∈ times a m cs := by
  induction n generalizing m cs with
  | zero =>
    intro h
    obtain rfl := List.mem_singleton.1 h
    cases m <;> simp [times]
  | succ n ih =>
    intro h
    obtain ⟨m, rfl⟩ : ∃ k, m = k + 1 := ⟨m - 1, by omega⟩
    unfold times at h ⊢
    rcases List.mem_append.1 h with h | h
    · obtain ⟨k, hk, hr⟩ := List.mem_flatMap.1 h
      exact List.mem_append_left _ (List.mem_flatMap.2 ⟨k, hk, ih (by omega) hr⟩)
    · exact List.mem_append_right _ h

theorem Extends.times (ha : Extends a) (n : ℕ) : Extends (times a n) := by
  induction n with
  | zero =>
    intro cs r t h
    obtain rfl := List.mem_singleton.1 h
    exact List.mem_singleton_self _
  | succ n ih =>
    intro cs r t h
    unfold Pattern.times at h ⊢
    rcases List.mem_append.1 h with h | h
    · obtain ⟨k, hk, hr⟩ := List.mem_flatMap.1 h
      exact List.mem_append_left _ (List.mem_flatMap.2 ⟨k ++ t, ha t hk, ih t hr⟩)
    · obtain rfl := List.mem_singleton.1 h
      exact List.mem_append_right _ (List.mem_singleton_self _)

theorem Extends.group (ha : Extends a) : Extends (group a) := by
  intro cs r t h
  refine times_mono ?_ (ha.times cs.length t h)
  rw [List.length_append]
  omega

theorem fullMatch_iff {s : String} : fullMatch a s = true ↔ [] ∈ a s.toList := by
  unfold fullMatch
  rw [List.any_eq_true]
  constructor
  · rintro ⟨r, hr, he⟩; rw [List.isEmpty_iff] at he; exact he ▸ hr
  · intro h; exact ⟨[], h, rfl⟩

/-! ## Characters that a pattern never takes -/

/-- No match takes the character. -/
def Avoids (x : Char) (a : Pattern) : Prop := ∀ ⦃cs r : List Char⦄, r ∈ a cs → ∃ w, x ∉ w ∧ cs = w ++ r

variable {x : Char}

theorem Avoids.cls (h : p x = false) : Avoids x (cls p) := by
  intro cs r hr
  obtain ⟨c, hc, rfl⟩ := mem_cls.1 hr
  refine ⟨[c], ?_, rfl⟩
  rw [List.mem_singleton]
  rintro rfl
  rw [h] at hc
  exact Bool.false_ne_true hc

theorem Avoids.lit {s : String} (h : x ∉ s.toList) : Avoids x (lit s) := fun _ _ hr => ⟨s.toList, h, mem_lit.1 hr⟩

theorem Avoids.many (h : p x = false) : Avoids x (many p) := by
  intro cs r hr
  obtain ⟨w, hw, rfl⟩ := mem_many.1 hr
  refine ⟨w, fun hx => ?_, rfl⟩
  rw [hw x hx] at h
  exact Bool.false_ne_true h.symm

theorem Avoids.seq (ha : Avoids x a) (hb : Avoids x b) : Avoids x (seq a b) := by
  intro cs r hr
  obtain ⟨m, hm, hrest⟩ := mem_seq.1 hr
  obtain ⟨v, hv, rfl⟩ := ha hm
  obtain ⟨w, hw, rfl⟩ := hb hrest
  refine ⟨v ++ w, fun hx => ?_, (List.append_assoc v w r).symm⟩
  exact (List.mem_append.1 hx).elim hv hw

theorem Avoids.many1 (h : p x = false) : Avoids x (many1 p) := (Avoids.cls h).seq (Avoids.many h)

theorem Avoids.alt (ha : Avoids x a) (hb : Avoids x b) : Avoids x (alt a b) := by
  intro cs r hr
  rcases mem_alt.1 hr with h | h
  · exact ha h
  · exact hb h

theorem Avoids.opt (ha : Avoids x a) : Avoids x (opt a) := by
  intro cs r hr
  rcases mem_opt.1 hr with h | rfl
  · exact ha h
  · exact ⟨[], List.not_mem_nil, rfl⟩

theorem Avoids.group (ha : Avoids x a) : Avoids x (group a) := by
  have htimes : ∀ n, Avoids x (times a n) := by
    intro n
    induction n with
    | zero =>
      intro cs r hr
      obtain rfl := List.mem_singleton.1 hr
      exact ⟨[], List.not_mem_nil, rfl⟩
    | succ n ih =>
      intro cs r hr
      unfold times at hr
      rcases List.mem_append.1 hr with h | h
      · exact ha.seq ih h
      · obtain rfl := List.mem_singleton.1 h
        exact ⟨[], List.not_mem_nil, rfl⟩
  exact fun cs r hr => htimes cs.length hr

/-- A text that is matched as a whole does not have the character. -/
theorem Avoids.fullMatch (ha : Avoids x a) {s : String} (h : fullMatch a s = true) : x ∉ s.toList := by
  obtain ⟨w, hw, heq⟩ := ha (fullMatch_iff.1 h)
  rwa [heq, List.append_nil]

end Pattern

/-! ## Character classes -/

/-- `[a-z]`. -/
def isLowerLetter (c : Char) : Bool := 'a' ≤ c && c ≤ 'z'

/-- `[A-Z]`. -/
def isUpperLetter (c : Char) : Bool := 'A' ≤ c && c ≤ 'Z'

/-- `[0-9]`, `\d`. -/
def isDecimal (c : Char) : Bool := '0' ≤ c && c ≤ '9'

/-- `[a-z0-9]`. -/
def isLowerAlnum (c : Char) : Bool := isLowerLetter c || isDecimal c

/-- `[A-Za-z0-9]`. -/
def isAlnum (c : Char) : Bool := isLowerLetter c || isUpperLetter c || isDecimal c

/-- `[a-f0-9]`. -/
def isHex (c : Char) : Bool := ('a' ≤ c && c ≤ 'f') || isDecimal c

/-- `.`: any character but a line terminator. -/
def isDot (c : Char) : Bool :=
  !(c == '\n' || c == '\r' || c.toNat == 0x2028 || c.toNat == 0x2029)

/-- `/^[a-f0-9]{64}$/`. -/
def isHexDigest (s : String) : Bool := Pattern.fullMatch (Pattern.exactly isHex 64) s

theorem isHexDigest_spec {s : String} (h : isHexDigest s = true) :
    s.toList.length = 64 ∧ ∀ c ∈ s.toList, isHex c = true := by
  obtain ⟨w, hlength, hhex, heq⟩ := Pattern.mem_exactly.1 (Pattern.fullMatch_iff.1 h)
  rw [List.append_nil] at heq
  rw [heq]
  exact ⟨hlength, hhex⟩

theorem char_le_iff {a b : Char} : a ≤ b ↔ a.toNat ≤ b.toNat := by
  rw [Char.le_def, UInt32.le_iff_toNat_le]
  rfl

theorem isHex_lowerAlnum {c : Char} (h : isHex c = true) : isLowerAlnum c = true := by
  unfold isHex at h
  unfold isLowerAlnum isLowerLetter
  simp only [Bool.or_eq_true, Bool.and_eq_true, decide_eq_true_eq, char_le_iff] at h ⊢
  exact h.imp_left fun hletter => ⟨hletter.1, Nat.le_trans hletter.2 (by decide)⟩

theorem isDecimal_toNat {c : Char} (h : isDecimal c = true) : 48 ≤ c.toNat ∧ c.toNat ≤ 57 := by
  unfold isDecimal at h
  simp only [Bool.and_eq_true, decide_eq_true_eq, char_le_iff] at h
  exact h

/-- The code points of letters and digits. -/
theorem isAlnum_toNat {c : Char} (h : isAlnum c = true) :
    (48 ≤ c.toNat ∧ c.toNat ≤ 57) ∨ (65 ≤ c.toNat ∧ c.toNat ≤ 90) ∨ (97 ≤ c.toNat ∧ c.toNat ≤ 122) := by
  unfold isAlnum isLowerLetter isUpperLetter at h
  simp only [Bool.or_eq_true, Bool.and_eq_true, decide_eq_true_eq, char_le_iff] at h
  rcases h with (h | h) | h
  · exact Or.inr (Or.inr h)
  · exact Or.inr (Or.inl h)
  · exact Or.inl (isDecimal_toNat h)

/-! ## Texts that match are not blank -/

section
variable {s : String}

theorem hasText_of_mem {c : Char} (h : c ∈ s.toList) (hc : isSpace c = false) : hasText s = true :=
  List.any_eq_true.2 ⟨c, h, by rw [hc]; rfl⟩

theorem alnum_not_space {c : Char} (h : isAlnum c = true) : isSpace c = false := by
  have hrange := isAlnum_toNat h
  simp only [isSpace, Bool.or_eq_false_iff, Bool.and_eq_false_iff, beq_eq_false_iff_ne, decide_eq_false_iff_not]
  omega

theorem lowerAlnum_not_space {c : Char} (h : isLowerAlnum c = true) : isSpace c = false := by
  refine alnum_not_space ?_
  unfold isLowerAlnum at h
  unfold isAlnum
  rcases Bool.or_eq_true_iff.1 h with h | h <;> simp [h]

theorem hex_not_space {c : Char} (h : isHex c = true) : isSpace c = false :=
  lowerAlnum_not_space (isHex_lowerAlnum h)

/-- A pattern that starts with a letter or a digit matches no blank text. -/
theorem hasText_lowerAlnum {a : Pattern} (h : Pattern.fullMatch (.seq (.cls isLowerAlnum) a) s = true) :
    hasText s = true := by
  obtain ⟨m, hm, -⟩ := Pattern.mem_seq.1 (Pattern.fullMatch_iff.1 h)
  obtain ⟨c, hc, hs⟩ := Pattern.mem_cls.1 hm
  exact hasText_of_mem (hs ▸ List.mem_cons_self) (lowerAlnum_not_space hc)

/-- A text that starts with hexadecimal digits is not blank. -/
theorem hasText_hex {k : ℕ} {r : List Char} (h : r ∈ Pattern.exactly isHex (k + 1) s.toList) : hasText s = true := by
  obtain ⟨m, hm, -⟩ := Pattern.mem_seq.1 h
  obtain ⟨c, hc, hs⟩ := Pattern.mem_cls.1 hm
  exact hasText_of_mem (hs ▸ List.mem_cons_self) (hex_not_space hc)

end

end SecureSaas.Js
