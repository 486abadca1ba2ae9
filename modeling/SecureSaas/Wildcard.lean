import Mathlib.Data.List.Infix
import Mathlib.Tactic.Common

/-!
# Wildcard patterns

Texts over any alphabet, and patterns in which one symbol stands for any text; in a glob another
one stands for any single symbol.

* `wildcard_literal`: a pattern without that symbol matches itself only.
* `wildcard_initial`: a literal followed by the symbol matches what starts with the literal.
* `glob_literal`: a glob without either symbol matches itself only.
* `commonExtension_iff`: two texts have a common extension exactly when one starts with the other.
-/

namespace SecureSaas

variable {α : Type*} [DecidableEq α]

/-- `pattern` matches `text`; `star` matches any text. -/
def wildcard (star : α) : List α → List α → Bool
  | [], text => text.isEmpty
  | c :: pattern, text =>
    if c = star then text.tails.any (wildcard star pattern)
    else match text with
      | [] => false
      | d :: rest => decide (c = d) && wildcard star pattern rest

variable {star : α} {pattern text : List α}

theorem wildcard_cons_ne {c : α} (h : c ≠ star) :
    wildcard star (c :: pattern) text = true ↔ ∃ rest, text = c :: rest ∧ wildcard star pattern rest = true := by
  cases text with
  | nil => simp [wildcard, h]
  | cons d rest =>
    simp only [wildcard, if_neg h]
    constructor
    · intro hm
      obtain ⟨hc, hrest⟩ := Bool.and_eq_true_iff.1 hm
      exact ⟨rest, by rw [of_decide_eq_true hc], hrest⟩
    · rintro ⟨rest', heq, hrest⟩
      obtain ⟨rfl, rfl⟩ := List.cons.inj heq
      simpa using hrest

theorem wildcard_star : wildcard star [star] text = true := by
  unfold wildcard
  rw [if_pos rfl]
  refine List.any_eq_true.2 ⟨[], ?_, rfl⟩
  rw [List.mem_tails]
  exact List.nil_suffix

/-- A pattern matches itself, read as a text. -/
theorem wildcard_self : ∀ pattern : List α, wildcard star pattern pattern = true := by
  intro pattern
  induction pattern with
  | nil => rfl
  | cons c pattern ih =>
    by_cases hc : c = star
    · simp only [wildcard, if_pos hc]
      refine List.any_eq_true.2 ⟨pattern, ?_, ih⟩
      rw [List.mem_tails]
      exact List.suffix_cons c pattern
    · exact (wildcard_cons_ne hc).2 ⟨pattern, rfl, ih⟩

/-- A literal pattern is followed through letter by letter. -/
theorem wildcard_append {literal : List α} (h : star ∉ literal) :
    wildcard star (literal ++ pattern) text = true ↔
      ∃ rest, text = literal ++ rest ∧ wildcard star pattern rest = true := by
  induction literal generalizing text with
  | nil => simp
  | cons c literal ih =>
    have hc : c ≠ star := fun he => h (he ▸ List.mem_cons_self)
    have hliteral : star ∉ literal := fun hm => h (List.mem_cons_of_mem c hm)
    rw [List.cons_append, wildcard_cons_ne hc]
    constructor
    · rintro ⟨rest, rfl, hm⟩
      obtain ⟨rest', rfl, hm'⟩ := (ih hliteral).1 hm
      exact ⟨rest', rfl, hm'⟩
    · rintro ⟨rest, rfl, hm⟩
      exact ⟨literal ++ rest, rfl, (ih hliteral).2 ⟨rest, rfl, hm⟩⟩

theorem wildcard_literal (h : star ∉ pattern) : wildcard star pattern text = true ↔ text = pattern := by
  rw [← List.append_nil pattern, wildcard_append h]
  simp [wildcard]

theorem wildcard_initial {literal : List α} (h : star ∉ literal) :
    wildcard star (literal ++ [star]) text = true ↔ literal <+: text := by
  rw [wildcard_append h]
  constructor
  · rintro ⟨rest, rfl, -⟩
    exact List.prefix_append literal rest
  · rintro ⟨rest, rfl⟩
    exact ⟨rest, rfl, wildcard_star⟩

/-! ## Globs -/

/-- `pattern` matches `text`; `star` matches any text and `one` any single symbol. -/
def glob (star one : α) : List α → List α → Bool
  | [], text => text.isEmpty
  | c :: pattern, text =>
    if c = star then text.tails.any (glob star one pattern)
    else match text with
      | [] => false
      | d :: rest => (decide (c = one) || decide (c = d)) && glob star one pattern rest

theorem glob_star {one : α} : glob star one [star] text = true := by
  unfold glob
  rw [if_pos rfl]
  refine List.any_eq_true.2 ⟨[], ?_, rfl⟩
  rw [List.mem_tails]
  exact List.nil_suffix

/-- A symbol that is neither matches itself. -/
theorem glob_cons_literal {one c : α} (hstar : c ≠ star) (hone : c ≠ one) :
    glob star one (c :: pattern) text = true ↔ ∃ rest, text = c :: rest ∧ glob star one pattern rest = true := by
  cases text with
  | nil => simp [glob, hstar]
  | cons d rest =>
    simp only [glob, if_neg hstar, decide_eq_false hone, Bool.false_or]
    constructor
    · intro hm
      obtain ⟨hc, hrest⟩ := Bool.and_eq_true_iff.1 hm
      exact ⟨rest, by rw [of_decide_eq_true hc], hrest⟩
    · rintro ⟨rest', heq, hrest⟩
      obtain ⟨rfl, rfl⟩ := List.cons.inj heq
      simpa using hrest

theorem glob_literal {one : α} (hstar : star ∉ pattern) (hone : one ∉ pattern) :
    glob star one pattern text = true ↔ text = pattern := by
  induction pattern generalizing text with
  | nil => simp [glob]
  | cons c pattern ih =>
    have hc : c ≠ star := fun he => hstar (he ▸ List.mem_cons_self)
    have hc' : c ≠ one := fun he => hone (he ▸ List.mem_cons_self)
    rw [glob_cons_literal hc hc']
    constructor
    · rintro ⟨rest, rfl, hm⟩
      rw [(ih (fun h => hstar (List.mem_cons_of_mem c h)) fun h => hone (List.mem_cons_of_mem c h)).1 hm]
    · rintro rfl
      exact ⟨pattern, rfl,
        (ih (fun h => hstar (List.mem_cons_of_mem c h)) fun h => hone (List.mem_cons_of_mem c h)).2 rfl⟩

omit [DecidableEq α] in
/-- **Two texts have a common extension exactly when one of them starts with the other.** -/
theorem commonExtension_iff {l m : List α} : (∃ text, l <+: text ∧ m <+: text) ↔ l <+: m ∨ m <+: l := by
  constructor
  · rintro ⟨text, hl, hm⟩
    exact List.prefix_or_prefix_of_prefix hl hm
  · rintro (h | h)
    · exact ⟨m, h, m.prefix_refl⟩
    · exact ⟨l, l.prefix_refl, h⟩

end SecureSaas
