import SecureSaas.Js.Pattern

/-!
# Regular expressions that look at their surroundings

A `Pattern` sees what is left of the input. An expression with `\b` also asks for the character before, so it is a map
between places of a text.

* `test_iff`: a test finds a match at some place of the text.
-/

namespace SecureSaas.Js

/-- A place in a text: the characters before it, the last one first, and the characters after it. -/
structure Place where
  before : List Char
  after : List Char

/-- The places that each match leads to. -/
abbrev Finder := Place → List Place

/-- `\w`. -/
def isWordChar (c : Char) : Bool := isAlnum c || c == '_'

/-- `[A-Za-z]`. -/
def isLetter (c : Char) : Bool := isLowerLetter c || isUpperLetter c

namespace Finder

/-- A pattern without a look at its surroundings. -/
def of (pattern : Pattern) : Finder := fun place =>
  (pattern place.after).map fun rest =>
    ⟨(place.after.take (place.after.length - rest.length)).reverse ++ place.before, rest⟩

/-- `\b`. -/
def boundary : Finder := fun place =>
  if place.before.head?.any isWordChar != place.after.head?.any isWordChar then [place] else []

/-- Juxtaposition. -/
def seq (a b : Finder) : Finder := fun place => (a place).flatMap b

/-- `\ba`. -/
def word (a : Pattern) : Finder := seq boundary (of a)

/-- `\ba\b`. -/
def wholeWord (a : Pattern) : Finder := seq (word a) boundary

/-- `/…/` finds a match from some place on. -/
def testFrom (finder : Finder) : List Char → List Char → Bool
  | before, [] => !(finder ⟨before, []⟩).isEmpty
  | before, c :: cs => !(finder ⟨before, c :: cs⟩).isEmpty || testFrom finder (c :: before) cs

/-- `/…/.test(text)`. -/
def test (finder : Finder) (text : String) : Bool := finder.testFrom [] text.toList

/-- The expression matches somewhere in the text. -/
def Occurs (finder : Finder) (text : String) : Prop :=
  ∃ before after, text.toList = before ++ after ∧ finder ⟨before.reverse, after⟩ ≠ []

theorem testFrom_iff {finder : Finder} {cs : List Char} : ∀ {before : List Char}, finder.testFrom before cs = true ↔
    ∃ u v, cs = u ++ v ∧ finder ⟨u.reverse ++ before, v⟩ ≠ [] := by
  induction cs with
  | nil =>
    intro before
    simp only [testFrom, Bool.not_eq_true', List.isEmpty_eq_false_iff]
    constructor
    · exact fun h => ⟨[], [], rfl, h⟩
    · rintro ⟨u, v, heq, h⟩
      obtain ⟨rfl, rfl⟩ := List.append_eq_nil_iff.1 heq.symm
      exact h
  | cons c cs ih =>
    intro before
    simp only [testFrom, Bool.or_eq_true, Bool.not_eq_true', List.isEmpty_eq_false_iff, ih]
    constructor
    · rintro (h | ⟨u, v, rfl, h⟩)
      · exact ⟨[], c :: cs, rfl, h⟩
      · exact ⟨c :: u, v, rfl, by rwa [List.reverse_cons, List.append_assoc]⟩
    · rintro ⟨u, v, heq, h⟩
      -- the match is here, or after the first character
      cases u with
      | nil =>
        obtain rfl : v = c :: cs := heq.symm
        exact Or.inl h
      | cons d u =>
        obtain ⟨rfl, rfl⟩ := List.cons.inj heq
        exact Or.inr ⟨u, v, rfl, by rwa [List.reverse_cons, List.append_assoc] at h⟩

/-- **A test finds a match at some place of the text.** -/
theorem test_iff {finder : Finder} {text : String} : finder.test text = true ↔ finder.Occurs text := by
  unfold test Occurs
  rw [testFrom_iff]
  simp only [List.append_nil]

end Finder

end SecureSaas.Js
