import SecureSaas.Js.Value

/-!
# Comparing numbers

`x < bound` and `x > bound` for an integer bound. Neither holds of `NaN`.

* `below_int`, `above_int`: what the comparisons say of an integer.
-/

namespace SecureSaas.Js

/-- The integer below a number that is none. A text with an exponent stands for less than one. -/
def fractionFloor (text : String) : ℤ :=
  let unsigned := text.toList.dropWhile fun c => c == '-'
  let whole := if text.toList.contains 'e' then [] else unsigned.takeWhile Char.isDigit
  let magnitude := whole.foldl (fun acc c => acc * 10 + (c.toNat - 48)) 0
  if text.toList.head? = some '-' then -(magnitude + 1 : ℕ) else (magnitude : ℕ)

namespace Number

/-- `x < bound` -/
def below (bound : ℤ) : Number → Bool
  | .int n => n < bound
  | .fraction text _ => fractionFloor text < bound
  | .nan => false
  | .infinity negative => negative

/-- `x > bound` -/
def above (bound : ℤ) : Number → Bool
  | .int n => bound < n
  | .fraction text _ => bound ≤ fractionFloor text
  | .nan => false
  | .infinity negative => !negative

@[simp] theorem below_int {bound n : ℤ} : below bound (.int n) = true ↔ n < bound := decide_eq_true_iff

@[simp] theorem above_int {bound n : ℤ} : above bound (.int n) = true ↔ bound < n := decide_eq_true_iff

theorem isInteger_iff {x : Number} : x.isInteger = true ↔ ∃ n, x = .int n := by
  cases x with
  | int n => exact ⟨fun _ => ⟨n, rfl⟩, fun _ => rfl⟩
  | fraction text wf => exact ⟨fun h => absurd h Bool.false_ne_true, fun ⟨_, h⟩ => absurd h (by simp)⟩
  | nan => exact ⟨fun h => absurd h Bool.false_ne_true, fun ⟨_, h⟩ => absurd h (by simp)⟩
  | infinity negative => exact ⟨fun h => absurd h Bool.false_ne_true, fun ⟨_, h⟩ => absurd h (by simp)⟩

end Number

/-- Three and a half is between three and four. -/
example : (Number.fraction "3.5" rfl).below 4 = true ∧ (Number.fraction "3.5" rfl).above 3 = true := by decide

end SecureSaas.Js
