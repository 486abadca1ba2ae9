import Mathlib.Order.Basic
import Mathlib.Tactic.Common

/-!
# Loops of Go programs

A loop whose body returns an error when it fails. The number of rounds is a parameter, and a loop that needs more of
them has no outcome yet.

* `loop_invariant`: what every round keeps holds when the loop has ended.
* `loop_terminates`: a loop whose rounds make a measure smaller has an outcome.
-/

namespace SecureSaas.Go

variable {σ ε : Type*} {round : σ → Option (Except ε σ)}

/-- `for … { … }`: a round is `none` when the condition of the loop does not hold. -/
def loop (round : σ → Option (Except ε σ)) : ℕ → σ → Option (Except ε σ)
  | 0, _ => none
  | rounds + 1, s =>
    match round s with
    | none => some (.ok s)
    | some (.error failure) => some (.error failure)
    | some (.ok next) => loop round rounds next

/-- **What every round keeps** holds when the loop has ended. -/
theorem loop_invariant {I : σ → Prop} (hround : ∀ s next, I s → round s = some (.ok next) → I next) {final : σ} :
    ∀ {rounds : ℕ} {s : σ}, I s → loop round rounds s = some (.ok final) → I final ∧ round final = none := by
  intro rounds
  induction rounds with
  | zero => exact fun _ h => nomatch h
  | succ rounds ih =>
    intro s hs h
    rw [loop] at h
    split at h
    · rename_i hend
      obtain rfl := Except.ok.inj (Option.some.inj h)
      exact ⟨hs, hend⟩
    · exact nomatch h
    · rename_i next hnext
      exact ih (hround s next hs hnext) h

/-- **A loop ends** if every round that succeeds makes a measure smaller. -/
theorem loop_terminates {I : σ → Prop} (measure : σ → ℕ)
    (hround : ∀ s next, I s → round s = some (.ok next) → I next ∧ measure next < measure s) :
    ∀ {rounds : ℕ} {s : σ}, I s → measure s < rounds → (loop round rounds s).isSome = true := by
  intro rounds
  induction rounds with
  | zero =>
    intro s _ hlt
    omega
  | succ rounds ih =>
    intro s hs hlt
    rw [loop]
    split
    · rfl
    · rfl
    · rename_i next hnext
      obtain ⟨hkept, hless⟩ := hround s next hs hnext
      exact ih hkept (by omega)

end SecureSaas.Go
