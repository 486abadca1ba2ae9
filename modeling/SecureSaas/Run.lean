import Mathlib.Data.List.Induction
import Mathlib.Tactic.Common

/-!
# Runs of a labelled step relation

A run is a sequence of labelled steps; its labels are kept, so a property may speak of
what has happened and not only of the state it led to.

* `Run.invariant`: what every step keeps holds after every run.
* `Run.history`: the same for a property of the labels and the state together.
* `Run.split`: a run through a label list passes a state at every cut of it.
* `Run.simulate`: steps that are runs of another relation make runs of it.
-/

namespace SecureSaas

variable {σ τ α β : Type*}

/-- The labels `h`, oldest first, lead from `s`. -/
inductive Run (step : σ → α → σ → Prop) (s : σ) : List α → σ → Prop
  | start : Run step s [] s
  | snoc {h : List α} {m : σ} {a : α} {t : σ} (prev : Run step s h m) (last : step m a t) :
      Run step s (h ++ [a]) t

/-- Some run leads from `s` to `t`. -/
def Reaches (step : σ → α → σ → Prop) (s t : σ) : Prop := ∃ h, Run step s h t

variable {step : σ → α → σ → Prop} {s m t : σ} {h h' : List α}

theorem Run.single {a : α} (hs : step s a t) : Run step s [a] t := Run.snoc Run.start hs

theorem Run.trans (h1 : Run step s h m) (h2 : Run step m h' t) : Run step s (h ++ h') t := by
  induction h2 with
  | start => rw [List.append_nil]; exact h1
  | snoc _ last ih => rw [← List.append_assoc]; exact Run.snoc ih last

theorem Run.split (hr : Run step s (h ++ h') t) : ∃ m, Run step s h m ∧ Run step m h' t := by
  induction h' using List.reverseRecOn generalizing t with
  | nil => rw [List.append_nil] at hr; exact ⟨t, hr, Run.start⟩
  | append_singleton l a ih =>
    rw [← List.append_assoc] at hr
    generalize hl : h ++ l ++ [a] = k at hr
    cases hr with
    | start => simp at hl
    | snoc prev last =>
      obtain ⟨hl', ha⟩ := List.append_inj' hl rfl
      obtain ⟨m, h1, h2⟩ := ih (hl' ▸ prev)
      obtain rfl : a = _ := List.singleton_inj.1 ha
      exact ⟨m, h1, Run.snoc h2 last⟩

/-- The step a run takes at a label of its history. -/
theorem Run.step_at {a : α} (hr : Run step s (h ++ a :: h') t) :
    ∃ m m', Run step s h m ∧ step m a m' ∧ Run step m' h' t := by
  rw [← List.singleton_append, ← List.append_assoc] at hr
  obtain ⟨m', hr', hrest⟩ := hr.split
  generalize hk : h ++ [a] = k at hr'
  cases hr' with
  | start => simp at hk
  | snoc prev last =>
    obtain ⟨rfl, ha⟩ := List.append_inj' hk rfl
    obtain rfl : a = _ := List.singleton_inj.1 ha
    exact ⟨_, m', prev, last, hrest⟩

theorem Run.history {I : List α → σ → Prop} (h0 : I [] s)
    (hstep : ∀ h m a t, Run step s h m → I h m → step m a t → I (h ++ [a]) t)
    (hr : Run step s h t) : I h t := by
  induction hr with
  | start => exact h0
  | snoc prev last ih => exact hstep _ _ _ _ prev ih last

theorem Run.invariant {I : σ → Prop} (h0 : I s) (hstep : ∀ m a t, I m → step m a t → I t)
    (hr : Run step s h t) : I t :=
  hr.history (I := fun _ s => I s) h0 fun _ m a t _ hI hs => hstep m a t hI hs

theorem Run.simulate {step' : τ → β → τ → Prop} (f : σ → τ) (l : α → List β)
    (hsim : ∀ m a t, step m a t → Run step' (f m) (l a) (f t)) (hr : Run step s h t) :
    Run step' (f s) (h.flatMap l) (f t) := by
  induction hr with
  | start => exact Run.start
  | snoc _ last ih =>
    rw [List.flatMap_append, List.flatMap_singleton]
    exact ih.trans (hsim _ _ _ last)

theorem Reaches.refl (s : σ) : Reaches step s s := ⟨[], Run.start⟩

theorem Reaches.trans (h1 : Reaches step s m) (h2 : Reaches step m t) : Reaches step s t := by
  obtain ⟨_, h1⟩ := h1
  obtain ⟨_, h2⟩ := h2
  exact ⟨_, h1.trans h2⟩

theorem Reaches.invariant {I : σ → Prop} (h0 : I s) (hstep : ∀ m a t, I m → step m a t → I t)
    (hr : Reaches step s t) : I t := by
  obtain ⟨_, hr⟩ := hr
  exact hr.invariant h0 hstep

end SecureSaas
