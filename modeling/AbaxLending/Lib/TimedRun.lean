import Mathlib.Tactic

/-!
Runs of a system along a clock that never goes back.

`Reach init step t s` says that some run starting in an `init` state is in the
state `s` when the clock shows `t`.  Invariants are proved once for the initial
states and once for a step (`Reach.invariant`, `Reach.invariant_timed`).
`Traced init step t s hist` also keeps the history of the run: the state that was
in force at each time, after all the steps at that time.
-/

namespace TimedRun

variable {σ : Type}

/-- The states of the runs of `step`, with the time of the last step. -/
inductive Reach (init : σ → Prop) (step : ℕ → σ → σ → Prop) : ℕ → σ → Prop where
  | start {t : ℕ} {s : σ} : init s → Reach init step t s
  | next {t t' : ℕ} {s s' : σ} :
      Reach init step t s → t ≤ t' → step t' s s' → Reach init step t' s'

namespace Reach

variable {init : σ → Prop} {step step' : ℕ → σ → σ → Prop} {t : ℕ} {s : σ}

/-- **The invariant rule**: what holds initially and survives every step holds
in every reachable state. -/
theorem invariant {P : σ → Prop} (hinit : ∀ s, init s → P s)
    (hstep : ∀ t s s', P s → step t s s' → P s') (h : Reach init step t s) : P s := by
  induction h with
  | start hs => exact hinit _ hs
  | next _ _ hst ih => exact hstep _ _ _ ih hst

/-- The invariant rule for properties that speak of the clock. -/
theorem invariant_timed {P : ℕ → σ → Prop} (hinit : ∀ t s, init s → P t s)
    (hstep : ∀ t t' s s', P t s → t ≤ t' → step t' s s' → P t' s')
    (h : Reach init step t s) : P t s := by
  induction h with
  | start hs => exact hinit _ _ hs
  | next _ hle hst ih => exact hstep _ _ _ _ ih hle hst

/-- More steps reach more states. -/
theorem mono (hsub : ∀ t s s', step t s s' → step' t s s') (h : Reach init step t s) :
    Reach init step' t s := by
  induction h with
  | start hs => exact .start hs
  | next _ hle hst ih => exact .next ih hle (hsub _ _ _ hst)

end Reach

/-- The runs of `step` with their histories. -/
inductive Traced (init : σ → Prop) (step : ℕ → σ → σ → Prop) : ℕ → σ → (ℕ → σ) → Prop where
  | start {t : ℕ} {s : σ} : init s → Traced init step t s fun _ => s
  | next {t t' : ℕ} {s s' : σ} {hist : ℕ → σ} :
      Traced init step t s hist → t ≤ t' → step t' s s' →
      Traced init step t' s' fun τ => if τ < t' then hist τ else s'

namespace Traced

variable {init : σ → Prop} {step : ℕ → σ → σ → Prop} {t : ℕ} {s : σ} {hist : ℕ → σ}

/-- A run with its history is a run. -/
theorem reach (h : Traced init step t s hist) : Reach init step t s := by
  induction h with
  | start hs => exact .start hs
  | next _ hle hst ih => exact .next ih hle hst

/-- From its last step on a run stays in its last state. -/
theorem last (h : Traced init step t s hist) {τ : ℕ} (hτ : t ≤ τ) : hist τ = s := by
  cases h with
  | start _ => rfl
  | next _ _ _ => exact if_neg (not_lt.mpr hτ)

/-- Every run has a history. -/
theorem exists_of_reach (h : Reach init step t s) : ∃ hist, Traced init step t s hist := by
  induction h with
  | start hs => exact ⟨_, .start hs⟩
  | next _ hle hst ih =>
      obtain ⟨hist, ih⟩ := ih
      exact ⟨_, .next ih hle hst⟩

end Traced

end TimedRun
