import Mathlib.Tactic

/-!
Runs of a system whose steps are chosen by labels.

`run step s labels` plays a list of labels from a state and stops without a state at the
first label that is not possible.  What every label preserves, a run preserves
(`run_invariant`), also when it speaks of the labels played so far (`run_history`), and a
measure that every label moves by a known amount is moved by the sum of these amounts
(`run_measure`).  `Along` says something of every label in the state that it finds
(`along_iff`), for instance that it adds nothing to a sum (`sumAlong_eq_zero_iff`).
-/

namespace LabelledRun

variable {σ α : Type} {step : σ → α → Option σ}

/-- The state after a list of labels, if all of them are possible. -/
def run (step : σ → α → Option σ) (s : σ) : List α → Option σ
  | [] => some s
  | a :: rest => (step s a).bind fun s' => run step s' rest

/-- The first label of a run. -/
lemma run_cons_eq_some {s s' : σ} {a : α} {rest : List α} :
    run step s (a :: rest) = some s' ↔ ∃ s₁, step s a = some s₁ ∧ run step s₁ rest = some s' := by
  rw [run, Option.bind_eq_some_iff]

/-- A list of labels after another one is played from where that one ends. -/
lemma run_append (s : σ) (before after : List α) :
    run step s (before ++ after) = (run step s before).bind fun s' => run step s' after := by
  induction before generalizing s with
  | nil => rfl
  | cons a rest ih =>
      rw [List.cons_append, run, run, Option.bind_assoc]
      exact congrArg _ (funext fun s' => ih s')

/-- **The run rule**: what every label of a list preserves, its run preserves. -/
theorem run_invariant {P : σ → Prop} {labels : List α} {s s' : σ}
    (hstep : ∀ a s s', a ∈ labels → P s → step s a = some s' → P s')
    (h : run step s labels = some s') (hP : P s) : P s' := by
  induction labels generalizing s with
  | nil =>
      simp only [run, Option.some.injEq] at h
      exact h ▸ hP
  | cons a rest ih =>
      obtain ⟨s₁, hs₁, hrest⟩ := run_cons_eq_some.mp h
      have hP₁ := hstep a s s₁ List.mem_cons_self hP hs₁
      exact ih (fun b t t' hb => hstep b t t' (List.mem_cons_of_mem _ hb)) hrest hP₁

/-- One more label at the end of a run. -/
lemma run_concat_eq_some {s s' : σ} {before : List α} {a : α} :
    run step s (before ++ [a]) = some s'
      ↔ ∃ s₁, run step s before = some s₁ ∧ step s₁ a = some s' := by
  have hlast : ∀ s₁, run step s₁ [a] = step s₁ a := fun s₁ => Option.bind_fun_some (step s₁ a)
  rw [run_append, Option.bind_eq_some_iff]
  simp only [hlast]

/-- **The history rule**: what holds of the first state and no labels, and is kept when one
more label is played, holds of every state and the labels that led there. -/
theorem run_history {P : List α → σ → Prop} {labels : List α} {s s' : σ} (hP : P [] s)
    (hstep : ∀ before a s₁ s₂, run step s before = some s₁ → P before s₁ →
      step s₁ a = some s₂ → P (before ++ [a]) s₂)
    (h : run step s labels = some s') : P labels s' := by
  induction labels using List.reverseRecOn generalizing s' with
  | nil =>
      simp only [run, Option.some.injEq] at h
      exact h ▸ hP
  | append_singleton before a ih =>
      obtain ⟨s₁, hbefore, ha⟩ := run_concat_eq_some.mp h
      exact hstep before a s₁ s' hbefore (ih hbefore) ha

/-! ### Along a run -/

/-- Something holds of every label of a run, in the state that the label finds. -/
def Along (step : σ → α → Option σ) (Q : σ → α → Prop) (s : σ) : List α → Prop
  | [] => True
  | a :: rest => Q s a ∧ ∀ s', step s a = some s' → Along step Q s' rest

/-- One more label at the end of a run. -/
lemma along_concat {Q : σ → α → Prop} {s s' : σ} {before : List α} {a : α}
    (h : run step s before = some s') :
    Along step Q s (before ++ [a]) ↔ Along step Q s before ∧ Q s' a := by
  induction before generalizing s with
  | nil =>
      simp only [run, Option.some.injEq] at h
      simp [Along, h]
  | cons b rest ih =>
      obtain ⟨s₁, hb, hrest⟩ := run_cons_eq_some.mp h
      simp only [List.cons_append, Along, hb, Option.some.injEq, forall_eq']
      rw [ih hrest, and_assoc]

/-- Along a run it holds of every label, in the state after the labels before it. -/
lemma along_iff {Q : σ → α → Prop} {s : σ} {labels : List α} :
    Along step Q s labels ↔ ∀ before a after s₁, labels = before ++ a :: after →
      run step s before = some s₁ → Q s₁ a := by
  induction labels generalizing s with
  | nil => exact iff_of_true trivial fun before a after s₁ heq => absurd heq (by simp)
  | cons a rest ih =>
      simp only [Along, ih]
      constructor
      · rintro ⟨hfirst, hothers⟩ before b after s₂ heq hbefore
        cases before with
        | nil =>
            obtain ⟨rfl, -⟩ := List.cons.inj heq
            simp only [run, Option.some.injEq] at hbefore
            exact hbefore ▸ hfirst
        | cons c before =>
            obtain ⟨rfl, hrest⟩ := List.cons.inj heq
            obtain ⟨s₁, hs₁, hbefore⟩ := run_cons_eq_some.mp hbefore
            exact hothers s₁ hs₁ before b after s₂ hrest hbefore
      · intro hall
        refine ⟨hall [] a rest s rfl rfl, fun s₁ hs₁ before b after s₂ heq hbefore => ?_⟩
        exact hall (a :: before) b after s₂ (by rw [heq]; rfl)
          (run_cons_eq_some.mpr ⟨s₁, hs₁, hbefore⟩)

/-! ### Sums along a run -/

variable {M : Type} [AddCommMonoid M]

/-- The sum of a quantity over the labels of a run, each in the state that it finds. -/
def sumAlong (step : σ → α → Option σ) (f : σ → α → M) (s : σ) : List α → M
  | [] => 0
  | a :: rest => f s a + ((step s a).map fun s' => sumAlong step f s' rest).getD 0

lemma sumAlong_cons {f : σ → α → M} {s s₁ : σ} {a : α} {rest : List α} (h : step s a = some s₁) :
    sumAlong step f s (a :: rest) = f s a + sumAlong step f s₁ rest := by
  rw [sumAlong, h, Option.map_some, Option.getD_some]

/-- The sum over a run is `0` when every summand is. -/
lemma sumAlong_eq_zero_iff {f : σ → α → ℕ} {labels : List α} {s s' : σ}
    (h : run step s labels = some s') :
    sumAlong step f s labels = 0 ↔ Along step (fun s a => f s a = 0) s labels := by
  induction labels generalizing s with
  | nil => exact iff_of_true rfl trivial
  | cons a rest ih =>
      obtain ⟨s₁, hs₁, hrest⟩ := run_cons_eq_some.mp h
      rw [sumAlong_cons hs₁, Nat.add_eq_zero_iff, ih hrest, Along]
      simp only [hs₁, Option.some.injEq, forall_eq']

/-- **The measure rule**: a measure that every label moves by a known amount is moved by the
sum of these amounts. -/
theorem run_measure {P : σ → Prop} {μ : σ → M} {f : σ → α → M} {labels : List α} {s s' : σ}
    (hstep : ∀ a s s', P s → step s a = some s' → P s' ∧ μ s' = μ s + f s a)
    (h : run step s labels = some s') (hP : P s) :
    μ s' = μ s + sumAlong step f s labels := by
  induction labels generalizing s with
  | nil =>
      simp only [run, Option.some.injEq] at h
      rw [h, sumAlong, add_zero]
  | cons a rest ih =>
      obtain ⟨s₁, hs₁, hrest⟩ := run_cons_eq_some.mp h
      obtain ⟨hP₁, hmoved⟩ := hstep a s s₁ hP hs₁
      calc μ s' = μ s₁ + sumAlong step f s₁ rest := ih hrest hP₁
        _ = μ s + f s a + sumAlong step f s₁ rest := by rw [hmoved]
        _ = μ s + sumAlong step f s (a :: rest) := by rw [sumAlong_cons hs₁, add_assoc]

end LabelledRun
