import Mathlib.Tactic

/-!
Programs whose effects on a shared state add up.

A description says, by an element of a commutative monoid, what has been done to a state
since some base.  A program accumulates when all its runs from described states give the
same output and add the same to the description.  What such a program gives and adds does
not depend on what was done before it, so two of them may run in either order.

A program is the relation between a state, an output and the state that it leaves.

* `Accumulates.pure`, `Accumulates.bind`, `Accumulates.mono`: the rules;
* `Accumulates.swap`: two accumulating programs commute.
-/

namespace Commuting

variable {S M O P : Type} [AddCommMonoid M] {At : M → S → Prop}

/-- What one run of a program gives and adds, every run does. -/
def Accumulates (At : M → S → Prop) (f : S → O → S → Prop) : Prop :=
  ∀ ⦃m : M⦄ ⦃s s' : S⦄ ⦃o : O⦄, At m s → f s o s' → ∃ d, ∀ ⦃n : M⦄ ⦃r r' : S⦄ ⦃p : O⦄,
    At n r → f r p r' → p = o ∧ At (n + d) r'

/-- A program that only gives an output. -/
lemma Accumulates.pure (o : O) : Accumulates At fun s p s' => p = o ∧ s' = s := by
  rintro m s s' _ - ⟨rfl, -⟩
  refine ⟨0, ?_⟩
  rintro n r r' _ hr ⟨rfl, rfl⟩
  exact ⟨rfl, by rwa [add_zero]⟩

/-- A program and then the one that its output chooses. -/
lemma Accumulates.bind {f : S → O → S → Prop} {g : O → S → P → S → Prop}
    (hf : Accumulates At f) (hg : ∀ o, Accumulates At (g o)) :
    Accumulates At fun s p s' => ∃ o mid, f s o mid ∧ g o mid p s' := by
  rintro m s s' p hs ⟨o, mid, hfirst, hsecond⟩
  obtain ⟨d, hd⟩ := hf hs hfirst
  obtain ⟨e, he⟩ := hg o (hd hs hfirst).2 hsecond
  refine ⟨d + e, ?_⟩
  rintro n r r' p' hr ⟨o', mid', hfirst', hsecond'⟩
  obtain ⟨rfl, hmid⟩ := hd hr hfirst'
  rw [← add_assoc]
  exact he hmid hsecond'

/-- A program that does no more than an accumulating one. -/
lemma Accumulates.mono {f g : S → O → S → Prop} (hg : Accumulates At g)
    (h : ∀ s o s', f s o s' → g s o s') : Accumulates At f := by
  intro m s s' o hs hrun
  obtain ⟨d, hd⟩ := hg hs (h s o s' hrun)
  exact ⟨d, fun _ _ _ _ hr hrun' => hd hr (h _ _ _ hrun')⟩

/-- **Two accumulating programs commute**: both orders give the same outputs, and leave states
of one description. -/
theorem Accumulates.swap {f : S → O → S → Prop} {g : S → P → S → Prop} {m : M}
    {s s₁ s₂ s₁₂ s₂₁ : S} {o o' : O} {p p' : P} (hf : Accumulates At f) (hg : Accumulates At g)
    (hs : At m s) (h₁ : f s o s₁) (h₁₂ : g s₁ p s₁₂) (h₂ : g s p' s₂) (h₂₁ : f s₂ o' s₂₁) :
    o' = o ∧ p = p' ∧ ∃ m', At m' s₁₂ ∧ At m' s₂₁ := by
  obtain ⟨d, hd⟩ := hf hs h₁
  obtain ⟨e, he⟩ := hg hs h₂
  obtain ⟨hp, hend⟩ := he (hd hs h₁).2 h₁₂
  obtain ⟨ho, hend'⟩ := hd (he hs h₂).2 h₂₁
  exact ⟨ho, hp, m + d + e, hend, add_right_comm m e d ▸ hend'⟩

end Commuting
