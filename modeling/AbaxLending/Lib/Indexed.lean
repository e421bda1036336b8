import Mathlib.Algebra.Order.Floor.Div
import Mathlib.Tactic

/-!
Balances that grow with an index.

An amount is stored together with the index that was applied to it last; at a later
index it is worth `amount / applied * index`, whether or not it was brought up to date in
between.  Rounding happens only when an amount is brought up to date: down for what is
owned (`floor_le_worth`), up for what is owed (`worth_le_ceil`).

`growth_covered` compares two such balances over one period: when the interest that the
first one is promised is computed from stored totals that understate it no more than they
understate the second one, the interest that the second one pays covers it.
-/

namespace Indexed

/-- What an amount with an applied index is worth at an index. -/
def worth (index amount applied : ℕ) : ℚ := amount / applied * index

variable {index index' amount applied : ℕ} {growth : ℚ}

lemma worth_nonneg : 0 ≤ worth index amount applied := by
  unfold worth
  positivity

@[simp] lemma worth_zero : worth index 0 applied = 0 := by simp [worth]

/-- An amount that is up to date is worth itself. -/
lemma worth_self (h : 0 < index) : worth index amount index = amount := by
  have hne : (index : ℚ) ≠ 0 := by exact_mod_cast h.ne'
  rw [worth, div_mul_cancel₀ _ hne]

lemma worth_mono (h : index ≤ index') :
    worth index amount applied ≤ worth index' amount applied := by
  have hle : (index : ℚ) ≤ index' := by exact_mod_cast h
  exact mul_le_mul_of_nonneg_left hle (by positivity)

/-- An index that grows by at most a factor lets the worth grow by at most that factor. -/
lemma worth_le_of_growth (h : (index' : ℚ) ≤ index * (1 + growth)) :
    worth index' amount applied ≤ worth index amount applied * (1 + growth) := by
  rw [worth, worth, mul_assoc]
  exact mul_le_mul_of_nonneg_left h (by positivity)

/-- An index that grows by at least a factor lets the worth grow by at least that factor. -/
lemma worth_ge_of_growth (h : (index : ℚ) * (1 + growth) ≤ index') :
    worth index amount applied * (1 + growth) ≤ worth index' amount applied := by
  rw [worth, worth, mul_assoc]
  exact mul_le_mul_of_nonneg_left h (by positivity)

/-- Rounding down gives at most the worth. -/
lemma floor_le_worth : ((amount * index / applied : ℕ) : ℚ) ≤ worth index amount applied := by
  rw [worth, div_mul_eq_mul_div]
  exact_mod_cast Nat.cast_div_le (α := ℚ) (m := amount * index) (n := applied)

/-- Rounding up gives at least the worth. -/
lemma worth_le_ceil (h : 0 < applied) :
    worth index amount applied ≤ (((amount * index) ⌈/⌉ applied : ℕ) : ℚ) := by
  have hpos : (0 : ℚ) < applied := by exact_mod_cast h
  rw [worth, div_mul_eq_mul_div, div_le_iff₀ hpos]
  have hceil : amount * index ≤ applied * ((amount * index) ⌈/⌉ applied) :=
    (ceilDiv_le_iff_le_mul h).mp le_rfl
  calc ((amount : ℚ) * index) = ((amount * index : ℕ) : ℚ) := by push_cast; ring
    _ ≤ ((applied * ((amount * index) ⌈/⌉ applied) : ℕ) : ℚ) := by exact_mod_cast hceil
    _ = _ := by push_cast; ring

/-- **One period of interest.**  The first balance is worth `owned` and stored as
`storedOwned`, the second one is worth `owed` and stored as `storedOwed`; the rate of the
first is at most the rate of the second times the ratio of the stored totals.  If the
stored totals understate the first balance no more than the second, the interest on the
first is at most the interest on the second. -/
theorem growth_covered {storedOwned storedOwed rateOwned rateOwed owned owed : ℚ}
    (hstored : 0 < storedOwned) (howned : 0 ≤ owned) (hrate : 0 ≤ rateOwed)
    (hrates : rateOwned * storedOwned ≤ storedOwed * rateOwed)
    (hstale : storedOwed * owned ≤ storedOwned * owed) :
    owned * rateOwned ≤ owed * rateOwed := by
  have h : storedOwned * (owned * rateOwned) ≤ storedOwned * (owed * rateOwed) :=
    calc storedOwned * (owned * rateOwned) = owned * (rateOwned * storedOwned) := by ring
      _ ≤ owned * (storedOwed * rateOwed) := mul_le_mul_of_nonneg_left hrates howned
      _ = storedOwed * owned * rateOwed := by ring
      _ ≤ storedOwned * owed * rateOwed := mul_le_mul_of_nonneg_right hstale hrate
      _ = storedOwned * (owed * rateOwed) := by ring
  exact le_of_mul_le_mul_left h hstored

end Indexed
