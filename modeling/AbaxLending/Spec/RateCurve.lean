import AbaxLending.Lib.Rounding
import AbaxLending.Structs.Rates

/-!
The shape of the interest curve.

`InterestRateModel.curve` is the rate that the two pieces of the curve give without their
widths.  It is monotone for every model: the first piece ends at the rate at the target, where
the second one starts, also when the maximal rate is below it.

* `curve_mono`, `curve_le_rateAtTarget`, `rateAtTarget_le_curve`, `curve_target`, `curve_le_max`:
  the laws of the curve;
* `utilizationRateToInterestRateE18_curve`: a rate that is returned is on the curve;
* `utilizationRateToInterestRateE18_monotone`: so the rates that are returned are monotone and
  bounded.
-/

namespace AbaxLending

open Outcome

namespace InterestRateModel

/-- The rate at a utilization, without a width. -/
def curve (model : InterestRateModel) (u : ℕ) : ℕ :=
  if u ≤ model.targetUrE6 then (u * model.rateAtTargetUrE18) ⌈/⌉ model.targetUrE6
  else model.rateAtTargetUrE18
    + ((u - model.targetUrE6) * (model.rateAtMaxUrE18 - model.rateAtTargetUrE18))
      ⌈/⌉ (E6 - model.targetUrE6)

section

variable {model : InterestRateModel} {u v : ℕ}

/-- A part of a whole, rounded up, is at most the amount. -/
lemma part_le {part whole amount : ℕ} (h : part ≤ whole) :
    (part * amount) ⌈/⌉ whole ≤ amount := by
  rcases Nat.eq_zero_or_pos whole with rfl | hpos
  · simp
  · rw [ceilDiv_le_iff_le_mul hpos]
    exact Nat.mul_le_mul_right amount h

/-- Up to the target the curve is below the rate at the target. -/
lemma curve_le_rateAtTarget (hu : u ≤ model.targetUrE6) :
    model.curve u ≤ model.rateAtTargetUrE18 := by
  rw [curve, if_pos hu]
  exact part_le hu

/-- Beyond the target the curve is above the rate at the target. -/
lemma rateAtTarget_le_curve (hu : model.targetUrE6 < u) :
    model.rateAtTargetUrE18 ≤ model.curve u := by
  rw [curve, if_neg hu.not_ge]
  exact Nat.le_add_right ..

/-- Beyond the target the curve climbs by at most the step between its two rates. -/
lemma secondPiece_le (model : InterestRateModel) (hu : u ≤ E6) :
    ((u - model.targetUrE6) * (model.rateAtMaxUrE18 - model.rateAtTargetUrE18))
        ⌈/⌉ (E6 - model.targetUrE6)
      ≤ model.rateAtMaxUrE18 - model.rateAtTargetUrE18 :=
  part_le (Nat.sub_le_sub_right hu _)

/-- The curve is exact at the target. -/
lemma curve_target (htarget : 0 < model.targetUrE6) :
    model.curve model.targetUrE6 = model.rateAtTargetUrE18 := by
  rw [curve, if_pos le_rfl]
  exact smul_ceilDiv htarget model.rateAtTargetUrE18

/-- **The curve is monotone.** -/
lemma curve_mono (huv : u ≤ v) : model.curve u ≤ model.curve v := by
  by_cases hv : v ≤ model.targetUrE6
  · -- both are on the first piece
    rw [curve, curve, if_pos hv, if_pos (huv.trans hv)]
    exact Rounded.ceilDiv_mono _ (Nat.mul_le_mul_right _ huv)
  · by_cases hu : u ≤ model.targetUrE6
    · -- the pieces meet at the rate at the target
      calc model.curve u ≤ model.rateAtTargetUrE18 := curve_le_rateAtTarget hu
        _ ≤ model.curve v := rateAtTarget_le_curve (not_le.mp hv)
    · rw [curve, curve, if_neg hv, if_neg hu]
      have hdistance : u - model.targetUrE6 ≤ v - model.targetUrE6 := by omega
      exact Nat.add_le_add_left (Rounded.ceilDiv_mono _ (Nat.mul_le_mul_right _ hdistance)) _

/-- Up to full utilization the curve is below the larger of the two rates. -/
lemma curve_le_max (hu : u ≤ E6) :
    model.curve u ≤ max model.rateAtTargetUrE18 model.rateAtMaxUrE18 := by
  by_cases hpiece : u ≤ model.targetUrE6
  · exact (curve_le_rateAtTarget hpiece).trans (le_max_left ..)
  · rw [curve, if_neg hpiece]
    have hstep := secondPiece_le model hu
    omega

variable [Pendzl] {rate : ℕ}

/-- A rate that is returned is on the curve. -/
lemma utilizationRateToInterestRateE18_curve
    (h : model.utilizationRateToInterestRateE18 u = .ok rate) : rate = model.curve u := by
  rw [utilizationRateToInterestRateE18] at h
  rw [curve]
  split_ifs at h with hzero hpiece
  · cases h
    rw [hzero, if_pos (Nat.zero_le _), Nat.zero_mul, zero_ceilDiv]
  · simp only [bind_eq_ok, mulDiv_eq_ok, okOr_eq_ok, tryFrom_eq_some, exactDiv] at h
    obtain ⟨quotient, ⟨-, hquotient, -⟩, hrate, -⟩ := h
    rw [if_pos hpiece, ← hquotient, hrate]
  · simp only [bind_eq_ok, mulDiv_eq_ok, okOr_eq_ok, tryFrom_eq_some, checkedAdd_eq_some,
      exactDiv] at h
    obtain ⟨quotient, ⟨-, hquotient, -⟩, quotient', ⟨hsame, -⟩, hrate, -⟩ := h
    rw [if_neg hpiece, ← hquotient, hsame, hrate]

/-- **The interest curve is monotone and bounded.**  For every model, whatever its rates and its
target are: of two utilizations the larger one has no smaller rate, up to the target a rate is at
most the rate at the target and equal to it there, and up to full utilization it is at most the
larger of the two rates of the model. -/
theorem utilizationRateToInterestRateE18_monotone (model : InterestRateModel) :
    (∀ u v rate rate', u ≤ v → model.utilizationRateToInterestRateE18 u = .ok rate →
      model.utilizationRateToInterestRateE18 v = .ok rate' → rate ≤ rate')
    ∧ (∀ u rate, u ≤ model.targetUrE6 → model.utilizationRateToInterestRateE18 u = .ok rate →
      rate ≤ model.rateAtTargetUrE18
        ∧ (u = model.targetUrE6 → 0 < model.targetUrE6 → rate = model.rateAtTargetUrE18))
    ∧ ∀ u rate, u ≤ 10 ^ 6 → model.utilizationRateToInterestRateE18 u = .ok rate →
      rate ≤ max model.rateAtTargetUrE18 model.rateAtMaxUrE18 := by
  refine ⟨fun u v rate rate' huv h h' => ?_, fun u rate hu h => ?_, fun u rate hu h => ?_⟩
  · rw [utilizationRateToInterestRateE18_curve h, utilizationRateToInterestRateE18_curve h']
    exact curve_mono huv
  · rw [utilizationRateToInterestRateE18_curve h]
    refine ⟨curve_le_rateAtTarget hu, fun hat htarget => ?_⟩
    rw [hat]
    exact curve_target htarget
  · rw [utilizationRateToInterestRateE18_curve h]
    exact curve_le_max hu

end

/-- A model with its target at nine tenths and its maximal rate below the rate there. -/
def falling : InterestRateModel := ⟨900000, 3170979, 31709790, 31709790, 3170979, 0, 0⟩

attribute [local instance] Pendzl.exact in
/-- Below, at and above the target. -/
theorem utilizationRateToInterestRateE18_monotone_falling :
    falling.utilizationRateToInterestRateE18 450000 = .ok 15854895
      ∧ falling.utilizationRateToInterestRateE18 900000 = .ok 31709790
      ∧ falling.utilizationRateToInterestRateE18 1100000 = .ok 31709790
      ∧ 15854895 ≤ 31709790 := by
  have hlow : falling.utilizationRateToInterestRateE18 450000 = .ok 15854895 := rfl
  have hat : falling.utilizationRateToInterestRateE18 900000 = .ok 31709790 := rfl
  have habove : falling.utilizationRateToInterestRateE18 1100000 = .ok 31709790 := rfl
  exact ⟨hlow, hat, habove, (utilizationRateToInterestRateE18_monotone falling).1 450000 1100000
    _ _ (by decide) hlow habove⟩

end InterestRateModel

end AbaxLending
