import AbaxLending.Math

/-!
`interest_rate_model.rs` and `interest_rate_math.rs`: the two-piece interest
curve and the adjustment of its rate at the target utilization.
-/

namespace AbaxLending

open Outcome

/-- `InterestRateModelParams`. -/
structure InterestRateModelParams where
  targetUrE6 : ℕ
  minRateAtTargetE18 : ℕ
  maxRateAtTargetE18 : ℕ
  rateAtMaxUrE18 : ℕ
  minimalTimeBetweenAdjustments : ℕ
  deriving DecidableEq, Repr

/-- `InterestRateModel`. -/
structure InterestRateModel where
  targetUrE6 : ℕ
  minRateAtTargetE18 : ℕ
  maxRateAtTargetE18 : ℕ
  rateAtTargetUrE18 : ℕ
  rateAtMaxUrE18 : ℕ
  minimalTimeBetweenAdjustments : ℕ
  lastAdjustmentTimestamp : ℕ
  deriving DecidableEq, Repr

namespace InterestRateModel

/-- `InterestRateModel::new`: the rate at the target starts at its minimum. -/
def new (params : InterestRateModelParams) (timestamp : ℕ) : InterestRateModel where
  targetUrE6 := params.targetUrE6
  minRateAtTargetE18 := params.minRateAtTargetE18
  maxRateAtTargetE18 := params.maxRateAtTargetE18
  rateAtTargetUrE18 := params.minRateAtTargetE18
  rateAtMaxUrE18 := params.rateAtMaxUrE18
  minimalTimeBetweenAdjustments := params.minimalTimeBetweenAdjustments
  lastAdjustmentTimestamp := timestamp

variable [Pendzl]

/-- `utilization_rate_to_interest_rate_e18`.  Both pieces pass their quotient
through `u32`. -/
def utilizationRateToInterestRateE18 (utilizationRateE6 : ℕ) (model : InterestRateModel) :
    Res ℕ :=
  if utilizationRateE6 = 0 then .ok 0
  else if utilizationRateE6 ≤ model.targetUrE6 then do
    let v ← mulDiv utilizationRateE6 model.rateAtTargetUrE18 model.targetUrE6 .up
    okOr (tryFrom 32 v) (mathErr .overflow)
  else do
    let distanceFromTarget := utilizationRateE6 - model.targetUrE6
    let maxDistanceFromTarget := E6 - model.targetUrE6
    let interestStep := model.rateAtMaxUrE18 - model.rateAtTargetUrE18
    let v ← mulDiv distanceFromTarget interestStep maxDistanceFromTarget .up
    let v ← okOr (tryFrom 32 v) (mathErr .overflow)
    okOr (checkedAdd 64 model.rateAtTargetUrE18 v) (mathErr .overflow)

/-- `InterestRateModel::adjust_rate_at_target`: the model with the new rate at
the target, which is also the returned value. -/
def adjustRateAtTarget (model : InterestRateModel) (utilizationRateE6 : ℕ)
    (timestamp : ℕ) : Res InterestRateModel := do
  let currentRateE18 ← utilizationRateToInterestRateE18 utilizationRateE6 model
  let rate :=
    if currentRateE18 < model.minRateAtTargetE18 then model.minRateAtTargetE18
    else if currentRateE18 > model.maxRateAtTargetE18 then model.maxRateAtTargetE18
    else currentRateE18
  return { model with rateAtTargetUrE18 := rate, lastAdjustmentTimestamp := timestamp }

end InterestRateModel

end AbaxLending
